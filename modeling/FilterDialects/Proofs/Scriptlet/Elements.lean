import FilterDialects.Scriptlet.Parser
import FilterDialects.Scriptlet.Printer
import FilterDialects.Proofs.ArgumentList
import FilterDialects.Proofs.Scriptlet.Mask
import FilterDialects.Proofs.Text.OutsideQuotes
import FilterDialects.Proofs.Text.Quote
import FilterDialects.Proofs.Text.Sentence

/-!
# Where the elements of a rule come from

The name and the arguments of a rule that was read stood in its text, and whatever masks
they hold stood there too. In the other direction a mask in a rule that was written
stands in its domains and mask, or in its name, or in an argument: the rest of the rule
consists of characters that no mask has.
-/

namespace FilterDialects.ScriptletRule

variable {domains mask list t : Text} {rule : ScriptletRule}

section Written

/-- A mask in joined elements stands in one of them. -/
theorem infix_of_infix_joinElements (hclear : Mask.IsClear mask) (hne : mask ≠ [])
    {elements : List Text} (h : mask <:+: joinElements elements) :
    ∃ element ∈ elements, mask <:+: element := by
  have hcomma : ',' ∉ mask := hclear ',' (by decide)
  have hspace : ' ' ∉ mask := hclear ' ' (by decide)
  induction elements with
  | nil => exact absurd (List.infix_nil.1 h) hne
  | cons first others ih =>
    cases others with
    | nil => exact ⟨first, List.mem_cons_self, by simpa [joinElements, List.intercalate] using h⟩
    | cons second others =>
      rw [joinElements, Text.intercalate_cons_cons] at h
      have hseam : mask <:+: first ++ ',' :: ([] ++ ' ' :: joinElements (second :: others)) := h
      rw [Text.infix_append_cons_iff hcomma, Text.infix_append_cons_iff hspace] at hseam
      rcases hseam with hfirst | hnil | hlater
      · exact ⟨first, List.mem_cons_self, hfirst⟩
      · exact absurd (List.infix_nil.1 hnil) hne
      · obtain ⟨element, hmem, hoccurs⟩ := ih hlater
        exact ⟨element, List.mem_cons_of_mem first hmem, hoccurs⟩

theorem assemble_eq (domains mask list : Text) :
    assemble domains mask list = domains ++ (mask ++ ('(' :: list ++ [')'])) := by
  simp [assemble]

/-- A mask in a written rule stands before the list or in it. -/
theorem infix_of_infix_assemble (hclear : Mask.IsClear mask) {own : Text}
    (h : mask <:+: assemble domains own list) : mask <:+: domains ++ own ∨ mask <:+: list := by
  have hopen : '(' ∉ mask := hclear '(' (by decide)
  have hclose : ')' ∉ mask := hclear ')' (by decide)
  have hseams : mask <:+: (domains ++ own) ++ '(' :: (list ++ ')' :: []) := by
    simpa [assemble] using h
  rw [Text.infix_append_cons_iff hopen, Text.infix_append_cons_iff hclose] at hseams
  rcases hseams with hbefore | hlist | hnil
  · exact .inl hbefore
  · exact .inr hlist
  · exact .inr (hnil.trans List.nil_infix)

theorem infix_of_infix_singleQuoted (hclear : Mask.IsClear mask)
    (h : mask <:+: Text.singleQuoted t) : mask <:+: t := by
  have hsingle : '\'' ∉ mask := hclear '\'' (by decide)
  have hdouble : '"' ∉ mask := hclear '"' (by decide)
  have hseams : mask <:+: [] ++ '\'' :: (Text.bare t ++ '\'' :: []) := by
    simpa [Text.singleQuoted] using h
  rw [Text.infix_append_cons_iff hsingle, Text.infix_append_cons_iff hsingle] at hseams
  rcases hseams with hnil | hbare | hnil
  · exact hnil.trans List.nil_infix
  · exact Text.infix_of_infix_bare hsingle hdouble hbare
  · exact hnil.trans List.nil_infix

theorem infix_of_infix_adgList (hclear : Mask.IsClear mask) (hne : mask ≠ [])
    (h : mask <:+: rule.adgList) : ∃ element ∈ rule.name :: rule.args, mask <:+: element := by
  unfold adgList at h
  split at h
  · exact absurd (List.infix_nil.1 h) hne
  · obtain ⟨written, hwritten, hoccurs⟩ := infix_of_infix_joinElements hclear hne h
    obtain ⟨element, helement, rfl⟩ := List.mem_map.1 hwritten
    exact ⟨element, helement, infix_of_infix_singleQuoted hclear hoccurs⟩

theorem infix_of_infix_uboList (hclear : Mask.IsClear mask) (hne : mask ≠ [])
    (h : mask <:+: rule.uboList) : ∃ element ∈ rule.name :: rule.args, mask <:+: element := by
  obtain ⟨written, hwritten, hoccurs⟩ := infix_of_infix_joinElements hclear hne h
  have hmem : written ∈ rule.name :: rule.args.map (Text.escapeDelimiter ',') := by
    split at hwritten
    · exact (List.mem_filter.1 hwritten).1
    · exact hwritten
  rcases List.mem_cons.1 hmem with rfl | hescaped
  · exact ⟨rule.name, List.mem_cons_self, hoccurs⟩
  · obtain ⟨arg, harg, rfl⟩ := List.mem_map.1 hescaped
    exact ⟨arg, List.mem_cons_of_mem _ harg, Text.infix_of_infix_escapeDelimiter
      (hclear ',' (by decide)) (hclear '\\' (by decide)) hoccurs⟩

end Written

section Read

/-- The name and the arguments of a rule are elements that it was made of, but for the
name that a bare exception does not have. -/
theorem mem_of_ofElements {isException : Bool} {elements : List Text}
    (h : ofElements domains isException elements = .ok rule) {element : Text}
    (helement : element ∈ rule.name :: rule.args) : element = [] ∨ element ∈ elements := by
  cases elements with
  | nil =>
    cases isException <;> simp [ofElements] at h
    subst h
    exact .inl (by simpa using helement)
  | cons name args =>
    rw [ofElements] at h
    split at h
    · simp at h
    · cases h
      exact .inr helement

theorem parenthesised?_eq_some : parenthesised? t = some list ↔ t = '(' :: list ++ [')'] := by
  simp only [parenthesised?, Option.bind_eq_some_iff, Text.isPrefixOf?_eq_some,
    Text.isSuffixOf?_eq_some]
  constructor
  · rintro ⟨rest, rfl, rfl⟩
    rfl
  · rintro rfl
    exact ⟨list ++ [')'], rfl, rfl⟩

theorem parseUbo_eq_ok :
    parseUbo t = .ok rule ↔
      ∃ cut list, Mask.cutUbo? t = some cut ∧ Text.trim cut.body = '(' :: list ++ [')'] ∧
        ofElements cut.domains cut.isException (uboElements list) = .ok rule := by
  unfold parseUbo
  constructor
  · intro h
    split at h
    · simp at h
    · next cut hcut =>
      split at h
      · simp at h
      · next list hlist => exact ⟨cut, list, hcut, parenthesised?_eq_some.1 hlist, h⟩
  · rintro ⟨cut, list, hcut, hlist, helements⟩
    simp only [hcut, parenthesised?_eq_some.2 hlist, helements]

theorem parseAdg_eq_ok :
    parseAdg t = .ok rule ↔
      ∃ cut args, Mask.cut? Mask.adg t = some cut ∧
        ArgumentList.parse (Text.trim cut.body) = .ok args ∧
          ofElements cut.domains cut.isException args = .ok rule := by
  unfold parseAdg
  constructor
  · intro h
    split at h
    · simp at h
    · next cut hcut =>
      split at h
      · simp at h
      · next list hlist =>
        obtain ⟨args, hargs, helements⟩ := Outcome.bind_eq_ok.1 h
        exact ⟨cut, args, hcut, hargs, helements⟩
  · rintro ⟨cut, args, hcut, hargs, helements⟩
    simp only [hcut]
    split
    · next hnil => simp [hnil, ArgumentList.parse, ArgumentList.read] at hargs
    · exact Outcome.bind_eq_ok.2 ⟨args, hargs, helements⟩

/-- What stands in an element of a uBlock Origin list and has no comma stands in the list. -/
theorem infix_of_mem_uboElements (hcomma : ',' ∉ mask) {element : Text}
    (helement : element ∈ uboElements list) (h : mask <:+: element) : mask <:+: list := by
  unfold uboElements at helement
  split at helement
  · simp at helement
  · exact Text.infix_of_infix_splitUnescaped hcomma helement h

theorem named_of_parseUbo (h : parseUbo t = .ok rule) (hname : rule.name = []) :
    rule.isException = true ∧ rule.args = [] := by
  obtain ⟨cut, list, -, -, helements⟩ := parseUbo_eq_ok.1 h
  obtain ⟨-, hexception, hnamed⟩ := ofElements_eq_ok helements
  rw [hexception]
  exact hnamed hname

theorem named_of_parseAdg (h : parseAdg t = .ok rule) (hname : rule.name = []) :
    rule.isException = true ∧ rule.args = [] := by
  obtain ⟨cut, args, -, -, helements⟩ := parseAdg_eq_ok.1 h
  obtain ⟨-, hexception, hnamed⟩ := ofElements_eq_ok helements
  rw [hexception]
  exact hnamed hname

/-- Behind its domains a uBlock Origin rule goes on with the first character of a mask. -/
theorem prefix_hash_of_parseUbo (h : parseUbo t = .ok rule) : rule.domains ++ ['#'] <+: t := by
  obtain ⟨cut, list, hcut, -, helements⟩ := parseUbo_eq_ok.1 h
  rw [(ofElements_eq_ok helements).1]
  exact Mask.prefix_of_cutUbo? hcut

theorem prefix_of_parseUbo (h : parseUbo t = .ok rule) : rule.domains <+: t :=
  (List.prefix_append _ _).trans (prefix_hash_of_parseUbo h)

theorem infix_of_parseUbo (hcomma : ',' ∉ mask) (h : parseUbo t = .ok rule) {element : Text}
    (helement : element ∈ rule.name :: rule.args) (hoccurs : mask <:+: element) : mask <:+: t := by
  obtain ⟨cut, list, hcut, hlist, helements⟩ := parseUbo_eq_ok.1 h
  rcases mem_of_ofElements helements helement with rfl | hmem
  · exact hoccurs.trans List.nil_infix
  · have hbody : list <:+: cut.body := by
      refine List.IsInfix.trans ?_ (Text.trim_isInfix cut.body)
      exact hlist ▸ ⟨['('], [')'], rfl⟩
    obtain ⟨own, rfl⟩ := Mask.exists_of_cutUbo? hcut
    have hrule : cut.body <:+: cut.domains ++ (own ++ cut.body) :=
      ((List.suffix_append own _).trans (List.suffix_append _ _)).isInfix
    exact ((infix_of_mem_uboElements hcomma hmem hoccurs).trans hbody).trans hrule

/-- A uBlock Origin rule ends with a parenthesis, up to blanks. -/
theorem getLast?_of_parseUbo (h : parseUbo t = .ok rule) :
    (Text.trimEnd t).getLast? = some ')' := by
  obtain ⟨cut, list, hcut, hlist, -⟩ := parseUbo_eq_ok.1 h
  obtain ⟨own, rfl⟩ := Mask.exists_of_cutUbo? hcut
  rw [← List.append_assoc]
  apply Text.getLast?_trimEnd_append
  rw [hlist]
  exact List.getLast?_concat

/-- An AdGuard rule consists of its domains, its mask and a body that ends with a
parenthesis, up to blanks. No element of it ends in a backslash, and what stands in an
element and has no quotes stands in the body. -/
theorem exists_of_parseAdg (h : parseAdg t = .ok rule) :
    ∃ body, rule.domains ++ (Mask.adg rule.isException ++ body) = t ∧
      (Text.trim body).getLast? = some ')' ∧
        ∀ element ∈ rule.name :: rule.args, element.getLast? ≠ some '\\' ∧
          ∀ mask, (∀ c ∈ mask, Text.isQuote c = false) → mask <:+: element → mask <:+: body := by
  obtain ⟨cut, args, hcut, hargs, helements⟩ := parseAdg_eq_ok.1 h
  obtain ⟨hdomains, hexception, -⟩ := ofElements_eq_ok helements
  refine ⟨cut.body, ?_, ArgumentList.getLast?_of_parse hargs, ?_⟩
  · rw [hdomains, hexception]
    exact Mask.append_of_cut? hcut
  · intro element helement
    rcases mem_of_ofElements helements helement with rfl | hmem
    · exact ⟨by simp, fun mask _ hoccurs => hoccurs.trans List.nil_infix⟩
    · refine ⟨ArgumentList.getLast?_ne_of_parse hargs element hmem, ?_⟩
      intro mask hmask hoccurs
      exact (ArgumentList.infix_of_parse hmask hargs hmem hoccurs).trans (Text.trim_isInfix _)

theorem getLast?_of_parseAdg (h : parseAdg t = .ok rule) :
    (Text.trimEnd t).getLast? = some ')' := by
  obtain ⟨body, rfl, hlast, -⟩ := exists_of_parseAdg h
  rw [← List.append_assoc]
  exact Text.getLast?_trimEnd_append hlast _

theorem parseAbp_eq_ok {rules : List ScriptletRule} :
    parseAbp t = .ok rules ↔
      ∃ cut, Mask.cut? Mask.abp t = some cut ∧ rules ≠ [] ∧
        (Text.splitOutsideQuotes ';' cut.body).filterMap
          (ofStatement? cut.domains cut.isException) = rules := by
  unfold parseAbp
  constructor
  · intro h
    split at h
    · simp at h
    · next cut hcut =>
      split at h
      · simp at h
      · next hne =>
        obtain rfl := Except.ok.inj h
        exact ⟨cut, hcut, hne, rfl⟩
  · rintro ⟨cut, hcut, hne, rfl⟩
    simp only [hcut]

theorem parseAbp_eq_error {cut : Mask.Cut} (hcut : Mask.cut? Mask.abp t = some cut)
    (hnone : (Text.splitOutsideQuotes ';' cut.body).filterMap
      (ofStatement? cut.domains cut.isException) = []) :
    parseAbp t = .error .emptySnippet := by
  unfold parseAbp
  simp only [hcut, hnone]

/-- A statement is read as a rule with its words, the first of them without quotes. -/
theorem ofStatement?_eq_some_iff {isException : Bool} {statement : Text} :
    ofStatement? domains isException statement = some rule ↔
      ∃ name args, Text.splitSentence statement = name :: args ∧
        ⟨domains, isException, Text.stripQuotes name, args⟩ = rule := by
  unfold ofStatement?
  split
  · next hwords => simp [hwords]
  · next name args hwords => simp [hwords]

theorem ofStatement?_eq_none_iff {isException : Bool} {statement : Text} :
    ofStatement? domains isException statement = none ↔
      ∀ c ∈ statement, Text.isBlank c = true := by
  rw [← Text.splitSentence_eq_nil_iff]
  unfold ofStatement?
  split
  · next hwords => simp [hwords]
  · next name args hwords => simp [hwords]

/-- The name and the arguments of a statement are words of it, the name without quotes. -/
theorem exists_of_ofStatement? {isException : Bool} {statement : Text}
    (h : ofStatement? domains isException statement = some rule) :
    rule.domains = domains ∧ rule.isException = isException ∧
      ∀ element ∈ rule.name :: rule.args, element <:+: statement := by
  obtain ⟨name, args, hwords, rfl⟩ := ofStatement?_eq_some_iff.1 h
  refine ⟨rfl, rfl, ?_⟩
  intro element helement
  have hword : ∀ word ∈ name :: args, word <:+: statement := by
    intro word hmem
    exact Text.infix_of_mem_splitSentence (hwords ▸ hmem)
  cases List.mem_cons.1 helement with
  | inl hname =>
    rw [hname]
    exact (Text.stripQuotes_isInfix name).trans (hword name List.mem_cons_self)
  | inr harg => exact hword element (List.mem_cons_of_mem name harg)

/-- The domains, the names and the arguments of a snippet rule stand in its text. -/
theorem exists_of_mem_parseAbp {rules : List ScriptletRule} (h : parseAbp t = .ok rules)
    (hrule : rule ∈ rules) :
    ∃ body, rule.domains ++ (Mask.abp rule.isException ++ body) = t ∧
      ∀ element ∈ rule.name :: rule.args, element <:+: body := by
  obtain ⟨cut, hcut, -, rfl⟩ := parseAbp_eq_ok.1 h
  obtain ⟨statement, hstatement, hread⟩ := List.mem_filterMap.1 hrule
  obtain ⟨hdomains, hexception, helements⟩ := exists_of_ofStatement? hread
  refine ⟨cut.body, ?_, ?_⟩
  · rw [hdomains, hexception]
    exact Mask.append_of_cut? hcut
  · intro element helement
    exact (helements element helement).trans (Text.infix_of_mem_splitOutsideQuotes hstatement)

end Read

end FilterDialects.ScriptletRule
