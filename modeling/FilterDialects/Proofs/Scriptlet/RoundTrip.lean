import FilterDialects.Proofs.Scriptlet.Elements
import FilterDialects.Proofs.Scriptlet.Leftmost

/-!
# Written rules are read back

A rule in AdGuard syntax is read back with its name and its arguments requoted, and a
rule in uBlock Origin syntax with its arguments trimmed. The conditions are those that the
formats need: the domains hold no mask of the dialect, an AdGuard element can be quoted,
and a uBlock Origin element before a comma does not end in a backslash. An AdGuard rule
with an element that cannot be quoted is not read at all. A uBlock Origin rule is always
read, but an element that ends in a backslash takes the element behind it along.
-/

namespace FilterDialects.ScriptletRule

variable {rule : ScriptletRule}

/-- What a rule has to be like for its AdGuard form to be read back. -/
structure AdgReadable (rule : ScriptletRule) : Prop where
  /-- No mask stands in the domains. -/
  domains : ∀ isException, ¬ Mask.adg isException <:+: rule.domains
  /-- A rule of the normal form has no exception mask, which would be found first. -/
  normal : rule.isException = false → ¬ Mask.adg true <:+: rule.toAdg
  /-- Every element can stand between single quotes. -/
  quotable : ∀ element ∈ rule.name :: rule.args, Text.isQuotable element = true
  /-- A rule without a name is an exception without arguments. -/
  named : Text.bare rule.name = [] → rule.isException = true ∧ rule.args = []

/-- The list of a rule that is no bare exception holds its quoted elements. -/
theorem adgList_eq (h : ¬ (rule.name = [] ∧ rule.args = [])) :
    rule.adgList = ", ".toList.intercalate
      ((Text.bare rule.name :: rule.args.map Text.bare).map ArgumentList.quoted) := by
  rw [adgList, if_neg h, joinElements, ← List.map_cons, List.map_map]
  rfl

/-- The list of a written rule is read back, but for the name that is left out. -/
theorem exists_parse_adgList (h : rule.AdgReadable) :
    ∃ args, ArgumentList.parse ('(' :: rule.adgList ++ [')']) = .ok args ∧
      ofElements rule.domains rule.isException args =
        .ok { rule with name := Text.bare rule.name, args := rule.args.map Text.bare } := by
  by_cases hbare : rule.name = [] ∧ rule.args = []
  · obtain ⟨hname, hargs⟩ := hbare
    obtain ⟨hexception, -⟩ := h.named (by simp [hname])
    refine ⟨[], ?_, ?_⟩
    · rw [adgList, if_pos ⟨hname, hargs⟩]
      rfl
    · simp [ofElements, hexception, hname, hargs]
  · refine ⟨(rule.name :: rule.args).map Text.bare, ?_, ?_⟩
    · rw [adgList_eq hbare]
      apply ArgumentList.parse_quoted
      rw [← List.map_cons]
      intro arg harg
      obtain ⟨element, helement, rfl⟩ := List.mem_map.1 harg
      exact ⟨Text.notMem_bare element, Text.getLast?_bare_ne (h.quotable element helement)⟩
    · rw [List.map_cons, ofElements, if_neg]
      rintro ⟨hname, hplain⟩
      obtain ⟨hexception, hargs⟩ := h.named hname
      simp [hexception, hargs] at hplain

/-- The elements of a list are not read when one of them cannot be quoted. -/
theorem exists_error_adgList
    (h : ∃ element ∈ rule.name :: rule.args, Text.isQuotable element = false) :
    ∃ fault, ArgumentList.parse ('(' :: rule.adgList ++ [')']) = .error fault := by
  have hbare : ¬ (rule.name = [] ∧ rule.args = []) := by
    rintro ⟨hname, hargs⟩
    rw [hname, hargs] at h
    exact absurd h (by decide)
  rw [adgList_eq hbare, ← List.map_cons]
  apply ArgumentList.exists_error_of_backslash
  · intro arg harg
    obtain ⟨element, -, rfl⟩ := List.mem_map.1 harg
    exact Text.notMem_bare element
  · obtain ⟨element, helement, hquotable⟩ := h
    exact ⟨_, List.mem_map_of_mem helement, Text.getLast?_bare_iff.2 hquotable⟩

/-- The exception mask occurs in a written rule of the normal form only where it occurs in
the domains or an element. -/
theorem not_infix_toAdg (hdomains : ¬ Mask.adg true <:+: rule.domains)
    (helements : ∀ element ∈ rule.name :: rule.args, ¬ Mask.adg true <:+: element)
    (hnormal : rule.isException = false) : ¬ Mask.adg true <:+: rule.toAdg := by
  have hclear := Mask.isClear_adg true
  intro hoccurs
  cases infix_of_infix_assemble hclear hoccurs with
  | inl hbefore =>
    rw [hnormal, ← List.append_nil (Mask.adg false)] at hbefore
    cases Text.infix_append_of_not_overlaps (by decide) hbefore with
    | inl hin => exact hdomains hin
    | inr hown => exact absurd hown (by decide)
  | inr hlist =>
    obtain ⟨element, helement, hin⟩ := infix_of_infix_adgList hclear (by decide) hlist
    exact helements element helement hin

/-- A rule in AdGuard syntax is cut around its own mask, so reading it is reading its list. -/
theorem parseAdg_toAdg_eq_bind (hdomains : ∀ isException, ¬ Mask.adg isException <:+: rule.domains)
    (hnormal : rule.isException = false → ¬ Mask.adg true <:+: rule.toAdg) :
    parseAdg rule.toAdg = (ArgumentList.parse ('(' :: rule.adgList ++ [')'])).bind
      (ofElements rule.domains rule.isException) := by
  rw [toAdg, assemble_eq] at hnormal ⊢
  have htrimmed : Text.trim ('(' :: rule.adgList ++ [')']) = '(' :: rule.adgList ++ [')'] :=
    Text.trim_of_ends (by decide) (by decide) rule.adgList
  rw [parseAdg, Mask.cut?_adg_append hdomains hnormal]
  simp only [htrimmed]
  rfl

theorem parseAdg_toAdg (h : rule.AdgReadable) :
    parseAdg rule.toAdg =
      .ok { rule with name := Text.bare rule.name, args := rule.args.map Text.bare } := by
  obtain ⟨args, hargs, helements⟩ := exists_parse_adgList h
  rw [parseAdg_toAdg_eq_bind h.domains h.normal, hargs]
  exact helements

theorem exists_error_parseAdg_toAdg
    (hdomains : ∀ isException, ¬ Mask.adg isException <:+: rule.domains)
    (hnormal : rule.isException = false → ¬ Mask.adg true <:+: rule.toAdg)
    (helement : ∃ element ∈ rule.name :: rule.args, Text.isQuotable element = false) :
    ∃ fault, parseAdg rule.toAdg = .error fault := by
  obtain ⟨fault, hlist⟩ := exists_error_adgList helement
  refine ⟨fault, ?_⟩
  rw [parseAdg_toAdg_eq_bind hdomains hnormal, hlist]
  rfl

/-- A rule in AdGuard syntax is read back with requoted elements exactly when every element
can be quoted. Otherwise it is not read at all. -/
theorem parseAdg_toAdg_eq_ok_iff
    (hdomains : ∀ isException, ¬ Mask.adg isException <:+: rule.domains)
    (hnormal : Mask.adg true <:+: rule.toAdg → rule.isException = true)
    (hnamed : Text.requote rule.name ≠ [] ∨ rule.isException = true ∧ rule.args = []) :
    (parseAdg rule.toAdg = .ok { rule with
        name := Text.requote rule.name
        args := rule.args.map Text.requote } ↔
      ∀ element ∈ rule.name :: rule.args, checkQuotable element = .ok ()) ∧
    ((∃ fault, parseAdg rule.toAdg = .error fault) ↔
      ∃ element ∈ rule.name :: rule.args,
        checkQuotable element = .error (.trailingBackslash element)) := by
  have hnormal' : rule.isException = false → ¬ Mask.adg true <:+: rule.toAdg := by
    intro hfalse hoccurs
    simp [hnormal hoccurs] at hfalse
  have hbare : Text.bare = Text.requote := funext Text.bare_eq_requote
  simp only [checkQuotable_eq_ok, checkQuotable_eq_error, and_true]
  by_cases hquotable : ∀ element ∈ rule.name :: rule.args, Text.isQuotable element = true
  · have hreadable : rule.AdgReadable := by
      refine ⟨hdomains, hnormal', hquotable, ?_⟩
      rw [hbare]
      exact fun hnil => hnamed.resolve_left fun hne => hne hnil
    have hread := parseAdg_toAdg hreadable
    rw [hbare] at hread
    refine ⟨iff_of_true hread hquotable, iff_of_false ?_ ?_⟩
    · simp [hread]
    · rintro ⟨element, hmem, hfalse⟩
      simp [hquotable element hmem] at hfalse
  · have hbackslash : ∃ element ∈ rule.name :: rule.args, Text.isQuotable element = false := by
      simpa only [not_forall, Bool.not_eq_true, exists_prop] using hquotable
    obtain ⟨fault, hread⟩ := exists_error_parseAdg_toAdg hdomains hnormal' hbackslash
    exact ⟨iff_of_false (by simp [hread]) hquotable, iff_of_true ⟨fault, hread⟩ hbackslash⟩

/-- Outer quotes are dropped and inner ones softened; a backslash at the end of an argument
keeps the rule from being read. -/
theorem parseAdg_toAdg_eq_ok_iff_log :
    parseAdg (toAdg ⟨"a.org#".toList, true, "log".toList, ["'it\\'s'".toList, "#%#".toList]⟩) =
        .ok ⟨"a.org#".toList, true, "log".toList, ["it\"s".toList, "#%#".toList]⟩ ∧
      ∃ fault, parseAdg (toAdg ⟨[], false, "log".toList, ["\"a\\\"".toList, "b".toList]⟩) =
        .error fault := by
  constructor
  · refine (parseAdg_toAdg_eq_ok_iff ?_ ?_ ?_).1.2 ?_ <;> decide
  · refine (parseAdg_toAdg_eq_ok_iff ?_ ?_ ?_).2.2 ?_ <;> decide

/-- What a rule has to be like for its uBlock Origin form to be read back. -/
structure UboReadable (rule : ScriptletRule) : Prop where
  /-- No mask stands in the domains. -/
  domains : Mask.cutUbo? rule.domains = none
  /-- There is a name. -/
  name_ne_nil : rule.name ≠ []
  /-- The name has no delimiter. -/
  name_whole : ',' ∉ rule.name
  /-- The name neither starts nor ends with a blank. -/
  name_trimmed : Text.trim rule.name = rule.name
  /-- No delimiter is swallowed by the element before it. -/
  ends : ∀ element ∈ (rule.name :: rule.args).dropLast, element.getLast? ≠ some '\\'

theorem prefix_joinElements (first : Text) (others : List Text) :
    first <+: joinElements (first :: others) := by
  cases others with
  | nil => exact ⟨[], by simp [joinElements, List.intercalate]⟩
  | cons second others =>
    rw [joinElements, Text.intercalate_cons_cons]
    exact List.prefix_append _ _

/-- The list of a rule with a name holds its elements, those with delimiters escaped. -/
theorem uboList_eq (hname : rule.name ≠ []) (hwhole : ',' ∉ rule.name) :
    rule.uboList =
      [',', ' '].intercalate ((rule.name :: rule.args).map (Text.escapeDelimiter ',')) := by
  simp [uboList, hname, joinElements, Text.escapeDelimiter_of_notMem hwhole]

/-- The list of a rule with a trimmed name does not start with a blank. -/
theorem exists_cons_uboList (hname : rule.name ≠ []) (htrimmed : Text.trim rule.name = rule.name) :
    ∃ c rest, rule.uboList = c :: rest ∧ c ∈ rule.name ∧ Text.isBlank c = false := by
  obtain ⟨c, name, hcons⟩ := List.exists_cons_of_ne_nil hname
  have hstart : rule.name <+: rule.uboList := by
    rw [uboList, if_neg hname]
    exact prefix_joinElements rule.name _
  obtain ⟨rest, hrest⟩ := hstart
  refine ⟨c, name ++ rest, ?_, ?_, ?_⟩
  · rw [← hrest, hcons, List.cons_append]
  · rw [hcons]
    exact List.mem_cons_self
  · apply Text.isBlank_of_trimStart
    rw [(Text.trim_eq_self_iff.1 htrimmed).1, hcons]

theorem uboElements_eq (hname : rule.name ≠ []) (htrimmed : Text.trim rule.name = rule.name) :
    uboElements rule.uboList = Text.splitUnescaped ',' rule.uboList := by
  obtain ⟨c, rest, hlist, -, hblank⟩ := exists_cons_uboList hname htrimmed
  rw [uboElements, if_neg]
  intro hnil
  have hc := Text.trim_eq_nil_iff.1 hnil c (hlist ▸ List.mem_cons_self)
  simp [hblank] at hc

theorem uboElements_uboList (h : rule.UboReadable) :
    uboElements rule.uboList = rule.name :: rule.args.map Text.trim := by
  rw [uboElements_eq h.name_ne_nil h.name_trimmed, uboList_eq h.name_ne_nil h.name_whole,
    Text.splitUnescaped_intercalate (by decide) (by decide) Text.isBlank_of_mem_space _ _ h.ends,
    List.map_cons, h.name_trimmed]

/-- A uBlock Origin rule is cut around its own mask, however that is spelled, so reading it is
reading its list. -/
theorem parseUbo_assemble {domains mask : Text} {isException : Bool}
    (hdomains : Mask.cutUbo? domains = none) (hmask : Mask.IsMaskOf .ubo isException mask)
    (list : Text) :
    parseUbo (assemble domains mask list) =
      ofElements domains isException (uboElements list) := by
  obtain ⟨word, hword, rfl⟩ := hmask
  have hlist : parenthesised? (Text.trim ('(' :: list ++ [')'])) = some list := by
    rw [parenthesised?_eq_some]
    exact Text.trim_of_ends (by decide) (by decide) list
  rw [assemble_eq, List.append_assoc, parseUbo, Mask.cutUbo?_opening_append hdomains hword]
  simp only [hlist]

theorem parseUbo_toUbo_eq (hdomains : Mask.cutUbo? rule.domains = none) :
    parseUbo rule.toUbo =
      ofElements rule.domains rule.isException (uboElements rule.uboList) :=
  parseUbo_assemble hdomains ⟨_, Mask.isUboWord_js, Mask.ubo_eq_opening _⟩ rule.uboList

theorem parseUbo_assemble_uboList (h : rule.UboReadable) {mask : Text}
    (hmask : Mask.IsMaskOf .ubo rule.isException mask) :
    parseUbo (assemble rule.domains mask rule.uboList) =
      .ok { rule with args := rule.args.map Text.trim } := by
  rw [parseUbo_assemble h.domains hmask, uboElements_uboList h, ofElements, if_neg]
  exact fun hnil => h.name_ne_nil hnil.1

theorem parseUbo_toUbo (h : rule.UboReadable) :
    parseUbo rule.toUbo = .ok { rule with args := rule.args.map Text.trim } :=
  parseUbo_assemble_uboList h ⟨_, Mask.isUboWord_js, Mask.ubo_eq_opening _⟩

/-- Whatever its elements end in, a list is read as a name and one argument for each element
before the last that does not end in a backslash. -/
theorem exists_uboElements_uboList (hname : rule.name ≠ []) (hwhole : ',' ∉ rule.name)
    (htrimmed : Text.trim rule.name = rule.name) :
    ∃ name args, name ≠ [] ∧ uboElements rule.uboList = name :: args ∧
      args.length = (rule.name :: rule.args).dropLast.countP (·.getLast? ≠ some '\\') := by
  obtain ⟨c, rest, hlist, hmem, hblank⟩ := exists_cons_uboList hname htrimmed
  have hc : c ≠ ',' := fun heq => hwhole (heq ▸ hmem)
  obtain ⟨b, piece, pieces, hb, hpieces⟩ := Text.exists_head_piecesUnescaped hc rest
  have hlength := Text.length_piecesUnescaped_intercalate (show ',' ≠ '\\' by decide)
    (show ',' ∉ [' '] by decide) (by decide) rule.name rule.args
  rw [← uboList_eq hname hwhole, hlist, hpieces, List.length_cons] at hlength
  refine ⟨Text.trim (b :: piece), pieces.map Text.trim, ?_, ?_, ?_⟩
  · intro hnil
    have hbBlank := Text.trim_eq_nil_iff.1 hnil b List.mem_cons_self
    obtain rfl | rfl := hb
    · simp [hblank] at hbBlank
    · exact absurd hbBlank (by decide)
  · rw [uboElements_eq hname htrimmed, Text.splitUnescaped, hlist, hpieces, List.map_cons]
  · rw [List.length_map]
    omega

/-- A rule in uBlock Origin syntax that has a name is read back with trimmed arguments, unless
an element before the last ends in a backslash. Each that does costs one argument. -/
theorem exists_parseUbo_toUbo
    (hdomains : ∀ isException mask, Mask.IsMaskOf .ubo isException mask →
      ¬ mask <:+: rule.domains)
    (hname : rule.name ≠ []) (hwhole : ',' ∉ rule.name)
    (htrimmed : Text.trim rule.name = rule.name) :
    ∃ read, parseUbo rule.toUbo = .ok read ∧
      read.args.length = (rule.name :: rule.args).dropLast.countP (·.getLast? ≠ some '\\') ∧
      ((∀ element ∈ (rule.name :: rule.args).dropLast, element.getLast? ≠ some '\\') →
        read = { rule with args := rule.args.map Text.trim }) ∧
      ((∃ element ∈ (rule.name :: rule.args).dropLast, element.getLast? = some '\\') →
        read.args.length < rule.args.length) := by
  have hcut := Mask.cutUbo?_eq_none hdomains
  obtain ⟨name, args, hne, helements, hlength⟩ :=
    exists_uboElements_uboList hname hwhole htrimmed
  have hread : parseUbo rule.toUbo = .ok ⟨rule.domains, rule.isException, name, args⟩ := by
    rw [parseUbo_toUbo_eq hcut, helements, ofElements, if_neg fun hnil => hne hnil.1]
  refine ⟨_, hread, hlength, ?_, ?_⟩
  · intro hends
    rw [parseUbo_toUbo ⟨hcut, hname, hwhole, htrimmed, hends⟩] at hread
    exact (Except.ok.inj hread).symm
  · rintro ⟨element, hmem, hlast⟩
    have hdropped : (rule.name :: rule.args).dropLast.length = rule.args.length := by simp
    show args.length < rule.args.length
    rw [hlength, ← hdropped]
    apply Nat.lt_of_le_of_ne List.countP_le_length
    intro hall
    simpa [hlast] using List.countP_eq_length.1 hall element hmem

/-- Commas, parentheses, quotes and masks are kept in an argument, and an empty argument stays
one. A name that ends in a backslash takes the first argument along. -/
theorem exists_parseUbo_toUbo_log :
    parseUbo (toUbo ⟨"a.org".toList, false, "log".toList,
        [" a, b)".toList, [], "'##+js(".toList, "c\\".toList]⟩) =
        .ok ⟨"a.org".toList, false, "log".toList,
          ["a, b)".toList, [], "'##+js(".toList, "c\\".toList]⟩ ∧
      ∃ read, parseUbo (toUbo ⟨"a.org".toList, false, "log\\".toList, ["a".toList]⟩) = .ok read ∧
        read.args.length < 1 := by
  have hdomains : ∀ isException mask, Mask.IsMaskOf .ubo isException mask →
      ¬ mask <:+: "a.org".toList :=
    fun _ _ => Mask.not_infix_of_hash_notMem (by decide)
  constructor
  · obtain ⟨read, hread, -, hkept, -⟩ := @exists_parseUbo_toUbo
      ⟨"a.org".toList, false, "log".toList, [" a, b)".toList, [], "'##+js(".toList, "c\\".toList]⟩
      hdomains (by decide) (by decide) (by decide)
    rw [hread, hkept (by decide)]
    decide
  · obtain ⟨read, hread, -, -, hfewer⟩ := @exists_parseUbo_toUbo
      ⟨"a.org".toList, false, "log\\".toList, ["a".toList]⟩
      hdomains (by decide) (by decide) (by decide)
    exact ⟨read, hread, hfewer (by decide)⟩

end FilterDialects.ScriptletRule
