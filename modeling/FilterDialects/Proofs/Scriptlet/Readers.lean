import FilterDialects.Proofs.Scriptlet.Elements
import FilterDialects.Proofs.Scriptlet.Leftmost

/-!
# What the three readers have in common

Each reader makes its rules of the two sides of one cut. So the domains and the form of a
rule that was read are those of the leftmost mask of its dialect, unless the rule is mixed:
an AdGuard or Adblock Plus rule with an exception mask behind a normal one is read as an
exception, and what stands before its exception mask is taken for domains.

A rule without a name is an exception without arguments. The readers of AdGuard and uBlock
Origin rules make sure of that. The reader of snippets does not: the first word of a
statement is its name, and a word that is a pair of quotes has nothing between them.
-/

namespace FilterDialects.ScriptletRule

variable {dialect : Dialect} {t statement : Text} {rule : ScriptletRule}

/-- A text is read as a rule of a dialect, by its reader. Snippets are read as several. -/
def Reads : Dialect → Text → ScriptletRule → Prop
  | .adg, t, rule => parseAdg t = .ok rule
  | .ubo, t, rule => parseUbo t = .ok rule
  | .abp, t, rule => ∃ rules, parseAbp t = .ok rules ∧ rule ∈ rules

section Leftmost

/-- The domains and the form of a rule are those of one cut, around a mask of its dialect. -/
theorem Reads.exists_cut (h : Reads dialect t rule) :
    ∃ cut, Mask.cutOf? dialect t = some cut ∧
      rule.domains = cut.domains ∧ rule.isException = cut.isException := by
  cases dialect with
  | adg =>
    obtain ⟨cut, args, hcut, -, helements⟩ := parseAdg_eq_ok.1 h
    obtain ⟨hdomains, hexception, -⟩ := ofElements_eq_ok helements
    exact ⟨cut, hcut, hdomains, hexception⟩
  | ubo =>
    obtain ⟨cut, list, hcut, -, helements⟩ := parseUbo_eq_ok.1 h
    obtain ⟨hdomains, hexception, -⟩ := ofElements_eq_ok helements
    exact ⟨cut, hcut, hdomains, hexception⟩
  | abp =>
    obtain ⟨rules, hrules, hmem⟩ := h
    obtain ⟨cut, hcut, -, rfl⟩ := parseAbp_eq_ok.1 hrules
    obtain ⟨statement, -, hread⟩ := List.mem_filterMap.1 hmem
    obtain ⟨hdomains, hexception, -⟩ := exists_of_ofStatement? hread
    exact ⟨cut, hcut, hdomains, hexception⟩

/-- The leftmost mask of a rule tells its domains and its form, but for mixed rules of AdGuard
and Adblock Plus. A mixed rule is read as an exception whose domains hold the leftmost mask. -/
theorem isLeftmost_of_reads (h : Reads dialect t rule) :
    (Mask.IsLeftmost dialect t rule.domains rule.isException ↔
      dialect = .ubo ∨ ¬ Mask.IsMixed dialect t) ∧
    (dialect ≠ .ubo → Mask.IsMixed dialect t →
      rule.isException = true ∧
        ∃ domains, Mask.IsLeftmost dialect t domains false ∧
          domains <+: rule.domains ∧ domains ≠ rule.domains) := by
  obtain ⟨cut, hcut, hdomains, hexception⟩ := h.exists_cut
  rw [hdomains, hexception]
  exact ⟨Mask.isLeftmost_iff_of_cutOf? hcut, Mask.exists_isLeftmost_of_cutOf? hcut⟩

/-- The leftmost mask of this snippet stands before its quoted argument. -/
theorem isLeftmost_log_quoted :
    Mask.IsLeftmost .abp "example.org#$#log '#@$#x'".toList "example.org".toList false := by
  have hnormal : Text.cutMask? (Mask.abp false) "example.org#$#log '#@$#x'".toList =
      some ("example.org".toList, "log '#@$#x'".toList) := by decide
  have hexception : Text.cutMask? (Mask.abp true) "example.org#$#log '#@$#x'".toList =
      some ("example.org#$#log '".toList, "x'".toList) := by decide
  refine Mask.isLeftmost_of_cutMask? (fun _ _ => Iff.rfl) hnormal ?_
  intro before hoccurs
  have hlater := Text.prefix_of_cutMask? hexception hoccurs
  exact List.IsPrefix.trans (by decide) hlater

/-- The snippet is an exception for its reader, and its domains end in the quoted argument. -/
theorem not_isLeftmost_of_parseAbp :
    parseAbp "example.org#$#log '#@$#x'".toList =
        .ok [⟨"example.org#$#log '".toList, true, "x'".toList, []⟩] ∧
      Mask.IsLeftmost .abp "example.org#$#log '#@$#x'".toList "example.org".toList false ∧
      ¬ Mask.IsLeftmost .abp "example.org#$#log '#@$#x'".toList
        "example.org#$#log '".toList true := by
  refine ⟨by decide +kernel, isLeftmost_log_quoted, ?_⟩
  intro hread
  exact absurd (hread.unique isLeftmost_log_quoted).2 (by decide)

/-- An exception mask among the arguments is an argument in a uBlock Origin rule, and the mask
of the rule in a snippet. -/
theorem isLeftmost_of_reads_log :
    Reads .ubo "a.org##+js(log, #@#+js)".toList
        ⟨"a.org".toList, false, "log".toList, ["#@#+js".toList]⟩ ∧
      Mask.IsLeftmost .ubo "a.org##+js(log, #@#+js)".toList "a.org".toList false ∧
      Mask.IsMixed .abp "example.org#$#log '#@$#x'".toList ∧
      Reads .abp "example.org#$#log '#@$#x'".toList
        ⟨"example.org#$#log '".toList, true, "x'".toList, []⟩ ∧
      ∃ domains, Mask.IsLeftmost .abp "example.org#$#log '#@$#x'".toList domains false ∧
        domains ≠ "example.org#$#log '".toList := by
  have hubo : Reads .ubo "a.org##+js(log, #@#+js)".toList
      ⟨"a.org".toList, false, "log".toList, ["#@#+js".toList]⟩ := by
    show parseUbo _ = _
    decide
  have habp : Reads .abp "example.org#$#log '#@$#x'".toList
      ⟨"example.org#$#log '".toList, true, "x'".toList, []⟩ :=
    ⟨[⟨"example.org#$#log '".toList, true, "x'".toList, []⟩], by decide +kernel,
      List.mem_cons_self⟩
  have hmixed : Mask.IsMixed .abp "example.org#$#log '#@$#x'".toList :=
    ⟨⟨_, isLeftmost_log_quoted⟩, _, rfl, by decide⟩
  have hleftmost := (isLeftmost_of_reads hubo).1.2 (.inl rfl)
  obtain ⟨-, domains, hnormal, -, hne⟩ := (isLeftmost_of_reads habp).2 (by decide) hmixed
  exact ⟨hubo, hleftmost, hmixed, habp, domains, hnormal, hne⟩

end Leftmost

section Named

/-- A rule without a name switches off all scriptlets: it is an exception without arguments,
of AdGuard or uBlock Origin. -/
def IsNamed (dialect : Dialect) (rule : ScriptletRule) : Prop :=
  rule.name = [] → dialect ≠ .abp ∧ rule.isException = true ∧ rule.args = []

/-- The statements of a snippet rule, blank ones included. -/
def statements (t : Text) : List Text :=
  (Mask.cut? Mask.abp t).elim [] fun cut => Text.splitOutsideQuotes ';' cut.body

/-- The first word of a statement is a pair of quotes with nothing between them. -/
def StartsUnnamed (statement : Text) : Prop :=
  ∃ quote words, Text.isQuote quote = true ∧
    Text.splitSentence statement = [quote, quote] :: words

/-- The rule of a statement has no name exactly when the statement starts so. -/
theorem exists_ofStatement?_unnamed_iff {domains : Text} {isException : Bool} :
    (∃ rule, ofStatement? domains isException statement = some rule ∧ rule.name = []) ↔
      StartsUnnamed statement := by
  constructor
  · rintro ⟨rule, hread, hname⟩
    obtain ⟨name, args, hwords, rfl⟩ := ofStatement?_eq_some_iff.1 hread
    rcases Text.stripQuotes_eq_nil_iff.1 hname with hnil | ⟨quote, hquote, rfl⟩
    · have hword : name ∈ Text.splitSentence statement := hwords ▸ List.mem_cons_self
      exact absurd hnil (Text.ne_nil_of_mem_splitSentence hword)
    · exact ⟨quote, args, hquote, hwords⟩
  · rintro ⟨quote, words, hquote, hwords⟩
    exact ⟨_, ofStatement?_eq_some_iff.2 ⟨_, _, hwords, rfl⟩,
      Text.stripQuotes_eq_nil_iff.2 (.inr ⟨quote, hquote, rfl⟩)⟩

/-- The rules of a snippet are those of its statements. -/
theorem reads_abp_iff :
    Reads .abp t rule ↔
      ∃ cut, Mask.cut? Mask.abp t = some cut ∧ ∃ statement ∈ statements t,
        ofStatement? cut.domains cut.isException statement = some rule := by
  constructor
  · rintro ⟨rules, hrules, hmem⟩
    obtain ⟨cut, hcut, -, rfl⟩ := parseAbp_eq_ok.1 hrules
    refine ⟨cut, hcut, ?_⟩
    rw [statements, hcut]
    exact List.mem_filterMap.1 hmem
  · rintro ⟨cut, hcut, hread⟩
    rw [statements, hcut] at hread
    have hmem := List.mem_filterMap.2 hread
    exact ⟨_, parseAbp_eq_ok.2 ⟨cut, hcut, List.ne_nil_of_mem hmem, rfl⟩, hmem⟩

/-- Every rule that is read has a name or needs none, but for those of the snippet statements
that start with a pair of quotes. -/
theorem isNamed_of_reads_iff (dialect : Dialect) (t : Text) :
    (∀ rule, Reads dialect t rule → IsNamed dialect rule) ↔
      (dialect = .abp → ∀ statement ∈ statements t, ¬ StartsUnnamed statement) := by
  cases dialect with
  | adg =>
    refine iff_of_true ?_ (by simp)
    exact fun rule hread hname => ⟨by decide, named_of_parseAdg hread hname⟩
  | ubo =>
    refine iff_of_true ?_ (by simp)
    exact fun rule hread hname => ⟨by decide, named_of_parseUbo hread hname⟩
  | abp =>
    constructor
    · intro hnamed _ statement hmem hstarts
      cases hcut : Mask.cut? Mask.abp t with
      | none => simp [statements, hcut] at hmem
      | some cut =>
        obtain ⟨rule, hrule, hname⟩ := exists_ofStatement?_unnamed_iff.2 hstarts
        have hread := reads_abp_iff.2 ⟨cut, hcut, statement, hmem, hrule⟩
        exact (hnamed rule hread hname).1 rfl
    · intro hstarts rule hread hname
      obtain ⟨cut, -, statement, hmem, hrule⟩ := reads_abp_iff.1 hread
      exact absurd (exists_ofStatement?_unnamed_iff.1 ⟨rule, hrule, hname⟩)
        (hstarts rfl statement hmem)

/-- A snippet that is no exception is read as a rule without a name. -/
theorem not_isNamed_of_parseAbp :
    parseAbp "example.org#$#'' hello".toList =
        .ok [⟨"example.org".toList, false, [], ["hello".toList]⟩] ∧
      ¬ IsNamed .abp ⟨"example.org".toList, false, [], ["hello".toList]⟩ := by
  refine ⟨by decide +kernel, ?_⟩
  intro hnamed
  exact (hnamed rfl).1 rfl

end Named

end FilterDialects.ScriptletRule
