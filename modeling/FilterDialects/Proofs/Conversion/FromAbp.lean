import FilterDialects.Conversion.FromAbp
import FilterDialects.Proofs.Classify
import FilterDialects.Proofs.Scriptlet.RoundTrip
import Mathlib.Data.List.Forall2
import Mathlib.Data.List.Permutation

/-!
# Converted Adblock Plus snippets

Each statement of a snippet rule that is converted becomes an AdGuard rule for the same
domains, whose elements are the requoted words of the statement. The conversion refuses an
argument that would keep its closing quote, but it lets such a name pass. So a statement
whose name ends in a backslash becomes a rule that cannot be read, and it is the only one
that does.
-/

namespace FilterDialects.FromAbp

variable {registry : Registry} {rule : Text} {statement : ScriptletRule}

/-- The rule that a statement becomes in AdGuard, before it is quoted. -/
def adgForm (statement : ScriptletRule) : ScriptletRule :=
  { statement with name := Registry.abpMark ++ statement.name }

section Conversion

/-- The arguments of all statements are checked, in order, as if they were those of one. -/
theorem convertAll_eq (statements : List ScriptletRule) :
    convertAll statements =
      (checkAllQuotable (statements.flatMap ScriptletRule.args)).map fun _ =>
        statements.map adgForm := by
  induction statements with
  | nil => rfl
  | cons statement statements ih =>
    rw [convertAll, List.flatMap_cons, checkAllQuotable_append, ih, convertStatement]
    cases checkAllQuotable statement.args with
    | error fault => rfl
    | ok => cases checkAllQuotable (statements.flatMap ScriptletRule.args) <;> rfl

theorem convertAll_eq_ok {statements converted : List ScriptletRule} :
    convertAll statements = .ok converted ↔
      (∀ statement ∈ statements, ∀ arg ∈ statement.args, Text.isQuotable arg = true) ∧
        statements.map adgForm = converted := by
  rw [convertAll_eq, Outcome.map_eq_ok, ← List.forall_mem_flatMap]
  constructor
  · rintro ⟨⟨⟩, hquotable, hform⟩
    exact ⟨checkAllQuotable_eq_ok.1 hquotable, hform⟩
  · rintro ⟨hquotable, hform⟩
    exact ⟨(), checkAllQuotable_eq_ok.2 hquotable, hform⟩

/-- A conversion that succeeds writes the AdGuard forms of all statements, in order. -/
theorem abpSnippetToAdg_eq_ok {outs : List Text} (hcomment : Mask.isComment rule = false) :
    abpSnippetToAdg rule = .ok outs ↔
      ∃ statements, ScriptletRule.parseAbp rule = .ok statements ∧
        (∀ statement ∈ statements, ∀ arg ∈ statement.args, Text.isQuotable arg = true) ∧
          statements.map (fun statement => (adgForm statement).toAdg) = outs := by
  rw [abpSnippetToAdg, hcomment, if_neg Bool.false_ne_true, Outcome.ofSyntax_eq_ok,
    Outcome.map_eq_ok]
  constructor
  · rintro ⟨converted, hconverted, rfl⟩
    obtain ⟨statements, hstatements, hall⟩ := Outcome.bind_eq_ok.1 hconverted
    obtain ⟨hquotable, rfl⟩ := convertAll_eq_ok.1 hall
    refine ⟨statements, hstatements, hquotable, ?_⟩
    rw [List.map_map]
    rfl
  · rintro ⟨statements, hstatements, hquotable, rfl⟩
    refine ⟨statements.map adgForm, ?_, ?_⟩
    · exact Outcome.bind_eq_ok.2 ⟨statements, hstatements, convertAll_eq_ok.2 ⟨hquotable, rfl⟩⟩
    · rw [List.map_map]
      rfl

end Conversion

section Masks

variable {mask : Text}

theorem infix_of_infix_adgForm (hmask : Mask.IsAtomic mask) {element : Text}
    (helement : element ∈ (adgForm statement).name :: (adgForm statement).args)
    (h : mask <:+: element) : ∃ source ∈ statement.name :: statement.args, mask <:+: source := by
  cases List.mem_cons.1 helement with
  | inl hname =>
    have hseam : mask <:+: "abp".toList ++ '-' :: statement.name := by
      rw [hname] at h
      exact h
    rw [Text.infix_append_cons_iff hmask.dash] at hseam
    cases hseam with
    | inl hmark => exact absurd (hmark.subset hmask.hash) (by decide)
    | inr hplain => exact ⟨statement.name, List.mem_cons_self, hplain⟩
  | inr harg => exact ⟨element, List.mem_cons_of_mem _ harg, h⟩

/-- What the parts of a converted statement hold stood in the rule. -/
theorem infix_of_mem_parseAbp {statements : List ScriptletRule}
    (hparsed : ScriptletRule.parseAbp rule = .ok statements) (hstatement : statement ∈ statements)
    (hmask : Mask.IsAtomic mask) :
    (mask <:+: statement.domains → mask <:+: rule) ∧
      ∀ element ∈ (adgForm statement).name :: (adgForm statement).args,
        mask <:+: element → mask <:+: rule := by
  obtain ⟨body, rfl, helements⟩ := ScriptletRule.exists_of_mem_parseAbp hparsed hstatement
  constructor
  · intro h
    exact h.trans List.infix_append_left
  · intro element helement h
    obtain ⟨source, hsource, hin⟩ := infix_of_infix_adgForm hmask helement h
    have hbody := hin.trans (helements source hsource)
    exact (hbody.trans List.infix_append_right).trans List.infix_append_right

end Masks

section Written

variable {statements : List ScriptletRule}

theorem stripQuotes_marked (name : Text) :
    Text.stripQuotes (Registry.abpMark ++ name) = Registry.abpMark ++ name :=
  Text.stripQuotes_of_head (by decide) _

theorem isQuotable_marked (name : Text) :
    Text.isQuotable (Registry.abpMark ++ name) = true ↔ name.getLast? ≠ some '\\' := by
  have hlast : (Registry.abpMark ++ name).getLast? = some '\\' ↔ name.getLast? = some '\\' := by
    cases name using List.reverseRecOn with
    | nil => decide
    | append_singleton name c =>
      rw [← List.append_assoc, List.getLast?_concat, List.getLast?_concat]
  rw [Text.isQuotable, stripQuotes_marked, decide_eq_true_iff, Ne, hlast]

/-- The exception mask occurs in a converted statement of the normal form as little as it
did in the rule. -/
theorem not_infix_adg_adgForm (hkind : classify registry rule = .scriptlet .abp)
    (hparsed : ScriptletRule.parseAbp rule = .ok statements) (hstatement : statement ∈ statements) :
    (∀ isException, ¬ Mask.adg isException <:+: (adgForm statement).domains) ∧
      ((adgForm statement).isException = false →
        ¬ Mask.adg true <:+: (adgForm statement).toAdg) := by
  have hnone := not_infix_adg_of_classify hkind (by simp)
  have hdomains : ∀ isException, ¬ Mask.adg isException <:+: (adgForm statement).domains := by
    intro isException hoccurs
    exact hnone isException
      ((infix_of_mem_parseAbp hparsed hstatement (Mask.isAtomic_adg isException)).1 hoccurs)
  refine ⟨hdomains, ScriptletRule.not_infix_toAdg (hdomains true) ?_⟩
  intro element helement hoccurs
  exact hnone true
    ((infix_of_mem_parseAbp hparsed hstatement (Mask.isAtomic_adg true)).2 element helement hoccurs)

theorem parseAdg_adgForm (hkind : classify registry rule = .scriptlet .abp)
    (hparsed : ScriptletRule.parseAbp rule = .ok statements) (hstatement : statement ∈ statements)
    (hquotable : ∀ arg ∈ statement.args, Text.isQuotable arg = true)
    (hname : statement.name.getLast? ≠ some '\\') :
    ScriptletRule.parseAdg (adgForm statement).toAdg =
      .ok { statement with
        name := Text.requote ("abp-".toList ++ statement.name)
        args := statement.args.map Text.requote } := by
  obtain ⟨hdomains, hnormal⟩ := not_infix_adg_adgForm hkind hparsed hstatement
  have hreadable : (adgForm statement).AdgReadable := by
    refine ⟨hdomains, hnormal, ?_, ?_⟩
    · exact List.forall_mem_cons.2 ⟨(isQuotable_marked _).2 hname, hquotable⟩
    · intro hbare
      have hempty : Registry.abpMark ++ statement.name = [] := by
        rw [Text.bare_eq_nil_iff] at hbare
        rw [← stripQuotes_marked]
        exact hbare
      exact absurd (List.append_eq_nil_iff.1 hempty).1 (by decide)
  have hbare : Text.bare = Text.requote := funext Text.bare_eq_requote
  rw [ScriptletRule.parseAdg_toAdg hreadable, hbare]
  rfl

/-- A converted statement whose name ends in a backslash is not read back. -/
theorem exists_error_parseAdg_adgForm (hkind : classify registry rule = .scriptlet .abp)
    (hparsed : ScriptletRule.parseAbp rule = .ok statements) (hstatement : statement ∈ statements)
    (hname : statement.name.getLast? = some '\\') :
    ∃ fault, ScriptletRule.parseAdg (adgForm statement).toAdg = .error fault := by
  obtain ⟨hdomains, hnormal⟩ := not_infix_adg_adgForm hkind hparsed hstatement
  apply ScriptletRule.exists_error_parseAdg_toAdg hdomains hnormal
  refine ⟨_, List.mem_cons_self, ?_⟩
  rw [← Bool.not_eq_true]
  exact fun hquotable => (isQuotable_marked _).1 hquotable hname

/-- A converted statement has no uBlock Origin mask: a snippet rule with one would have been
taken for a rule of two dialects. -/
theorem isUboScriptlet_toAdg (hkind : classify registry rule = .scriptlet .abp)
    (hparsed : ScriptletRule.parseAbp rule = .ok statements) (hstatement : statement ∈ statements) :
    Mask.isUboScriptlet (adgForm statement).toAdg = false := by
  rw [← Bool.not_eq_true, Mask.isUboScriptlet_iff]
  rintro ⟨-, isException, mask, hmask, hoccurs⟩
  have hatomic := Mask.isAtomic_of_mem_uboPlain hmask
  have hnone := not_infix_ubo_of_classify hkind (by simp) hmask
  obtain ⟨hdomains, helements⟩ := infix_of_mem_parseAbp hparsed hstatement hatomic
  cases ScriptletRule.infix_of_infix_assemble hatomic.clear hoccurs with
  | inl hbefore => exact hnone (hdomains (Mask.infix_of_infix_append_adg hmask hbefore))
  | inr hlist =>
    obtain ⟨element, helement, hin⟩ :=
      ScriptletRule.infix_of_infix_adgList hatomic.clear hatomic.ne_nil hlist
    exact hnone (helements element helement hin)

end Written

/-- A snippet rule that is converted becomes one AdGuard rule for each of its statements. It
reads as a rule for the same domains with the requoted words of the statement, unless the
name of the statement ends in a backslash; then it cannot be read at all. -/
theorem parseAdg_of_abpSnippetToAdg {outs : List Text}
    (hkind : classify registry rule = .scriptlet .abp)
    (hout : abpSnippetToAdg rule = .ok outs) :
    ∃ statements, ScriptletRule.parseAbp rule = .ok statements ∧
      List.Forall₂ (fun statement out =>
        (statement.name.getLast? ≠ some '\\' →
          ScriptletRule.parseAdg out = .ok
            { domains := statement.domains
              isException := statement.isException
              name := Text.requote ("abp-".toList ++ statement.name)
              args := statement.args.map Text.requote }) ∧
        (statement.name.getLast? = some '\\' →
          ∃ fault, ScriptletRule.parseAdg out = .error fault)) statements outs := by
  obtain ⟨statements, hparsed, hquotable, rfl⟩ :=
    (abpSnippetToAdg_eq_ok (isComment_of_classify_scriptlet hkind)).1 hout
  refine ⟨statements, hparsed, ?_⟩
  rw [List.forall₂_map_right_iff, List.forall₂_same]
  intro statement hstatement
  constructor
  · exact parseAdg_adgForm hkind hparsed hstatement (hquotable statement hstatement)
  · exact exists_error_parseAdg_adgForm hkind hparsed hstatement

/-- Quotes inside of an argument become double quotes, and the second statement is lost. -/
theorem parseAdg_of_abpSnippetToAdg_statements :
    classify .empty "example.org#$#log 'it\\'s' \"a b\"; abort\\".toList = .scriptlet .abp ∧
      abpSnippetToAdg "example.org#$#log 'it\\'s' \"a b\"; abort\\".toList =
        .ok ["example.org#%#//scriptlet('abp-log', 'it\"s', 'a b')".toList,
          "example.org#%#//scriptlet('abp-abort\\')".toList] ∧
      ScriptletRule.parseAdg "example.org#%#//scriptlet('abp-log', 'it\"s', 'a b')".toList =
        .ok ⟨"example.org".toList, false, "abp-log".toList, ["it\"s".toList, "a b".toList]⟩ ∧
      ∃ fault,
        ScriptletRule.parseAdg "example.org#%#//scriptlet('abp-abort\\')".toList =
          .error fault := by
  have hkind : classify .empty "example.org#$#log 'it\\'s' \"a b\"; abort\\".toList =
      .scriptlet .abp := rfl
  have hout : abpSnippetToAdg "example.org#$#log 'it\\'s' \"a b\"; abort\\".toList =
      .ok ["example.org#%#//scriptlet('abp-log', 'it\"s', 'a b')".toList,
        "example.org#%#//scriptlet('abp-abort\\')".toList] := by
    cbv
  have hparse : ScriptletRule.parseAbp
      "example.org#$#log 'it\\'s' \"a b\"; abort\\".toList =
        .ok [⟨"example.org".toList, false, "log".toList, ["'it\\'s'".toList, "\"a b\"".toList]⟩,
          ⟨"example.org".toList, false, "abort\\".toList, []⟩] := by
    cbv
  refine ⟨hkind, hout, ?_⟩
  obtain ⟨statements, hparsed, hrules⟩ := parseAdg_of_abpSnippetToAdg hkind hout
  rw [hparse] at hparsed
  obtain rfl := Except.ok.inj hparsed
  rw [List.forall₂_cons, List.forall₂_cons] at hrules
  obtain ⟨⟨hlog, -⟩, ⟨-, habort⟩, -⟩ := hrules
  exact ⟨hlog (by decide), habort (by decide)⟩

/-- A conversion succeeds although nothing can read the rule that it writes. -/
theorem unterminatedQuote_of_abpSnippetToAdg :
    classify .empty "example.org#$#log\\".toList = .scriptlet .abp ∧
      abpSnippetToAdg "example.org#$#log\\".toList =
        .ok ["example.org#%#//scriptlet('abp-log\\')".toList] ∧
      ScriptletRule.parseAdg "example.org#%#//scriptlet('abp-log\\')".toList =
        .error .unterminatedQuote := by
  refine ⟨rfl, ?_, rfl⟩
  cbv

end FilterDialects.FromAbp
