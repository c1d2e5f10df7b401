import FilterDialects.Conversion.FromUbo
import FilterDialects.Conversion.ToUbo
import FilterDialects.Proofs.Registry.Entry
import FilterDialects.Proofs.Text.Quote
import FilterDialects.Proofs.Text.Spelling

/-!
# What the dialects spell differently

The names and arguments of a scriptlet are not the same in AdGuard and in uBlock Origin. The
differences are listed here without reference to the conversions: names lose their quotes and
their extension, a lone `$` is doubled in AdGuard, a selector is one argument there, and two
scriptlets spell some of their values differently. Each list leaves no choice, and what it
leaves is what the conversions compute.
-/

namespace FilterDialects

open Text (IsRespelling IsUnquoted)

namespace FromUbo

/-- A name without the quotes around it, and without `.js` if it ends so. -/
inductive IsPlainName : Text → Text → Prop
  | extended {name plain : Text} (h : IsUnquoted name (plain ++ ".js".toList)) :
      IsPlainName name plain
  | bare {name plain : Text} (h : IsUnquoted name plain) (hjs : ¬ ".js".toList <:+ plain) :
      IsPlainName name plain

/-- A lone `$` is written twice in AdGuard. -/
def adgDollar : List (Text × Text) :=
  [("$".toList, "$$".toList)]

/-- The second argument of these is a selector. -/
def TakesSelector (plain : Text) : Prop :=
  plain ∈ ["remove-attr".toList, "ra".toList, "remove-class".toList, "rc".toList]

instance : DecidablePred TakesSelector := fun _ => inferInstanceAs (Decidable (_ ∈ _))

/-- An argument consists of words that say when a scriptlet applies. -/
def SaysWhen (arg : Text) : Prop :=
  Text.words arg ≠ [] ∧
    ∀ word ∈ Text.words arg, word ∈ ["asap".toList, "stay".toList, "complete".toList]

instance : DecidablePred SaysWhen := fun _ => inferInstanceAs (Decidable (_ ∧ _))

/-- The arguments of a scriptlet that takes a selector: behind the first one the pieces of the
selector, and last, if it is said, when the scriptlet applies. -/
structure IsSelectorSplit (args : List Text) (first : Text) (pieces : List Text)
    (applying : Option Text) : Prop where
  args_eq : args = first :: (pieces ++ applying.toList)
  applies : ∀ word ∈ applying, SaysWhen word
  last : applying = none → ∀ piece ∈ pieces.getLast?, ¬ SaysWhen piece

/-- The pieces of the selector are joined, where there are any. -/
inductive IsGlued : List Text → List Text → Prop
  | selector {args pieces : List Text} {first : Text} {applying : Option Text}
      (h : IsSelectorSplit args first pieces applying) (hne : pieces ≠ []) :
      IsGlued args (first :: ", ".toList.intercalate pieces :: applying.toList)
  | whole {args : List Text} {first : Text} {applying : Option Text}
      (h : IsSelectorSplit args first [] applying) : IsGlued args args

/-- The arguments that AdGuard takes for those of a scriptlet with a plain name. -/
inductive IsAdgArgs (plain : Text) (args : List Text) : List Text → Prop
  | glued {doubled glued : List Text} (htakes : TakesSelector plain) (hmany : 1 < args.length)
      (hdoubled : List.Forall₂ (IsRespelling adgDollar) args doubled)
      (hglued : IsGlued doubled glued) : IsAdgArgs plain args glued
  | apart {doubled : List Text} (h : TakesSelector plain → args.length ≤ 1)
      (hdoubled : List.Forall₂ (IsRespelling adgDollar) args doubled) :
      IsAdgArgs plain args doubled

section Names

variable {name plain : Text}

theorem isPlainName_plainName (name : Text) : IsPlainName name (plainName name) := by
  have hunquoted := Text.isUnquoted_stripQuotes name
  rw [plainName]
  by_cases hjs : ".js".toList <:+ Text.stripQuotes name
  · obtain ⟨stem, hstem⟩ := hjs
    rw [← hstem] at hunquoted ⊢
    rw [dropJs_append]
    exact .extended hunquoted
  · rw [dropJs_of_not_suffix hjs]
    exact .bare hunquoted hjs

theorem isPlainName_iff : IsPlainName name plain ↔ plainName name = plain := by
  constructor
  · intro h
    cases h with
    | extended h => rw [plainName, Text.isUnquoted_iff.1 h, dropJs_append]
    | bare h hjs => rw [plainName, Text.isUnquoted_iff.1 h, dropJs_of_not_suffix hjs]
  · rintro rfl
    exact isPlainName_plainName name

theorem takesSelector_iff : TakesSelector plain ↔ plain ∈ selectorScriptlets := Iff.rfl

end Names

section Dollars

theorem isRespelling_doubleDollar (arg : Text) : IsRespelling adgDollar arg (doubleDollar arg) := by
  unfold doubleDollar
  split
  · next harg =>
    rw [harg]
    exact .listed (by decide)
  · next harg => exact .kept (by simpa [adgDollar] using harg)

theorem forall₂_adgDollar_iff {args doubled : List Text} :
    List.Forall₂ (IsRespelling adgDollar) args doubled ↔ args.map doubleDollar = doubled :=
  Text.forall₂_isRespelling_iff (by decide) isRespelling_doubleDollar

end Dollars

section Selectors

variable {args pieces : List Text} {first arg : Text} {applying : Option Text}

theorem saysWhen_iff : SaysWhen arg ↔ isApplying arg = true := by
  simp [SaysWhen, isApplying, applyingWords]

/-- Several arguments can be split, since only the last one says when a scriptlet applies. -/
theorem exists_isSelectorSplit (hmany : 1 < args.length) :
    ∃ first pieces applying, IsSelectorSplit args first pieces applying := by
  match args, hmany with
  | first :: second :: others, _ =>
    have hlast := List.getLast?_eq_some_getLast (List.cons_ne_nil second others)
    generalize (second :: others).getLast _ = last at hlast
    by_cases hwhen : SaysWhen last
    · refine ⟨first, (second :: others).dropLast, some last, ?_, ?_, by simp⟩
      · rw [Option.toList_some, List.dropLast_append_getLast? last hlast]
      · rintro word ⟨⟩
        exact hwhen
    · refine ⟨first, second :: others, none, by simp, by simp, ?_⟩
      rw [hlast]
      rintro - piece ⟨⟩
      exact hwhen

theorem IsSelectorSplit.one_lt_length (h : IsSelectorSplit args first pieces applying)
    (hne : pieces ≠ []) : 1 < args.length := by
  rw [h.args_eq, List.length_cons, List.length_append]
  exact Nat.succ_lt_succ (Nat.add_pos_left (List.length_pos_iff.2 hne) _)

/-- The arguments are split as the last one says. -/
theorem IsSelectorSplit.splitApplying_eq (h : IsSelectorSplit args first pieces applying)
    (hmany : 1 < args.length) : splitApplying args = (first :: pieces, applying.toList) := by
  obtain ⟨rfl, happlies, hlast⟩ := h
  cases applying with
  | some word =>
    have hword := saysWhen_iff.1 (happlies word rfl)
    rw [Option.toList_some, ← List.cons_append, splitApplying, List.getLast?_concat]
    simp only [hword, if_true, List.dropLast_concat]
  | none =>
    have hne : pieces ≠ [] := by
      rintro rfl
      simp at hmany
    have hpiece := hlast rfl _ (List.getLast?_eq_some_getLast hne)
    rw [saysWhen_iff] at hpiece
    simp [splitApplying, List.getLast?_cons, List.getLast?_eq_some_getLast hne, hpiece]

end Selectors

end FromUbo

namespace ToUbo

/-- Values of a constant that are written differently. -/
def constantSpellings : List (Text × Text) :=
  [([], "''".toList), ("emptyArr".toList, "[]".toList), ("emptyObj".toList, "\x7b\x7d".toList)]

/-- Patterns that stand for all fetches. -/
def fetchSpellings : List (Text × Text) :=
  [("*".toList, "/^/".toList), ([], "/^/".toList), ("''".toList, "/^/".toList)]

/-- A doubled `$` is written once in uBlock Origin. -/
def uboDollar : List (Text × Text) :=
  [("$$".toList, "$".toList)]

/-- The second argument of `set-constant` and the first one of `prevent-fetch` are respelled,
and nothing else. -/
inductive SpellsValues : Text → List Text → List Text → Prop
  | constant {first old new : Text} {others : List Text}
      (h : IsRespelling constantSpellings old new) :
      SpellsValues "set-constant".toList (first :: old :: others) (first :: new :: others)
  | fetch {old new : Text} {others : List Text} (h : IsRespelling fetchSpellings old new) :
      SpellsValues "prevent-fetch".toList (old :: others) (new :: others)
  | same {scriptlet : Text} {args : List Text}
      (hconstant : scriptlet = "set-constant".toList → args.length ≤ 1)
      (hfetch : scriptlet = "prevent-fetch".toList → args = []) :
      SpellsValues scriptlet args args

/-- The arguments that uBlock Origin takes for those of an AdGuard rule: only a rule that is
named by an alias has a doubled `$`. -/
inductive IsUboArgs (scriptlet name : Text) (args : List Text) : List Text → Prop
  | marked {spelled singled : List Text} (hmark : "ubo-".toList <+: name)
      (hspelled : SpellsValues scriptlet args spelled)
      (hsingled : List.Forall₂ (IsRespelling uboDollar) spelled singled) :
      IsUboArgs scriptlet name args singled
  | unmarked {spelled : List Text} (hmark : ¬ "ubo-".toList <+: name)
      (hspelled : SpellsValues scriptlet args spelled) : IsUboArgs scriptlet name args spelled

section Values

variable {scriptlet : Text} {args spelled : List Text}

theorem isRespelling_constantValue (value : Text) :
    IsRespelling constantSpellings value (constantValue value) := by
  unfold constantValue
  split
  · next hvalue => exact hvalue ▸ .listed (by decide)
  · next hnil =>
    split
    · next hvalue => exact hvalue ▸ .listed (by decide)
    · next harray =>
      split
      · next hvalue => exact hvalue ▸ .listed (by decide)
      · next hobject =>
        exact .kept (by simpa [constantSpellings, hnil] using ⟨harray, hobject⟩)

theorem isRespelling_fetchPattern (pattern : Text) :
    IsRespelling fetchSpellings pattern (fetchPattern pattern) := by
  unfold fetchPattern
  split
  · next hpattern => rcases hpattern with rfl | rfl | rfl <;> exact .listed (by decide)
  · next hpattern => exact .kept (by simpa [fetchSpellings] using hpattern)

theorem isRespelling_singleDollar (arg : Text) :
    IsRespelling uboDollar arg (singleDollar arg) := by
  unfold singleDollar
  split
  · next harg =>
    rw [harg]
    exact .listed (by decide)
  · next harg => exact .kept (by simpa [uboDollar] using harg)

theorem forall₂_uboDollar_iff {singled : List Text} :
    List.Forall₂ (IsRespelling uboDollar) args singled ↔ args.map singleDollar = singled :=
  Text.forall₂_isRespelling_iff (by decide) isRespelling_singleDollar

theorem spellsValues_spellArgs (scriptlet : Text) (args : List Text) :
    SpellsValues scriptlet args (spellArgs scriptlet args) := by
  unfold spellArgs
  split
  · next hconstant =>
    subst hconstant
    match args with
    | [] | [_] => exact .same (by simp) (by simp)
    | first :: value :: others => exact .constant (isRespelling_constantValue value)
  · next hconstant =>
    split
    · next hfetch =>
      subst hfetch
      match args with
      | [] => exact .same (by simp) (by simp)
      | pattern :: others => exact .fetch (isRespelling_fetchPattern pattern)
    · next hfetch =>
      exact .same (fun heq => absurd heq hconstant) (fun heq => absurd heq hfetch)

theorem spellsValues_iff :
    SpellsValues scriptlet args spelled ↔ spellArgs scriptlet args = spelled := by
  constructor
  · intro h
    cases h with
    | constant h =>
      rw [← (Text.isRespelling_iff (by decide) isRespelling_constantValue).1 h]
      rfl
    | fetch h =>
      rw [← (Text.isRespelling_iff (by decide) isRespelling_fetchPattern).1 h]
      rfl
    | same hconstant hfetch =>
      unfold spellArgs
      split
      · next heq =>
        match args, hconstant heq with
        | [], _ | [_], _ => rfl
      · split
        · next heq => rw [hfetch heq, List.modifyHead_nil]
        · rfl
  · rintro rfl
    exact spellsValues_spellArgs scriptlet args

end Values

end ToUbo

end FilterDialects
