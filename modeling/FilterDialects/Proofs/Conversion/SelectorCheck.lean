import FilterDialects.Proofs.Conversion.FromUbo
import FilterDialects.Proofs.Engine.Memory
import FilterDialects.Proofs.Selector.Scan

/-!
# Checking selectors only rejects

An engine may check the selectors that it puts together from several arguments, or take
them as they are. The check decides about one kind of rule: a uBlock Origin rule that
spreads a selector which cannot be embedded. Such a rule is refused for its selector before
its arguments are looked at, and every other rule is converted as without the check.

Whatever asks for a conversion can therefore only lose answers by the check, and whatever
does not is answered alike.
-/

namespace FilterDialects

namespace Options

/-- Selectors that are put together are checked. -/
def strict : Options := { checkSelectors := true }

/-- Selectors that are put together are taken as they are. -/
def lenient : Options := { checkSelectors := false }

end Options

namespace FromUbo

variable {options : Options} {parsed : ScriptletRule} {rule selector : Text}

/-- A rule spreads a selector over several arguments, and it cannot be embedded. -/
structure SpreadsBadSelector (parsed : ScriptletRule) (selector : Text) : Prop where
  takes : ∃ plain, IsPlainName parsed.name plain ∧ TakesSelector plain
  spread : ∃ doubled first pieces applying,
    List.Forall₂ (Text.IsRespelling adgDollar) parsed.args doubled ∧
      IsSelectorSplit doubled first pieces applying ∧ pieces ≠ [] ∧
      selector = ", ".toList.intercalate pieces
  refused : checkSelector selector = .error (.invalidSelector selector)

/-- The text of such a rule. -/
def IsRefusedFor (rule selector : Text) : Prop :=
  Mask.isComment rule = false ∧
    ∃ parsed, ScriptletRule.parseUbo rule = .ok parsed ∧ SpreadsBadSelector parsed selector

section Arguments

/-- Arguments are refused only for a bad selector, and only where selectors are checked. -/
theorem spreadsBadSelector_of_convertArgs {fault : SyntaxError}
    (h : convertArgs options (plainName parsed.name) parsed.args = .error fault) :
    options.checkSelectors = true ∧
      ∃ selector, SpreadsBadSelector parsed selector ∧ fault = .invalidSelector selector := by
  unfold convertArgs at h
  dsimp only at h
  split at h
  · next hselector =>
    obtain ⟨htakes, hmany⟩ := Bool.and_eq_true_iff.1 hselector
    rw [List.contains_iff_mem] at htakes
    rw [decide_eq_true_iff] at hmany
    obtain ⟨first, pieces, applying, hsplit⟩ := exists_isSelectorSplit hmany
    by_cases hne : pieces = []
    · subst hne
      simp [joinSelector, hsplit.splitApplying_eq hmany] at h
    · rw [hsplit.joinSelector_eq hne] at h
      split at h
      · next hcheck =>
        obtain ⟨hchecks, hbad⟩ := Bool.and_eq_true_iff.1 hcheck
        have hrefused : ¬ Selector.isValid (", ".toList.intercalate pieces) = true := by
          simpa using hbad
        refine ⟨hchecks, _, ⟨?_, ?_, ?_⟩, (Except.error.inj h).symm⟩
        · exact ⟨_, isPlainName_plainName _, takesSelector_iff.2 htakes⟩
        · exact ⟨_, first, pieces, applying, forall₂_adgDollar_iff.2 rfl, hsplit, hne, rfl⟩
        · exact Selector.checkSelector_eq_error.2 hrefused
      · simp at h
  · simp at h

theorem convertArgs_lenient (parsed : ScriptletRule) :
    convertArgs .lenient (plainName parsed.name) parsed.args =
      .ok (adgArgs (plainName parsed.name) parsed.args) := by
  cases hargs : convertArgs .lenient (plainName parsed.name) parsed.args with
  | error fault => exact absurd (spreadsBadSelector_of_convertArgs hargs).1 Bool.false_ne_true
  | ok args => rw [eq_of_convertArgs hargs]

/-- Without a bad selector the check has nothing to find. -/
theorem convertArgs_of_forall_not (h : ∀ selector, ¬ SpreadsBadSelector parsed selector)
    (options : Options) :
    convertArgs options (plainName parsed.name) parsed.args =
      .ok (adgArgs (plainName parsed.name) parsed.args) := by
  cases hargs : convertArgs options (plainName parsed.name) parsed.args with
  | error fault =>
    obtain ⟨-, selector, hbad, -⟩ := spreadsBadSelector_of_convertArgs hargs
    exact absurd hbad (h selector)
  | ok args => rw [eq_of_convertArgs hargs]

namespace SpreadsBadSelector

theorem convertArgs_strict (h : SpreadsBadSelector parsed selector) :
    convertArgs .strict (plainName parsed.name) parsed.args =
      .error (.invalidSelector selector) := by
  obtain ⟨⟨plain, hplain, htakes⟩, ⟨doubled, first, pieces, applying, hdoubled, hsplit, hne, rfl⟩,
    hrefused⟩ := h
  obtain rfl := isPlainName_iff.1 hplain
  obtain rfl := forall₂_adgDollar_iff.1 hdoubled
  have hselector : (selectorScriptlets.contains (plainName parsed.name) &&
      decide (1 < (parsed.args.map doubleDollar).length)) = true := by
    rw [Bool.and_eq_true, List.contains_iff_mem, decide_eq_true_iff]
    exact ⟨takesSelector_iff.1 htakes, hsplit.one_lt_length hne⟩
  have hbad := Selector.checkSelector_eq_error.1 hrefused
  rw [convertArgs, if_pos hselector, hsplit.joinSelector_eq hne, if_pos]
  simpa [Options.strict] using hbad

theorem name_ne_nil (h : SpreadsBadSelector parsed selector) : parsed.name ≠ [] := by
  intro hname
  obtain ⟨plain, hplain, htakes⟩ := h.takes
  obtain rfl := isPlainName_iff.1 hplain
  rw [hname] at htakes
  exact absurd htakes (by decide)

end SpreadsBadSelector

end Arguments

section Rules

/-- A rule with a name is converted when its arguments are and can all be quoted. -/
theorem convertRule_of_name (hname : parsed.name ≠ []) (options : Options) :
    convertRule options parsed =
      (convertArgs options (plainName parsed.name) parsed.args).bind fun args =>
        (checkAllQuotable args).map fun _ =>
          { parsed with
            name := Registry.uboMark ++ plainName parsed.name ++ ".js".toList, args := args } := by
  rw [convertRule, if_neg hname]
  dsimp only
  cases convertArgs options (plainName parsed.name) parsed.args <;> rfl

theorem convertRule_eq_of_forall_not (h : ∀ selector, ¬ SpreadsBadSelector parsed selector) :
    convertRule .strict parsed = convertRule .lenient parsed := by
  by_cases hname : parsed.name = []
  · rw [convertRule, convertRule, if_pos hname, if_pos hname]
  · rw [convertRule_of_name hname, convertRule_of_name hname, convertArgs_of_forall_not h,
      convertArgs_lenient]

/-- A rule of which no selector is refused is converted alike. -/
theorem uboScriptletToAdg_eq_of_forall_not (h : ∀ selector, ¬ IsRefusedFor rule selector) :
    uboScriptletToAdg .strict rule = uboScriptletToAdg .lenient rule := by
  unfold uboScriptletToAdg
  cases hcomment : Mask.isComment rule with
  | true => rfl
  | false =>
    cases hparsed : ScriptletRule.parseUbo rule with
    | error fault => rfl
    | ok parsed =>
      have hnone : ∀ selector, ¬ SpreadsBadSelector parsed selector :=
        fun selector hbad => h selector ⟨hcomment, parsed, hparsed, hbad⟩
      simp only [Except.bind, convertRule_eq_of_forall_not hnone]

namespace IsRefusedFor

/-- The check refuses the selector before the arguments are looked at. -/
theorem uboScriptletToAdg_strict (h : IsRefusedFor rule selector) :
    uboScriptletToAdg .strict rule = .error (.malformed (.invalidSelector selector)) := by
  obtain ⟨hcomment, parsed, hparsed, hbad⟩ := h
  rw [uboScriptletToAdg, if_neg (by simp [hcomment]), hparsed, Except.bind,
    convertRule_of_name hbad.name_ne_nil, hbad.convertArgs_strict]
  rfl

/-- Without the check only an argument that cannot be quoted is a fault. -/
theorem uboScriptletToAdg_lenient (h : IsRefusedFor rule selector) :
    (∃ out, uboScriptletToAdg .lenient rule = .ok out) ∨
      ∃ argument,
        uboScriptletToAdg .lenient rule = .error (.malformed (.trailingBackslash argument)) := by
  obtain ⟨hcomment, parsed, hparsed, hbad⟩ := h
  rw [uboScriptletToAdg, if_neg (by simp [hcomment]), hparsed, Except.bind,
    convertRule_of_name hbad.name_ne_nil, convertArgs_lenient, Except.bind]
  cases hquotable : checkAllQuotable (adgArgs (plainName parsed.name) parsed.args) with
  | ok => exact .inl ⟨_, rfl⟩
  | error fault =>
    obtain ⟨argument, -, rfl⟩ := checkAllQuotable_eq_error.1 hquotable
    exact .inr ⟨argument, rfl⟩

end IsRefusedFor

/-- The check makes a difference exactly to the rules that it refuses. -/
theorem uboScriptletToAdg_ne_iff :
    uboScriptletToAdg .strict rule ≠ uboScriptletToAdg .lenient rule ↔
      ∃ selector, IsRefusedFor rule selector := by
  constructor
  · intro hne
    by_contra hnone
    exact hne (uboScriptletToAdg_eq_of_forall_not (not_exists.1 hnone))
  · rintro ⟨selector, hrefused⟩
    rw [hrefused.uboScriptletToAdg_strict]
    rcases hrefused.uboScriptletToAdg_lenient with ⟨out, hout⟩ | ⟨argument, hargument⟩
    · simp [hout]
    · simp [hargument]

theorem uboScriptletToAdg_lenient_of_strict {out : Text}
    (h : uboScriptletToAdg .strict rule = .ok out) : uboScriptletToAdg .lenient rule = .ok out := by
  rw [← uboScriptletToAdg_eq_of_forall_not, h]
  intro selector hrefused
  rw [hrefused.uboScriptletToAdg_strict] at h
  contradiction

end Rules

end FromUbo

namespace Registry

variable {registry : Registry} {rule : Text}

theorem scriptletToAdg_lenient_of_strict {outs : List Text}
    (h : registry.scriptletToAdg .strict rule = .ok outs) :
    registry.scriptletToAdg .lenient rule = .ok outs := by
  unfold scriptletToAdg at h ⊢
  split at h
  · simp at h
  · obtain ⟨out, hout, rfl⟩ := Outcome.map_eq_ok.1 h
    exact Outcome.map_eq_ok.2 ⟨out, FromUbo.uboScriptletToAdg_lenient_of_strict hout, rfl⟩
  all_goals exact h

theorem isValidScriptletRule_lenient_of_strict
    (h : registry.isValidScriptletRule .strict rule = true) :
    registry.isValidScriptletRule .lenient rule = true := by
  unfold isValidScriptletRule at h ⊢
  split at h
  · split at h
    · simp at h
    · next outs houts => rwa [scriptletToAdg_lenient_of_strict houts]
  all_goals simp at h

end Registry

namespace Operation

/-- Whether the check can make a difference to the answer to an operation: it converts a
scriptlet rule of any dialect, or counts the names that were checked on the way. -/
def dependsOnCheck : Operation → Bool
  | .uboScriptletToAdg _ | .scriptletToAdg _ | .isValidScriptletRule _ | .predicates _
  | .checkedCount => true
  | _ => false

theorem ofConversion_eq_ok {α : Type} {answer : α → Answer} {outcome : Except ConversionError α}
    {given : Answer} :
    ofConversion answer outcome = .ok given ↔ ∃ a, outcome = .ok a ∧ answer a = given := by
  cases outcome <;> simp [ofConversion]

end Operation

namespace Engine

variable {options options' : Options} {table : Table}

namespace Serves

variable {session other checked unchecked : Session} {operation : Operation} {rule : Text}
variable {answer : Answer}

theorem perform_fst (h : session.engine.Serves options table)
    {reply : Reply (Except Failure Answer)}
    (hreply : operation.reply? options session.engine.registry = some reply) :
    (operation.perform session).1 = reply.answer := by
  rw [← h.options_eq] at hreply
  rw [Operation.perform_of_reply? h.sound hreply]

theorem answer_eq_of_not_dependsOnCheck (h : session.engine.Serves options table)
    (hother : other.engine.Serves options' table) (hoperation : operation.dependsOnCheck = false) :
    (operation.perform session).1 = (operation.perform other).1 := by
  have hsame : (operation.reply? options session.engine.registry).map Reply.answer =
      (operation.reply? options' other.engine.registry).map Reply.answer := by
    rw [h.registry_eq hother]
    cases operation <;> first | rfl | simp [Operation.dependsOnCheck] at hoperation
  rcases operation.reply?_cases options session.engine.registry with
    ⟨reply, hreply⟩ | rfl | ⟨next, rfl⟩ | ⟨text, rfl⟩
  · rw [hreply, Option.map_some] at hsame
    obtain ⟨reply', hreply', hanswer⟩ := Option.map_eq_some_iff.1 hsame.symm
    rw [h.perform_fst hreply, hother.perform_fst hreply', hanswer]
  · simp [Operation.dependsOnCheck] at hoperation
  · exact Operation.answer_replaceTable next session other
  · exact Operation.answer_reload text session other

theorem uboScriptletToAdg_lenient_of_strict (h : checked.engine.Serves .strict table)
    (hother : unchecked.engine.Serves .lenient table)
    (hanswer : ((Operation.uboScriptletToAdg rule).perform checked).1 = .ok answer) :
    ((Operation.uboScriptletToAdg rule).perform unchecked).1 = .ok answer := by
  rw [h.perform_fst rfl, Operation.ofConversion_eq_ok] at hanswer
  rw [hother.perform_fst rfl, Operation.ofConversion_eq_ok]
  obtain ⟨out, hout, rfl⟩ := hanswer
  exact ⟨out, FromUbo.uboScriptletToAdg_lenient_of_strict hout, rfl⟩

theorem scriptletToAdg_lenient_of_strict (h : checked.engine.Serves .strict table)
    (hother : unchecked.engine.Serves .lenient table)
    (hanswer : ((Operation.scriptletToAdg rule).perform checked).1 = .ok answer) :
    ((Operation.scriptletToAdg rule).perform unchecked).1 = .ok answer := by
  rw [h.perform_fst rfl, Operation.ofConversion_eq_ok] at hanswer
  rw [hother.perform_fst rfl, Operation.ofConversion_eq_ok, ← h.registry_eq hother]
  obtain ⟨outs, houts, rfl⟩ := hanswer
  exact ⟨outs, Registry.scriptletToAdg_lenient_of_strict houts, rfl⟩

theorem isValidScriptletRule_lenient_of_strict (h : checked.engine.Serves .strict table)
    (hother : unchecked.engine.Serves .lenient table)
    (hanswer : ((Operation.isValidScriptletRule rule).perform checked).1 = .ok (.verdict true)) :
    ((Operation.isValidScriptletRule rule).perform unchecked).1 = .ok (.verdict true) := by
  rw [h.perform_fst rfl] at hanswer
  rw [hother.perform_fst rfl, ← h.registry_eq hother]
  have hvalid : checked.engine.registry.isValidScriptletRule .strict rule = true := by
    simpa using hanswer
  rw [Registry.isValidScriptletRule_lenient_of_strict hvalid]

end Serves

/-- A uBlock Origin rule is converted differently exactly when it spreads a selector that is
refused, and then the check refuses it even where one of its arguments would be. Take an engine
that checks selectors and one that does not, built from one table and after the same
operations: a conversion that succeeds with the check gives the same without it, a rule that is
valid with it is valid without it, and what converts no scriptlet rule to AdGuard is answered
alike. -/
theorem check_only_rejects {strict lenient : Engine}
    (hstrict : (ofTable .strict table).2 = .ok strict)
    (hlenient : (ofTable .lenient table).2 = .ok lenient) (operations : List Operation)
    (events : List Event) :
    let checked := (Operation.performAll operations ⟨strict, events⟩).2
    let unchecked := (Operation.performAll operations ⟨lenient, events⟩).2
    (∀ rule, uboScriptletToAdg .strict rule ≠ uboScriptletToAdg .lenient rule ↔
      ∃ selector, FromUbo.IsRefusedFor rule selector) ∧
    (∀ rule selector, FromUbo.IsRefusedFor rule selector →
      uboScriptletToAdg .strict rule = .error (.malformed (.invalidSelector selector)) ∧
        ((∃ out, uboScriptletToAdg .lenient rule = .ok out) ∨
          ∃ argument,
            uboScriptletToAdg .lenient rule = .error (.malformed (.trailingBackslash argument)))) ∧
    (∀ rule answer, ((Operation.uboScriptletToAdg rule).perform checked).1 = .ok answer →
      ((Operation.uboScriptletToAdg rule).perform unchecked).1 = .ok answer) ∧
    (∀ rule answer, ((Operation.scriptletToAdg rule).perform checked).1 = .ok answer →
      ((Operation.scriptletToAdg rule).perform unchecked).1 = .ok answer) ∧
    (∀ rule, ((Operation.isValidScriptletRule rule).perform checked).1 = .ok (.verdict true) →
      ((Operation.isValidScriptletRule rule).perform unchecked).1 = .ok (.verdict true)) ∧
    (∀ operation : Operation, operation.dependsOnCheck = false →
      (operation.perform checked).1 = (operation.perform unchecked).1) := by
  intro checked unchecked
  have hstart : (Session.mk strict events).engine.Serves .strict table := .of_ofTable hstrict
  have hstart' : (Session.mk lenient events).engine.Serves .lenient table := .of_ofTable hlenient
  have hchecked := hstart.performAll operations
  have hunchecked := hstart'.performAll operations
  refine ⟨fun rule => FromUbo.uboScriptletToAdg_ne_iff, ?_, ?_, ?_, ?_, ?_⟩
  · intro rule selector hrefused
    exact ⟨hrefused.uboScriptletToAdg_strict, hrefused.uboScriptletToAdg_lenient⟩
  · intro rule answer
    exact hchecked.uboScriptletToAdg_lenient_of_strict hunchecked
  · intro rule answer
    exact hchecked.scriptletToAdg_lenient_of_strict hunchecked
  · intro rule
    exact hchecked.isValidScriptletRule_lenient_of_strict hunchecked
  · intro operation
    exact hchecked.answer_eq_of_not_dependsOnCheck hunchecked

/-- A semicolon in a selector is refused, also where the selector could not be quoted either. -/
theorem check_only_rejects_semicolon :
    ∃ strict lenient, (ofTable .strict ⟨[], []⟩).2 = .ok strict ∧
      (ofTable .lenient ⟨[], []⟩).2 = .ok lenient ∧
      uboScriptletToAdg .strict "a.org##+js(ra, on, .a, b;, asap)".toList ≠
        uboScriptletToAdg .lenient "a.org##+js(ra, on, .a, b;, asap)".toList ∧
      uboScriptletToAdg .lenient "a.org##+js(ra, on, .a, b;, asap)".toList =
        .ok "a.org#%#//scriptlet('ubo-ra.js', 'on', '.a, b;', 'asap')".toList ∧
      uboScriptletToAdg .strict "a.org##+js(ra, on, .a, b;\\)".toList =
        .error (.malformed (.invalidSelector ".a, b;\\".toList)) ∧
      uboScriptletToAdg .lenient "a.org##+js(ra, on, .a, b;\\)".toList =
        .error (.malformed (.trailingBackslash ".a, b;\\".toList)) := by
  have hstrict : (ofTable .strict ⟨[], []⟩).2 = .ok (new .strict Registry.empty) := rfl
  have hlenient : (ofTable .lenient ⟨[], []⟩).2 = .ok (new .lenient Registry.empty) := rfl
  obtain ⟨hdiffers, hrefused, -⟩ := check_only_rejects hstrict hlenient [] []
  have hra : FromUbo.IsPlainName "ra".toList "ra".toList := FromUbo.isPlainName_iff.2 (by decide)
  have hsemicolon : FromUbo.IsRefusedFor "a.org##+js(ra, on, .a, b;, asap)".toList
      ".a, b;".toList := by
    have hsplit : FromUbo.IsSelectorSplit
        ["on".toList, ".a".toList, "b;".toList, "asap".toList]
        "on".toList [".a".toList, "b;".toList] (some "asap".toList) := by
      refine ⟨rfl, ?_, by simp⟩
      rintro word ⟨⟩
      decide
    refine ⟨by decide, ⟨"a.org".toList, false, "ra".toList,
      ["on".toList, ".a".toList, "b;".toList, "asap".toList]⟩, rfl,
      ⟨_, hra, by decide⟩, ⟨_, _, _, _, FromUbo.forall₂_adgDollar_iff.2 rfl, hsplit, by simp, rfl⟩,
      Selector.checkSelector_eq_error.2 (by decide +kernel)⟩
  have hbackslash : FromUbo.IsRefusedFor "a.org##+js(ra, on, .a, b;\\)".toList
      ".a, b;\\".toList := by
    have hsplit : FromUbo.IsSelectorSplit ["on".toList, ".a".toList, "b;\\".toList]
        "on".toList [".a".toList, "b;\\".toList] none := by
      refine ⟨rfl, by simp, ?_⟩
      rintro - piece ⟨⟩
      decide
    refine ⟨by decide, ⟨"a.org".toList, false, "ra".toList,
      ["on".toList, ".a".toList, "b;\\".toList]⟩, rfl,
      ⟨_, hra, by decide⟩, ⟨_, _, _, _, FromUbo.forall₂_adgDollar_iff.2 rfl, hsplit, by simp, rfl⟩,
      Selector.checkSelector_eq_error.2 (by decide +kernel)⟩
  exact ⟨_, _, hstrict, hlenient, (hdiffers _).2 ⟨_, hsemicolon⟩, rfl,
    (hrefused _ _ hbackslash).1, rfl⟩

end Engine

end FilterDialects
