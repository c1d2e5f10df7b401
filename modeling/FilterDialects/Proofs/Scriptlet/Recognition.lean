import FilterDialects.Proofs.Classify
import FilterDialects.Proofs.Scriptlet.Leftmost

/-!
# How a uBlock Origin rule is recognized

A rule is read around its leftmost mask, and blanks may stand inside of that mask. A rule is
recognized only when one of the plain masks occurs, which have no blanks. So the test for a
plain mask decides more than it was made for: a rule all of whose masks are spaced can be
read, yet it is no scriptlet rule.
-/

namespace FilterDialects.Mask

variable {rule mask : Text} {isException : Bool}

/-- Every uBlock Origin mask in a rule has blanks inside. -/
def IsSpaced (rule : Text) : Prop :=
  ∀ isException mask, IsMaskOf .ubo isException mask → mask <:+: rule →
    ∃ c ∈ mask, Text.isBlank c = true

theorem isMaskOf_of_mem_uboPlain (h : mask ∈ uboPlain isException) :
    IsMaskOf .ubo isException mask := by
  rcases mem_uboPlain.1 h with rfl | rfl
  · exact ⟨_, isUboWord_js, ubo_eq_opening isException⟩
  · exact ⟨_, .inl rfl, uboInject_eq_opening isException⟩

theorem mem_uboPlain_iff :
    mask ∈ uboPlain isException ↔
      IsMaskOf .ubo isException mask ∧ ∀ c ∈ mask, Text.isBlank c = false := by
  constructor
  · intro hplain
    have hall : ∀ mask ∈ uboPlain isException, mask.any Text.isBlank = false := by
      cases isException <;> decide
    refine ⟨isMaskOf_of_mem_uboPlain hplain, fun c hc => ?_⟩
    rw [← Bool.not_eq_true]
    exact List.any_eq_false.1 (hall mask hplain) c hc
  · rintro ⟨⟨word, hword, rfl⟩, hblank⟩
    rcases hword with rfl | ⟨blanks, hblanks, rfl⟩
    · cases isException <;> decide
    · have hnil : blanks = [] := by
        refine List.eq_nil_iff_forall_not_mem.2 fun c hc => ?_
        have hfalse := hblank c (by simp [hc])
        rw [hblanks c hc] at hfalse
        contradiction
      subst hnil
      cases isException <;> decide

theorem not_isSpaced_of_mem_uboPlain (hplain : mask ∈ uboPlain isException)
    (hoccurs : mask <:+: rule) : ¬ IsSpaced rule := by
  obtain ⟨hmask, hblank⟩ := mem_uboPlain_iff.1 hplain
  intro hspaced
  obtain ⟨c, hc, hyes⟩ := hspaced isException mask hmask hoccurs
  rw [hblank c hc] at hyes
  contradiction

/-- A rule is recognized when it is cut and not all of its masks are spaced. -/
theorem isUboScriptlet_iff_not_isSpaced (hcomment : isComment rule = false) :
    isUboScriptlet rule = true ↔ (cutUbo? rule).isSome = true ∧ ¬ IsSpaced rule := by
  rw [isUboScriptlet_iff, isSome_cutUbo?_iff]
  constructor
  · rintro ⟨-, isException, mask, hplain, hoccurs⟩
    exact ⟨⟨isException, mask, isMaskOf_of_mem_uboPlain hplain, hoccurs⟩,
      not_isSpaced_of_mem_uboPlain hplain hoccurs⟩
  · rintro ⟨-, hspaced⟩
    simp only [IsSpaced, not_forall, not_exists, not_and, Bool.not_eq_true] at hspaced
    obtain ⟨isException, mask, hmask, hoccurs, hblank⟩ := hspaced
    exact ⟨hcomment, isException, mask, mem_uboPlain_iff.2 ⟨hmask, hblank⟩, hoccurs⟩

theorem isSome_cutUbo?_of_parseUbo {parsed : ScriptletRule}
    (h : ScriptletRule.parseUbo rule = .ok parsed) : (cutUbo? rule).isSome = true := by
  obtain ⟨cut, list, hcut, -⟩ := ScriptletRule.parseUbo_eq_ok.1 h
  rw [hcut, Option.isSome_some]

/-- A rule is cut exactly when it has a uBlock Origin mask, in any spelling. It is recognized
when, in addition, one of its masks has no blanks, and with this proviso every rule that can
be read is recognized. A rule whose masks are all spaced is never classified as a uBlock Origin
rule. -/
theorem isUboScriptlet_iff_of_cutUbo? (hcomment : isComment rule = false) :
    ((cutUbo? rule).isSome = true ↔
      ∃ isException mask, IsMaskOf .ubo isException mask ∧ mask <:+: rule) ∧
    (isUboScriptlet rule = true ↔ (cutUbo? rule).isSome = true ∧ ¬ IsSpaced rule) ∧
    (∀ parsed, ScriptletRule.parseUbo rule = .ok parsed →
      (isUboScriptlet rule = true ↔ ¬ IsSpaced rule)) ∧
    (IsSpaced rule → ∀ registry, classify registry rule ≠ .scriptlet .ubo) := by
  have hrecognized := isUboScriptlet_iff_not_isSpaced hcomment
  refine ⟨isSome_cutUbo?_iff, hrecognized, ?_, ?_⟩
  · intro parsed hparsed
    rw [hrecognized, and_iff_right (isSome_cutUbo?_of_parseUbo hparsed)]
  · intro hspaced registry hkind
    have hubo : isUboScriptlet rule = true := (classify_eq_scriptlet_iff.1 hkind .ubo).2 rfl
    exact (hrecognized.1 hubo).2 hspaced

/-- A plain mask among the arguments is enough for a rule to be recognized that is read around
a spaced one. -/
theorem isUboScriptlet_iff_of_cutUbo?_nested :
    isComment "a.org## +js(log, ##+js)".toList = false ∧
      ¬ IsSpaced "a.org## +js(log, ##+js)".toList ∧
      isUboScriptlet "a.org## +js(log, ##+js)".toList = true := by
  have hmask : "##+js".toList ∈ uboPlain false := by decide
  have hplain : ¬ IsSpaced "a.org## +js(log, ##+js)".toList :=
    not_isSpaced_of_mem_uboPlain hmask ⟨"a.org## +js(log, ".toList, ")".toList, rfl⟩
  refine ⟨rfl, hplain, ?_⟩
  exact ((isUboScriptlet_iff_of_cutUbo? (by decide)).2.2.1 _ rfl).2 hplain

/-- A rule with a blank in its only mask is read, and yet not recognized. -/
theorem not_isUboScriptlet_of_parseUbo :
    isComment "example.org## +js(log)".toList = false ∧
      (cutUbo? "example.org## +js(log)".toList).isSome = true ∧
      ScriptletRule.parseUbo "example.org## +js(log)".toList =
        .ok ⟨"example.org".toList, false, "log".toList, []⟩ ∧
      isUboScriptlet "example.org## +js(log)".toList = false ∧
      ∀ registry, classify registry "example.org## +js(log)".toList = .other :=
  ⟨rfl, rfl, rfl, rfl, fun _ => rfl⟩

end FilterDialects.Mask
