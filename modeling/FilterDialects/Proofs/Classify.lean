import FilterDialects.Classify
import FilterDialects.Proofs.Scriptlet.Elements

/-!
# Rules of one dialect

A rule is classified as a scriptlet rule of a dialect exactly when it carries the mask of
that dialect and of no other. A comment carries none. A rule with the masks of two dialects
is no scriptlet rule.
-/

namespace FilterDialects

variable {registry : Registry} {rule : Text}

def carriesMask (rule : Text) : Dialect → Bool
  | .adg => Mask.isAdgScriptlet rule
  | .ubo => Mask.isUboScriptlet rule
  | .abp => Mask.isAbpSnippet rule

theorem maskDialects_of_isComment (h : Mask.isComment rule = true) : maskDialects rule = [] := by
  simp [maskDialects, Mask.isAdgScriptlet, Mask.isUboScriptlet, Mask.isAbpSnippet, h]

theorem maskDialects_eq_singleton_iff {dialect : Dialect} :
    maskDialects rule = [dialect] ↔ ∀ other, carriesMask rule other = true ↔ other = dialect := by
  have hall {p : Dialect → Prop} : (∀ other, p other) ↔ p .adg ∧ p .ubo ∧ p .abp :=
    ⟨fun h => ⟨h _, h _, h _⟩, fun ⟨hadg, hubo, habp⟩ other => by cases other <;> assumption⟩
  rw [hall, maskDialects]
  simp only [carriesMask]
  cases Mask.isAdgScriptlet rule <;> cases Mask.isUboScriptlet rule <;>
    cases Mask.isAbpSnippet rule <;> cases dialect <;> simp

theorem classify_eq_scriptlet_iff {dialect : Dialect} :
    classify registry rule = .scriptlet dialect ↔
      ∀ other, carriesMask rule other = true ↔ other = dialect := by
  rw [← maskDialects_eq_singleton_iff]
  by_cases hcomment : Mask.isComment rule = true
  · simp [classify, hcomment, maskDialects_of_isComment hcomment]
  · rw [classify, if_neg hcomment]
    split
    · next hnone =>
      rw [hnone]
      split <;> simp
    · next single hsingle => simp [hsingle]
    · next first second others hseveral => simp [hseveral]

theorem classify_eq_redirect_iff {dialect : Dialect} :
    classify registry rule = .redirect dialect ↔
      Mask.isComment rule = false ∧ maskDialects rule = [] ∧ ∃ source,
        RedirectRule.parse? rule = some source ∧
          redirectDialect? registry source = some dialect := by
  by_cases hcomment : Mask.isComment rule = true
  · simp [classify, hcomment]
  · rw [classify, if_neg hcomment, ← Option.bind_eq_some_iff]
    split
    · next hnone =>
      split
      · next found hfound => simp [hcomment, hnone, hfound]
      · next hunread => simp [hunread]
    · next single hsingle => simp [hsingle]
    · next first second others hseveral => simp [hseveral]

section Redirects

variable {source : RedirectRule}

/-- An AdGuard name decides before a uBlock Origin name is looked up. -/
theorem redirectDialect?_eq_adg_iff :
    redirectDialect? registry source = some .adg ↔
      source.marker ≠ .abpResource ∧ registry.isAdgRedirect source.resource = true := by
  unfold redirectDialect?
  split
  · next hmarker => simp [hmarker]
  · next hmarker =>
    split
    · next hknown => simp [hmarker, hknown]
    · next hunknown => simp [hunknown]

theorem redirectDialect?_eq_ubo_iff :
    redirectDialect? registry source = some .ubo ↔
      source.marker ≠ .abpResource ∧ registry.isAdgRedirect source.resource = false ∧
        ∃ name, registry.redirectOfUbo? source.resource = some name := by
  unfold redirectDialect?
  split
  · next hmarker => simp [hmarker]
  · next hmarker =>
    split
    · next hknown => simp [hknown]
    · next hunknown => simp [hmarker, hunknown, Option.isSome_iff_exists]

/-- The marker of Adblock Plus is enough, whatever the resource. -/
theorem redirectDialect?_eq_abp_iff :
    redirectDialect? registry source = some .abp ↔ source.marker = .abpResource := by
  unfold redirectDialect?
  split
  · next hmarker => simp [hmarker]
  · next hmarker =>
    split
    · simp [hmarker]
    · simp [hmarker]

end Redirects

theorem maskDialects_eq_nil_iff :
    maskDialects rule = [] ↔ ∀ dialect, carriesMask rule dialect = false := by
  simp only [maskDialects, List.append_eq_nil_iff, ite_eq_right_iff]
  constructor
  · rintro ⟨⟨hadg, hubo⟩, habp⟩ dialect
    cases dialect <;> simp_all [carriesMask]
  · intro h
    have hadg := h .adg
    have hubo := h .ubo
    have habp := h .abp
    simp_all [carriesMask]

/-- Rules that carry the same masks are told apart by something else. -/
theorem maskDialects_congr {rule' : Text}
    (h : ∀ dialect, carriesMask rule dialect = carriesMask rule' dialect) :
    maskDialects rule = maskDialects rule' := by
  have hadg : Mask.isAdgScriptlet rule = Mask.isAdgScriptlet rule' := h .adg
  have hubo : Mask.isUboScriptlet rule = Mask.isUboScriptlet rule' := h .ubo
  have habp : Mask.isAbpSnippet rule = Mask.isAbpSnippet rule' := h .abp
  rw [maskDialects, maskDialects, hadg, hubo, habp]

theorem isComment_of_classify_scriptlet {dialect : Dialect}
    (h : classify registry rule = .scriptlet dialect) : Mask.isComment rule = false := by
  rw [classify_eq_scriptlet_iff, ← maskDialects_eq_singleton_iff] at h
  rw [← Bool.not_eq_true]
  intro hcomment
  simp [maskDialects_of_isComment hcomment] at h

theorem not_infix_adg_of_classify {dialect : Dialect}
    (h : classify registry rule = .scriptlet dialect) (hdialect : dialect ≠ .adg)
    (isException : Bool) : ¬ Mask.adg isException <:+: rule := by
  intro hoccurs
  have hadg : Mask.isAdgScriptlet rule = true :=
    Mask.isAdgScriptlet_iff.2 ⟨isComment_of_classify_scriptlet h, isException, hoccurs⟩
  exact hdialect ((classify_eq_scriptlet_iff.1 h .adg).1 hadg).symm

/-- A rule that ends with its argument list injects no CSS, so it has no Adblock Plus mask
when it is classified as another dialect's. -/
theorem not_infix_abp_of_classify {dialect : Dialect}
    (h : classify registry rule = .scriptlet dialect) (hdialect : dialect ≠ .abp)
    (hlast : (Text.trimEnd rule).getLast? = some ')') (isException : Bool) :
    ¬ Mask.abp isException <:+: rule := by
  intro hoccurs
  have hstyle : Mask.isStyleRule rule = false := Mask.isStyleRule_of_getLast? hlast (by decide)
  have habp : Mask.isAbpSnippet rule = true :=
    Mask.isAbpSnippet_iff.2 ⟨isComment_of_classify_scriptlet h, ⟨isException, hoccurs⟩, hstyle⟩
  exact hdialect ((classify_eq_scriptlet_iff.1 h .abp).1 habp).symm

theorem not_infix_ubo_of_classify {dialect : Dialect}
    (h : classify registry rule = .scriptlet dialect) (hdialect : dialect ≠ .ubo)
    {isException : Bool} {mask : Text} (hmask : mask ∈ Mask.uboPlain isException) :
    ¬ mask <:+: rule := by
  intro hoccurs
  have hubo : Mask.isUboScriptlet rule = true := Mask.isUboScriptlet_iff.2
    ⟨isComment_of_classify_scriptlet h, isException, mask, hmask, hoccurs⟩
  exact hdialect ((classify_eq_scriptlet_iff.1 h .ubo).1 hubo).symm

/-- A rule that carries the masks of two dialects is left alone. -/
theorem classify_eq_other {first second : Dialect} (hne : first ≠ second)
    (hfirst : carriesMask rule first = true) (hsecond : carriesMask rule second = true) :
    classify registry rule = .other := by
  have hcomment : Mask.isComment rule = false := by
    cases first <;>
      simp only [carriesMask, Mask.isAdgScriptlet, Mask.isUboScriptlet, Mask.isAbpSnippet,
        Bool.and_eq_true, Bool.not_eq_true'] at hfirst
    · exact hfirst.1
    · exact hfirst.1.1
    · exact hfirst.1.1
  rw [classify, if_neg (by simp [hcomment])]
  split
  · next hnone =>
    rw [maskDialects_eq_nil_iff.1 hnone first] at hfirst
    contradiction
  · next single hsingle =>
    rw [maskDialects_eq_singleton_iff] at hsingle
    exact absurd (((hsingle first).1 hfirst).trans ((hsingle second).1 hsecond).symm) hne
  · rfl

theorem isAdgScriptlet_toAdg {parsed : ScriptletRule} (hcomment : Mask.isComment rule = false)
    (hpre : parsed.domains <+: rule) : Mask.isAdgScriptlet parsed.toAdg = true := by
  rw [Mask.isAdgScriptlet_iff, ScriptletRule.toAdg, ScriptletRule.assemble_eq]
  refine ⟨Mask.isComment_append hpre hcomment ?_, parsed.isException, ?_⟩
  · cases parsed.isException <;> rfl
  · exact (List.prefix_append _ _).isInfix.trans (List.suffix_append _ _).isInfix

end FilterDialects
