import FilterDialects.Proofs.Classify
import FilterDialects.Proofs.Conversion.Redirect

/-!
# Which redirect rules have a form in another dialect

Whether a redirect rule can be converted is decided three times: by a check that only
answers yes or no, by the conversion itself, and by the classification that a conversion of
any dialect starts from. The three look at marker and resource in different orders, and
they agree on every rule and every table.

A comment has no form anywhere, yet the conversions to AdGuard let it pass.
-/

namespace FilterDialects

variable {registry : Registry} {rule out name : Text} {source : RedirectRule}

section Checks

theorem hasAdgFormOfUbo_iff :
    hasAdgFormOfUbo registry rule = true ↔
      ∃ source name, redirectRule? rule = some source ∧ source.marker ≠ .abpResource ∧
        registry.redirectOfUbo? source.resource = some name := by
  rw [hasAdgFormOfUbo, Option.any_eq_true]
  simp only [Bool.and_eq_true, bne_iff_ne, Option.isSome_iff_exists, exists_and_left]

theorem hasAdgFormOfAbp_iff :
    hasAdgFormOfAbp registry rule = true ↔
      ∃ source name, redirectRule? rule = some source ∧ source.marker = .abpResource ∧
        registry.redirectOfAbp? source.resource = some name := by
  rw [hasAdgFormOfAbp, Option.any_eq_true]
  simp only [Bool.and_eq_true, beq_iff_eq, Option.isSome_iff_exists, exists_and_left]

theorem hasUboForm_iff :
    hasUboForm registry rule = true ↔
      ∃ source name, adgRedirectRule? registry rule = some source ∧
        registry.redirectToUbo? source.resource = some name := by
  rw [hasUboForm, Option.any_eq_true]
  simp only [Option.isSome_iff_exists, exists_and_left]

theorem redirectRule?_of_isComment (h : Mask.isComment rule = true) : redirectRule? rule = none :=
  if_pos h

theorem redirectRule?_of_not_isComment (h : Mask.isComment rule = false) :
    redirectRule? rule = RedirectRule.parse? rule :=
  if_neg (by simp [h])

theorem forms_of_isComment (registry : Registry) (h : Mask.isComment rule = true) :
    hasAdgFormOfUbo registry rule = false ∧ hasAdgFormOfAbp registry rule = false ∧
      hasUboForm registry rule = false := by
  have hnone := redirectRule?_of_isComment h
  simp [hasAdgFormOfUbo, hasAdgFormOfAbp, hasUboForm, adgRedirectRule?, hnone]

end Checks

section ToAdg

theorem isSome_uboRedirectToAdg?_iff (hcomment : Mask.isComment rule = false) :
    (uboRedirectToAdg? registry rule).isSome = true ↔ hasAdgFormOfUbo registry rule = true := by
  rw [Option.isSome_iff_exists, hasAdgFormOfUbo_iff, redirectRule?_of_not_isComment hcomment]
  simp only [uboRedirectToAdg?_eq_some_iff hcomment]
  constructor
  · rintro ⟨out, source, name, hparse, hmarker, hname, -⟩
    exact ⟨source, name, hparse, hmarker, hname⟩
  · rintro ⟨source, name, hparse, hmarker, hname⟩
    exact ⟨_, source, name, hparse, hmarker, hname, rfl⟩

theorem isSome_abpRedirectToAdg?_iff (hcomment : Mask.isComment rule = false) :
    (abpRedirectToAdg? registry rule).isSome = true ↔ hasAdgFormOfAbp registry rule = true := by
  rw [Option.isSome_iff_exists, hasAdgFormOfAbp_iff, redirectRule?_of_not_isComment hcomment]
  simp only [abpRedirectToAdg?_eq_some_iff hcomment]
  constructor
  · rintro ⟨out, source, name, hparse, hmarker, hname, -⟩
    exact ⟨source, name, hparse, hmarker, hname⟩
  · rintro ⟨source, name, hparse, hmarker, hname⟩
    exact ⟨_, source, name, hparse, hmarker, hname, rfl⟩

theorem hasAdgFormOfUbo_of_classify (h : classify registry rule = .redirect .ubo) :
    hasAdgFormOfUbo registry rule = true := by
  obtain ⟨hcomment, -, source, hparse, hdialect⟩ := classify_eq_redirect_iff.1 h
  obtain ⟨hmarker, -, name, hname⟩ := redirectDialect?_eq_ubo_iff.1 hdialect
  exact hasAdgFormOfUbo_iff.2
    ⟨source, name, (redirectRule?_of_not_isComment hcomment).trans hparse, hmarker, hname⟩

/-- A redirect rule is converted by its dialect, and an AdGuard rule stays. -/
theorem redirectToAdg?_eq_some_iff (hcomment : Mask.isComment rule = false) :
    redirectToAdg? registry rule = some out ↔
      classify registry rule = .redirect .adg ∧ rule = out ∨
        classify registry rule = .redirect .ubo ∧ uboRedirectToAdg? registry rule = some out ∨
        classify registry rule = .redirect .abp ∧ abpRedirectToAdg? registry rule = some out := by
  rw [redirectToAdg?]
  cases hkind : classify registry rule with
  | comment =>
    rw [classify_eq_comment_iff.1 hkind] at hcomment
    contradiction
  | redirect dialect => cases dialect <;> simp
  | scriptlet dialect => simp
  | other => simp

/-- A rule of AdGuard or uBlock Origin always has an AdGuard form, a rule of Adblock Plus when
its resource has one. -/
theorem isSome_redirectToAdg?_iff (hcomment : Mask.isComment rule = false) :
    (redirectToAdg? registry rule).isSome = true ↔
      classify registry rule = .redirect .adg ∨ classify registry rule = .redirect .ubo ∨
        classify registry rule = .redirect .abp ∧ hasAdgFormOfAbp registry rule = true := by
  have hubo : classify registry rule = .redirect .ubo →
      (uboRedirectToAdg? registry rule).isSome = true :=
    fun hkind => (isSome_uboRedirectToAdg?_iff hcomment).2 (hasAdgFormOfUbo_of_classify hkind)
  rw [← isSome_abpRedirectToAdg?_iff hcomment]
  simp only [Option.isSome_iff_exists, redirectToAdg?_eq_some_iff hcomment, exists_or,
    exists_and_left, exists_eq', and_true] at hubo ⊢
  rw [and_iff_left_of_imp hubo]

end ToAdg

section ToUbo

/-- A rule with a uBlock Origin form is converted when there is a content type to write, its
own or one that the resource implies. Otherwise it lacks a content type. -/
theorem adgRedirectToUbo_cases (hsource : adgRedirectRule? registry rule = some source)
    (hname : registry.redirectToUbo? source.resource = some name) :
    if source.hasContentType = true ∨ (registry.contentTypes? source.resource).isSome = true then
      ∃ out, adgRedirectToUbo registry rule = .ok out
    else adgRedirectToUbo registry rule = .error (.missingContentType rule) := by
  rw [adgRedirectToUbo, hsource]
  simp only [hname]
  cases htyped : source.hasContentType with
  | true => simp
  | false =>
    cases htypes : registry.contentTypes? source.resource with
    | none => simp
    | some types => simp

theorem exists_adgRedirectToUbo_iff (hsource : adgRedirectRule? registry rule = some source)
    (hname : registry.redirectToUbo? source.resource = some name) :
    (∃ out, adgRedirectToUbo registry rule = .ok out) ↔
      source.hasContentType = true ∨ (registry.contentTypes? source.resource).isSome = true := by
  have hcases := adgRedirectToUbo_cases hsource hname
  split at hcases
  · next htyped => exact iff_of_true hcases htyped
  · next huntyped => exact iff_of_false (by simp [hcases]) huntyped

/-- A rule is unsupported exactly when it has no uBlock Origin form. -/
theorem exists_unsupported_iff :
    (∃ line, adgRedirectToUbo registry rule = .error (.unsupportedRedirect line)) ↔
      hasUboForm registry rule = false := by
  cases hform : hasUboForm registry rule with
  | true =>
    obtain ⟨source, name, hsource, hname⟩ := hasUboForm_iff.1 hform
    have hcases := adgRedirectToUbo_cases hsource hname
    split at hcases
    · obtain ⟨out, hout⟩ := hcases
      simp [hout]
    · simp [hcases]
  | false =>
    refine iff_of_true ⟨rule, ?_⟩ rfl
    rw [adgRedirectToUbo]
    rw [hasUboForm] at hform
    cases hsource : adgRedirectRule? registry rule with
    | none => rfl
    | some source =>
      have hname : registry.redirectToUbo? source.resource = none := by
        simpa [hsource] using hform
      simp only [hname]

end ToUbo

/-- The checks, the conversions and the classification of redirect rules agree. A rule that
is no comment has an AdGuard or a uBlock Origin form exactly when the conversion does not
turn it down, and then only a missing content type can stop it. -/
theorem redirect_forms_agree (registry : Registry) (rule : Text) :
    (Mask.isComment rule = false →
      (hasAdgFormOfUbo registry rule = true ↔ (uboRedirectToAdg? registry rule).isSome = true) ∧
      (hasAdgFormOfAbp registry rule = true ↔ (abpRedirectToAdg? registry rule).isSome = true) ∧
      (hasUboForm registry rule = true ↔
        ∀ line, adgRedirectToUbo registry rule ≠ .error (.unsupportedRedirect line)) ∧
      (hasUboForm registry rule = true →
        ∃ source, RedirectRule.parse? rule = some source ∧
          ((∃ out, adgRedirectToUbo registry rule = .ok out) ↔
            hasContentType rule = true ∨
              (registry.contentTypes? source.resource).isSome = true)) ∧
      ((redirectToAdg? registry rule).isSome = true ↔
        classify registry rule = .redirect .adg ∨ classify registry rule = .redirect .ubo ∨
          classify registry rule = .redirect .abp ∧ hasAdgFormOfAbp registry rule = true)) ∧
    (Mask.isComment rule = true →
      hasAdgFormOfUbo registry rule = false ∧ hasAdgFormOfAbp registry rule = false ∧
      hasUboForm registry rule = false ∧
      uboRedirectToAdg? registry rule = some rule ∧
      abpRedirectToAdg? registry rule = some rule) := by
  constructor
  · intro hcomment
    refine ⟨(isSome_uboRedirectToAdg?_iff hcomment).symm,
      (isSome_abpRedirectToAdg?_iff hcomment).symm, ?_, ?_, isSome_redirectToAdg?_iff hcomment⟩
    · rw [← not_exists, exists_unsupported_iff, Bool.not_eq_false]
    · intro hform
      obtain ⟨source, name, hsource, hname⟩ := hasUboForm_iff.1 hform
      obtain ⟨-, hparse, -⟩ := adgRedirectRule?_eq_some_iff.1 hsource
      refine ⟨source, hparse, ?_⟩
      rw [exists_adgRedirectToUbo_iff hsource hname, hasContentType,
        redirectRule?_of_not_isComment hcomment, hparse, Option.any_some]
  · intro hcomment
    obtain ⟨hubo, habp, hadg⟩ := forms_of_isComment registry hcomment
    exact ⟨hubo, habp, hadg, if_pos hcomment, if_pos hcomment⟩

/-- A rule without a content type is converted, because its resource implies one. As a
comment it has no form at all. -/
theorem redirect_forms_agree_noopjs :
    ∃ registry : Registry,
      (Registry.build ⟨[], [Table.record "noopjs" (some "noop.js") (some "blank-js")]⟩).2 =
        .ok registry ∧
      hasUboForm registry "||a.org^$redirect=noopjs:5".toList = true ∧
      hasContentType "||a.org^$redirect=noopjs:5".toList = false ∧
      (∃ out, adgRedirectToUbo registry "||a.org^$redirect=noopjs:5".toList = .ok out) ∧
      hasUboForm registry "!||a.org^$redirect=noopjs:5".toList = false := by
  obtain ⟨registry, hbuild, hentries, -, -⟩ := Registry.exists_hasPlainResources
  have hentry : ⟨"noopjs".toList, ["noop.js".toList], some "blank-js".toList,
      some ["script".toList]⟩ ∈ registry.redirects := by simp [hentries]
  have hread : adgRedirectRule? registry "||a.org^$redirect=noopjs:5".toList =
      some ⟨"||a.org^".toList, [], .redirect, "noopjs:5".toList, []⟩ :=
    adgRedirectRule?_eq_some_iff.2
      ⟨rfl, by decide, by decide, Registry.isAdgRedirect_of_mem hentry⟩
  have hform : hasUboForm registry "||a.org^$redirect=noopjs:5".toList = true :=
    hasUboForm_iff.2 ⟨_, "noop.js".toList, hread,
      Registry.redirectToUbo?_eq_some_iff.2 ⟨_, hentry, by decide, rfl⟩⟩
  have hagree := (redirect_forms_agree registry "||a.org^$redirect=noopjs:5".toList).1 rfl
  obtain ⟨source, hparse, hok⟩ := hagree.2.2.2.1 hform
  obtain ⟨-, hread, -⟩ := adgRedirectRule?_eq_some_iff.1 hread
  obtain rfl := Option.some.inj (hread.symm.trans hparse)
  refine ⟨registry, hbuild, hform, by decide, hok.2 (.inr ?_), ?_⟩
  · exact Option.isSome_of_eq_some (Registry.contentTypes?_of_mem hentry)
  · exact ((redirect_forms_agree registry "!||a.org^$redirect=noopjs:5".toList).2 rfl).2.2.1

end FilterDialects
