import FilterDialects.Proofs.Conversion.RedirectForms
import FilterDialects.Proofs.Redirect.Frame

/-!
# Priorities are never looked at

A priority behind the resource of a redirect rule is taken off when the rule is read, and
nothing that is done with the rule asks for it. So two rules that read alike up to what
stands behind the key, and that name the same resource there, cannot be told apart: they are
converted to the same texts, pass the same checks and are of the same kind. Only an error
shows the difference, since it repeats the rule that it is about.

The kind of a rule depends on its scriptlet masks first. They are looked for in the whole
text, priority and all, so the two rules have to carry the same ones.
-/

namespace FilterDialects

variable {registry : Registry} {rule rule' value : Text} {source : RedirectRule}

namespace RedirectRule

/-- The rule with something else behind the key of the modifier that names its resource. -/
def withValue (value : Text) (source : RedirectRule) : RedirectRule :=
  { source with value := value }

@[simp] theorem withValue_marker (value : Text) (source : RedirectRule) :
    (source.withValue value).marker = source.marker := rfl

@[simp] theorem withValue_hasSingleMarker (value : Text) (source : RedirectRule) :
    (source.withValue value).hasSingleMarker = source.hasSingleMarker := rfl

@[simp] theorem withValue_withResource (value : Text) (source : RedirectRule)
    (marker : RedirectMarker) (resource : Text) (f : Text → Text) (extra : List Text) :
    (source.withValue value).withResource marker resource f extra =
      source.withResource marker resource f extra := rfl

/-- The modifier that names the resource is no content type. -/
theorem isContentType_key_append (marker : RedirectMarker) (value : Text) :
    ContentType.isContentType (marker.key ++ value) = false := by
  rw [← Bool.not_eq_true]
  intro h
  have hnone := ContentType.of?_of_isContentType h
  rw [RedirectMarker.of?_key_append] at hnone
  contradiction

@[simp] theorem withValue_hasContentType (value : Text) (source : RedirectRule) :
    (source.withValue value).hasContentType = source.hasContentType := by
  simp [hasContentType, modifiers, withValue, isContentType_key_append]

end RedirectRule

/-- Two rules that nothing done with redirect rules tells apart, but for the rule that an
error is about. -/
structure AnswersAlike (registry : Registry) (rule rule' : Text) : Prop where
  uboRedirectToAdg : uboRedirectToAdg? registry rule = uboRedirectToAdg? registry rule'
  abpRedirectToAdg : abpRedirectToAdg? registry rule = abpRedirectToAdg? registry rule'
  adgRedirectToUbo :
    (∃ out, adgRedirectToUbo registry rule = .ok out ∧ adgRedirectToUbo registry rule' = .ok out) ∨
    (adgRedirectToUbo registry rule = .error (.unsupportedRedirect rule) ∧
      adgRedirectToUbo registry rule' = .error (.unsupportedRedirect rule')) ∨
    (adgRedirectToUbo registry rule = .error (.missingContentType rule) ∧
      adgRedirectToUbo registry rule' = .error (.missingContentType rule'))
  isValidAdgRedirect : isValidAdgRedirect registry rule = isValidAdgRedirect registry rule'
  hasContentType : hasContentType rule = hasContentType rule'
  hasAdgFormOfUbo : hasAdgFormOfUbo registry rule = hasAdgFormOfUbo registry rule'
  hasAdgFormOfAbp : hasAdgFormOfAbp registry rule = hasAdgFormOfAbp registry rule'
  hasUboForm : hasUboForm registry rule = hasUboForm registry rule'
  classify : (∀ dialect, carriesMask rule dialect = carriesMask rule' dialect) →
    classify registry rule = classify registry rule'

/-- Two rules, neither of them a comment, that read alike up to what stands behind the key of
the modifier that names the resource, and that name one resource there. -/
structure ReadAlike (rule rule' : Text) (source : RedirectRule) (value : Text) : Prop where
  isComment : Mask.isComment rule = false
  isComment' : Mask.isComment rule' = false
  parse? : RedirectRule.parse? rule = some source
  parse?' : RedirectRule.parse? rule' = some (source.withValue value)
  resource_eq : (source.withValue value).resource = source.resource

namespace ReadAlike

theorem redirectRule?_eq (h : ReadAlike rule rule' source value) :
    redirectRule? rule = some source ∧ redirectRule? rule' = some (source.withValue value) := by
  rw [redirectRule?_of_not_isComment h.isComment, redirectRule?_of_not_isComment h.isComment']
  exact ⟨h.parse?, h.parse?'⟩

theorem adgRedirectRule?_cases (h : ReadAlike rule rule' source value) (registry : Registry) :
    (adgRedirectRule? registry rule = some source ∧
      adgRedirectRule? registry rule' = some (source.withValue value)) ∨
    (adgRedirectRule? registry rule = none ∧ adgRedirectRule? registry rule' = none) := by
  obtain ⟨hrule, hrule'⟩ := h.redirectRule?_eq
  rw [adgRedirectRule?, adgRedirectRule?, hrule, hrule', Option.filter_some, Option.filter_some,
    RedirectRule.withValue_marker, h.resource_eq]
  split
  · exact .inl ⟨rfl, rfl⟩
  · exact .inr ⟨rfl, rfl⟩

/-- Rules that read alike are treated alike. -/
theorem answersAlike (h : ReadAlike rule rule' source value) (registry : Registry) :
    AnswersAlike registry rule rule' where
  uboRedirectToAdg := by
    simp [uboRedirectToAdg?, h.isComment, h.isComment', h.parse?, h.parse?', h.resource_eq]
  abpRedirectToAdg := by
    simp [abpRedirectToAdg?, h.isComment, h.isComment', h.parse?, h.parse?', h.resource_eq]
  adgRedirectToUbo := by
    unfold adgRedirectToUbo
    rcases h.adgRedirectRule?_cases registry with ⟨hknown, hknown'⟩ | ⟨hunknown, hunknown'⟩
    · simp only [hknown, hknown', h.resource_eq, RedirectRule.withValue_hasContentType,
        RedirectRule.withValue_marker, RedirectRule.withValue_withResource]
      cases registry.redirectToUbo? source.resource with
      | none => exact .inr (.inl ⟨rfl, rfl⟩)
      | some name =>
        cases source.hasContentType with
        | true => exact .inl ⟨_, rfl, rfl⟩
        | false =>
          cases registry.contentTypes? source.resource with
          | none => exact .inr (.inr ⟨rfl, rfl⟩)
          | some types => exact .inl ⟨_, rfl, rfl⟩
    · exact .inr (.inl ⟨by simp only [hunknown], by simp only [hunknown']⟩)
  isValidAdgRedirect := by
    unfold isValidAdgRedirect
    rcases h.adgRedirectRule?_cases registry with ⟨hknown, hknown'⟩ | ⟨hunknown, hunknown'⟩
    · simp [hknown, hknown']
    · simp [hunknown, hunknown']
  hasContentType := by
    simp [hasContentType, h.redirectRule?_eq]
  hasAdgFormOfUbo := by
    simp [hasAdgFormOfUbo, h.redirectRule?_eq, h.resource_eq]
  hasAdgFormOfAbp := by
    simp [hasAdgFormOfAbp, h.redirectRule?_eq, h.resource_eq]
  hasUboForm := by
    unfold hasUboForm
    rcases h.adgRedirectRule?_cases registry with ⟨hknown, hknown'⟩ | ⟨hunknown, hunknown'⟩
    · simp [hknown, hknown', h.resource_eq]
    · simp [hunknown, hunknown']
  classify := by
    intro hmasks
    have hdialect : redirectDialect? registry (source.withValue value) =
        redirectDialect? registry source := by
      simp only [redirectDialect?, RedirectRule.withValue_marker, h.resource_eq]
    simp only [classify, h.isComment, h.isComment', maskDialects_congr hmasks, h.parse?, h.parse?',
      Option.bind_some, hdialect]

end ReadAlike

section Priorities

variable {frame : RedirectFrame} {name spelling : Text} {p : Int}

theorem RedirectFrame.isComment_fill (frame : RedirectFrame) (resource other : Text) :
    Mask.isComment (frame.fill resource) = Mask.isComment (frame.fill other) := by
  unfold RedirectFrame.fill
  cases frame.base <;> rfl

/-- A rule reads alike with a priority behind its resource. -/
theorem ReadAlike.of_fill (hcomment : Mask.isComment (frame.fill name) = false)
    (htrim : Text.trim name = name) (hcomma : ',' ∉ name) (hdollar : '$' ∉ name)
    (hname : ¬ Priority.EndsInPriority name) (hspelling : Priority.parse? spelling = some p) :
    ReadAlike (frame.fill name) (frame.fill (name ++ ':' :: spelling)) (frame.rule name)
      (name ++ ':' :: spelling) where
  isComment := hcomment
  isComment' := (frame.isComment_fill _ name).trans hcomment
  parse? := frame.parse?_fill (RedirectRule.isModifier_key_append _ htrim hcomma hdollar)
  parse?' := by
    have hspelled : (Priority.parse? spelling).isSome := Option.isSome_of_eq_some hspelling
    have hcomma' : ',' ∉ name ++ ':' :: spelling := by
      simpa [hcomma] using Priority.notMem_of_parse? hspelled (by decide)
    have hdollar' : '$' ∉ name ++ ':' :: spelling := by
      simpa [hdollar] using Priority.notMem_of_parse? hspelled (by decide)
    exact frame.parse?_fill
      (RedirectRule.isModifier_key_append _ (Priority.trim_append hspelling htrim) hcomma' hdollar')
  resource_eq := by
    show (Priority.split (name ++ ':' :: spelling)).1 = (Priority.split name).1
    rw [Priority.split_append hspelling, Priority.split_eq_self_iff.2 hname]

/-- A priority never matters. Take any rule with a single modifier that names a resource, and
put a priority behind the resource, in whatever spelling and at whatever place the modifier
stands: the priority is read, and the rule is treated as it was without. -/
theorem answersAlike_of_priority (registry : Registry) (hcomment : Mask.isComment rule = false)
    (hparse : RedirectRule.parse? rule = some source) (hsingle : source.hasSingleMarker = true)
    (htrim : Text.trim source.value = source.value)
    (hname : ¬ Priority.EndsInPriority source.value) (hleast : -Priority.limit ≤ p)
    (hlimit : p < Priority.limit) :
    (∃ frame : RedirectFrame, frame.fill source.value = rule) ∧
    Priority.parse? (Priority.text p) = some p ∧
    ∀ (frame : RedirectFrame) spelling, frame.fill source.value = rule →
      Priority.parse? spelling = some p →
        (∃ result,
          RedirectRule.parse? (frame.fill (source.value ++ ':' :: spelling)) = some result ∧
            result.priority = some p) ∧
        AnswersAlike registry rule (frame.fill (source.value ++ ':' :: spelling)) := by
  refine ⟨RedirectFrame.exists_fill_eq hparse hsingle, Priority.parse?_text hleast hlimit, ?_⟩
  rintro frame spelling rfl hspelling
  obtain ⟨hcomma, hdollar⟩ := RedirectRule.notMem_value hparse
  have halike := ReadAlike.of_fill hcomment htrim hcomma hdollar hname hspelling
  refine ⟨⟨_, halike.parse?', ?_⟩, halike.answersAlike registry⟩
  exact congrArg Prod.snd (Priority.split_append hspelling source.value)

/-- A negative priority between blanks: with it and without it the rule becomes the same
uBlock Origin rule. -/
theorem answersAlike_of_priority_negative :
    ∃ registry : Registry,
      (Registry.build ⟨[], [Table.record "noopjs" (some "noop.js") (some "blank-js")]⟩).2 =
        .ok registry ∧
      AnswersAlike registry "||a.org^$ redirect=noopjs ,~script".toList
        "||a.org^$ redirect=noopjs:-7 ,~script".toList ∧
      adgRedirectToUbo registry "||a.org^$ redirect=noopjs ,~script".toList =
        .ok "||a.org^$redirect=noop.js,~script,script".toList ∧
      adgRedirectToUbo registry "||a.org^$ redirect=noopjs:-7 ,~script".toList =
        .ok "||a.org^$redirect=noop.js,~script,script".toList := by
  obtain ⟨registry, hbuild, hentries, -, -⟩ := Registry.exists_hasPlainResources
  have hentry : ⟨"noopjs".toList, ["noop.js".toList], some "blank-js".toList,
      some ["script".toList]⟩ ∈ registry.redirects := by simp [hentries]
  have hread : adgRedirectRule? registry "||a.org^$ redirect=noopjs ,~script".toList =
      some ⟨"||a.org^".toList, [], .redirect, "noopjs".toList, ["~script".toList]⟩ :=
    adgRedirectRule?_eq_some_iff.2
      ⟨rfl, by decide, by decide, Registry.isAdgRedirect_of_mem hentry⟩
  have hout : adgRedirectToUbo registry "||a.org^$ redirect=noopjs ,~script".toList =
      .ok "||a.org^$redirect=noop.js,~script,script".toList :=
    adgRedirectToUbo_eq_ok_iff.2
      ⟨_, _, "noop.js".toList, ["script".toList], hread, hentry, by decide, rfl, by decide,
        fun _ => rfl, by decide⟩
  obtain ⟨-, hparse, -⟩ := adgRedirectRule?_eq_some_iff.1 hread
  have hbeside : ∀ piece ∈ ["~script".toList], IsBeside piece := by
    rw [List.forall_mem_singleton]
    exact ⟨by decide, by decide, by decide⟩
  obtain ⟨-, hspelling, hpriority⟩ := answersAlike_of_priority (p := -7) registry rfl hparse
    (by decide) (by decide) (by decide) (by decide) (by decide)
  have hblank : ∀ c ∈ " ".toList, Text.isBlank c = true := List.forall_mem_singleton.2 rfl
  have halike : AnswersAlike registry "||a.org^$ redirect=noopjs ,~script".toList
      "||a.org^$ redirect=noopjs:-7 ,~script".toList :=
    (hpriority ⟨"||a.org^".toList, [], " ".toList, .redirect, " ".toList, ["~script".toList],
      List.forall_mem_nil _, hbeside, hblank, hblank⟩ "-7".toList rfl hspelling).2
  refine ⟨registry, hbuild, halike, hout, ?_⟩
  rcases halike.adgRedirectToUbo with ⟨out, hok, hok'⟩ | ⟨herror, -⟩ | ⟨herror, -⟩
  · rw [hok', ← hok, hout]
  · cases hout.symm.trans herror
  · cases hout.symm.trans herror

end Priorities

end FilterDialects
