import FilterDialects.Proofs.Conversion.RedirectForms

/-!
# Resource names, bare and in rules

A resource name is resolved in two ways. A rule is classified first, and then the one index
is asked that belongs to its dialect. A bare name goes through all indexes, that of AdGuard
first. Both ways lead to the same AdGuard name: the classification prefers AdGuard names as
well, and an Adblock Plus name is looked up as such only behind its mark, which no other
name carries.
-/

namespace FilterDialects

variable {registry : Registry} {table : Table} {rule out name canonical : Text}

namespace Registry

/-- No AdGuard or uBlock Origin name of a resource looks like a marked Adblock Plus name. -/
structure HasUnmarkedResources (registry : Registry) : Prop where
  name : ∀ entry ∈ registry.redirects, ¬ abpResourceMark <+: entry.name
  uboNames : ∀ entry ∈ registry.redirects, ∀ name ∈ entry.uboNames, ¬ abpResourceMark <+: name

theorem redirectName?_of_isAdgRedirect (h : registry.isAdgRedirect name = true) :
    registry.redirectName? name = some name :=
  if_pos h

theorem redirectName?_of_redirectOfUbo? (hunknown : registry.isAdgRedirect name = false)
    (h : registry.redirectOfUbo? name = some canonical) :
    registry.redirectName? name = some canonical := by
  rw [redirectName?, if_neg (by simp [hunknown]), h, Option.some_or]

/-- A marked name is looked up only as a name of Adblock Plus, without its mark. -/
theorem HasUnmarkedResources.redirectName?_marked (h : registry.HasUnmarkedResources)
    (name : Text) :
    registry.redirectName? (abpResourceMark ++ name) = registry.redirectOfAbp? name := by
  have hadg : ¬ registry.isAdgRedirect (abpResourceMark ++ name) = true := by
    rw [isAdgRedirect_iff]
    rintro ⟨entry, hentry, heq⟩
    exact h.name entry hentry (heq ▸ List.prefix_append _ _)
  have hubo : registry.redirectOfUbo? (abpResourceMark ++ name) = none := by
    rw [redirectOfUbo?_eq_find?, Option.map_eq_none_iff, List.find?_eq_none]
    intro entry hentry hcarries
    rw [NameIndex.carriesUbo_redirects_iff] at hcarries
    exact h.uboNames entry hentry _ hcarries (List.prefix_append _ _)
  have hmark : abpResourceMark.isPrefixOf? (abpResourceMark ++ name) = some name :=
    Text.isPrefixOf?_eq_some.2 rfl
  rw [redirectName?, if_neg hadg, hubo, hmark, Option.none_or, Option.getD_some]

/-- Every way to resolve a name ends at an AdGuard name. -/
theorem isAdgRedirect_of_redirectName? (h : registry.redirectName? name = some canonical) :
    registry.isAdgRedirect canonical = true := by
  rw [redirectName?] at h
  split at h
  · next hknown =>
    obtain rfl := Option.some.inj h
    exact hknown
  · rw [isAdgRedirect_iff]
    rcases Option.or_eq_some_iff.1 h with hubo | ⟨-, habp⟩
    · exact exists_of_redirectOfUbo? hubo
    · exact exists_of_redirectOfAbp? habp

end Registry

section Rules

/-- An AdGuard redirect rule names its resource already. -/
theorem redirectName?_of_classify_adg (hkind : classify registry rule = .redirect .adg) :
    ∃ source, RedirectRule.parse? rule = some source ∧ source.marker ≠ .abpResource ∧
      registry.redirectName? source.resource = some source.resource := by
  obtain ⟨-, -, source, hparse, hdialect⟩ := classify_eq_redirect_iff.1 hkind
  obtain ⟨hmarker, hknown⟩ := redirectDialect?_eq_adg_iff.1 hdialect
  exact ⟨source, hparse, hmarker, Registry.redirectName?_of_isAdgRedirect hknown⟩

theorem redirectName?_of_uboRedirectToAdg? (hbuild : (Registry.build table).2 = .ok registry)
    (hplain : registry.HasPlainResources) (hkind : classify registry rule = .redirect .ubo)
    (h : uboRedirectToAdg? registry rule = some out) :
    ∃ source result, RedirectRule.parse? rule = some source ∧
      RedirectRule.parse? out = some result ∧ source.marker ≠ .abpResource ∧
      registry.redirectName? source.resource = some result.resource := by
  obtain ⟨hcomment, -, source, hparse, hdialect⟩ := classify_eq_redirect_iff.1 hkind
  obtain ⟨hmarker, hunknown, -⟩ := redirectDialect?_eq_ubo_iff.1 hdialect
  obtain ⟨source', name, hparse', -, hname, rfl⟩ := (uboRedirectToAdg?_eq_some_iff hcomment).1 h
  obtain rfl := Option.some.inj (hparse.symm.trans hparse')
  obtain ⟨entry, hentry, rfl⟩ := Registry.exists_of_redirectOfUbo? hname
  obtain ⟨-, result, hresult, hrewriting⟩ :=
    isValidAdgRedirect_withResource hbuild hplain hcomment hparse hmarker hentry
      fun _ hmodifier => ContentType.isPlain_expand hmodifier
  refine ⟨source, result, hparse, hresult, hmarker, ?_⟩
  rw [hrewriting.resource_eq]
  exact Registry.redirectName?_of_redirectOfUbo? hunknown hname

theorem redirectName?_of_abpRedirectToAdg? (hbuild : (Registry.build table).2 = .ok registry)
    (hplain : registry.HasPlainResources) (hunmarked : registry.HasUnmarkedResources)
    (hcomment : Mask.isComment rule = false) (h : abpRedirectToAdg? registry rule = some out) :
    ∃ source result, RedirectRule.parse? rule = some source ∧
      RedirectRule.parse? out = some result ∧ source.marker = .abpResource ∧
      registry.redirectName? (Registry.abpResourceMark ++ source.resource) =
        some result.resource := by
  obtain ⟨source, name, hparse, hmarker, hname, rfl⟩ :=
    (abpRedirectToAdg?_eq_some_iff hcomment).1 h
  obtain ⟨entry, hentry, rfl⟩ := Registry.exists_of_redirectOfAbp? hname
  obtain ⟨-, result, hresult, hrewriting⟩ :=
    isValidAdgRedirect_withResource hbuild hplain hcomment hparse
      (by decide : RedirectMarker.redirect ≠ .abpResource) hentry fun _ hmodifier => hmodifier
  refine ⟨source, result, hparse, hresult, hmarker, ?_⟩
  rw [hrewriting.resource_eq, hunmarked.redirectName?_marked, hname]

end Rules

/-- The resource of a converted rule is what the name in the rule resolves to, an Adblock Plus
name with its mark. Resolving a name that was resolved changes nothing. -/
theorem redirectName?_of_redirectToAdg? (hbuild : (Registry.build table).2 = .ok registry)
    (hplain : registry.HasPlainResources) (hunmarked : registry.HasUnmarkedResources) :
    (∀ rule out, Mask.isComment rule = false → redirectToAdg? registry rule = some out →
      ∃ source result, RedirectRule.parse? rule = some source ∧
        RedirectRule.parse? out = some result ∧
        (source.marker = .redirect ∨ source.marker = .redirectRule →
          registry.redirectName? source.resource = some result.resource) ∧
        (source.marker = .abpResource →
          registry.redirectName? ("abp-resource:".toList ++ source.resource) =
            some result.resource)) ∧
    ∀ name canonical, registry.redirectName? name = some canonical →
      registry.redirectName? canonical = some canonical := by
  constructor
  · intro rule out hcomment h
    rcases (redirectToAdg?_eq_some_iff hcomment).1 h with
      ⟨hkind, rfl⟩ | ⟨hkind, hubo⟩ | ⟨hkind, habp⟩
    · obtain ⟨source, hparse, hmarker, hname⟩ := redirectName?_of_classify_adg hkind
      exact ⟨source, source, hparse, hparse, fun _ => hname, fun hmark => absurd hmark hmarker⟩
    · obtain ⟨source, result, hparse, hresult, hmarker, hname⟩ :=
        redirectName?_of_uboRedirectToAdg? hbuild hplain hkind hubo
      exact ⟨source, result, hparse, hresult, fun _ => hname, fun hmark => absurd hmark hmarker⟩
    · obtain ⟨source, result, hparse, hresult, hmarker, hname⟩ :=
        redirectName?_of_abpRedirectToAdg? hbuild hplain hunmarked hcomment habp
      refine ⟨source, result, hparse, hresult, ?_, fun _ => hname⟩
      simp [hmarker]
  · intro name canonical h
    exact Registry.redirectName?_of_isAdgRedirect (Registry.isAdgRedirect_of_redirectName? h)

/-- An Adblock Plus rule and its marked resource name lead to the same resource, which stays
what it is. -/
theorem redirectName?_of_redirectToAdg?_blank :
    ∃ registry : Registry,
      (Registry.build ⟨[], [Table.record "noopjs" (some "noop.js") (some "blank-js")]⟩).2 =
        .ok registry ∧
      registry.HasPlainResources ∧ registry.HasUnmarkedResources ∧
      redirectToAdg? registry "||a.org^$rewrite=abp-resource:blank-js,xhr".toList =
        some "||a.org^$redirect=noopjs,xhr".toList ∧
      registry.redirectName? "abp-resource:blank-js".toList = some "noopjs".toList ∧
      registry.redirectName? "noopjs".toList = some "noopjs".toList := by
  obtain ⟨registry, hbuild, hentries, hplain, -⟩ := Registry.exists_hasPlainResources
  have hunmarked : registry.HasUnmarkedResources := by
    constructor <;> rw [hentries] <;> decide
  have hparse : RedirectRule.parse? "||a.org^$rewrite=abp-resource:blank-js,xhr".toList =
      some ⟨"||a.org^".toList, [], .abpResource, "blank-js".toList, ["xhr".toList]⟩ := by decide
  have hkind : classify registry "||a.org^$rewrite=abp-resource:blank-js,xhr".toList =
      .redirect .abp :=
    classify_eq_redirect_iff.2
      ⟨rfl, by decide, _, hparse, redirectDialect?_eq_abp_iff.2 rfl⟩
  have hout : redirectToAdg? registry "||a.org^$rewrite=abp-resource:blank-js,xhr".toList =
      some "||a.org^$redirect=noopjs,xhr".toList := by
    refine (redirectToAdg?_eq_some_iff rfl).2 (.inr (.inr ⟨hkind, ?_⟩))
    refine (abpRedirectToAdg?_eq_some_iff rfl).2
      ⟨_, "noopjs".toList, hparse, rfl, ?_, by decide⟩
    rw [Registry.redirectOfAbp?_eq_find?, hentries]
    decide
  obtain ⟨hrules, hnames⟩ := redirectName?_of_redirectToAdg? hbuild hplain hunmarked
  obtain ⟨source, result, hsource, hresult, -, habp⟩ := hrules _ _ rfl hout
  obtain rfl := Option.some.inj (hparse.symm.trans hsource)
  have hread : RedirectRule.parse? "||a.org^$redirect=noopjs,xhr".toList =
      some ⟨"||a.org^".toList, [], .redirect, "noopjs".toList, ["xhr".toList]⟩ := by decide
  obtain rfl := Option.some.inj (hread.symm.trans hresult)
  exact ⟨registry, hbuild, hplain, hunmarked, hout, habp rfl, hnames _ _ (habp rfl)⟩

end FilterDialects
