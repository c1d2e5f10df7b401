import FilterDialects.Conversion.Redirect
import FilterDialects.Proofs.Redirect.ContentType
import FilterDialects.Proofs.Registry.Resources
import FilterDialects.Proofs.Scriptlet.Mask
import FilterDialects.Table.Shipped

/-!
# Converted redirect rules

A conversion puts another resource into a rule. As long as the resource names of the table
can stand in rules, the new rule reads as the old one with that resource: towards AdGuard
the rule is then valid, and towards uBlock Origin it has a content type.

A uBlock Origin rule that comes out of a conversion leads back to the same AdGuard
resource, unless an earlier entry of the table carries its name.
-/

namespace FilterDialects

variable {registry : Registry} {table : Table} {rule out : Text} {source : RedirectRule}
variable {marker : RedirectMarker} {resource : Text} {f : Text → Text} {extra : List Text}

/-- A rule that is no comment does not become one. -/
theorem isComment_withResource (hcomment : Mask.isComment rule = false)
    (h : RedirectRule.parse? rule = some source) :
    Mask.isComment (source.withResource marker resource f extra) = false := by
  obtain ⟨options, hrule, -, -⟩ := RedirectRule.exists_of_parse? h
  exact Mask.isComment_append (hrule ▸ List.prefix_append _ _) hcomment rfl

section Checks

theorem redirectRule?_eq_some_iff :
    redirectRule? rule = some source ↔
      Mask.isComment rule = false ∧ RedirectRule.parse? rule = some source := by
  rw [redirectRule?]
  split
  · next hcomment => simp [hcomment]
  · next hcomment => simp [hcomment]

theorem adgRedirectRule?_eq_some_iff :
    adgRedirectRule? registry rule = some source ↔
      Mask.isComment rule = false ∧ RedirectRule.parse? rule = some source ∧
        source.marker ≠ .abpResource ∧ registry.isAdgRedirect source.resource = true := by
  rw [adgRedirectRule?, Option.filter_eq_some_iff, redirectRule?_eq_some_iff, and_assoc,
    Bool.and_eq_true, bne_iff_ne]

theorem isValidAdgRedirect_iff :
    isValidAdgRedirect registry rule = true ↔
      ∃ source, adgRedirectRule? registry rule = some source ∧ source.hasSingleMarker = true := by
  rw [isValidAdgRedirect, Option.any_eq_true]

theorem hasContentType_iff :
    hasContentType rule = true ↔
      ∃ source, redirectRule? rule = some source ∧ source.hasContentType = true := by
  rw [hasContentType, Option.any_eq_true]

end Checks

section ToAdg

theorem uboRedirectToAdg?_eq_some_iff (hcomment : Mask.isComment rule = false) :
    uboRedirectToAdg? registry rule = some out ↔
      ∃ source name, RedirectRule.parse? rule = some source ∧ source.marker ≠ .abpResource ∧
        registry.redirectOfUbo? source.resource = some name ∧
          source.withResource source.marker name ContentType.expand [] = out := by
  rw [uboRedirectToAdg?, if_neg (by simp [hcomment]), Option.bind_eq_some_iff]
  refine exists_congr fun source => ?_
  split
  · next hmarker => simp [hmarker]
  · next hmarker => simp [hmarker]

theorem abpRedirectToAdg?_eq_some_iff (hcomment : Mask.isComment rule = false) :
    abpRedirectToAdg? registry rule = some out ↔
      ∃ source name, RedirectRule.parse? rule = some source ∧ source.marker = .abpResource ∧
        registry.redirectOfAbp? source.resource = some name ∧
          source.withResource .redirect name id [] = out := by
  rw [abpRedirectToAdg?, if_neg (by simp [hcomment]), Option.bind_eq_some_iff]
  refine exists_congr fun source => ?_
  split
  · next hmarker => simp [hmarker]
  · next hmarker => simp [hmarker]

/-- A rule into which an AdGuard resource is put is valid and reads as it was written. -/
theorem isValidAdgRedirect_withResource {entry : Entry}
    (hbuild : (Registry.build table).2 = .ok registry) (hplain : registry.HasPlainResources)
    (hcomment : Mask.isComment rule = false) (hparse : RedirectRule.parse? rule = some source)
    (hmarker : marker ≠ .abpResource) (hentry : entry ∈ registry.redirects)
    (hf : ∀ modifier, RedirectRule.IsPlain modifier → RedirectRule.IsPlain (f modifier)) :
    isValidAdgRedirect registry (source.withResource marker entry.name f []) = true ∧
      ∃ result, RedirectRule.parse? (source.withResource marker entry.name f []) = some result ∧
        result.IsRewriting source marker entry.name f [] := by
  obtain ⟨result, hresult, hrewriting⟩ :=
    RedirectRule.exists_isRewriting hparse (hplain.isModifier hbuild hentry marker)
      (hplain.not_priority entry hentry) hf (List.forall_mem_nil _)
  refine ⟨?_, result, hresult, hrewriting⟩
  refine isValidAdgRedirect_iff.2 ⟨result, ?_, hrewriting.hasSingleMarker⟩
  refine adgRedirectRule?_eq_some_iff.2 ⟨isComment_withResource hcomment hparse, hresult, ?_, ?_⟩
  · rwa [hrewriting.marker_eq]
  · rw [hrewriting.resource_eq]
    exact Registry.isAdgRedirect_of_mem hentry

/-- A rule that is converted to AdGuard becomes a valid AdGuard rule. It reads as the old
one with the canonical name of its resource, and from uBlock Origin with the short forms of
content types in their long spelling. -/
theorem isRewriting_of_redirectToAdg (hbuild : (Registry.build table).2 = .ok registry)
    (hplain : registry.HasPlainResources) (hcomment : Mask.isComment rule = false) :
    (uboRedirectToAdg? registry rule = some out →
      isValidAdgRedirect registry out = true ∧
        ∃ source result name spell, RedirectRule.parse? rule = some source ∧
          RedirectRule.parse? out = some result ∧
          registry.redirectOfUbo? source.resource = some name ∧
          (∀ modifier, Text.IsRespelling ContentType.longForms modifier (spell modifier)) ∧
          result.IsRewriting source source.marker name spell []) ∧
    (abpRedirectToAdg? registry rule = some out →
      isValidAdgRedirect registry out = true ∧
        ∃ source result name, RedirectRule.parse? rule = some source ∧
          RedirectRule.parse? out = some result ∧
          registry.redirectOfAbp? source.resource = some name ∧
          result.IsRewriting source .redirect name id []) := by
  constructor
  · intro h
    obtain ⟨source, name, hparse, hmarker, hname, rfl⟩ :=
      (uboRedirectToAdg?_eq_some_iff hcomment).1 h
    obtain ⟨entry, hentry, rfl⟩ := Registry.exists_of_redirectOfUbo? hname
    obtain ⟨hvalid, result, hresult, hrewriting⟩ :=
      isValidAdgRedirect_withResource hbuild hplain hcomment hparse hmarker hentry
        fun _ hmodifier => ContentType.isPlain_expand hmodifier
    exact ⟨hvalid, source, result, entry.name, ContentType.expand, hparse, hresult, hname,
      ContentType.isRespelling_expand, hrewriting⟩
  · intro h
    obtain ⟨source, name, hparse, -, hname, rfl⟩ := (abpRedirectToAdg?_eq_some_iff hcomment).1 h
    obtain ⟨entry, hentry, rfl⟩ := Registry.exists_of_redirectOfAbp? hname
    obtain ⟨hvalid, result, hresult, hrewriting⟩ :=
      isValidAdgRedirect_withResource hbuild hplain hcomment hparse
        (by decide : RedirectMarker.redirect ≠ .abpResource) hentry fun _ hmodifier => hmodifier
    exact ⟨hvalid, source, result, entry.name, hparse, hresult, hname, hrewriting⟩

/-- Further markers and a priority are dropped, and content types are spelled out. -/
theorem isRewriting_of_redirectToAdg_markers :
    ∃ registry : Registry,
      (Registry.build ⟨[], [Table.record "noopjs" (some "noop.js") (some "blank-js")]⟩).2 =
        .ok registry ∧
      registry.HasPlainResources ∧
      uboRedirectToAdg? registry
          "@@||a.org/$x$ xhr ,redirect=noop.js:5,~css,redirect-rule=noop.js,image".toList =
        some "@@||a.org/$x$xmlhttprequest,redirect=noopjs,~stylesheet,image".toList ∧
      isValidAdgRedirect registry
        "@@||a.org/$x$xmlhttprequest,redirect=noopjs,~stylesheet,image".toList = true ∧
      abpRedirectToAdg? registry "||a.org^$rewrite=abp-resource:blank-js,xhr".toList =
        some "||a.org^$redirect=noopjs,xhr".toList ∧
      isValidAdgRedirect registry "||a.org^$redirect=noopjs,xhr".toList = true := by
  obtain ⟨registry, hbuild, hentries, hplain, -⟩ := Registry.exists_hasPlainResources
  have hubo : uboRedirectToAdg? registry
      "@@||a.org/$x$ xhr ,redirect=noop.js:5,~css,redirect-rule=noop.js,image".toList =
        some "@@||a.org/$x$xmlhttprequest,redirect=noopjs,~stylesheet,image".toList := by
    refine (uboRedirectToAdg?_eq_some_iff rfl).2 ⟨⟨"@@||a.org/$x".toList, ["xhr".toList], .redirect,
      "noop.js:5".toList, ["~css".toList, "redirect-rule=noop.js".toList, "image".toList]⟩,
      "noopjs".toList, by decide, by decide, ?_, by decide⟩
    rw [Registry.redirectOfUbo?_eq_find?, hentries]
    decide
  have habp : abpRedirectToAdg? registry "||a.org^$rewrite=abp-resource:blank-js,xhr".toList =
      some "||a.org^$redirect=noopjs,xhr".toList := by
    refine (abpRedirectToAdg?_eq_some_iff rfl).2 ⟨⟨"||a.org^".toList, [], .abpResource,
      "blank-js".toList, ["xhr".toList]⟩, "noopjs".toList, by decide, by decide, ?_, by decide⟩
    rw [Registry.redirectOfAbp?_eq_find?, hentries]
    decide
  exact ⟨registry, hbuild, hplain, hubo,
    ((isRewriting_of_redirectToAdg hbuild hplain rfl).1 hubo).1, habp,
    ((isRewriting_of_redirectToAdg hbuild hplain rfl).2 habp).1⟩

end ToAdg

section ToUbo

theorem adgRedirectToUbo_eq_ok_iff :
    adgRedirectToUbo registry rule = .ok out ↔
      ∃ source entry name extra, adgRedirectRule? registry rule = some source ∧
        entry ∈ registry.redirects ∧ entry.name = source.resource ∧
        entry.uboNames.head? = some name ∧
        (source.hasContentType = true → extra = []) ∧
        (source.hasContentType = false → entry.contentTypes = some extra) ∧
        source.withResource source.marker name id extra = out := by
  constructor
  · intro h
    unfold adgRedirectToUbo at h
    split at h
    · contradiction
    · next source hsource =>
      split at h
      · contradiction
      · next name hname =>
        obtain ⟨entry, hentry, hresource, hpreferred⟩ := Registry.redirectToUbo?_eq_some_iff.1 hname
        split at h
        · next htyped =>
          refine ⟨source, entry, name, [], hsource, hentry, hresource, hpreferred, fun _ => rfl,
            ?_, Except.ok.inj h⟩
          simp [htyped]
        · next htyped =>
          split at h
          · contradiction
          · next types htypes =>
            refine ⟨source, entry, name, types, hsource, hentry, hresource, hpreferred, ?_, ?_,
              Except.ok.inj h⟩
            · simp [htyped]
            · intro _
              rwa [← hresource, Registry.contentTypes?_of_mem hentry] at htypes
  · rintro ⟨source, entry, name, extra, hsource, hentry, hresource, hpreferred, htyped, huntyped,
      rfl⟩
    have hname : registry.redirectToUbo? source.resource = some name :=
      Registry.redirectToUbo?_eq_some_iff.2 ⟨entry, hentry, hresource, hpreferred⟩
    have htypes : registry.contentTypes? source.resource = entry.contentTypes := by
      rw [← hresource, Registry.contentTypes?_of_mem hentry]
    cases hcontent : source.hasContentType with
    | true => simp [adgRedirectToUbo, hsource, hname, hcontent, htyped hcontent]
    | false => simp [adgRedirectToUbo, hsource, hname, hcontent, htypes, huntyped hcontent]

theorem mem_modifiers_of_isRewriting {result : RedirectRule} {modifier : Text}
    (h : result.IsRewriting source marker resource id extra)
    (hplain : RedirectMarker.of? modifier = none) (hmem : modifier ∈ source.modifiers) :
    modifier ∈ result.modifiers := by
  have hrow : modifier ∈ source.before ∨ modifier ∈ source.after := by
    rcases List.mem_append.1 hmem with hbefore | hrest
    · exact .inl hbefore
    · rcases List.mem_cons.1 hrest with rfl | hafter
      · rw [RedirectMarker.of?_key_append] at hplain
        contradiction
      · exact .inr hafter
  rw [h.modifiers_eq]
  rcases hrow with hbefore | hafter
  · simp [hbefore, hplain]
  · simp [hafter, hplain]

/-- A row of modifiers with a content type in it, or to which one is added, has one. -/
theorem hasContentType_of_isRewriting {result : RedirectRule}
    (h : result.IsRewriting source marker resource id extra)
    (hextra : source.hasContentType = false →
      ∃ type ∈ extra, ContentType.isContentType type = true) :
    result.hasContentType = true := by
  rw [RedirectRule.hasContentType, List.any_eq_true]
  cases htyped : source.hasContentType with
  | true =>
    rw [RedirectRule.hasContentType, List.any_eq_true] at htyped
    obtain ⟨type, hmem, htype⟩ := htyped
    exact ⟨type, mem_modifiers_of_isRewriting h (ContentType.of?_of_isContentType htype) hmem,
      htype⟩
  | false =>
    obtain ⟨type, hmem, htype⟩ := hextra htyped
    refine ⟨type, ?_, htype⟩
    rw [h.modifiers_eq]
    exact List.mem_append_right _ hmem

/-- A rule with the name of a uBlock Origin resource leads to the entry that the name stands
for. -/
theorem exists_uboRedirectToAdg? {entry : Entry}
    (hbuild : (Registry.build table).2 = .ok registry) (hplain : registry.HasPlainResources)
    (hcomment : Mask.isComment rule = false) (hparse : RedirectRule.parse? rule = some source)
    (hmarker : source.marker ≠ .abpResource) (hentry : entry ∈ registry.redirects)
    (hname : registry.redirectOfUbo? source.resource = some entry.name) :
    ∃ back again, uboRedirectToAdg? registry rule = some back ∧
      RedirectRule.parse? back = some again ∧ again.resource = entry.name := by
  have hconverted := (uboRedirectToAdg?_eq_some_iff hcomment).2
    ⟨source, entry.name, hparse, hmarker, hname, rfl⟩
  obtain ⟨-, again, hagain, hrewriting⟩ :=
    isValidAdgRedirect_withResource hbuild hplain hcomment hparse hmarker hentry
      fun _ hmodifier => ContentType.isPlain_expand hmodifier
  exact ⟨_, again, hconverted, hagain, hrewriting.resource_eq⟩

/-- A rule that is converted to uBlock Origin reads as the old one with the preferred name
of its resource. It has a content type, and if the old one had none, those are added that
its resource implies. The way back leads to the old resource, unless an earlier entry has
the preferred name too. -/
theorem isRewriting_of_adgRedirectToUbo (hbuild : (Registry.build table).2 = .ok registry)
    (haliases : registry.HasPlainResourceAliases)
    (h : adgRedirectToUbo registry rule = .ok out) :
    ∃ source result entry name extra, RedirectRule.parse? rule = some source ∧
      RedirectRule.parse? out = some result ∧
      entry ∈ registry.redirects ∧ entry.name = source.resource ∧
      entry.uboNames.head? = some name ∧
      result.IsRewriting source source.marker name id extra ∧
      (source.hasContentType = true → extra = []) ∧
      (source.hasContentType = false → entry.contentTypes = some extra ∧ extra ≠ []) ∧
      hasContentType out = true ∧
      ∀ earlier later, registry.redirects = earlier ++ entry :: later →
        (∀ other ∈ earlier, name ∉ other.uboNames) → registry.HasPlainResources →
          ∃ back again, uboRedirectToAdg? registry out = some back ∧
            RedirectRule.parse? back = some again ∧ again.resource = source.resource := by
  obtain ⟨source, entry, name, extra, hsource, hentry, hresource, hpreferred, htyped, huntyped,
    rfl⟩ := adgRedirectToUbo_eq_ok_iff.1 h
  obtain ⟨hcomment, hparse, hmarker, -⟩ := adgRedirectRule?_eq_some_iff.1 hsource
  have hname : name ∈ entry.uboNames := List.mem_of_mem_head? hpreferred
  -- types are added only to a rule that has none, and then there is one to add
  have hadded : source.hasContentType = false → extra ≠ [] ∧ ∀ type ∈ extra,
      RedirectRule.IsPlain type ∧ ContentType.isContentType type = true :=
    fun hcontent => Registry.contentTypes_eq_some hbuild hentry (huntyped hcontent)
  have hextra : ∀ type ∈ extra, RedirectRule.IsPlain type := by
    cases hcontent : source.hasContentType with
    | true => simp [htyped hcontent]
    | false => exact fun type htype => ((hadded hcontent).2 type htype).1
  obtain ⟨result, hresult, hrewriting⟩ :=
    RedirectRule.exists_isRewriting hparse (haliases.isModifier hbuild hentry hname source.marker)
      (haliases.not_priority entry hentry name hname) (fun _ hmodifier => hmodifier) hextra
  have hcomment' : Mask.isComment (source.withResource source.marker name id extra) = false :=
    isComment_withResource hcomment hparse
  refine ⟨source, result, entry, name, extra, hparse, hresult, hentry, hresource, hpreferred,
    hrewriting, htyped, fun hcontent => ⟨huntyped hcontent, (hadded hcontent).1⟩, ?_, ?_⟩
  · refine hasContentType_iff.2 ⟨result, redirectRule?_eq_some_iff.2 ⟨hcomment', hresult⟩, ?_⟩
    refine hasContentType_of_isRewriting hrewriting fun hcontent => ?_
    obtain ⟨hne, htypes⟩ := hadded hcontent
    obtain ⟨type, htype⟩ := List.exists_mem_of_ne_nil extra hne
    exact ⟨type, htype, (htypes type htype).2⟩
  · intro earlier later hsplit hfirst hplain
    -- the way back goes through the other index, which knows only the first entry of a name
    have hback : registry.redirectOfUbo? result.resource = some entry.name := by
      rw [hrewriting.resource_eq]
      exact Registry.redirectOfUbo?_of_first hsplit hname hfirst
    rw [← hresource]
    exact exists_uboRedirectToAdg? hbuild hplain hcomment' hresult
      (by rwa [hrewriting.marker_eq]) hentry hback

/-- A rule with a priority and no content type gets the type and loses the priority. -/
theorem isRewriting_of_adgRedirectToUbo_priority :
    ∃ registry : Registry,
      (Registry.build ⟨[], [Table.record "noopjs" (some "noop.js") (some "blank-js")]⟩).2 =
        .ok registry ∧
      registry.HasPlainResources ∧ registry.HasPlainResourceAliases ∧
      adgRedirectToUbo registry "||a.org^$ third-party ,redirect-rule=noopjs:10".toList =
        .ok "||a.org^$third-party,redirect-rule=noop.js,script".toList ∧
      hasContentType "||a.org^$third-party,redirect-rule=noop.js,script".toList = true ∧
      ∃ back again,
        uboRedirectToAdg? registry "||a.org^$third-party,redirect-rule=noop.js,script".toList =
          some back ∧
        RedirectRule.parse? back = some again ∧ again.resource = "noopjs".toList := by
  obtain ⟨registry, hbuild, hentries, hplain, haliases⟩ := Registry.exists_hasPlainResources
  have hentry : ⟨"noopjs".toList, ["noop.js".toList], some "blank-js".toList,
      some ["script".toList]⟩ ∈ registry.redirects := by simp [hentries]
  have hread : adgRedirectRule? registry "||a.org^$ third-party ,redirect-rule=noopjs:10".toList =
      some ⟨"||a.org^".toList, ["third-party".toList], .redirectRule, "noopjs:10".toList, []⟩ :=
    adgRedirectRule?_eq_some_iff.2
      ⟨rfl, by decide, by decide, Registry.isAdgRedirect_of_mem hentry⟩
  have hout : adgRedirectToUbo registry "||a.org^$ third-party ,redirect-rule=noopjs:10".toList =
      .ok "||a.org^$third-party,redirect-rule=noop.js,script".toList :=
    adgRedirectToUbo_eq_ok_iff.2
      ⟨_, _, "noop.js".toList, ["script".toList], hread, hentry, by decide, rfl, by decide,
        fun _ => rfl, by decide⟩
  obtain ⟨source, result, entry, name, extra, hsource, -, hmem, -, hpreferred, -, -, -, htyped,
    hback⟩ := isRewriting_of_adgRedirectToUbo hbuild haliases hout
  refine ⟨registry, hbuild, hplain, haliases, hout, htyped, ?_⟩
  obtain rfl := List.mem_singleton.1 (hentries ▸ hmem)
  obtain ⟨-, hparse, -⟩ := adgRedirectRule?_eq_some_iff.1 hread
  obtain rfl := Option.some.inj (hparse.symm.trans hsource)
  exact hback [] [] (by simp [hentries]) (by simp) hplain

end ToUbo

end FilterDialects
