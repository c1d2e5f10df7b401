import FilterDialects.Proofs.Classify
import FilterDialects.Proofs.Conversion.Redirect
import FilterDialects.Proofs.Registry.Shipped

/-!
# Fixed points of the conversion of redirect rules

A converted redirect rule is classified by its text again. What a conversion brings in has
no `#`, so a mask without dollars and commas that stands in the new rule stood in the old
one. Only the mask of an Adblock Plus snippet has a dollar: it can arise around the dollar
before the modifiers when a `#` moves up to it, because blanks or another modifier that
stood between them are dropped. It can also be uncovered, when a rule that had the shape of
a CSS injection rule loses its closing brace.

But for such a snippet a converted rule is an AdGuard redirect rule, and these are the fixed
points of the conversion.
-/

namespace FilterDialects

open RedirectRule (IsPlain)

variable {registry : Registry} {table : Table} {rule out mask : Text} {source : RedirectRule}
variable {marker : RedirectMarker} {resource : Text} {f : Text → Text}

/-- A spelling of modifiers that keeps them plain, and that brings in no `#`. -/
structure IsSpelling (f : Text → Text) : Prop where
  isPlain : ∀ modifier, IsPlain modifier → IsPlain (f modifier)
  eq_or_notMem : ∀ modifier, f modifier = modifier ∨ '#' ∉ f modifier

theorem isSpelling_id : IsSpelling id where
  isPlain _ h := h
  eq_or_notMem _ := .inl rfl

theorem isSpelling_expand : IsSpelling ContentType.expand where
  isPlain _ := ContentType.isPlain_expand
  eq_or_notMem modifier := by
    have hlong : ∀ pair ∈ ContentType.longForms, '#' ∉ pair.2 := by decide
    exact (ContentType.isRespelling_expand modifier).eq_or_mem.imp_right (hlong _)

section Masks

theorem infix_of_mem_mapPlain {modifiers : List Text} {modifier : Text}
    (hparse : RedirectRule.parse? rule = some source) (hf : IsSpelling f)
    (hrow : modifiers ⊆ source.modifiers) (hmem : modifier ∈ RedirectRule.mapPlain f modifiers)
    (hhash : '#' ∈ modifier) : modifier <:+: rule := by
  obtain ⟨original, hkept, rfl⟩ := List.mem_map.1 hmem
  rw [(hf.eq_or_notMem original).resolve_right (not_not_intro hhash)]
  exact RedirectRule.infix_of_mem_modifiers hparse (hrow (List.mem_filter.1 hkept).1)

/-- A mask that has neither a dollar nor a comma stands in a rewritten rule only where it
stood before. -/
theorem infix_of_infix_withResource (hparse : RedirectRule.parse? rule = some source)
    (hf : IsSpelling f) (hresource : '#' ∉ resource) (hhash : '#' ∈ mask) (hdollar : '$' ∉ mask)
    (hcomma : ',' ∉ mask) (h : mask <:+: source.withResource marker resource f []) :
    mask <:+: rule := by
  -- the mask reaches neither across the dollar nor across a comma
  rcases (Text.infix_append_cons_iff hdollar).1 h with hbase | hmodifiers
  · obtain ⟨options, rfl, -, -⟩ := RedirectRule.exists_of_parse? hparse
    exact hbase.trans (List.prefix_append _ _).isInfix
  · obtain ⟨modifier, hmem, hoccurs⟩ :=
      Text.exists_infix_of_infix_intercalate hcomma (List.ne_nil_of_mem hhash) hmodifiers
    have hinside : '#' ∈ modifier := hoccurs.subset hhash
    rw [List.append_nil, List.mem_append, List.mem_cons] at hmem
    rcases hmem with hbefore | rfl | hafter
    · exact hoccurs.trans (infix_of_mem_mapPlain hparse hf source.before_subset hbefore hinside)
    · refine absurd hinside ?_
      rw [List.mem_append, not_or]
      refine ⟨?_, hresource⟩
      cases marker <;> decide
    · exact hoccurs.trans (infix_of_mem_mapPlain hparse hf source.after_subset hafter hinside)

theorem carriesMask_of_withResource {dialect : Dialect} (hdialect : dialect ≠ .abp)
    (hcomment : Mask.isComment rule = false) (hparse : RedirectRule.parse? rule = some source)
    (hf : IsSpelling f) (hresource : '#' ∉ resource)
    (h : carriesMask (source.withResource marker resource f []) dialect = true) :
    carriesMask rule dialect = true := by
  cases dialect with
  | adg =>
    obtain ⟨-, isException, hoccurs⟩ := Mask.isAdgScriptlet_iff.1 h
    have hatomic := Mask.isAtomic_adg isException
    have hdollar : '$' ∉ Mask.adg isException := by cases isException <;> decide
    exact Mask.isAdgScriptlet_iff.2 ⟨hcomment, isException,
      infix_of_infix_withResource hparse hf hresource hatomic.hash hdollar
        (hatomic.clear ',' (by decide)) hoccurs⟩
  | ubo =>
    obtain ⟨-, isException, mask, hmask, hoccurs⟩ := Mask.isUboScriptlet_iff.1 h
    have hatomic := Mask.isAtomic_of_mem_uboPlain hmask
    have hdollars : ∀ mask ∈ Mask.uboPlain isException, '$' ∉ mask := by
      cases isException <;> decide
    exact Mask.isUboScriptlet_iff.2 ⟨hcomment, isException, mask, hmask,
      infix_of_infix_withResource hparse hf hresource hatomic.hash (hdollars mask hmask)
        (hatomic.clear ',' (by decide)) hoccurs⟩
  | abp => exact absurd rfl hdialect

/-- A `#` that was not there before stands behind the dollar of a rule, and makes the mask of
an Adblock Plus snippet with the end of the base. -/
structure ClosesMask (base rule out : Text) : Prop where
  begun : ['#'] <:+ base ∨ ['#', '@'] <:+ base
  present : base ++ ['$', '#'] <+: out
  absent : ¬ base ++ ['$', '#'] <+: rule

/-- The mask of an Adblock Plus snippet arises only around the dollar before the
modifiers. -/
theorem ClosesMask.of_infix_abp {result : RedirectRule} {isException : Bool}
    (hparse : RedirectRule.parse? rule = some source)
    (hresult : RedirectRule.parse? out = some result) (hbase : result.base = source.base)
    (hrule : ¬ Mask.abp isException <:+: rule) (h : Mask.abp isException <:+: out) :
    ClosesMask source.base rule out := by
  obtain ⟨start, hmask, hstart⟩ : ∃ start, Mask.abp isException = start ++ '$' :: ['#'] ∧
      (start = ['#'] ∨ start = ['#', '@']) := by
    cases isException with
    | false => exact ⟨['#'], rfl, .inl rfl⟩
    | true => exact ⟨['#', '@'], rfl, .inr rfl⟩
  obtain ⟨options, hline, -, -⟩ := RedirectRule.exists_of_parse? hparse
  obtain ⟨options', rfl, hdollar, -⟩ := RedirectRule.exists_of_parse? hresult
  rw [hmask] at hrule h
  rw [hbase] at h ⊢
  -- the only dollar of the mask is the last one of the rule, unless the base has the mask
  rcases Text.infix_append_cons_of_notMem (by decide) hdollar h with hbefore | ⟨hends, hpre⟩
  · exact absurd (hbefore.trans (hline ▸ List.prefix_append _ _).isInfix) hrule
  · refine ⟨?_, ?_, ?_⟩
    · rcases hstart with rfl | rfl
      · exact .inl hends
      · exact .inr hends
    · exact (List.prefix_append_right_inj _).2 (List.cons_prefix_cons.2 ⟨rfl, hpre⟩)
    · intro hthere
      obtain ⟨before, hbefore⟩ := hends
      rw [← hbefore, List.append_assoc] at hthere
      exact hrule ((List.suffix_append before _).isInfix.trans hthere.isInfix)

end Masks

section Kinds

variable {dialect : Dialect}

/-- An AdGuard redirect rule is one that carries no mask and reads as one. -/
theorem classify_eq_redirect_adg_iff :
    classify registry rule = .redirect .adg ↔
      maskDialects rule = [] ∧ ∃ source, adgRedirectRule? registry rule = some source := by
  simp only [classify_eq_redirect_iff, adgRedirectRule?_eq_some_iff, redirectDialect?_eq_adg_iff,
    exists_and_left]
  exact and_left_comm

/-- A redirect rule of another dialect is converted by putting an AdGuard resource in. -/
theorem exists_of_redirectToAdg? (hkind : classify registry rule = .redirect dialect)
    (hdialect : dialect ≠ .adg) (h : redirectToAdg? registry rule = some out) :
    ∃ source entry marker f, RedirectRule.parse? rule = some source ∧
      entry ∈ registry.redirects ∧ marker ≠ .abpResource ∧ IsSpelling f ∧
      source.withResource marker entry.name f [] = out := by
  obtain ⟨hcomment, -, -⟩ := classify_eq_redirect_iff.1 hkind
  rw [redirectToAdg?, hkind] at h
  cases dialect with
  | adg => exact absurd rfl hdialect
  | ubo =>
    obtain ⟨source, name, hparse, hmarker, hname, rfl⟩ :=
      (uboRedirectToAdg?_eq_some_iff hcomment).1 h
    obtain ⟨entry, hentry, rfl⟩ := Registry.exists_of_redirectOfUbo? hname
    exact ⟨source, entry, _, _, hparse, hentry, hmarker, isSpelling_expand, rfl⟩
  | abp =>
    obtain ⟨source, name, hparse, -, hname, rfl⟩ := (abpRedirectToAdg?_eq_some_iff hcomment).1 h
    obtain ⟨entry, hentry, rfl⟩ := Registry.exists_of_redirectOfAbp? hname
    exact ⟨source, entry, .redirect, id, hparse, hentry, by decide, isSpelling_id, rfl⟩

/-- A valid AdGuard redirect rule is one by its text, unless it has the mask of an Adblock
Plus snippet. -/
theorem classify_of_isValidAdgRedirect (hvalid : isValidAdgRedirect registry rule = true)
    (hothers : ∀ other, other ≠ .abp → carriesMask rule other = false) :
    classify registry rule =
      if Mask.isAbpSnippet rule then .scriptlet .abp else .redirect .adg := by
  split
  · next hsnippet =>
    rw [classify_eq_scriptlet_iff]
    intro other
    by_cases hother : other = .abp
    · simpa [hother, carriesMask] using hsnippet
    · simp [hother, hothers other hother]
  · next hsnippet =>
    rw [classify_eq_redirect_adg_iff, maskDialects_eq_nil_iff]
    obtain ⟨source, hsource, -⟩ := isValidAdgRedirect_iff.1 hvalid
    refine ⟨?_, source, hsource⟩
    intro other
    by_cases hother : other = .abp
    · simpa [hother, carriesMask] using hsnippet
    · exact hothers other hother

/-- A rule that is no snippet becomes one only when it was saved by the shape of a CSS
injection rule, or when a mask arises around its dollar. -/
theorem closesMask_of_isAbpSnippet {result : RedirectRule}
    (hcomment : Mask.isComment rule = false) (hrule : Mask.isAbpSnippet rule = false)
    (hparse : RedirectRule.parse? rule = some source)
    (hresult : RedirectRule.parse? out = some result) (hbase : result.base = source.base)
    (h : Mask.isAbpSnippet out = true) :
    Mask.isStyleRule rule = true ∨ ClosesMask source.base rule out := by
  obtain ⟨-, ⟨isException, hoccurs⟩, -⟩ := Mask.isAbpSnippet_iff.1 h
  by_cases hstyle : Mask.isStyleRule rule = true
  · exact .inl hstyle
  · refine .inr (.of_infix_abp hparse hresult hbase ?_ hoccurs)
    intro hthere
    rw [Mask.isAbpSnippet_iff.2 ⟨hcomment, ⟨isException, hthere⟩, by simpa using hstyle⟩] at hrule
    contradiction

/-- A converted redirect rule is an AdGuard redirect rule or an Adblock Plus snippet. -/
theorem classify_of_redirectToAdg? (hbuild : (Registry.build table).2 = .ok registry)
    (hplain : registry.HasPlainResources) (hhash : ∀ entry ∈ registry.redirects, '#' ∉ entry.name)
    (hkind : classify registry rule = .redirect dialect) (hdialect : dialect ≠ .adg)
    (h : redirectToAdg? registry rule = some out) :
    (classify registry out =
      if Mask.isAbpSnippet out then .scriptlet .abp else .redirect .adg) ∧
    (Mask.isAbpSnippet out = true → ∃ source, RedirectRule.parse? rule = some source ∧
      (Mask.isStyleRule rule = true ∨ ClosesMask source.base rule out)) := by
  obtain ⟨hcomment, hmasks, -⟩ := classify_eq_redirect_iff.1 hkind
  obtain ⟨source, entry, marker, f, hparse, hentry, hmarker, hf, rfl⟩ :=
    exists_of_redirectToAdg? hkind hdialect h
  obtain ⟨hvalid, result, hresult, hrewriting⟩ :=
    isValidAdgRedirect_withResource hbuild hplain hcomment hparse hmarker hentry hf.isPlain
  have hnone := maskDialects_eq_nil_iff.1 hmasks
  refine ⟨classify_of_isValidAdgRedirect hvalid ?_, ?_⟩
  · intro other hother
    rw [← Bool.not_eq_true]
    intro hcarries
    have hrule :=
      carriesMask_of_withResource hother hcomment hparse hf (hhash entry hentry) hcarries
    rw [hnone other] at hrule
    contradiction
  · intro hsnippet
    exact ⟨source, hparse, closesMask_of_isAbpSnippet hcomment (hnone .abp) hparse hresult
      hrewriting.base_eq hsnippet⟩

end Kinds

section FixedPoints

theorem redirectToAdg?_cases (h : redirectToAdg? registry rule = some out) :
    (out = rule ∧ (classify registry rule = .comment ∨ classify registry rule = .redirect .adg)) ∨
      ∃ dialect, dialect ≠ .adg ∧ classify registry rule = .redirect dialect := by
  cases hkind : classify registry rule with
  | comment =>
    rw [redirectToAdg?, hkind] at h
    exact .inl ⟨(Option.some.inj h).symm, .inl rfl⟩
  | scriptlet dialect =>
    rw [redirectToAdg?, hkind] at h
    contradiction
  | redirect dialect =>
    by_cases hdialect : dialect = .adg
    · rw [redirectToAdg?, hkind, hdialect] at h
      exact .inl ⟨(Option.some.inj h).symm, .inr (hdialect ▸ rfl)⟩
    · exact .inr ⟨dialect, hdialect, rfl⟩
  | other =>
    rw [redirectToAdg?, hkind] at h
    contradiction

theorem redirectToAdg?_eq_self
    (h : classify registry rule = .comment ∨ classify registry rule = .redirect .adg) :
    redirectToAdg? registry rule = some rule := by
  rw [redirectToAdg?]
  rcases h with h | h <;> rw [h]

/-- A comment is no snippet, and neither is a redirect rule. -/
theorem isAbpSnippet_of_classify
    (h : classify registry rule = .comment ∨
      ∃ dialect, classify registry rule = .redirect dialect) :
    Mask.isAbpSnippet rule = false := by
  have hmasks : maskDialects rule = [] := by
    rcases h with hcomment | ⟨dialect, hkind⟩
    · exact maskDialects_of_isComment (classify_eq_comment_iff.1 hcomment)
    · exact (classify_eq_redirect_iff.1 hkind).2.1
  exact maskDialects_eq_nil_iff.1 hmasks .abp

theorem redirectToAdg?_of_ubo {name : Text} (hcomment : Mask.isComment rule = false)
    (hmasks : maskDialects rule = []) (hparse : RedirectRule.parse? rule = some source)
    (hmarker : source.marker ≠ .abpResource)
    (hunknown : registry.isAdgRedirect source.resource = false)
    (hname : registry.redirectOfUbo? source.resource = some name) :
    redirectToAdg? registry rule =
      some (source.withResource source.marker name ContentType.expand []) := by
  have hdialect : redirectDialect? registry source = some .ubo := by
    simp [redirectDialect?, hmarker, hunknown, hname]
  have hkind := classify_eq_redirect_iff.2 ⟨hcomment, hmasks, source, hparse, hdialect⟩
  rw [redirectToAdg?, hkind]
  exact (uboRedirectToAdg?_eq_some_iff hcomment).2 ⟨source, name, hparse, hmarker, hname, rfl⟩

/-- Converting the result of a conversion with the shipped table changes nothing, unless the
result is an Adblock Plus snippet by its mask; such a result is not converted at all. A
redirect rule of another dialect becomes an AdGuard redirect rule but for these snippets,
and they arise only when a CSS injection rule loses its shape or when a `#` moves up to the
dollar of a rule whose base ends as their mask begins. -/
theorem redirectToAdg?_eq_self_iff (h : redirectToAdg? .shipped rule = some out) :
    (redirectToAdg? .shipped out = some out ↔ Mask.isAbpSnippet out = false) ∧
    (∀ dialect, dialect ≠ .adg → classify .shipped rule = .redirect dialect →
      classify .shipped out =
        if Mask.isAbpSnippet out then .scriptlet .abp else .redirect .adg) ∧
    (Mask.isAbpSnippet out = true → redirectToAdg? .shipped out = none ∧
      ∃ dialect source, dialect ≠ .adg ∧ classify .shipped rule = .redirect dialect ∧
        RedirectRule.parse? rule = some source ∧
        (Mask.isStyleRule rule = true ∨ ClosesMask source.base rule out)) := by
  have hconverted (dialect : Dialect) (hdialect : dialect ≠ .adg)
      (hkind : classify .shipped rule = .redirect dialect) :=
    classify_of_redirectToAdg? Registry.build_shipped Registry.hasPlainResources_shipped
      (fun entry hentry => Registry.notMem_name_shipped entry hentry '#' (by decide))
      hkind hdialect h
  rcases redirectToAdg?_cases h with ⟨rfl, hkept⟩ | ⟨dialect, hdialect, hkind⟩
  · have hsnippet := isAbpSnippet_of_classify (hkept.imp_right fun hadg => ⟨_, hadg⟩)
    refine ⟨iff_of_true h hsnippet, fun other hother hkind => (hconverted other hother hkind).1, ?_⟩
    simp [hsnippet]
  · obtain ⟨hout, harises⟩ := hconverted dialect hdialect hkind
    refine ⟨?_, fun other hother hkind => (hconverted other hother hkind).1, ?_⟩
    · cases hsnippet : Mask.isAbpSnippet out with
      | false =>
        rw [hsnippet] at hout
        exact iff_of_true (redirectToAdg?_eq_self (.inr hout)) rfl
      | true =>
        rw [hsnippet] at hout
        simp [redirectToAdg?, hout]
    · intro hsnippet
      obtain ⟨source, hparse, hcause⟩ := harises hsnippet
      rw [hsnippet] at hout
      refine ⟨?_, dialect, source, hdialect, hkind, hparse, hcause⟩
      simp [redirectToAdg?, hout]

/-- A rule whose base has the beginning of a mask in it stays what it became. -/
theorem redirectToAdg?_eq_self_iff_noopjs :
    redirectToAdg? .shipped "||a.org/#$x#$ xhr ,redirect=noop.js:10".toList =
        some "||a.org/#$x#$xmlhttprequest,redirect=noopjs".toList ∧
      redirectToAdg? .shipped "||a.org/#$x#$xmlhttprequest,redirect=noopjs".toList =
        some "||a.org/#$x#$xmlhttprequest,redirect=noopjs".toList := by
  have h : redirectToAdg? .shipped "||a.org/#$x#$ xhr ,redirect=noop.js:10".toList =
      some "||a.org/#$x#$xmlhttprequest,redirect=noopjs".toList := by
    have hparse : RedirectRule.parse? "||a.org/#$x#$ xhr ,redirect=noop.js:10".toList =
      some ⟨"||a.org/#$x#".toList, ["xhr".toList], .redirect, "noop.js:10".toList, []⟩ := by decide
    exact redirectToAdg?_of_ubo rfl (by decide) hparse (by decide)
      Registry.isAdgRedirect_shipped_noopjs Registry.redirectOfUbo?_shipped_noopjs
  exact ⟨h, (redirectToAdg?_eq_self_iff h).1.2 (by decide)⟩

/-- A `#` that moves up to the dollar makes a snippet of a redirect rule. -/
theorem exists_snippet_of_redirectToAdg? :
    redirectToAdg? .shipped "||a.org/#$ #x,redirect=noop.js".toList =
        some "||a.org/#$#x,redirect=noopjs".toList ∧
      classify .shipped "||a.org/#$#x,redirect=noopjs".toList = .scriptlet .abp ∧
      redirectToAdg? .shipped "||a.org/#$#x,redirect=noopjs".toList = none := by
  have hkind : classify .shipped "||a.org/#$#x,redirect=noopjs".toList = .scriptlet .abp := rfl
  have hparse : RedirectRule.parse? "||a.org/#$ #x,redirect=noop.js".toList =
      some ⟨"||a.org/#".toList, ["#x".toList], .redirect, "noop.js".toList, []⟩ := by decide
  refine ⟨?_, hkind, ?_⟩
  · exact redirectToAdg?_of_ubo rfl (by decide) hparse (by decide)
      Registry.isAdgRedirect_shipped_noopjs Registry.redirectOfUbo?_shipped_noopjs
  · rw [redirectToAdg?, hkind]

end FixedPoints

end FilterDialects
