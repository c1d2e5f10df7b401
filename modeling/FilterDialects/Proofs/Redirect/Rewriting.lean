import FilterDialects.Redirect.Basic
import FilterDialects.Proofs.Redirect.Priority
import FilterDialects.Proofs.Registry.Entry
import FilterDialects.Proofs.Text.Blank

/-!
# Rewritten redirect rules, read back

The modifiers of a rule that was read are trimmed and hold neither commas nor dollars. So a
rule that is put together from such modifiers is cut at the same dollar again and gives the
same modifiers; if only one of them names a resource, that one is found.

This is all that is needed to read a rule with another resource in it: the plain modifiers
stay plain, and the new resource must fit between commas.
-/

namespace FilterDialects

namespace RedirectMarker

variable {modifier : Text}

theorem of?_eq_none_iff : of? modifier = none ↔ ∀ marker, ¬ key marker <+: modifier := by
  simp only [of?, List.find?_eq_none, List.isPrefixOf_iff_prefix]
  exact ⟨fun h marker => h marker (mem_all marker), fun h marker _ => h marker⟩

/-- No key is the beginning of another. -/
theorem of?_key_append (marker : RedirectMarker) (value : Text) :
    of? (marker.key ++ value) = some marker := by
  cases marker <;> rfl

theorem find?_contains_singleton (marker : RedirectMarker) :
    all.find? [marker].contains = some marker := by
  cases marker <;> decide

theorem trim_key (marker : RedirectMarker) : Text.trim marker.key = marker.key := by
  cases marker <;> decide

end RedirectMarker

namespace RedirectRule

variable {line resource modifier : Text} {source rule : RedirectRule} {marker : RedirectMarker}
variable {before after extra modifiers : List Text} {f : Text → Text}

/-- A modifier that can stand in a rule: trimmed, and without the characters that separate
the modifiers from the rest and from each other. -/
structure IsModifier (modifier : Text) : Prop where
  trimmed : Text.trim modifier = modifier
  comma : ',' ∉ modifier
  dollar : '$' ∉ modifier

/-- A modifier that names no resource. -/
structure IsPlain (modifier : Text) : Prop extends IsModifier modifier where
  marker : RedirectMarker.of? modifier = none

instance (modifier : Text) : Decidable (IsPlain modifier) :=
  decidable_of_iff
    (Text.trim modifier = modifier ∧ ',' ∉ modifier ∧ '$' ∉ modifier ∧
      RedirectMarker.of? modifier = none)
    ⟨fun ⟨htrim, hcomma, hdollar, hmarker⟩ => ⟨⟨htrim, hcomma, hdollar⟩, hmarker⟩,
      fun ⟨⟨htrim, hcomma, hdollar⟩, hmarker⟩ => ⟨htrim, hcomma, hdollar, hmarker⟩⟩

theorem isModifier_key_append (marker : RedirectMarker) (htrim : Text.trim resource = resource)
    (hcomma : ',' ∉ resource) (hdollar : '$' ∉ resource) :
    IsModifier (marker.key ++ resource) where
  trimmed := by
    refine Text.trim_append marker.trim_key ?_ htrim
    cases marker <;> decide
  comma := by
    rw [List.mem_append, not_or]
    refine ⟨?_, hcomma⟩
    cases marker <;> decide
  dollar := by
    rw [List.mem_append, not_or]
    refine ⟨?_, hdollar⟩
    cases marker <;> decide

section Read

/-- What a rule that was read looks like. -/
theorem exists_of_parse? (h : parse? line = some source) :
    ∃ options, source.base ++ '$' :: options = line ∧ '$' ∉ options ∧
      source.modifiers = (options.splitOn ',').map Text.trim := by
  unfold parse? at h
  split at h
  · contradiction
  · next base options hcut =>
    dsimp only at h
    split at h
    · obtain ⟨marker, -, hmarker⟩ := Option.bind_eq_some_iff.1 h
      obtain ⟨⟨before, value, after⟩, hmodifiers, rfl⟩ := Option.map_eq_some_iff.1 hmarker
      obtain ⟨hline, hdollar⟩ := Text.cutLast?_eq_some_iff.1 hcut
      exact ⟨options, hline, hdollar, append_of_cutModifiers? hmodifiers⟩
    · contradiction

theorem notMem_of_mem_splitOn {options piece : Text} (hpiece : piece ∈ options.splitOn ',') :
    ',' ∉ piece := by
  rw [List.splitOn_eq_splitOnP] at hpiece
  intro hcomma
  have hseparates := Entry.separates_of_mem_splitOnP hpiece hcomma
  simp at hseparates

/-- A trimmed piece stands in the text it was cut from. -/
theorem infix_of_mem_map_trim {options : Text}
    (hmem : modifier ∈ (options.splitOn ',').map Text.trim) : modifier <:+: options := by
  obtain ⟨piece, hpiece, rfl⟩ := List.mem_map.1 hmem
  exact (Text.trim_isInfix piece).trans (Text.infix_of_mem_splitOn hpiece)

theorem isModifier_of_mem (h : parse? line = some source) (hmem : modifier ∈ source.modifiers) :
    IsModifier modifier := by
  obtain ⟨options, -, hdollar, hmodifiers⟩ := exists_of_parse? h
  rw [hmodifiers] at hmem
  have hin := infix_of_mem_map_trim hmem
  obtain ⟨piece, hpiece, rfl⟩ := List.mem_map.1 hmem
  refine ⟨Text.trim_trim piece, ?_, fun hthere => hdollar (hin.subset hthere)⟩
  exact fun hcomma => notMem_of_mem_splitOn hpiece ((Text.trim_isInfix piece).subset hcomma)

theorem notMem_value (h : parse? line = some source) : ',' ∉ source.value ∧ '$' ∉ source.value := by
  have hmodifier : IsModifier (source.marker.key ++ source.value) :=
    isModifier_of_mem h (List.mem_append_right _ List.mem_cons_self)
  exact ⟨fun hmem => hmodifier.comma (List.mem_append_right _ hmem),
    fun hmem => hmodifier.dollar (List.mem_append_right _ hmem)⟩

theorem infix_of_mem_modifiers (h : parse? line = some source)
    (hmem : modifier ∈ source.modifiers) : modifier <:+: line := by
  obtain ⟨options, rfl, -, hmodifiers⟩ := exists_of_parse? h
  rw [hmodifiers] at hmem
  have hrest : options <:+ source.base ++ '$' :: options :=
    List.suffix_append_of_suffix (List.suffix_cons '$' options)
  exact (infix_of_mem_map_trim hmem).trans hrest.isInfix

end Read

section Written

/-- A row of modifiers is cut around the only one that names a resource. -/
theorem cutModifiers?_append (hbefore : ∀ modifier ∈ before, RedirectMarker.of? modifier = none)
    (marker : RedirectMarker) (resource : Text) (after : List Text) :
    cutModifiers? marker (before ++ (marker.key ++ resource) :: after) =
      some (before, resource, after) := by
  induction before with
  | nil =>
    have hkey : marker.key.isPrefixOf? (marker.key ++ resource) = some resource :=
      Text.isPrefixOf?_eq_some.2 rfl
    rw [List.nil_append, cutModifiers?, hkey]
  | cons first before ih =>
    have hother : marker.key.isPrefixOf? first = none := by
      rw [Text.isPrefixOf?_eq_none_iff]
      exact RedirectMarker.of?_eq_none_iff.1 (hbefore first List.mem_cons_self) marker
    have hlater := ih fun modifier hmem => hbefore modifier (List.mem_cons_of_mem first hmem)
    rw [List.cons_append, cutModifiers?, hother, hlater]
    rfl

theorem filterMap_of?_append (hbefore : ∀ modifier ∈ before, RedirectMarker.of? modifier = none)
    (hafter : ∀ modifier ∈ after, RedirectMarker.of? modifier = none) :
    (before ++ (marker.key ++ resource) :: after).filterMap RedirectMarker.of? = [marker] := by
  rw [List.filterMap_append, List.filterMap_cons, RedirectMarker.of?_key_append,
    List.filterMap_eq_nil_iff.2 hbefore, List.filterMap_eq_nil_iff.2 hafter]
  rfl

/-- A rule that is put together from pieces with blanks around them reads as their trimmed
parts, when one of them names a resource. -/
theorem parse?_intercalate_pieces {pieces : List Text} (base : Text)
    (hcomma : ∀ piece ∈ pieces, ',' ∉ piece) (hdollar : ∀ piece ∈ pieces, '$' ∉ piece)
    (htrim : pieces.map Text.trim = before ++ (marker.key ++ resource) :: after)
    (hbefore : ∀ modifier ∈ before, RedirectMarker.of? modifier = none)
    (hafter : ∀ modifier ∈ after, RedirectMarker.of? modifier = none) :
    parse? (base ++ '$' :: [','].intercalate pieces) =
      some ⟨base, before, marker, resource, after⟩ := by
  have hne : pieces ≠ [] := by
    rintro rfl
    simp at htrim
  have hlast : '$' ∉ [','].intercalate pieces := Text.notMem_intercalate (by decide) hdollar
  have hsplit := List.splitOn_intercalate ',' hcomma hne
  have hmarkers : (before ++ (marker.key ++ resource) :: after).filterMap RedirectMarker.of? =
      [marker] := filterMap_of?_append hbefore hafter
  have hcut := cutModifiers?_append hbefore marker resource after
  have hcompatible : areCompatible [marker] = true := by cases marker <;> decide
  simp only [parse?, Text.cutLast?_append_cons hlast, hsplit, htrim, hmarkers, hcompatible,
    RedirectMarker.find?_contains_singleton, hcut, if_true, Option.bind_some, Option.map_some]

theorem parse?_intercalate (base : Text) (hbefore : ∀ modifier ∈ before, IsPlain modifier)
    (hresource : IsModifier (marker.key ++ resource))
    (hafter : ∀ modifier ∈ after, IsPlain modifier) :
    parse? (base ++ '$' :: [','].intercalate (before ++ (marker.key ++ resource) :: after)) =
      some ⟨base, before, marker, resource, after⟩ := by
  have hall : ∀ modifier ∈ before ++ (marker.key ++ resource) :: after,
      IsModifier modifier := by
    intro modifier hmem
    rcases List.mem_append.1 hmem with hmem | hmem
    · exact (hbefore modifier hmem).toIsModifier
    · rcases List.mem_cons.1 hmem with rfl | hmem
      · exact hresource
      · exact (hafter modifier hmem).toIsModifier
  have htrim : (before ++ (marker.key ++ resource) :: after).map Text.trim =
      before ++ (marker.key ++ resource) :: after :=
    (List.map_congr_left fun modifier hmem => (hall modifier hmem).trimmed).trans (List.map_id _)
  exact parse?_intercalate_pieces base (fun modifier hmem => (hall modifier hmem).comma)
    (fun modifier hmem => (hall modifier hmem).dollar) htrim
    (fun modifier hmem => (hbefore modifier hmem).marker)
    fun modifier hmem => (hafter modifier hmem).marker

end Written

section Rewritten

theorem before_subset (rule : RedirectRule) : rule.before ⊆ rule.modifiers :=
  List.subset_append_left _ _

theorem after_subset (rule : RedirectRule) : rule.after ⊆ rule.modifiers :=
  fun _ hmem => List.mem_append_right _ (List.mem_cons_of_mem _ hmem)

/-- What is left of a row of modifiers is plain, when the images of the plain ones in it are. -/
theorem isPlain_of_mem_mapPlain
    (hf : ∀ modifier ∈ modifiers, RedirectMarker.of? modifier = none → IsPlain (f modifier)) :
    ∀ modifier ∈ mapPlain f modifiers, IsPlain modifier := by
  intro modifier hmem
  obtain ⟨original, hkept, rfl⟩ := List.mem_map.1 hmem
  obtain ⟨horiginal, hmarker⟩ := List.mem_filter.1 hkept
  exact hf original horiginal (Option.isNone_iff_eq_none.1 hmarker)

/-- How a rule reads after another resource was put into it: the chosen modifier names the
resource alone, every other modifier that names one is gone, and the plain ones stand where
they were, each replaced by its image and with the additional ones behind. -/
structure IsRewriting (result source : RedirectRule) (marker : RedirectMarker) (resource : Text)
    (f : Text → Text) (extra : List Text) : Prop where
  base_eq : result.base = source.base
  isException_eq : result.isException = source.isException
  marker_eq : result.marker = marker
  resource_eq : result.resource = resource
  priority_eq : result.priority = none
  hasSingleMarker : result.hasSingleMarker = true
  modifiers_eq : result.modifiers =
    (source.before.filter fun modifier => (RedirectMarker.of? modifier).isNone).map f ++
      (marker.key ++ resource) ::
        (source.after.filter fun modifier => (RedirectMarker.of? modifier).isNone).map f ++ extra

/-- A resource that fits between commas and does not end in a priority can be put into any
rule, if the images of its plain modifiers fit there as well. -/
theorem exists_isRewriting_of_images (source : RedirectRule)
    (hresource : IsModifier (marker.key ++ resource))
    (hpriority : ¬ Priority.EndsInPriority resource)
    (hf : ∀ modifier ∈ source.modifiers,
      RedirectMarker.of? modifier = none → IsPlain (f modifier))
    (hextra : ∀ modifier ∈ extra, IsPlain modifier) :
    ∃ result, parse? (source.withResource marker resource f extra) = some result ∧
      result.IsRewriting source marker resource f extra := by
  have hbefore : ∀ modifier ∈ mapPlain f source.before, IsPlain modifier :=
    isPlain_of_mem_mapPlain fun modifier hmem => hf modifier (source.before_subset hmem)
  have hafter : ∀ modifier ∈ mapPlain f source.after ++ extra, IsPlain modifier := by
    intro modifier hmem
    rcases List.mem_append.1 hmem with hmem | hmem
    · exact isPlain_of_mem_mapPlain (fun modifier hmem => hf modifier (source.after_subset hmem))
        modifier hmem
    · exact hextra modifier hmem
  have hwritten : source.withResource marker resource f extra =
      source.base ++ '$' :: [','].intercalate
        (mapPlain f source.before ++ (marker.key ++ resource) ::
          (mapPlain f source.after ++ extra)) := by
    rw [withResource, List.append_assoc, List.cons_append]
  have hsplit := Priority.split_eq_self_iff.2 hpriority
  refine ⟨_, hwritten ▸ parse?_intercalate source.base hbefore hresource hafter, ?_⟩
  constructor
  · rfl
  · rfl
  · rfl
  · exact congrArg Prod.fst hsplit
  · exact congrArg Prod.snd hsplit
  · rw [RedirectRule.hasSingleMarker, List.all_eq_true]
    intro modifier hmem
    rw [((List.mem_append.1 hmem).elim (hbefore modifier) (hafter modifier)).marker]
    rfl
  · simp [RedirectRule.modifiers, mapPlain]

/-- A rule that was read can be rewritten by any map that leaves plain modifiers plain. -/
theorem exists_isRewriting (h : parse? line = some source)
    (hresource : IsModifier (marker.key ++ resource))
    (hpriority : ¬ Priority.EndsInPriority resource)
    (hf : ∀ modifier, IsPlain modifier → IsPlain (f modifier))
    (hextra : ∀ modifier ∈ extra, IsPlain modifier) :
    ∃ result, parse? (source.withResource marker resource f extra) = some result ∧
      result.IsRewriting source marker resource f extra := by
  refine exists_isRewriting_of_images source hresource hpriority ?_ hextra
  intro modifier hmem hmarker
  exact hf modifier ⟨isModifier_of_mem h hmem, hmarker⟩

/-- Reading undoes rewriting. A trimmed resource without commas and dollars that does not end
in a priority can stand behind every marker; the rule it is put into need not have been read
from a line, and its own resource does not matter. -/
theorem exists_isRewriting_of_trimmed (source : RedirectRule) (marker : RedirectMarker)
    (htrim : Text.trim resource = resource) (hcomma : ',' ∉ resource) (hdollar : '$' ∉ resource)
    (hpriority : ¬ Priority.EndsInPriority resource)
    (hf : ∀ modifier ∈ source.modifiers,
      RedirectMarker.of? modifier = none → IsPlain (f modifier))
    (hextra : ∀ modifier ∈ extra, IsPlain modifier) :
    ∃ result, parse? (source.withResource marker resource f extra) = some result ∧
      result.IsRewriting source marker resource f extra :=
  exists_isRewriting_of_images source (isModifier_key_append marker htrim hcomma hdollar) hpriority
    hf hextra

/-- A rule with a dollar and a comma in its base and with both AdGuard markers, rewritten to
the marker of Adblock Plus and to a name with a colon. -/
theorem exists_isRewriting_of_trimmed_colon :
    ∃ source result : RedirectRule,
      parse? "@@a/$b,c$~xhr , redirect-rule=a.js,redirect=noop.js:5,".toList = some source ∧
        source.withResource .abpResource "a:b".toList ContentType.expand ["css".toList] =
          "@@a/$b,c$~xmlhttprequest,rewrite=abp-resource:a:b,,css".toList ∧
        parse? "@@a/$b,c$~xmlhttprequest,rewrite=abp-resource:a:b,,css".toList = some result ∧
        result.IsRewriting source .abpResource "a:b".toList ContentType.expand
          ["css".toList] := by
  obtain ⟨source, hsource, hmodifiers, hwritten⟩ : ∃ source : RedirectRule,
      parse? "@@a/$b,c$~xhr , redirect-rule=a.js,redirect=noop.js:5,".toList = some source ∧
        source.modifiers = ["~xhr".toList, "redirect-rule=a.js".toList,
          "redirect=noop.js:5".toList, []] ∧
        source.withResource .abpResource "a:b".toList ContentType.expand ["css".toList] =
          "@@a/$b,c$~xmlhttprequest,rewrite=abp-resource:a:b,,css".toList :=
    ⟨⟨"@@a/$b,c".toList, ["~xhr".toList, "redirect-rule=a.js".toList], .redirect,
      "noop.js:5".toList, [[]]⟩, by decide, by decide, by decide⟩
  have himages : ∀ modifier ∈ source.modifiers,
      RedirectMarker.of? modifier = none → IsPlain (ContentType.expand modifier) := by
    rw [hmodifiers]
    decide
  have hpriority : ¬ Priority.EndsInPriority "a:b".toList := by decide
  have hextra : ∀ modifier ∈ ["css".toList], IsPlain modifier := by decide
  obtain ⟨result, hresult, hrewriting⟩ := exists_isRewriting_of_trimmed source .abpResource
    (by decide) (by decide) (by decide) hpriority himages hextra
  rw [hwritten] at hresult
  exact ⟨source, result, hsource, hwritten, hresult, hrewriting⟩

end Rewritten

end RedirectRule

end FilterDialects
