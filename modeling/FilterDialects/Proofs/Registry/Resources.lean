import FilterDialects.Proofs.Redirect.ContentType
import FilterDialects.Proofs.Registry.Scan

/-!
# Registries with plain resource names

A resource name is written into a rule and read back from there. A name that came out of a
table is trimmed, and a uBlock Origin name has no comma either; for the rest it depends on
the table whether a name can stand in a rule: it must not hold what cuts a rule, and its
end must not read as a priority.
-/

namespace FilterDialects.Registry

open RedirectRule (IsModifier IsPlain)

variable {registry : Registry} {table : Table} {entry : Entry} {name canonical : Text}
variable {types : List Text}

/-- The canonical names of redirect resources can stand in rules. -/
structure HasPlainResources (registry : Registry) : Prop where
  not_dollar : ∀ entry ∈ registry.redirects, '$' ∉ entry.name
  not_comma : ∀ entry ∈ registry.redirects, ',' ∉ entry.name
  not_priority : ∀ entry ∈ registry.redirects, ¬ Priority.EndsInPriority entry.name

/-- The uBlock Origin names of redirect resources can stand in rules. -/
structure HasPlainResourceAliases (registry : Registry) : Prop where
  not_dollar : ∀ entry ∈ registry.redirects, ∀ name ∈ entry.uboNames, '$' ∉ name
  not_priority : ∀ entry ∈ registry.redirects, ∀ name ∈ entry.uboNames,
    ¬ Priority.EndsInPriority name

section Table

theorem exists_record_of_mem_redirects (hbuild : (build table).2 = .ok registry)
    (hentry : entry ∈ registry.redirects) :
    ∃ record ∈ table.redirects, entry = Entry.ofRecord .redirects record := by
  rw [(entries_of_build hbuild).2] at hentry
  obtain ⟨record, hrecord, rfl⟩ := List.mem_map.1 hentry
  exact ⟨record, hrecord, rfl⟩

theorem contentTypes_eq_some (hbuild : (build table).2 = .ok registry)
    (hentry : entry ∈ registry.redirects) (h : entry.contentTypes = some types) :
    types ≠ [] ∧ ∀ type ∈ types, IsPlain type ∧ ContentType.isContentType type = true := by
  obtain ⟨record, -, rfl⟩ := exists_record_of_mem_redirects hbuild hentry
  exact ContentType.implied?_eq_some h

theorem HasPlainResources.isModifier (h : registry.HasPlainResources)
    (hbuild : (build table).2 = .ok registry) (hentry : entry ∈ registry.redirects)
    (marker : RedirectMarker) : IsModifier (marker.key ++ entry.name) := by
  refine RedirectRule.isModifier_key_append marker ?_ (h.not_comma entry hentry)
    (h.not_dollar entry hentry)
  obtain ⟨record, -, rfl⟩ := exists_record_of_mem_redirects hbuild hentry
  exact Text.trim_trim record.adg

theorem HasPlainResourceAliases.isModifier (h : registry.HasPlainResourceAliases)
    (hbuild : (build table).2 = .ok registry) (hentry : entry ∈ registry.redirects)
    (hname : name ∈ entry.uboNames) (marker : RedirectMarker) :
    IsModifier (marker.key ++ name) := by
  have hseparates : ∀ c ∈ name, Entry.separatesNames c = false := by
    obtain ⟨record, -, rfl⟩ := exists_record_of_mem_redirects hbuild hentry
    exact fun c hc => Entry.separatesNames_of_mem_uboNames hname hc
  have htrim : Text.trim name = name := by
    refine Text.trim_of_forall ?_
    intro c hc
    have hplain := hseparates c hc
    simp only [Entry.separatesNames, Bool.or_eq_false_iff] at hplain
    exact hplain.2
  have hcomma : ',' ∉ name := fun hmem => absurd (hseparates ',' hmem) (by decide)
  exact RedirectRule.isModifier_key_append marker htrim hcomma
    (h.not_dollar entry hentry name hname)

end Table

section Lookups

theorem isAdgRedirect_iff :
    registry.isAdgRedirect name = true ↔ ∃ entry ∈ registry.redirects, entry.name = name := by
  rw [isAdgRedirect_eq_isSome, Option.isSome_iff_exists]
  exact exists_congr fun entry => redirect?_eq_some_iff

theorem isAdgRedirect_of_mem (hentry : entry ∈ registry.redirects) :
    registry.isAdgRedirect entry.name = true :=
  isAdgRedirect_iff.2 ⟨entry, hentry, rfl⟩

theorem exists_of_find? {p : Entry → Bool}
    (h : (registry.redirects.find? p).map Entry.name = some canonical) :
    ∃ entry ∈ registry.redirects, entry.name = canonical := by
  obtain ⟨entry, hfind, hname⟩ := Option.map_eq_some_iff.1 h
  exact ⟨entry, List.mem_of_find?_eq_some hfind, hname⟩

theorem exists_of_redirectOfUbo? (h : registry.redirectOfUbo? name = some canonical) :
    ∃ entry ∈ registry.redirects, entry.name = canonical := by
  rw [redirectOfUbo?_eq_find?] at h
  exact exists_of_find? h

theorem exists_of_redirectOfAbp? (h : registry.redirectOfAbp? name = some canonical) :
    ∃ entry ∈ registry.redirects, entry.name = canonical := by
  rw [redirectOfAbp?_eq_find?] at h
  exact exists_of_find? h

theorem redirectToUbo?_eq_some_iff :
    registry.redirectToUbo? canonical = some name ↔
      ∃ entry ∈ registry.redirects, entry.name = canonical ∧ entry.uboNames.head? = some name := by
  rw [redirectToUbo?, Option.bind_eq_some_iff]
  exact exists_congr fun entry => by rw [redirect?_eq_some_iff, and_assoc]; rfl

theorem contentTypes?_of_mem (hentry : entry ∈ registry.redirects) :
    registry.contentTypes? entry.name = entry.contentTypes := by
  rw [contentTypes?, redirect?_eq_some_iff.2 ⟨hentry, rfl⟩]
  rfl

/-- A uBlock Origin name stands for the first entry that carries it. -/
theorem redirectOfUbo?_of_first {before after : List Entry}
    (hentries : registry.redirects = before ++ entry :: after) (hname : name ∈ entry.uboNames)
    (hfirst : ∀ other ∈ before, name ∉ other.uboNames) :
    registry.redirectOfUbo? name = some entry.name := by
  have hnone : before.find? (NameIndex.carriesUbo .redirects name) = none := by
    rw [List.find?_eq_none]
    intro other hother
    rw [NameIndex.carriesUbo_redirects_iff]
    exact hfirst other hother
  rw [redirectOfUbo?_eq_find?, hentries, List.find?_append, hnone, Option.none_or,
    List.find?_cons_of_pos (NameIndex.carriesUbo_redirects_iff.2 hname)]
  rfl

end Lookups

theorem exists_hasPlainResources :
    ∃ registry : Registry,
      (build ⟨[], [Table.record "noopjs" (some "noop.js") (some "blank-js")]⟩).2 = .ok registry ∧
      registry.redirects = [⟨"noopjs".toList, ["noop.js".toList], some "blank-js".toList,
        some ["script".toList]⟩] ∧
      registry.HasPlainResources ∧ registry.HasPlainResourceAliases := by
  obtain ⟨registry, hbuild⟩ := exists_build_ok
    ⟨[], [Table.record "noopjs" (some "noop.js") (some "blank-js")]⟩ (by decide) (by decide)
  have hentries : registry.redirects = [⟨"noopjs".toList, ["noop.js".toList],
      some "blank-js".toList, some ["script".toList]⟩] := (entries_of_build hbuild).2
  refine ⟨registry, hbuild, hentries, ?_, ?_⟩
  · constructor <;> rw [hentries] <;> decide
  · constructor <;> rw [hentries] <;> decide

end FilterDialects.Registry
