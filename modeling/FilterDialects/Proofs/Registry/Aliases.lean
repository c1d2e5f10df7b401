import FilterDialects.Proofs.Registry.Entry
import FilterDialects.Proofs.Registry.Lookup

/-!
# Registries with plain aliases

An alias is written into a rule without quotes and read back from there, and a lookup of
what was read has to find the entry that it was taken from. That depends on the aliases
alone: no two entries may share one, and an alias has to survive the way through a rule.
-/

namespace FilterDialects.Registry

variable {registry : Registry} {entry : Entry} {name : Text}

/-- The uBlock Origin names of scriptlets can stand in rules and tell the scriptlets apart,
also without their extension. No canonical name looks like a marked alias. -/
structure HasPlainAliases (registry : Registry) : Prop where
  ne_nil : ∀ entry ∈ registry.scriptlets, ∀ name ∈ entry.uboNames, dropJs name ≠ []
  not_js : ∀ entry ∈ registry.scriptlets, ∀ name ∈ entry.uboNames, ¬ ".js".toList <:+ dropJs name
  not_backslash : ∀ entry ∈ registry.scriptlets, ∀ name ∈ entry.uboNames,
    (dropJs name).getLast? ≠ some '\\'
  not_hash : ∀ entry ∈ registry.scriptlets, ∀ name ∈ entry.uboNames, '#' ∉ dropJs name
  unique : ∀ entry ∈ registry.scriptlets, ∀ other ∈ registry.scriptlets,
    ∀ name ∈ entry.uboNames, ∀ name' ∈ other.uboNames, dropJs name = dropJs name' → entry = other
  not_marked : ∀ entry ∈ registry.scriptlets, ¬ uboMark <+: entry.name

theorem exists_of_entries {table : Table} {entries : List Entry}
    (hscriptlets : IsWellNamed table.scriptlets)
    (hredirects : IsWellNamed table.redirects)
    (hentries : table.scriptlets.map (Entry.ofRecord .scriptlets) = entries)
    (hplain : ∀ registry : Registry, registry.scriptlets = entries → registry.HasPlainAliases) :
    ∃ registry, (build table).2 = .ok registry ∧ registry.scriptlets = entries ∧
      registry.HasPlainAliases := by
  obtain ⟨registry, hbuild⟩ := exists_build_ok table hscriptlets hredirects
  have hsame : registry.scriptlets = entries := (entries_of_build hbuild).1.trans hentries
  exact ⟨registry, hbuild, hsame, hplain registry hsame⟩

/-- A single scriptlet with a short name has plain aliases. -/
theorem exists_hasPlainAliases :
    ∃ registry, (build ⟨[⟨"set-constant".toList, some "set.js".toList, none⟩], []⟩).2 =
        .ok registry ∧
      registry.scriptlets = [⟨"set-constant".toList, ["set.js".toList], none, none⟩] ∧
        registry.HasPlainAliases := by
  refine exists_of_entries (by decide) (by decide) rfl fun registry hentries => ?_
  constructor <;> rw [hentries] <;> decide

/-- So do the two scriptlets whose values are spelled differently. -/
theorem exists_hasPlainAliases_fetch :
    ∃ registry, (build ⟨[⟨"set-constant".toList, some "set.js".toList, none⟩,
        ⟨"prevent-fetch".toList, some "no-fetch-if.js".toList, none⟩], []⟩).2 = .ok registry ∧
      registry.scriptlets = [⟨"set-constant".toList, ["set.js".toList], none, none⟩,
        ⟨"prevent-fetch".toList, ["no-fetch-if.js".toList], none, none⟩] ∧
        registry.HasPlainAliases := by
  refine exists_of_entries (by decide) (by decide) rfl fun registry hentries => ?_
  constructor <;> rw [hentries] <;> decide

theorem mem_of_findScriptlet? (h : registry.findScriptlet? name = some entry) :
    entry ∈ registry.scriptlets := by
  unfold findScriptlet? at h
  split at h
  · next found hfound =>
    cases h
    rw [scriptlet?_eq_find?] at hfound
    exact List.mem_of_find?_eq_some hfound
  · split at h
    · rw [scriptletByAlias?_ubo_eq_find?] at h
      exact List.mem_of_find?_eq_some h
    · split at h
      · rw [scriptletByAlias?_abp_eq_find?] at h
        exact List.mem_of_find?_eq_some h
      · rw [scriptletByAlias?_ubo_eq_find?] at h
        exact List.mem_of_find?_eq_some h

theorem mem_of_scriptletByAlias?_ubo (h : registry.scriptletByAlias? .ubo name = some entry) :
    entry ∈ registry.scriptlets ∧ ∃ name' ∈ entry.uboNames, dropJs name' = dropJs name := by
  rw [scriptletByAlias?_ubo_eq_find?] at h
  have hcarries := List.find?_some h
  refine ⟨List.mem_of_find?_eq_some h, ?_⟩
  simpa [NameIndex.carriesUbo, NameIndex.uboKey] using hcarries

/-- The aliases of a registry were cut out of a table at the characters between names. -/
theorem separatesNames_of_build {table : Table} (hbuild : (build table).2 = .ok registry)
    (hentry : entry ∈ registry.scriptlets) (hname : name ∈ entry.uboNames) {c : Char}
    (hc : c ∈ name) : Entry.separatesNames c = false := by
  rw [(entries_of_build hbuild).1] at hentry
  obtain ⟨record, -, rfl⟩ := List.mem_map.1 hentry
  exact Entry.separatesNames_of_mem_uboNames hname hc

namespace HasPlainAliases

/-- An alias without its extension stands for the entry that carries it. -/
theorem scriptletByAlias?_of_mem (h : registry.HasPlainAliases)
    (hentry : entry ∈ registry.scriptlets) (hname : name ∈ entry.uboNames) :
    registry.scriptletByAlias? .ubo (dropJs name) = some entry := by
  have hkey : dropJs (dropJs name) = dropJs name :=
    dropJs_of_not_suffix (h.not_js entry hentry name hname)
  have hcarries : NameIndex.carriesUbo .scriptlets (dropJs name) entry = true := by
    simpa [NameIndex.carriesUbo, NameIndex.uboKey] using ⟨name, hname, rfl⟩
  cases hfind : registry.scriptletByAlias? .ubo (dropJs name) with
  | none =>
    rw [scriptletByAlias?_ubo_eq_find?, hkey, List.find?_eq_none] at hfind
    exact absurd hcarries (hfind entry hentry)
  | some other =>
    obtain ⟨hother, name', hname', heq⟩ := mem_of_scriptletByAlias?_ubo hfind
    rw [h.unique entry hentry other hother name hname name' hname' (heq.trans hkey).symm]

theorem findScriptlet?_marked (h : registry.HasPlainAliases) (name : Text) :
    registry.findScriptlet? (uboMark ++ name) = registry.scriptletByAlias? .ubo name := by
  have hnone : registry.scriptlet? (uboMark ++ name) = none := by
    rw [scriptlet?_eq_find?, List.find?_eq_none]
    intro entry hentry heq
    refine h.not_marked entry hentry ?_
    rw [of_decide_eq_true heq]
    exact List.prefix_append _ _
  have hmark : uboMark.isPrefixOf? (uboMark ++ name) = some name :=
    Text.isPrefixOf?_eq_some.2 rfl
  rw [findScriptlet?, hnone, hmark]

end HasPlainAliases

end FilterDialects.Registry
