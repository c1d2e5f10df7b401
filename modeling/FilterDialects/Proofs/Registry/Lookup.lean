import FilterDialects.Registry.Basic

/-!
# Lookups find the first entry

An index is right for a list of entries when a lookup gives the first entry of the list
that carries the name. Adding an entry at the end keeps an index right, hence so does
indexing a whole list, and the lookups of a registry are scans of its two lists.

A list is indexed without a fault when its canonical names are neither empty nor
repeated.
-/

namespace FilterDialects

namespace NameIndex

variable {list : Section} {entries : List Entry} {index : NameIndex}

/-- Whether an entry is looked up under a key as a uBlock Origin name. -/
def carriesUbo (list : Section) (key : Text) (entry : Entry) : Bool :=
  (entry.uboNames.map (uboKey list)).contains key

/-- A resource is looked up under its uBlock Origin names as they are. -/
theorem carriesUbo_redirects_iff {name : Text} {entry : Entry} :
    carriesUbo .redirects name entry = true ↔ name ∈ entry.uboNames := by
  simp [carriesUbo, uboKey]

/-- Each lookup in the index gives the first of the entries that carries the name. -/
structure IsIndexOf (index : NameIndex) (list : Section) (entries : List Entry) : Prop where
  adg : ∀ name, index.adg[name]? = entries.find? fun entry => decide (entry.name = name)
  ubo : ∀ key, index.ubo[key]? = entries.find? (carriesUbo list key)
  abp : ∀ name, index.abp[name]? = entries.find? fun entry => decide (entry.abpName = some name)

theorem isIndexOf_empty (list : Section) : empty.IsIndexOf list [] := by
  constructor <;> intro name <;> simp [empty]

/-- An entry takes a key that is free and leaves every other key alone. -/
theorem getElem?_enter (list : Section) (entry : Entry) (names : Std.HashMap Text Entry)
    (key other : Text) :
    (enter list entry names key).2[other]? =
      names[other]?.or (if other = key then some entry else none) := by
  unfold enter
  cases hkey : names[key]? with
  | none =>
    by_cases heq : other = key
    · subst heq
      simp [hkey]
    · simp [Std.HashMap.getElem?_insert, heq, Ne.symm heq]
  | some holder =>
    by_cases heq : other = key
    · subst heq
      simp [hkey]
    · simp [heq]

theorem getElem?_enterAll (list : Section) (entry : Entry) (names : Std.HashMap Text Entry)
    (keys : List Text) (other : Text) :
    (enterAll list entry names keys).2[other]? =
      names[other]?.or (if other ∈ keys then some entry else none) := by
  induction keys generalizing names with
  | nil => simp [enterAll]
  | cons key keys ih =>
    simp only [enterAll, ih, getElem?_enter, List.mem_cons, Option.or_assoc]
    by_cases heq : other = key <;> by_cases hmem : other ∈ keys <;> simp [heq, hmem]

/-- One entry: an index stays right when an entry with a new canonical name is added. -/
theorem IsIndexOf.add (h : index.IsIndexOf list entries) {entry : Entry}
    (hnew : index.adg[entry.name]? = none) :
    (index.add list entry).2.IsIndexOf list (entries ++ [entry]) where
  adg name := by
    simp only [NameIndex.add, Std.HashMap.getElem?_insert, List.find?_append, ← h.adg]
    by_cases heq : entry.name = name
    · subst heq
      simp [hnew]
    · simp [heq]
  ubo key := by
    simp only [NameIndex.add, getElem?_enterAll, List.find?_append, ← h.ubo]
    by_cases hmem : key ∈ entry.uboNames.map (uboKey list)
    · simp [carriesUbo, hmem]
    · simp [carriesUbo, hmem]
  abp name := by
    simp only [NameIndex.add, getElem?_enterAll, List.find?_append, ← h.abp, Option.mem_toList]
    by_cases heq : entry.abpName = some name <;> simp [heq]

/-- An entry with a new name is added, and then the others are. -/
theorem addAll_cons {entry : Entry} (hnamed : entry.name ≠ [])
    (hnew : index.adg[entry.name]? = none) (rest : List Entry) :
    index.addAll list (entry :: rest) =
      ((index.add list entry).1 ++ ((index.add list entry).2.addAll list rest).1,
        ((index.add list entry).2.addAll list rest).2) := by
  have hfree : index.adg.contains entry.name = false := by
    rw [Std.HashMap.contains_eq_isSome_getElem?, hnew, Option.isSome_none]
  simp [addAll, hnamed, hfree]

/-- A list is indexed when its first entry can be added and the others after it. -/
theorem addAll_cons_eq_ok {result : NameIndex} {entry : Entry} {rest : List Entry} :
    (index.addAll list (entry :: rest)).2 = .ok result ↔
      entry.name ≠ [] ∧ index.adg[entry.name]? = none ∧
        ((index.add list entry).2.addAll list rest).2 = .ok result := by
  by_cases hnamed : entry.name = []
  · simp [addAll, hnamed]
  cases hnew : index.adg[entry.name]? with
  | some holder =>
    have htaken : index.adg.contains entry.name = true := by
      rw [Std.HashMap.contains_eq_isSome_getElem?, hnew, Option.isSome_some]
    simp [addAll, hnamed, htaken]
  | none => simp [addAll_cons hnamed hnew, hnamed]

/-- A whole list: what indexing gives is right for the entries seen before and the list. -/
theorem IsIndexOf.addAll {result : NameIndex} {rest : List Entry}
    (h : index.IsIndexOf list entries) (hresult : (index.addAll list rest).2 = .ok result) :
    result.IsIndexOf list (entries ++ rest) := by
  induction rest generalizing index entries with
  | nil =>
    obtain rfl : index = result := by simpa [NameIndex.addAll] using hresult
    simpa using h
  | cons entry rest ih =>
    obtain ⟨-, hnew, hrest⟩ := addAll_cons_eq_ok.1 hresult
    simpa using ih (h.add hnew) hrest

theorem isIndexOf_of_build {result : NameIndex} (h : (build list entries).2 = .ok result) :
    result.IsIndexOf list entries := by
  simpa using (isIndexOf_empty list).addAll h

theorem IsIndexOf.getElem?_adg_eq_none (h : index.IsIndexOf list entries) {name : Text} :
    index.adg[name]? = none ↔ name ∉ entries.map Entry.name := by
  rw [h.adg, List.find?_eq_none]
  simp

/-- A whole list: its canonical names are distinct, also from those seen before. -/
theorem IsIndexOf.nodup_of_addAll {result : NameIndex} {rest : List Entry}
    (h : index.IsIndexOf list entries) (hentries : (entries.map Entry.name).Nodup)
    (hresult : (index.addAll list rest).2 = .ok result) :
    ((entries ++ rest).map Entry.name).Nodup := by
  induction rest generalizing index entries with
  | nil => simpa using hentries
  | cons entry rest ih =>
    obtain ⟨-, hnew, hrest⟩ := addAll_cons_eq_ok.1 hresult
    have hlonger : ((entries ++ [entry]).map Entry.name).Nodup := by
      rw [List.map_append, List.map_singleton, List.nodup_append]
      refine ⟨hentries, by simp, ?_⟩
      intro name hname other hother
      rw [List.mem_singleton.1 hother]
      exact fun heq => h.getElem?_adg_eq_none.1 hnew (heq ▸ hname)
    simpa using ih (h.add hnew) hlonger hrest

theorem nodup_of_build {result : NameIndex} (h : (build list entries).2 = .ok result) :
    (entries.map Entry.name).Nodup := by
  simpa using (isIndexOf_empty list).nodup_of_addAll List.nodup_nil h

/-- Entries with canonical names that are new, not empty and distinct can all be added. -/
theorem IsIndexOf.exists_addAll {rest : List Entry} (h : index.IsIndexOf list entries)
    (hnamed : ∀ entry ∈ rest, entry.name ≠ [])
    (hdistinct : ((entries ++ rest).map Entry.name).Nodup) :
    ∃ result, (index.addAll list rest).2 = .ok result := by
  induction rest generalizing index entries with
  | nil => exact ⟨index, rfl⟩
  | cons entry rest ih =>
    have hnew : index.adg[entry.name]? = none := by
      rw [h.getElem?_adg_eq_none]
      intro hmem
      rw [List.map_append, List.map_cons] at hdistinct
      exact (List.nodup_append.1 hdistinct).2.2 _ hmem _ List.mem_cons_self rfl
    obtain ⟨result, hrest⟩ :=
      ih (h.add hnew) (fun e he => hnamed e (by simp [he])) (by simpa using hdistinct)
    exact ⟨result, addAll_cons_eq_ok.2 ⟨hnamed entry List.mem_cons_self, hnew, hrest⟩⟩

theorem exists_build_ok (hnamed : ∀ entry ∈ entries, entry.name ≠ [])
    (hdistinct : (entries.map Entry.name).Nodup) :
    ∃ result, (build list entries).2 = .ok result :=
  (isIndexOf_empty list).exists_addAll hnamed (by simpa using hdistinct)

end NameIndex

namespace Registry

variable {registry : Registry}

/-- How a table is built: the redirect resources are gone through only behind scriptlets
without a fault, and the events are those up to the fault. -/
inductive Building (table : Table)
    (scriptlets redirects : List Event × Except RegistryError NameIndex) : Prop where
  | scriptletFault (fault : RegistryError) (hs : scriptlets.2 = .error fault)
      (hbuild : build table = (scriptlets.1, .error fault))
  | redirectFault (scriptletNames : NameIndex) (fault : RegistryError)
      (hs : scriptlets.2 = .ok scriptletNames) (hr : redirects.2 = .error fault)
      (hbuild : build table = (scriptlets.1 ++ redirects.1, .error fault))
  | built (registry : Registry)
      (hs : scriptlets.2 = .ok registry.scriptletNames)
      (hr : redirects.2 = .ok registry.redirectNames)
      (hbuild : build table = (scriptlets.1 ++ redirects.1 ++
        [.registryBuilt table.scriptlets.length table.redirects.length], .ok registry))
      (hscriptlets : registry.scriptlets = table.scriptlets.map (Entry.ofRecord .scriptlets))
      (hredirects : registry.redirects = table.redirects.map (Entry.ofRecord .redirects))

theorem building (table : Table) :
    Building table (NameIndex.build .scriptlets (table.scriptlets.map (Entry.ofRecord .scriptlets)))
      (NameIndex.build .redirects (table.redirects.map (Entry.ofRecord .redirects))) := by
  have hbuild := build.eq_def table
  dsimp only at hbuild
  split at hbuild
  · next fault hs => exact .scriptletFault fault hs hbuild
  · next scriptletNames hs =>
    split at hbuild
    · next fault hr => exact .redirectFault scriptletNames fault hs hr hbuild
    · next redirectNames hr =>
      rw [List.length_map, List.length_map] at hbuild
      exact .built _ hs hr hbuild rfl rfl

theorem entries_of_build {table : Table} (h : (build table).2 = .ok registry) :
    registry.scriptlets = table.scriptlets.map (Entry.ofRecord .scriptlets) ∧
      registry.redirects = table.redirects.map (Entry.ofRecord .redirects) := by
  cases building table with
  | scriptletFault fault hs hbuild => simp [hbuild] at h
  | redirectFault scriptletNames fault hs hr hbuild => simp [hbuild] at h
  | built registry hs hr hbuild hscriptlets hredirects =>
    rw [hbuild] at h
    obtain rfl := Except.ok.inj h
    exact ⟨hscriptlets, hredirects⟩

/-- The canonical names in a list of records are neither empty nor repeated. -/
def IsWellNamed (records : List Record) : Prop :=
  (∀ record ∈ records, Text.trim record.adg ≠ []) ∧
    (records.map fun record => Text.trim record.adg).Nodup

instance (records : List Record) : Decidable (IsWellNamed records) :=
  inferInstanceAs (Decidable (_ ∧ _))

theorem IsWellNamed.exists_build_ok {records : List Record} (h : IsWellNamed records)
    (list : Section) :
    ∃ names, (NameIndex.build list (records.map (Entry.ofRecord list))).2 = .ok names := by
  refine NameIndex.exists_build_ok ?_ ?_
  · intro entry hentry
    obtain ⟨record, hrecord, rfl⟩ := List.mem_map.1 hentry
    exact h.1 record hrecord
  · rw [List.map_map]
    exact h.2

theorem exists_build_ok (table : Table) (hscriptlets : IsWellNamed table.scriptlets)
    (hredirects : IsWellNamed table.redirects) :
    ∃ registry, (build table).2 = .ok registry := by
  obtain ⟨scriptletNames, hscriptlets⟩ := hscriptlets.exists_build_ok .scriptlets
  obtain ⟨redirectNames, hredirects⟩ := hredirects.exists_build_ok .redirects
  cases building table with
  | scriptletFault fault hs _ => simp [hs] at hscriptlets
  | redirectFault _ fault _ hr _ => simp [hr] at hredirects
  | built registry _ _ hbuild _ _ => exact ⟨registry, by rw [hbuild]⟩

theorem scriptlet?_eq_find? (registry : Registry) (name : Text) :
    registry.scriptlet? name = registry.scriptlets.find? fun entry => decide (entry.name = name) :=
  (NameIndex.isIndexOf_of_build registry.scriptlets_indexed).adg name

theorem scriptletByAlias?_ubo_eq_find? (registry : Registry) (name : Text) :
    registry.scriptletByAlias? .ubo name =
      registry.scriptlets.find? (NameIndex.carriesUbo .scriptlets (dropJs name)) :=
  (NameIndex.isIndexOf_of_build registry.scriptlets_indexed).ubo (dropJs name)

theorem scriptletByAlias?_abp_eq_find? (registry : Registry) (name : Text) :
    registry.scriptletByAlias? .abp name =
      registry.scriptlets.find? fun entry => decide (entry.abpName = some name) :=
  (NameIndex.isIndexOf_of_build registry.scriptlets_indexed).abp name

theorem redirect?_eq_find? (registry : Registry) (name : Text) :
    registry.redirect? name = registry.redirects.find? fun entry => decide (entry.name = name) :=
  (NameIndex.isIndexOf_of_build registry.redirects_indexed).adg name

theorem redirectOfUbo?_eq_find? (registry : Registry) (name : Text) :
    registry.redirectOfUbo? name =
      (registry.redirects.find? (NameIndex.carriesUbo .redirects name)).map Entry.name :=
  congrArg (Option.map Entry.name)
    ((NameIndex.isIndexOf_of_build registry.redirects_indexed).ubo name)

theorem redirectOfAbp?_eq_find? (registry : Registry) (name : Text) :
    registry.redirectOfAbp? name =
      (registry.redirects.find? fun entry => decide (entry.abpName = some name)).map Entry.name :=
  congrArg (Option.map Entry.name)
    ((NameIndex.isIndexOf_of_build registry.redirects_indexed).abp name)

theorem isAdgRedirect_eq_isSome (registry : Registry) (name : Text) :
    registry.isAdgRedirect name = (registry.redirect? name).isSome :=
  Std.HashMap.contains_eq_isSome_getElem?

end Registry

end FilterDialects
