import FilterDialects.Proofs.Registry.Faults
import Mathlib.Data.List.Basic

/-!
# Shared aliases are reported

While a list is indexed, a warning is given for each occurrence of an alias whose key an
earlier entry of the list carries. What an index tells apart when an alias is entered is
thereby a property of the list alone: nothing in it depends on the aliases that were
entered in between, because a key stays with the first entry that has it.
-/

namespace FilterDialects

/-- The keys of the aliases of an entry, dialect by dialect, in the order in which they are
entered. -/
def Entry.aliasKeys (list : Section) (entry : Entry) : List (Dialect × Text) :=
  (entry.uboNames.map fun name => (.ubo, NameIndex.uboKey list name)) ++
    entry.abpName.toList.map fun name => (.abp, name)

namespace NameIndex

variable {list : Section} {index result : NameIndex} {entries rest : List Entry}
variable {entry other : Entry} {key : Text}

/-- The warning for a key of an entry, if one of the earlier entries carries it. The first of
these keeps it. -/
def collision? (list : Section) (earlier : List Entry) (entry : Entry) (key : Dialect × Text) :
    Option Event :=
  (earlier.find? fun other => decide (key ∈ other.aliasKeys list)).map fun holder =>
    .aliasShared list key.2 holder.name entry.name

/-- The warnings of a list of entries, where each entry is held against those before it. -/
def collisions (list : Section) (entries : List Entry) : List Event :=
  entries.zipIdx.flatMap fun (entry, position) =>
    (entry.aliasKeys list).filterMap (collision? list (entries.take position) entry)

section Collisions

@[simp] theorem collisions_nil : collisions list [] = [] := rfl

/-- An entry at the end of a list is held against all the others. -/
theorem collisions_concat :
    collisions list (entries ++ [entry]) =
      collisions list entries ++
        (entry.aliasKeys list).filterMap (collision? list entries entry) := by
  unfold collisions
  rw [List.zipIdx_append, List.flatMap_append]
  congr 1
  · apply List.flatMap_congr
    rintro ⟨other, position⟩ hmem
    have hposition : position < entries.length := by
      simpa using (List.mem_zipIdx hmem).2.1
    simp only [List.take_append_of_le_length (Nat.le_of_lt hposition)]
  · simp

theorem level_of_mem_collisions {event : Event} (h : event ∈ collisions list entries) :
    event.level = .warn := by
  obtain ⟨⟨entry, position⟩, -, hmem⟩ := List.mem_flatMap.1 h
  obtain ⟨key, -, hcollision⟩ := List.mem_filterMap.1 hmem
  obtain ⟨holder, -, rfl⟩ := Option.map_eq_some_iff.1 hcollision
  rfl

theorem collision?_eq_none_iff {earlier : List Entry} {key : Dialect × Text} :
    collision? list earlier entry key = none ↔ ∀ other ∈ earlier, key ∉ other.aliasKeys list := by
  simp [collision?]

/-- There is nothing to warn of exactly when no two entries have a key in common. -/
theorem collisions_eq_nil_iff :
    collisions list entries = [] ↔
      entries.Pairwise fun entry other =>
        (entry.aliasKeys list).Disjoint (other.aliasKeys list) := by
  induction entries using List.reverseRecOn with
  | nil => simp
  | append_singleton entries entry ih =>
    rw [collisions_concat, List.append_eq_nil_iff, ih, List.filterMap_eq_nil_iff,
      List.pairwise_append]
    simp only [collision?_eq_none_iff, List.pairwise_singleton, List.mem_singleton, forall_eq,
      true_and]
    refine and_congr_right fun _ => ⟨?_, ?_⟩
    · intro h other hother key hkey hentry
      exact h key hentry other hother hkey
    · intro h key hentry other hother hkey
      exact h other hother hkey hentry

end Collisions

section Indexing

theorem mem_aliasKeys_ubo :
    (Dialect.ubo, key) ∈ entry.aliasKeys list ↔ carriesUbo list key entry = true := by
  simp [Entry.aliasKeys, carriesUbo]

theorem mem_aliasKeys_abp :
    (Dialect.abp, key) ∈ entry.aliasKeys list ↔ entry.abpName = some key := by
  simp [Entry.aliasKeys]

/-- Entering an entry under a key warns of another holder of the key. -/
theorem enter_fst (list : Section) (entry : Entry) (names : Std.HashMap Text Entry) (key : Text) :
    (enter list entry names key).1 =
      ((names[key]?.filter fun holder => decide (holder.name ≠ entry.name)).map fun holder =>
        .aliasShared list key holder.name entry.name).toList := by
  unfold enter
  cases names[key]? with
  | none => rfl
  | some holder =>
    rw [Option.filter_some]
    by_cases heq : holder.name = entry.name <;> simp [heq]

/-- A key that an entry takes for itself has no other holder afterwards either. -/
theorem filter_getElem?_enter (list : Section) (entry : Entry) (names : Std.HashMap Text Entry)
    (key other : Text) :
    ((enter list entry names key).2[other]?.filter fun holder =>
        decide (holder.name ≠ entry.name)) =
      names[other]?.filter fun holder => decide (holder.name ≠ entry.name) := by
  rw [getElem?_enter]
  cases names[other]? with
  | none => by_cases heq : other = key <;> simp [heq]
  | some holder => rfl

/-- Every warning of an entry is about a key as it was before the entry came. -/
theorem enterAll_fst (list : Section) (entry : Entry) (names : Std.HashMap Text Entry)
    (keys : List Text) :
    (enterAll list entry names keys).1 = keys.filterMap fun key =>
      (names[key]?.filter fun holder => decide (holder.name ≠ entry.name)).map fun holder =>
        .aliasShared list key holder.name entry.name := by
  induction keys generalizing names with
  | nil => rfl
  | cons key keys ih =>
    simp only [enterAll, ih, enter_fst, filter_getElem?_enter, List.filterMap_cons]
    cases names[key]?.filter fun holder => decide (holder.name ≠ entry.name) with
    | none => rfl
    | some holder => rfl

/-- No holder of a key has a name that is new. -/
theorem filter_find?_name_ne (hnew : entry.name ∉ entries.map Entry.name) (p : Entry → Bool) :
    ((entries.find? p).filter fun holder => decide (holder.name ≠ entry.name)) =
      entries.find? p := by
  cases hfind : entries.find? p with
  | none => rfl
  | some holder =>
    have hmem : holder ∈ entries := List.mem_of_find?_eq_some hfind
    have hother : holder.name ≠ entry.name := fun heq => hnew (List.mem_map.2 ⟨holder, hmem, heq⟩)
    simp [Option.filter_some, hother]

/-- One entry: its warnings are its collisions with the entries of the index. -/
theorem IsIndexOf.add_fst (h : index.IsIndexOf list entries)
    (hnew : index.adg[entry.name]? = none) :
    (index.add list entry).1 =
      (entry.aliasKeys list).filterMap (collision? list entries entry) := by
  have hname : entry.name ∉ entries.map Entry.name := h.getElem?_adg_eq_none.1 hnew
  simp only [NameIndex.add, enterAll_fst, h.ubo, h.abp, filter_find?_name_ne hname,
    Entry.aliasKeys, List.filterMap_append, List.filterMap_map]
  congr 2 <;> funext key <;>
    simp [collision?, mem_aliasKeys_ubo, mem_aliasKeys_abp]

/-- A whole list: its warnings are the collisions that it adds to those of the entries of
the index. -/
theorem IsIndexOf.collisions_append (h : index.IsIndexOf list entries)
    (hresult : (index.addAll list rest).2 = .ok result) :
    collisions list (entries ++ rest) =
      collisions list entries ++ (index.addAll list rest).1 := by
  induction rest generalizing index entries with
  | nil => simp [NameIndex.addAll]
  | cons entry rest ih =>
    obtain ⟨hnamed, hnew, hrest⟩ := addAll_cons_eq_ok.1 hresult
    calc collisions list (entries ++ entry :: rest)
        = collisions list ((entries ++ [entry]) ++ rest) := by simp
      _ = collisions list (entries ++ [entry]) ++
            ((index.add list entry).2.addAll list rest).1 := ih (h.add hnew) hrest
      _ = collisions list entries ++ (index.addAll list (entry :: rest)).1 := by
          rw [collisions_concat, ← h.add_fst hnew, addAll_cons hnamed hnew, List.append_assoc]

/-- Indexing a list warns of its collisions. -/
theorem build_fst (h : (build list entries).2 = .ok result) :
    (build list entries).1 = collisions list entries := by
  have happend := (isIndexOf_empty list).collisions_append h
  rw [List.nil_append, collisions_nil, List.nil_append] at happend
  exact happend.symm

end Indexing

end NameIndex

namespace Registry

variable {table : Table} {registry : Registry} {fault : RegistryError}
variable {list : Section} {records before : List Record}

/-- The warnings for a list of records. -/
def collisions (list : Section) (records : List Record) : List Event :=
  NameIndex.collisions list (records.map (Entry.ofRecord list))

/-- Whether no two records of a list have an alias key in common. -/
def HasOwnKeys (list : Section) (records : List Record) : Prop :=
  (records.map (Entry.ofRecord list)).Pairwise fun entry other =>
    (entry.aliasKeys list).Disjoint (other.aliasKeys list)

/-- The record behind some well-named ones is at fault. -/
def StopsAfter (before records : List Record) (fault : RegistryError) : Prop :=
  ∃ record after, records = before ++ record :: after ∧ IsWellNamed before ∧
    NameIndex.IsFault (canonicalNames before) (Text.trim record.adg) fault

/-- The warnings that are given while a table is built. -/
def warnings (table : Table) : List Event :=
  (build table).1.filter fun event => decide (event.level = .warn)

theorem collisions_eq_nil_iff : collisions list records = [] ↔ HasOwnKeys list records :=
  NameIndex.collisions_eq_nil_iff

theorem filter_collisions (list : Section) (records : List Record) :
    (collisions list records).filter (fun event => decide (event.level = .warn)) =
      collisions list records := by
  rw [List.filter_eq_self]
  intro event hevent
  rw [NameIndex.level_of_mem_collisions hevent, decide_eq_true rfl]

theorem IsWellNamed.names_eq (h : IsWellNamed records) (list : Section) :
    ∃ names, NameIndex.build list (records.map (Entry.ofRecord list)) =
      (collisions list records, .ok names) := by
  obtain ⟨names, hnames⟩ := h.exists_build_ok list
  exact ⟨names, Prod.ext (NameIndex.build_fst hnames) hnames⟩

/-- The records before the one at fault are warned of, and no others. -/
theorem StopsAfter.names_eq (h : StopsAfter before records fault) (list : Section) :
    NameIndex.build list (records.map (Entry.ofRecord list)) =
      (collisions list before, .error fault) := by
  obtain ⟨record, after, rfl, hbefore, hfault⟩ := h
  obtain ⟨names, hnames⟩ := hbefore.names_eq list
  rw [List.map_append, List.map_cons, NameIndex.build_append_cons_of_isFault, hnames]
  · rwa [map_name_ofRecord, isFaultless_canonicalNames]
  · rwa [map_name_ofRecord, Entry.name_ofRecord]

/-- A list stops after some records exactly at its first fault. -/
theorem exists_stopsAfter_iff :
    (∃ before, StopsAfter before records fault) ↔
      NameIndex.IsFirstFault (canonicalNames records) fault := by
  constructor
  · rintro ⟨before, hbefore⟩
    rw [← names_eq_error_iff .scriptlets, hbefore.names_eq]
  · rintro ⟨names, name, later, hsplit, hnames, hfault⟩
    obtain ⟨before, rest, rfl, rfl, hrest⟩ := List.map_eq_append_iff.1 hsplit
    obtain ⟨record, after, rfl, rfl, -⟩ := List.map_eq_cons_iff.1 hrest
    exact ⟨before, record, after, rfl, isFaultless_canonicalNames.1 hnames, hfault⟩

/-- The events of a table, by the outcomes of its lists. -/
theorem build_fst (table : Table) :
    (build table).1 =
      let scriptlets :=
        NameIndex.build .scriptlets (table.scriptlets.map (Entry.ofRecord .scriptlets))
      let redirects :=
        NameIndex.build .redirects (table.redirects.map (Entry.ofRecord .redirects))
      match scriptlets.2, redirects.2 with
      | .error _, _ => scriptlets.1
      | .ok _, .error _ => scriptlets.1 ++ redirects.1
      | .ok _, .ok _ => scriptlets.1 ++ redirects.1 ++
          [.registryBuilt table.scriptlets.length table.redirects.length] := by
  cases building table with
  | scriptletFault fault hs hbuild => simp only [hs, hbuild]
  | redirectFault scriptletNames fault hs hr hbuild => simp only [hs, hr, hbuild]
  | built registry hs hr hbuild _ _ => simp only [hs, hr, hbuild]

theorem warnings_of_ok (h : (build table).2 = .ok registry) :
    warnings table =
      collisions .scriptlets table.scriptlets ++ collisions .redirects table.redirects := by
  obtain ⟨hscriptlets, hredirects⟩ := exists_build_ok_iff.1 ⟨registry, h⟩
  obtain ⟨scriptletNames, hs⟩ := hscriptlets.names_eq .scriptlets
  obtain ⟨redirectNames, hr⟩ := hredirects.names_eq .redirects
  rw [warnings, build_fst, hs, hr, List.filter_append, List.filter_append, filter_collisions,
    filter_collisions]
  simp [Event.level]

/-- The warnings end where the scriptlets stop. -/
theorem StopsAfter.warnings_scriptlets (h : StopsAfter before table.scriptlets fault) :
    warnings table = collisions .scriptlets before := by
  rw [warnings, build_fst, h.names_eq, filter_collisions]

/-- The warnings end where the redirect resources stop, after all of the scriptlets. -/
theorem StopsAfter.warnings_redirects (hscriptlets : IsWellNamed table.scriptlets)
    (h : StopsAfter before table.redirects fault) :
    warnings table =
      collisions .scriptlets table.scriptlets ++ collisions .redirects before := by
  obtain ⟨scriptletNames, hs⟩ := hscriptlets.names_eq .scriptlets
  rw [warnings, build_fst, hs, h.names_eq, List.filter_append, filter_collisions,
    filter_collisions]

/-- A table that builds is warned of each alias whose key an earlier entry of its list
carries, the scriptlets before the redirect resources, and of nothing else. It is not warned
of at all exactly when no two entries of a list have a key in common. A table that does not
build is warned of in the same way, as far as the record at fault. -/
theorem build_warns_of_collisions (table : Table) :
    (∀ registry, (build table).2 = .ok registry →
      warnings table =
          collisions .scriptlets table.scriptlets ++ collisions .redirects table.redirects ∧
        (warnings table = [] ↔
          HasOwnKeys .scriptlets table.scriptlets ∧ HasOwnKeys .redirects table.redirects)) ∧
    (∀ fault, (build table).2 = .error fault →
      (∃ before, StopsAfter before table.scriptlets fault ∧
        warnings table = collisions .scriptlets before) ∨
      IsWellNamed table.scriptlets ∧ ∃ before, StopsAfter before table.redirects fault ∧
        warnings table =
          collisions .scriptlets table.scriptlets ++ collisions .redirects before) := by
  constructor
  · intro registry h
    refine ⟨warnings_of_ok h, ?_⟩
    rw [warnings_of_ok h, List.append_eq_nil_iff, collisions_eq_nil_iff, collisions_eq_nil_iff]
  · intro fault h
    rcases build_eq_error_iff.1 h with hscriptlets | ⟨hscriptlets, hredirects⟩
    · obtain ⟨before, hbefore⟩ := exists_stopsAfter_iff.2 hscriptlets
      exact .inl ⟨before, hbefore, hbefore.warnings_scriptlets⟩
    · obtain ⟨before, hbefore⟩ := exists_stopsAfter_iff.2 hredirects
      exact .inr ⟨hscriptlets, before, hbefore, hbefore.warnings_redirects hscriptlets⟩

/-- An alias that one record repeats is no collision, one that three records share is two, and
the two lists do not collide with each other. A table that stops at a repeated name was warned
of what stands before it. -/
theorem build_warns_of_collisions_shared :
    warnings ⟨[Table.record "set" (some "set.js (set)") (some "x"),
          Table.record "get" (some "set.js") (some "x"), Table.record "log" (some "set") none],
        [Table.record "set" (some "set") (some "x"),
          Table.record "noop" (some "set.js, set") none]⟩ =
      [.aliasShared .scriptlets "set".toList "set".toList "get".toList,
        .aliasShared .scriptlets "x".toList "set".toList "get".toList,
        .aliasShared .scriptlets "set".toList "set".toList "log".toList,
        .aliasShared .redirects "set".toList "set".toList "noop".toList] ∧
    warnings ⟨[Table.record "set" (some "a") none, Table.record "get" (some "a") none,
          Table.record "set" (some "a") none], []⟩ =
      [.aliasShared .scriptlets "a".toList "set".toList "get".toList] := by
  constructor
  · obtain ⟨registry, hbuild⟩ := exists_build_ok
      ⟨[Table.record "set" (some "set.js (set)") (some "x"),
          Table.record "get" (some "set.js") (some "x"), Table.record "log" (some "set") none],
        [Table.record "set" (some "set") (some "x"),
          Table.record "noop" (some "set.js, set") none]⟩ (by decide) (by decide)
    rw [((build_warns_of_collisions _).1 registry hbuild).1]
    decide
  · have hstop : StopsAfter
        [Table.record "set" (some "a") none, Table.record "get" (some "a") none]
        [Table.record "set" (some "a") none, Table.record "get" (some "a") none,
          Table.record "set" (some "a") none] (.duplicateName "set".toList) :=
      ⟨Table.record "set" (some "a") none, [], rfl, by decide,
        .duplicateName (by decide) (by decide)⟩
    have herror : (build ⟨[Table.record "set" (some "a") none, Table.record "get" (some "a") none,
        Table.record "set" (some "a") none], []⟩).2 = .error (.duplicateName "set".toList) :=
      build_eq_error_iff.2 (.inl (exists_stopsAfter_iff.1 ⟨_, hstop⟩))
    rcases (build_warns_of_collisions _).2 _ herror with ⟨before, hbefore, hwarnings⟩ | ⟨hnamed, -⟩
    · have hsame := (hbefore.names_eq .scriptlets).symm.trans (hstop.names_eq .scriptlets)
      rw [hwarnings, (Prod.mk.inj hsame).1]
      decide
    · exact absurd hnamed (by decide)

end Registry

end FilterDialects
