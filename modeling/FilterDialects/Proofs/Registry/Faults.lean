import FilterDialects.Proofs.Registry.Lookup
import FilterDialects.Table.Shipped
import Mathlib.Data.List.Induction
import Mathlib.Data.List.Nodup

/-!
# The first fault of a table

A canonical name is at fault when it is empty, or when an earlier entry of the same list
has it. A table is refused for its first fault, where the scriptlets come before the
redirect resources, and only for that: aliases may be shared, and so may a name between the
two lists.

Indexing a list stops at its first fault because the entries before it can be indexed, and
the index of these knows exactly their names.
-/

namespace FilterDialects

namespace NameIndex

section Names

variable {names : List Text} {name : Text} {fault : RegistryError}

/-- Why a canonical name cannot follow the earlier ones of its list. -/
inductive IsFault (earlier : List Text) (name : Text) : RegistryError → Prop where
  | emptyName (h : name = []) : IsFault earlier name .emptyName
  | duplicateName (hne : name ≠ []) (h : name ∈ earlier) :
      IsFault earlier name (.duplicateName name)

/-- Whether every name of a list can follow those before it. -/
def IsFaultless (names : List Text) : Prop :=
  ∀ earlier name later, names = earlier ++ name :: later → ∀ fault, ¬ IsFault earlier name fault

/-- The fault of the first name that cannot follow those before it. -/
def IsFirstFault (names : List Text) (fault : RegistryError) : Prop :=
  ∃ before name after, names = before ++ name :: after ∧
    IsFaultless before ∧ IsFault before name fault

theorem exists_isFault_iff {earlier : List Text} :
    (∃ fault, IsFault earlier name fault) ↔ name = [] ∨ name ∈ earlier := by
  constructor
  · rintro ⟨fault, hempty | ⟨-, htaken⟩⟩
    · exact .inl hempty
    · exact .inr htaken
  · intro h
    by_cases hempty : name = []
    · exact ⟨_, .emptyName hempty⟩
    · exact ⟨_, .duplicateName hempty (h.resolve_left hempty)⟩

theorem isFaultless_nil : IsFaultless [] := by simp [IsFaultless]

/-- A name at the end of a list is judged by those before it. -/
theorem isFaultless_concat :
    IsFaultless (names ++ [name]) ↔ IsFaultless names ∧ name ≠ [] ∧ name ∉ names := by
  rw [← not_or, ← exists_isFault_iff]
  constructor
  · intro h
    refine ⟨?_, ?_⟩
    · intro earlier other later heq fault
      exact h earlier other (later ++ [name]) (by simp [heq]) fault
    · rintro ⟨fault, hfault⟩
      exact h names name [] rfl fault hfault
  · rintro ⟨hnames, hname⟩ earlier other later heq fault hfault
    rcases List.eq_nil_or_concat later with rfl | ⟨later, last, rfl⟩
    · obtain ⟨rfl, hlast⟩ := List.append_inj' heq rfl
      obtain rfl : name = other := by simpa using hlast
      exact hname ⟨fault, hfault⟩
    · have hsplit : names ++ [name] = (earlier ++ other :: later) ++ [last] := by simp [heq]
      exact hnames earlier other later (List.append_inj' hsplit rfl).1 fault hfault

theorem isFaultless_iff : IsFaultless names ↔ (∀ name ∈ names, name ≠ []) ∧ names.Nodup := by
  induction names using List.reverseRecOn with
  | nil => simp [isFaultless_nil]
  | append_singleton names name ih =>
    rw [isFaultless_concat, ih, List.forall_mem_append, List.forall_mem_singleton,
      List.nodup_append_comm, List.singleton_append, List.nodup_cons]
    constructor
    · rintro ⟨⟨hnamed, hdistinct⟩, hname, hnew⟩
      exact ⟨⟨hnamed, hname⟩, hnew, hdistinct⟩
    · rintro ⟨⟨hnamed, hname⟩, hnew, hdistinct⟩
      exact ⟨⟨hnamed, hdistinct⟩, hname, hnew⟩

theorem exists_isFirstFault (h : ¬ IsFaultless names) : ∃ fault, IsFirstFault names fault := by
  induction names using List.reverseRecOn with
  | nil => exact absurd isFaultless_nil h
  | append_singleton names name ih =>
    by_cases hnames : IsFaultless names
    · have hname : name = [] ∨ name ∈ names := by
        by_contra hnone
        exact h (isFaultless_concat.2 ⟨hnames, not_or.1 hnone⟩)
      obtain ⟨fault, hfault⟩ := exists_isFault_iff.2 hname
      exact ⟨fault, names, name, [], rfl, hnames, hfault⟩
    · obtain ⟨fault, before, first, after, rfl, hbefore, hfirst⟩ := ih hnames
      exact ⟨fault, before, first, after ++ [name], by simp, hbefore, hfirst⟩

end Names

variable {list : Section} {index result : NameIndex} {entries rest : List Entry}
variable {fault : RegistryError}

/-- Entries that can be added are added before the others, and warn before them. -/
theorem addAll_append (h : (index.addAll list entries).2 = .ok result) (rest : List Entry) :
    index.addAll list (entries ++ rest) =
      ((index.addAll list entries).1 ++ (result.addAll list rest).1,
        (result.addAll list rest).2) := by
  induction entries generalizing index with
  | nil =>
    obtain rfl : index = result := by simpa [addAll] using h
    rfl
  | cons entry entries ih =>
    obtain ⟨hnamed, hnew, hlater⟩ := addAll_cons_eq_ok.1 h
    rw [List.cons_append, addAll_cons hnamed hnew, addAll_cons hnamed hnew, ih hlater,
      List.append_assoc]

/-- An entry whose name is at fault stops the index of the entries before it. -/
theorem IsIndexOf.addAll_cons_of_isFault (h : index.IsIndexOf list entries) {entry : Entry}
    (hfault : IsFault (entries.map Entry.name) entry.name fault) (rest : List Entry) :
    index.addAll list (entry :: rest) = ([], .error fault) := by
  cases hfault with
  | emptyName hempty => simp [NameIndex.addAll, hempty]
  | duplicateName hne hmem =>
    have htaken : index.adg.contains entry.name = true := by
      rw [Std.HashMap.contains_eq_isSome_getElem?, Option.isSome_iff_ne_none]
      exact fun hnone => h.getElem?_adg_eq_none.1 hnone hmem
    simp [NameIndex.addAll, hne, htaken]

theorem ne_nil_of_addAll (h : (index.addAll list entries).2 = .ok result) :
    ∀ entry ∈ entries, entry.name ≠ [] := by
  induction entries generalizing index with
  | nil => simp
  | cons entry entries ih =>
    obtain ⟨hnamed, -, hlater⟩ := addAll_cons_eq_ok.1 h
    intro other hother
    rcases List.mem_cons.1 hother with rfl | hmem
    · exact hnamed
    · exact ih hlater other hmem

/-- Entries can be indexed exactly when none of their names is at fault. -/
theorem exists_build_ok_iff (list : Section) :
    (∃ result, (build list entries).2 = .ok result) ↔ IsFaultless (entries.map Entry.name) := by
  rw [isFaultless_iff, List.forall_mem_map]
  constructor
  · rintro ⟨result, h⟩
    exact ⟨ne_nil_of_addAll h, nodup_of_build h⟩
  · rintro ⟨hnamed, hdistinct⟩
    exact exists_build_ok hnamed hdistinct

/-- The entries before the first fault are indexed as if there were no others. -/
theorem build_append_cons_of_isFault (hbefore : IsFaultless (entries.map Entry.name))
    {entry : Entry} (hfault : IsFault (entries.map Entry.name) entry.name fault)
    (list : Section) (rest : List Entry) :
    build list (entries ++ entry :: rest) = ((build list entries).1, .error fault) := by
  obtain ⟨result, hresult⟩ := (exists_build_ok_iff list).2 hbefore
  have hstop := (isIndexOf_of_build hresult).addAll_cons_of_isFault hfault rest
  unfold build at hresult ⊢
  rw [addAll_append hresult, hstop, List.append_nil]

theorem IsFirstFault.build_eq_error (h : IsFirstFault (entries.map Entry.name) fault)
    (list : Section) : (build list entries).2 = .error fault := by
  obtain ⟨before, name, after, hsplit, hbefore, hfault⟩ := h
  obtain ⟨entriesBefore, rest, rfl, rfl, hrest⟩ := List.map_eq_append_iff.1 hsplit
  obtain ⟨entry, entriesAfter, rfl, rfl, -⟩ := List.map_eq_cons_iff.1 hrest
  rw [build_append_cons_of_isFault hbefore hfault]

/-- Indexing reports the first fault, and nothing else. -/
theorem build_eq_error_iff (list : Section) :
    (build list entries).2 = .error fault ↔ IsFirstFault (entries.map Entry.name) fault := by
  constructor
  · intro h
    have hfaulty : ¬ IsFaultless (entries.map Entry.name) := by
      intro hfaultless
      obtain ⟨result, hresult⟩ := (exists_build_ok_iff list).2 hfaultless
      rw [h] at hresult
      contradiction
    obtain ⟨first, hfirst⟩ := exists_isFirstFault hfaulty
    rw [hfirst.build_eq_error] at h
    exact Except.error.inj h ▸ hfirst
  · exact fun h => h.build_eq_error list

end NameIndex

namespace Registry

variable {table : Table} {fault : RegistryError}

def canonicalNames (records : List Record) : List Text :=
  records.map fun record => Text.trim record.adg

theorem map_name_ofRecord (list : Section) (records : List Record) :
    (records.map (Entry.ofRecord list)).map Entry.name = canonicalNames records := by
  rw [List.map_map]
  rfl

theorem isFaultless_canonicalNames {records : List Record} :
    NameIndex.IsFaultless (canonicalNames records) ↔ IsWellNamed records := by
  rw [NameIndex.isFaultless_iff, canonicalNames, List.forall_mem_map]
  rfl

theorem exists_names_iff (list : Section) (records : List Record) :
    (∃ names, (NameIndex.build list (records.map (Entry.ofRecord list))).2 = .ok names) ↔
      IsWellNamed records := by
  rw [NameIndex.exists_build_ok_iff, map_name_ofRecord, isFaultless_canonicalNames]

theorem names_eq_error_iff (list : Section) (records : List Record) :
    (NameIndex.build list (records.map (Entry.ofRecord list))).2 = .error fault ↔
      NameIndex.IsFirstFault (canonicalNames records) fault := by
  rw [NameIndex.build_eq_error_iff, map_name_ofRecord]

theorem exists_build_ok_iff :
    (∃ registry, (build table).2 = .ok registry) ↔
      IsWellNamed table.scriptlets ∧ IsWellNamed table.redirects := by
  constructor
  · rintro ⟨registry, h⟩
    obtain ⟨hscriptlets, hredirects⟩ := entries_of_build h
    have hs := registry.scriptlets_indexed
    have hr := registry.redirects_indexed
    rw [hscriptlets] at hs
    rw [hredirects] at hr
    exact ⟨(exists_names_iff _ _).1 ⟨_, hs⟩, (exists_names_iff _ _).1 ⟨_, hr⟩⟩
  · rintro ⟨hscriptlets, hredirects⟩
    exact exists_build_ok table hscriptlets hredirects

/-- The redirect resources are judged only when the scriptlets are well named. -/
theorem build_eq_error_iff :
    (build table).2 = .error fault ↔
      NameIndex.IsFirstFault (canonicalNames table.scriptlets) fault ∨
        IsWellNamed table.scriptlets ∧
          NameIndex.IsFirstFault (canonicalNames table.redirects) fault := by
  rw [← names_eq_error_iff .scriptlets, ← names_eq_error_iff .redirects,
    ← exists_names_iff .scriptlets]
  cases building table with
  | scriptletFault other hs hbuild => simp [hs, hbuild]
  | redirectFault scriptletNames other hs hr hbuild => simp [hs, hr, hbuild]
  | built registry hs hr hbuild _ _ => simp [hs, hr, hbuild]

/-- A table builds exactly when the canonical names of each of its lists are neither empty
nor repeated. Otherwise the first name at fault is reported, the scriptlets before the
redirect resources. Nothing but canonical names decides, so aliases never do, and a name
that stands in both lists is no fault. -/
theorem build_reports_first_fault (table : Table) :
    ((∃ registry, (build table).2 = .ok registry) ↔
      IsWellNamed table.scriptlets ∧ IsWellNamed table.redirects) ∧
    (∀ fault, (build table).2 = .error fault ↔
      NameIndex.IsFirstFault (canonicalNames table.scriptlets) fault ∨
        IsWellNamed table.scriptlets ∧
          NameIndex.IsFirstFault (canonicalNames table.redirects) fault) ∧
    (∀ other : Table, canonicalNames other.scriptlets = canonicalNames table.scriptlets →
      canonicalNames other.redirects = canonicalNames table.redirects →
        ∀ fault, (build other).2 = .error fault ↔ (build table).2 = .error fault) := by
  refine ⟨exists_build_ok_iff, fun fault => build_eq_error_iff, ?_⟩
  intro other hscriptlets hredirects fault
  rw [build_eq_error_iff, build_eq_error_iff, ← isFaultless_canonicalNames,
    ← isFaultless_canonicalNames, hscriptlets, hredirects]

/-- The repeated name goes before the empty one behind it and before the redirect
resources, with shared aliases and without. -/
theorem build_reports_first_fault_repeated :
    (build ⟨[Table.record "log" none none, Table.record " set " (some "a.js (a)") (some "x"),
          Table.record "get" (some "a") (some "x"), Table.record "log " none none,
          Table.record " " none none],
        [Table.record "" none none]⟩).2 = .error (.duplicateName "log".toList) ∧
      (build ⟨[Table.record "log" none none, Table.record "set" none none,
          Table.record "get" none none, Table.record "log" none none, Table.record "" none none],
        [Table.record "" none none]⟩).2 = .error (.duplicateName "log".toList) := by
  have hplain : (build ⟨[Table.record "log" none none, Table.record "set" none none,
      Table.record "get" none none, Table.record "log" none none, Table.record "" none none],
        [Table.record "" none none]⟩).2 = .error (.duplicateName "log".toList) := by
    refine ((build_reports_first_fault _).2.1 _).2 (.inl ?_)
    refine ⟨["log".toList, "set".toList, "get".toList], "log".toList, [[]], by decide, ?_, ?_⟩
    · rw [NameIndex.isFaultless_iff]
      decide
    · exact .duplicateName (by decide) (by decide)
  refine ⟨?_, hplain⟩
  exact ((build_reports_first_fault _).2.2 _ (by decide) (by decide) _).2 hplain

end Registry

end FilterDialects
