import FilterDialects.Proofs.Registry.Lookup
import FilterDialects.Proofs.Text.Search
import FilterDialects.Table.Shipped
import Mathlib.Data.List.Forall2
import Mathlib.Data.List.Nodup

/-!
# Lookups scan the table

What a lookup finds can be told from the table alone. A canonical name belongs to one
entry of its list; an alias may be shared, and then stands for the first entry in table
order that carries it.
-/

namespace FilterDialects

/-- An entry has the names of a record. -/
structure Entry.IsOf (entry : Entry) (record : Record) : Prop where
  /-- The canonical name is trimmed. -/
  name : entry.name = Text.trim record.adg
  /-- The uBlock Origin names are what stands between commas, parentheses and blanks. -/
  uboNames : entry.uboNames = ((record.ubo.getD []).splitOnP fun c =>
    c = ',' || c = '(' || c = ')' || Text.isBlank c).filter fun name => decide (name ≠ [])
  /-- The Adblock Plus name is trimmed, and absent when nothing is left of it. -/
  abpName : ∀ name, entry.abpName = some name ↔ name ≠ [] ∧ record.abp.map Text.trim = some name

theorem Entry.isOf_ofRecord (list : Section) (record : Record) :
    (Entry.ofRecord list record).IsOf record where
  name := rfl
  uboNames := by
    rw [Entry.uboNames_ofRecord]
    cases record.ubo with
    | none => simp
    | some names => rfl
  abpName name := by
    rw [Entry.abpName_ofRecord, Option.filter_eq_some_iff, and_comm, decide_eq_true_iff]

/-- In a list with distinct canonical names a scan for one finds the entry that has it. -/
theorem Entry.find?_name_eq_some_iff {entries : List Entry}
    (hnodup : (entries.map Entry.name).Nodup) {name : Text} {entry : Entry} :
    (entries.find? fun entry => decide (entry.name = name)) = some entry ↔
      entry ∈ entries ∧ entry.name = name := by
  constructor
  · intro h
    exact ⟨List.mem_of_find?_eq_some h, by simpa using List.find?_some h⟩
  · rintro ⟨hmem, rfl⟩
    cases hfind : entries.find? fun other => decide (other.name = entry.name) with
    | none => simpa using List.find?_eq_none.1 hfind entry hmem
    | some other =>
      have hname : other.name = entry.name := by simpa using List.find?_some hfind
      have hsame := List.inj_on_of_nodup_map hnodup (List.mem_of_find?_eq_some hfind) hmem hname
      rw [hsame]

namespace Registry

variable {registry : Registry} {table : Table}

/-- A registry answers every lookup as a scan of a table does. -/
structure IsScanOf (registry : Registry) (table : Table) : Prop where
  /-- The scriptlets are the records of the first list, in table order. -/
  scriptlets : List.Forall₂ Entry.IsOf registry.scriptlets table.scriptlets
  /-- The redirect resources are the records of the second list, in table order. -/
  redirects : List.Forall₂ Entry.IsOf registry.redirects table.redirects
  scriptlets_nodup : (registry.scriptlets.map Entry.name).Nodup
  redirects_nodup : (registry.redirects.map Entry.name).Nodup
  scriptlet : ∀ name entry,
    registry.scriptlet? name = some entry ↔ entry ∈ registry.scriptlets ∧ entry.name = name
  adgAlias : ∀ name entry, registry.scriptletByAlias? .adg name = some entry ↔
    entry ∈ registry.scriptlets ∧ entry.name = name
  /-- A uBlock Origin name matches with or without its extension. -/
  uboAlias : ∀ name, registry.scriptletByAlias? .ubo name =
    registry.scriptlets.find? fun entry =>
      decide (∃ other ∈ entry.uboNames, dropJs other = dropJs name)
  abpAlias : ∀ name, registry.scriptletByAlias? .abp name =
    registry.scriptlets.find? fun entry => decide (entry.abpName = some name)
  /-- A canonical name goes before everything else. -/
  find_canonical : ∀ entry ∈ registry.scriptlets, registry.findScriptlet? entry.name = some entry
  /-- A marked name stands only for an alias of the dialect that the mark tells. -/
  find_ubo : ∀ name, "ubo-".toList ++ name ∉ registry.scriptlets.map Entry.name →
    registry.findScriptlet? ("ubo-".toList ++ name) = registry.scriptletByAlias? .ubo name
  find_abp : ∀ name, "abp-".toList ++ name ∉ registry.scriptlets.map Entry.name →
    registry.findScriptlet? ("abp-".toList ++ name) = registry.scriptletByAlias? .abp name
  /-- Any other name stands for a uBlock Origin alias. -/
  find_bare : ∀ name, name ∉ registry.scriptlets.map Entry.name →
    ¬ "ubo-".toList <+: name → ¬ "abp-".toList <+: name →
      registry.findScriptlet? name = registry.scriptletByAlias? .ubo name
  redirect : ∀ name entry,
    registry.redirect? name = some entry ↔ entry ∈ registry.redirects ∧ entry.name = name
  isAdgRedirect : ∀ name,
    registry.isAdgRedirect name = true ↔ ∃ entry ∈ registry.redirects, entry.name = name
  /-- The names of resources match only as they are. -/
  redirectOfUbo : ∀ name, registry.redirectOfUbo? name =
    (registry.redirects.find? fun entry => decide (name ∈ entry.uboNames)).map Entry.name
  redirectOfAbp : ∀ name, registry.redirectOfAbp? name =
    (registry.redirects.find? fun entry => decide (entry.abpName = some name)).map Entry.name

theorem scriptlet?_eq_some_iff {name : Text} {entry : Entry} :
    registry.scriptlet? name = some entry ↔ entry ∈ registry.scriptlets ∧ entry.name = name := by
  rw [scriptlet?_eq_find?]
  exact Entry.find?_name_eq_some_iff (NameIndex.nodup_of_build registry.scriptlets_indexed)

theorem redirect?_eq_some_iff {name : Text} {entry : Entry} :
    registry.redirect? name = some entry ↔ entry ∈ registry.redirects ∧ entry.name = name := by
  rw [redirect?_eq_find?]
  exact Entry.find?_name_eq_some_iff (NameIndex.nodup_of_build registry.redirects_indexed)

theorem scriptlet?_eq_none_iff {name : Text} :
    registry.scriptlet? name = none ↔ name ∉ registry.scriptlets.map Entry.name := by
  rw [scriptlet?_eq_find?, List.find?_eq_none]
  simp

/-- A registry that was built from a table answers as a scan of that table does. -/
theorem isScanOf_of_build (h : (build table).2 = .ok registry) : registry.IsScanOf table where
  scriptlets := by
    rw [(entries_of_build h).1, List.forall₂_map_left_iff, List.forall₂_same]
    exact fun record _ => Entry.isOf_ofRecord _ record
  redirects := by
    rw [(entries_of_build h).2, List.forall₂_map_left_iff, List.forall₂_same]
    exact fun record _ => Entry.isOf_ofRecord _ record
  scriptlets_nodup := NameIndex.nodup_of_build registry.scriptlets_indexed
  redirects_nodup := NameIndex.nodup_of_build registry.redirects_indexed
  scriptlet _ _ := scriptlet?_eq_some_iff
  adgAlias _ _ := scriptlet?_eq_some_iff
  uboAlias name := by
    rw [scriptletByAlias?_ubo_eq_find?]
    congr 1
    funext entry
    simp [NameIndex.carriesUbo, NameIndex.uboKey]
  abpAlias := scriptletByAlias?_abp_eq_find? registry
  find_canonical entry hentry := by
    rw [findScriptlet?, scriptlet?_eq_some_iff.2 ⟨hentry, rfl⟩]
  find_ubo name hname := by
    have hmark : uboMark.isPrefixOf? ("ubo-".toList ++ name) = some name :=
      Text.isPrefixOf?_eq_some.2 rfl
    rw [findScriptlet?, scriptlet?_eq_none_iff.2 hname, hmark]
  find_abp name hname := by
    have hother : uboMark.isPrefixOf? ("abp-".toList ++ name) = none := rfl
    have hmark : abpMark.isPrefixOf? ("abp-".toList ++ name) = some name :=
      Text.isPrefixOf?_eq_some.2 rfl
    rw [findScriptlet?, scriptlet?_eq_none_iff.2 hname, hother, hmark]
  find_bare name hname hubo habp := by
    have hubo : uboMark.isPrefixOf? name = none := Text.isPrefixOf?_eq_none_iff.2 hubo
    have habp : abpMark.isPrefixOf? name = none := Text.isPrefixOf?_eq_none_iff.2 habp
    rw [findScriptlet?, scriptlet?_eq_none_iff.2 hname, hubo, habp]
  redirect _ _ := redirect?_eq_some_iff
  isAdgRedirect name := by
    rw [isAdgRedirect_eq_isSome, Option.isSome_iff_exists]
    exact exists_congr fun entry => redirect?_eq_some_iff
  redirectOfUbo name := by
    rw [redirectOfUbo?_eq_find?]
    congr 2
    funext entry
    simp [NameIndex.carriesUbo, NameIndex.uboKey]
  redirectOfAbp := redirectOfAbp?_eq_find? registry

/-- Names are shared with and without their extension, and the first entry takes them. -/
theorem isScanOf_of_build_shared :
    ∃ registry : Registry,
      (build ⟨[Table.record " set-constant " (some "set-constant.js (set.js)") (some " "),
          Table.record "abort" (some "set, set.js.js") (some "stop"),
          Table.record "log" none (some " stop ")],
        [Table.record "noop" (some "noop.js") none,
          Table.record "blank" (some "blank noop.js noop") none]⟩).2 = .ok registry ∧
      registry.scriptlet? "set-constant".toList =
        some ⟨"set-constant".toList, ["set-constant.js".toList, "set.js".toList], none, none⟩ ∧
      (registry.scriptletByAlias? .ubo "set".toList).map Entry.name =
        some "set-constant".toList ∧
      (registry.findScriptlet? ("ubo-".toList ++ "set.js.js".toList)).map Entry.name =
        some "abort".toList ∧
      (registry.findScriptlet? ("abp-".toList ++ "stop".toList)).map Entry.name =
        some "abort".toList ∧
      registry.redirectOfUbo? "noop.js".toList = some "noop".toList ∧
      registry.redirectOfUbo? "noop".toList = some "blank".toList := by
  obtain ⟨registry, hbuild⟩ := exists_build_ok
    ⟨[Table.record " set-constant " (some "set-constant.js (set.js)") (some " "),
        Table.record "abort" (some "set, set.js.js") (some "stop"),
        Table.record "log" none (some " stop ")],
      [Table.record "noop" (some "noop.js") none,
        Table.record "blank" (some "blank noop.js noop") none]⟩ (by decide) (by decide)
  have hscan := isScanOf_of_build hbuild
  obtain ⟨hscriptlets, hredirects⟩ := entries_of_build hbuild
  refine ⟨registry, hbuild, ?_, ?_, ?_, ?_, ?_, ?_⟩
  · rw [hscan.scriptlet, hscriptlets]
    decide
  · rw [hscan.uboAlias, hscriptlets]
    decide
  · rw [hscan.find_ubo _ (by rw [hscriptlets]; decide), hscan.uboAlias, hscriptlets]
    decide
  · rw [hscan.find_abp _ (by rw [hscriptlets]; decide), hscan.abpAlias, hscriptlets]
    decide
  · rw [hscan.redirectOfUbo, hredirects]
    decide
  · rw [hscan.redirectOfUbo, hredirects]
    decide

end Registry

end FilterDialects
