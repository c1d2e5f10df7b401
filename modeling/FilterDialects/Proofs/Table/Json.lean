import FilterDialects.Table.Json
import FilterDialects.Proofs.Json.Written

/-!
# Stored tables are read back

The text of a table spells an object, and that object is read as the table: a name that is
absent has no member, and a name that is empty has a member that is an empty string. So a
table survives its storage, whatever characters its names have, and what was read once and
stored again is the same table in the same text.
-/

namespace FilterDialects

namespace Json

def Value.ofText (t : Text) : Value :=
  .string (t.map .char)

def Value.ofMembers (members : List (Text × Value)) : Value :=
  .object (members.map fun member => (member.1.map .char, member.2))

theorem Value.text?_ofText (t : Text) : (Value.ofText t).text? = some t :=
  StringUnit.text?_map_char t

/-- A name that may be absent is read from its member, or from there being none. -/
theorem Value.optionalText?_getD (name : Option Text) :
    ((name.map Value.ofText).getD .null).optionalText? = some name := by
  cases name with
  | none => rfl
  | some t => exact congrArg (Option.map some) (Value.text?_ofText t)

theorem textMembers?_named (members : List (Text × Value)) :
    textMembers? (members.map fun member => (member.1.map .char, member.2)) = some members := by
  induction members with
  | nil => rfl
  | cons member members ih => simp [textMembers?, ih]

end Json

namespace Record

/-- The names of a record under those of their dialects, without the absent ones. -/
def members (record : Record) : List (Text × Text) :=
  ("adg".toList, record.adg) ::
    (record.ubo.toList.map fun ubo => ("ubo".toList, ubo)) ++
    (record.abp.toList.map fun abp => ("abp".toList, abp))

def value (record : Record) : Json.Value :=
  .ofMembers (record.members.map fun member => (member.1, .ofText member.2))

theorem toJson_eq (record : Record) :
    record.toJson =
      Json.writeObject (record.members.map fun member => (member.1, Json.writeText member.2)) := by
  simp [toJson, members, Function.comp_def]

theorem spells_toJson (record : Record) : Json.Spells record.toJson record.value := by
  rw [toJson_eq]
  apply Json.spells_writeObject
  rw [List.map_map, List.forall₂_map_left_iff, List.forall₂_map_right_iff, List.forall₂_same]
  intro member _
  exact ⟨rfl, Json.spells_writeText member.2⟩

theorem ofMembers?_texts (record : Record) :
    ofMembers? (.ofText record.adg) (record.ubo.map .ofText) (record.abp.map .ofText) =
      some record := by
  simp only [ofMembers?, Json.Value.text?_ofText, Json.Value.optionalText?_getD]

theorem ofJson?_value (record : Record) : ofJson? record.value = some record := by
  rw [← ofMembers?_texts record, value, Json.Value.ofMembers, ofJson?, Json.textMembers?_named,
    Option.bind_some]
  obtain ⟨adg, ubo, abp⟩ := record
  cases ubo <;> cases abp <;> simp [members, Json.member?]

end Record

namespace Table

variable {records : List Record}

def value (table : Table) : Json.Value :=
  .ofMembers [("scriptlets".toList, .array (table.scriptlets.map Record.value)),
    ("redirects".toList, .array (table.redirects.map Record.value))]

theorem spells_records (records : List Record) :
    Json.Spells (Json.writeArray (records.map Record.toJson))
      (.array (records.map Record.value)) := by
  apply Json.spells_writeArray
  rw [List.forall₂_map_left_iff, List.forall₂_map_right_iff, List.forall₂_same]
  exact fun record _ => record.spells_toJson

theorem spells_toJson (table : Table) : Json.Spells table.toJson table.value :=
  Json.spells_writeObject <|
    .cons ⟨rfl, spells_records _⟩ (.cons ⟨rfl, spells_records _⟩ .nil)

theorem listOfJson?_records (records : List Record) :
    Record.listOfJson? (some (.array (records.map Record.value))) = some records := by
  show (records.map Record.value).mapM Record.ofJson? = some records
  induction records with
  | nil => rfl
  | cons record records ih =>
    rw [List.map_cons, List.mapM_cons, Record.ofJson?_value, ih]
    rfl

theorem ofJson?_value (table : Table) : ofJson? table.value = some table := by
  obtain ⟨scriptlets, redirects⟩ := table
  rw [value, Json.Value.ofMembers, ofJson?, Json.textMembers?_named, Option.bind_some]
  simp [Json.member?, ofMembers?, listOfJson?_records]

theorem parse?_toJson (table : Table) : parse? table.toJson = some table := by
  rw [parse?, Json.parse?_of_spells table.spells_toJson, Option.bind_some, ofJson?_value]

/-- A table that is stored is read back as it was. Hence whatever text a table was read from,
storing and reading it again gives the same table, and storing that gives the same text. -/
theorem parse?_stored (table : Table) (t : Text) :
    parse? table.toJson = some table ∧
      ((parse? t).bind fun read => parse? read.toJson) = parse? t ∧
      (((parse? t).bind fun read => parse? read.toJson).map toJson) = (parse? t).map toJson := by
  have hagain : ((parse? t).bind fun read => parse? read.toJson) = parse? t := by
    cases hread : parse? t with
    | none => rfl
    | some read => exact parse?_toJson read
  exact ⟨parse?_toJson table, hagain, congrArg (Option.map toJson) hagain⟩

end Table

end FilterDialects
