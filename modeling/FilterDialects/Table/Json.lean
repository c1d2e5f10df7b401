import FilterDialects.Json.Reader
import FilterDialects.Json.Writer
import FilterDialects.Table.Basic

/-!
# Compatibility tables as JSON

A table is stored as an object with a list of records for scriptlets and one for redirect
resources, and a record as an object with a name for each dialect. Both may also be
written as arrays, with what comes last left out.

The AdGuard name is required; everything else may be missing. Members with other names
are ignored, a member that repeats is refused.
-/

namespace FilterDialects

namespace Record

/-- Put a record together from its members, as far as they are given. -/
def ofMembers? (adg : Json.Value) (ubo abp : Option Json.Value) : Option Record :=
  match adg.text?, (ubo.getD .null).optionalText?, (abp.getD .null).optionalText? with
  | some adg, some ubo, some abp => some ⟨adg, ubo, abp⟩
  | _, _, _ => none

def ofJson? : Json.Value → Option Record
  | .object members =>
    (Json.textMembers? members).bind fun members =>
      match Json.member? "adg".toList members, Json.member? "ubo".toList members,
        Json.member? "abp".toList members with
      | some (some adg), some ubo, some abp => ofMembers? adg ubo abp
      | _, _, _ => none
  | .array [adg] => ofMembers? adg none none
  | .array [adg, ubo] => ofMembers? adg (some ubo) none
  | .array [adg, ubo, abp] => ofMembers? adg (some ubo) (some abp)
  | _ => none

/-- Read a list of records; a list that is left out is empty. -/
def listOfJson? : Option Json.Value → Option (List Record)
  | none => some []
  | some value => value.elements?.bind (List.mapM ofJson?)

def toJson (record : Record) : Text :=
  Json.writeObject <|
    ("adg".toList, Json.writeText record.adg) ::
      (record.ubo.toList.map fun ubo => ("ubo".toList, Json.writeText ubo)) ++
      (record.abp.toList.map fun abp => ("abp".toList, Json.writeText abp))

end Record

namespace Table

/-- Put a table together from its lists, as far as they are given. -/
def ofMembers? (scriptlets redirects : Option Json.Value) : Option Table :=
  match Record.listOfJson? scriptlets, Record.listOfJson? redirects with
  | some scriptlets, some redirects => some ⟨scriptlets, redirects⟩
  | _, _ => none

def ofJson? : Json.Value → Option Table
  | .object members =>
    (Json.textMembers? members).bind fun members =>
      match Json.member? "scriptlets".toList members,
        Json.member? "redirects".toList members with
      | some scriptlets, some redirects => ofMembers? scriptlets redirects
      | _, _ => none
  | .array [] => ofMembers? none none
  | .array [scriptlets] => ofMembers? (some scriptlets) none
  | .array [scriptlets, redirects] => ofMembers? (some scriptlets) (some redirects)
  | _ => none

def parse? (t : Text) : Option Table :=
  (Json.parse? t).bind ofJson?

def toJson (table : Table) : Text :=
  Json.writeObject
    [("scriptlets".toList, Json.writeArray (table.scriptlets.map Record.toJson)),
     ("redirects".toList, Json.writeArray (table.redirects.map Record.toJson))]

end Table

end FilterDialects
