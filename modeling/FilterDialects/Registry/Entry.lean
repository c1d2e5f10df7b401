import FilterDialects.Redirect.ContentType
import FilterDialects.Table.Basic
import FilterDialects.Text.Blank

/-!
# Registry entries

An entry is a record made ready for lookups: its names are trimmed, its uBlock Origin
names are a list, an empty Adblock Plus name is no name. A redirect entry also knows the
content types that its resource implies.
-/

namespace FilterDialects

/-- An AdGuard name with its aliases in the other dialects. -/
structure Entry where
  /-- The AdGuard name, the canonical one. -/
  name : Text
  /-- The uBlock Origin names in table order, of which the first is preferred. -/
  uboNames : List Text
  /-- The Adblock Plus name. -/
  abpName : Option Text
  /-- The content types that a redirect resource implies. -/
  contentTypes : Option (List Text)
  deriving DecidableEq

namespace Entry

/-- Whether a character stands between the names of a uBlock Origin list. -/
def separatesNames (c : Char) : Bool :=
  c = ',' || c = '(' || c = ')' || Text.isBlank c

/-- The names in a list such as `main.js (alias.js), other.js`, in order. -/
def splitNames (names : Text) : List Text :=
  (names.splitOnP separatesNames).filter (· ≠ [])

/-- The entry of a record in one of the two lists. -/
def ofRecord (list : Section) (record : Record) : Entry where
  name := Text.trim record.adg
  uboNames := (record.ubo.map splitNames).getD []
  abpName := (record.abp.map Text.trim).filter (· ≠ [])
  contentTypes :=
    match list with
    | .scriptlets => none
    | .redirects => ContentType.implied? (Text.trim record.adg)

def preferredUboName (entry : Entry) : Option Text :=
  entry.uboNames.head?

@[simp] theorem name_ofRecord (list : Section) (record : Record) :
    (ofRecord list record).name = Text.trim record.adg := rfl

@[simp] theorem uboNames_ofRecord (list : Section) (record : Record) :
    (ofRecord list record).uboNames = (record.ubo.map splitNames).getD [] := rfl

@[simp] theorem abpName_ofRecord (list : Section) (record : Record) :
    (ofRecord list record).abpName = (record.abp.map Text.trim).filter (· ≠ []) := rfl

@[simp] theorem contentTypes_ofRecord_scriptlets (record : Record) :
    (ofRecord .scriptlets record).contentTypes = none := rfl

end Entry

/-- A scriptlet name without its `.js` extension, if it has one. -/
def dropJs (name : Text) : Text :=
  (".js".toList.isSuffixOf? name).getD name

end FilterDialects
