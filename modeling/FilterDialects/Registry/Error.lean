import FilterDialects.Text.Shown

/-!
# Refused tables

Why there is no registry for a table: its text is no table, or a canonical name is empty
or listed twice. Shared aliases are never a reason.
-/

namespace FilterDialects

inductive RegistryError where
  /-- The text is not the JSON of a table. -/
  | invalidJson
  /-- An entry has an empty canonical name. -/
  | emptyName
  /-- Two entries of a list have the same canonical name. -/
  | duplicateName (name : Text)
  deriving DecidableEq

namespace RegistryError

/-- The wording of a refusal. A text that is no JSON has none. -/
def message? : RegistryError → Option Text
  | invalidJson => none
  | emptyName => some "compatibility record without an AdGuard name".toList
  | duplicateName name =>
    some ("AdGuard name ".toList ++ Text.shown name ++ " is listed more than once".toList)

end RegistryError

end FilterDialects
