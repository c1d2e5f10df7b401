import FilterDialects.Dialect
import FilterDialects.Json.Reader
import FilterDialects.Json.Writer

/-!
# Dialects as JSON

A dialect is stored as the string of its name. It is also read from an object whose only
member has that name and the value null.
-/

namespace FilterDialects.Dialect

def ofName? (name : Text) : Option Dialect :=
  all.find? fun dialect => dialect.name == name

def ofJson? : Json.Value → Option Dialect
  | .string units => (Json.StringUnit.text? units).bind ofName?
  | .object [(key, .null)] => (Json.StringUnit.text? key).bind ofName?
  | _ => none

def parse? (t : Text) : Option Dialect :=
  (Json.parse? t).bind ofJson?

def toJson (dialect : Dialect) : Text :=
  Json.writeText dialect.name

end FilterDialects.Dialect
