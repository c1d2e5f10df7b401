import FilterDialects.Registry.Basic
import FilterDialects.Table.Json
import FilterDialects.Table.Shipped

/-!
# Where registries come from

A registry is built from the text of a table or from the shipped table. The shipped
registry is there without a condition: would its table not build, it would be empty.
-/

namespace FilterDialects.Registry

def load (t : Text) : List Event × Except RegistryError Registry :=
  match Table.parse? t with
  | none => ([], .error .invalidJson)
  | some table => build table

def shipped : Registry :=
  match (build Table.shipped).2 with
  | .ok registry => registry
  | .error _ => empty

end FilterDialects.Registry
