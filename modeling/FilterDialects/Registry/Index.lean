import FilterDialects.Event
import FilterDialects.Registry.Entry
import FilterDialects.Registry.Error
import Std.Data.HashMap

/-!
# Name indexes

An index maps the names of one list of entries, dialect by dialect, to the entry that
carries them, so that a lookup does not scan the list. An alias that several entries
carry belongs to the earliest of them, and a warning says so. Canonical names are never
shared: an index of entries with an empty or a repeated canonical name is refused.

Indexing runs over the entries once and gives the warnings met on the way together with
the index or the fault that stopped it.
-/

namespace FilterDialects

/-- The names of a list of entries, by dialect. -/
structure NameIndex where
  adg : Std.HashMap Text Entry
  ubo : Std.HashMap Text Entry
  abp : Std.HashMap Text Entry

namespace NameIndex

def empty : NameIndex := ⟨∅, ∅, ∅⟩

/-- The form under which a uBlock Origin name is looked up. Scriptlet names match with or
without their extension, resource names only as they are. -/
def uboKey : Section → Text → Text
  | .scriptlets, name => dropJs name
  | .redirects, name => name

/-- Enter an entry under an alias, unless the alias belongs to an earlier entry. -/
def enter (list : Section) (entry : Entry) (names : Std.HashMap Text Entry) (key : Text) :
    List Event × Std.HashMap Text Entry :=
  match names[key]? with
  | none => ([], names.insert key entry)
  | some holder =>
    (if holder.name = entry.name then [] else [.aliasShared list key holder.name entry.name],
      names)

def enterAll (list : Section) (entry : Entry) (names : Std.HashMap Text Entry) :
    List Text → List Event × Std.HashMap Text Entry
  | [] => ([], names)
  | key :: keys =>
    let first := enter list entry names key
    let rest := enterAll list entry first.2 keys
    (first.1 ++ rest.1, rest.2)

/-- Enter an entry under its canonical name and all its aliases. -/
def add (list : Section) (index : NameIndex) (entry : Entry) : List Event × NameIndex :=
  let ubo := enterAll list entry index.ubo (entry.uboNames.map (uboKey list))
  let abp := enterAll list entry index.abp entry.abpName.toList
  (ubo.1 ++ abp.1, ⟨index.adg.insert entry.name entry, ubo.2, abp.2⟩)

/-- Enter a list of entries, up to the first one whose canonical name is empty or taken. -/
def addAll (list : Section) (index : NameIndex) :
    List Entry → List Event × Except RegistryError NameIndex
  | [] => ([], .ok index)
  | entry :: entries =>
    if entry.name = [] then ([], .error .emptyName)
    else if index.adg.contains entry.name then ([], .error (.duplicateName entry.name))
    else
      let first := index.add list entry
      let rest := first.2.addAll list entries
      (first.1 ++ rest.1, rest.2)

def build (list : Section) (entries : List Entry) :
    List Event × Except RegistryError NameIndex :=
  empty.addAll list entries

@[simp] theorem build_nil (list : Section) : build list [] = ([], .ok empty) := rfl

end NameIndex

end FilterDialects
