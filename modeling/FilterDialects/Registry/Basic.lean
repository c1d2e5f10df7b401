import FilterDialects.Registry.Index

/-!
# Registries

A registry is a compatibility table made ready for lookups: the entries of both lists in
table order, and an index of the names of each. The indexes are part of a registry only
together with the fact that they were built from its entries.

`Registry.build` goes through the scriptlets first and then through the redirect
resources; whatever stops it is the earliest fault of the table.
-/

namespace FilterDialects

/-- A compatibility table with its indexes. -/
structure Registry where
  scriptlets : List Entry
  redirects : List Entry
  scriptletNames : NameIndex
  redirectNames : NameIndex
  scriptlets_indexed : (NameIndex.build .scriptlets scriptlets).2 = .ok scriptletNames
  redirects_indexed : (NameIndex.build .redirects redirects).2 = .ok redirectNames

namespace Registry

def empty : Registry := ⟨[], [], .empty, .empty, rfl, rfl⟩

/-- Build the registry of a table. The events are those up to the fault, if there is
one. -/
def build (table : Table) : List Event × Except RegistryError Registry :=
  let scriptlets := table.scriptlets.map (Entry.ofRecord .scriptlets)
  let redirects := table.redirects.map (Entry.ofRecord .redirects)
  match hs : (NameIndex.build .scriptlets scriptlets).2 with
  | .error fault => ((NameIndex.build .scriptlets scriptlets).1, .error fault)
  | .ok scriptletNames =>
    let warnings :=
      (NameIndex.build .scriptlets scriptlets).1 ++ (NameIndex.build .redirects redirects).1
    match hr : (NameIndex.build .redirects redirects).2 with
    | .error fault => (warnings, .error fault)
    | .ok redirectNames =>
      (warnings ++ [.registryBuilt scriptlets.length redirects.length],
        .ok ⟨scriptlets, redirects, scriptletNames, redirectNames, hs, hr⟩)

def scriptlet? (registry : Registry) (name : Text) : Option Entry :=
  registry.scriptletNames.adg[name]?

/-- The scriptlet that a dialect knows under a name. uBlock Origin names match with or
without their extension. -/
def scriptletByAlias? (registry : Registry) (dialect : Dialect) (name : Text) : Option Entry :=
  match dialect with
  | .adg => registry.scriptletNames.adg[name]?
  | .ubo => registry.scriptletNames.ubo[dropJs name]?
  | .abp => registry.scriptletNames.abp[name]?

/-- What marks a uBlock Origin name inside an AdGuard rule. -/
def uboMark : Text := "ubo-".toList

/-- What marks an Adblock Plus name inside an AdGuard rule. -/
def abpMark : Text := "abp-".toList

/-- The scriptlet that a name in an AdGuard rule stands for: a canonical name, a marked
name of another dialect, or a bare uBlock Origin name. -/
def findScriptlet? (registry : Registry) (name : Text) : Option Entry :=
  match registry.scriptlet? name with
  | some entry => some entry
  | none =>
    match uboMark.isPrefixOf? name with
    | some uboName => registry.scriptletByAlias? .ubo uboName
    | none =>
      match abpMark.isPrefixOf? name with
      | some abpName => registry.scriptletByAlias? .abp abpName
      | none => registry.scriptletByAlias? .ubo name

def knowsScriptlet (registry : Registry) (name : Text) : Bool :=
  (registry.findScriptlet? name).isSome

def redirect? (registry : Registry) (name : Text) : Option Entry :=
  registry.redirectNames.adg[name]?

def isAdgRedirect (registry : Registry) (name : Text) : Bool :=
  registry.redirectNames.adg.contains name

def redirectToUbo? (registry : Registry) (name : Text) : Option Text :=
  (registry.redirect? name).bind Entry.preferredUboName

def redirectOfUbo? (registry : Registry) (name : Text) : Option Text :=
  registry.redirectNames.ubo[name]?.map Entry.name

def redirectOfAbp? (registry : Registry) (name : Text) : Option Text :=
  registry.redirectNames.abp[name]?.map Entry.name

def contentTypes? (registry : Registry) (name : Text) : Option (List Text) :=
  (registry.redirect? name).bind Entry.contentTypes

/-- What marks an Adblock Plus resource. -/
def abpResourceMark : Text := "abp-resource:".toList

/-- The canonical name of a redirect resource that is named in any dialect. An Adblock
Plus name may carry its mark. -/
def redirectName? (registry : Registry) (name : Text) : Option Text :=
  if registry.isAdgRedirect name then some name
  else
    (registry.redirectOfUbo? name).or
      (registry.redirectOfAbp? ((abpResourceMark.isPrefixOf? name).getD name))

end Registry

end FilterDialects
