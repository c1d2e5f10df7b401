import FilterDialects.Text.Basic

/-!
# Compatibility tables

A compatibility table lists AdGuard names with the names that uBlock Origin and Adblock
Plus use for the same behaviour. Scriptlets and redirect resources are kept apart, since
their names overlap.
-/

namespace FilterDialects

/-- One line of a compatibility table, as it is stored. -/
structure Record where
  /-- The AdGuard name. -/
  adg : Text
  /-- The uBlock Origin names, written as in `main.js (alias.js), other.js`. -/
  ubo : Option Text
  /-- The Adblock Plus name. -/
  abp : Option Text
  deriving DecidableEq

structure Table where
  scriptlets : List Record
  redirects : List Record
  deriving DecidableEq

inductive Section where
  | scriptlets
  | redirects
  deriving DecidableEq

def Section.word : Section → Text
  | .scriptlets => "scriptlet".toList
  | .redirects => "redirect".toList

end FilterDialects
