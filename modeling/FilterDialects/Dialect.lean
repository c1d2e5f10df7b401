import FilterDialects.Text.Basic

/-!
# Dialects and kinds of rules

Three filter list dialects are told apart, and two families of rules in each: those that
inject a scriptlet into a page, and those that redirect a request to a mock resource.
Everything else is passed through.
-/

namespace FilterDialects

inductive Dialect where
  /-- AdGuard -/
  | adg
  /-- uBlock Origin -/
  | ubo
  /-- Adblock Plus -/
  | abp
  deriving DecidableEq

/-- What a rule does, whatever its dialect. -/
inductive RuleFamily where
  | scriptletInjection
  | redirect
  | other
  deriving DecidableEq

/-- What a line of a filter list is. -/
inductive RuleKind where
  | comment
  | scriptlet (dialect : Dialect)
  | redirect (dialect : Dialect)
  | other
  deriving DecidableEq

def Dialect.name : Dialect → Text
  | .adg => "Adg".toList
  | .ubo => "Ubo".toList
  | .abp => "Abp".toList

def Dialect.all : List Dialect := [.adg, .ubo, .abp]

namespace RuleKind

def family : RuleKind → RuleFamily
  | scriptlet _ => .scriptletInjection
  | redirect _ => .redirect
  | comment | other => .other

def dialect? : RuleKind → Option Dialect
  | scriptlet dialect | redirect dialect => some dialect
  | comment | other => none

/-- The name of a kind of rule, with its dialect in parentheses. -/
def name : RuleKind → Text
  | comment => "Comment".toList
  | scriptlet dialect => "Scriptlet(".toList ++ dialect.name ++ ")".toList
  | redirect dialect => "Redirect(".toList ++ dialect.name ++ ")".toList
  | other => "Other".toList

end RuleKind

end FilterDialects
