import FilterDialects.Conversion.Error
import FilterDialects.Registry.Basic
import FilterDialects.Scriptlet.Parser
import FilterDialects.Scriptlet.Printer

/-!
# From AdGuard to uBlock Origin

An AdGuard scriptlet rule goes to uBlock Origin under the name it is marked with, or
else under the preferred uBlock Origin name of its scriptlet, always without the `.js`
extension. Two scriptlets spell some values differently, and the doubled `$` of a marked
rule is single again.

A rule may have no counterpart. The outcome then says which of the possible causes it
was, so that the event to emit is a function of the outcome.
-/

namespace FilterDialects

namespace ToUbo

/-- What comes of an AdGuard scriptlet rule. -/
inductive Outcome where
  /-- The rule is not an AdGuard scriptlet rule. -/
  | notAdg
  /-- Its scriptlet is unknown. -/
  | unknown (name : Text)
  /-- Its scriptlet has no uBlock Origin name. -/
  | noName (name : Text)
  /-- The converted rule. -/
  | converted (rule : Text)
  deriving DecidableEq

namespace Outcome

def text? : Outcome → Option Text
  | converted rule => some rule
  | notAdg | unknown _ | noName _ => none

def events : Outcome → List Event
  | unknown name => [.scriptletUnknown name]
  | noName name => [.scriptletWithoutUbo name]
  | notAdg | converted _ => []

end Outcome

def constantValue (value : Text) : Text :=
  if value = [] then "''".toList
  else if value = "emptyArr".toList then "[]".toList
  else if value = "emptyObj".toList then "\x7b\x7d".toList
  else value

/-- The pattern of fetches to prevent as uBlock Origin spells it: all of them have to be
asked for by an expression. -/
def fetchPattern (pattern : Text) : Text :=
  if pattern = "*".toList ∨ pattern = [] ∨ pattern = "''".toList then "/^/".toList
  else pattern

/-- Spell the arguments of the scriptlet with a canonical name as uBlock Origin does. -/
def spellArgs (scriptlet : Text) (args : List Text) : List Text :=
  if scriptlet = "set-constant".toList then args.modify 1 constantValue
  else if scriptlet = "prevent-fetch".toList then args.modifyHead fetchPattern
  else args

def singleDollar (argument : Text) : Text :=
  if argument = ['$', '$'] then ['$'] else argument

/-- Write a rule whose scriptlet was found for uBlock Origin. -/
def convertFound (rule : ScriptletRule) (entry : Entry) : Outcome :=
  match Registry.uboMark.isPrefixOf? rule.name with
  | some name =>
    .converted <| ScriptletRule.toUbo
      { rule with
        name := dropJs name
        args := (spellArgs entry.name rule.args).map singleDollar }
  | none =>
    match entry.preferredUboName with
    | none => .noName rule.name
    | some name =>
      .converted <| ScriptletRule.toUbo
        { rule with name := dropJs name, args := spellArgs entry.name rule.args }

def convertRule (registry : Registry) (rule : ScriptletRule) : Outcome :=
  if rule.name = [] then .converted rule.toUbo
  else
    match registry.findScriptlet? rule.name with
    | none => .unknown rule.name
    | some entry => convertFound rule entry

end ToUbo

def adgScriptletToUbo (registry : Registry) (rule : Text) :
    Except ConversionError ToUbo.Outcome :=
  if Mask.isAdgScriptlet rule then
    (ConversionError.ofSyntax (ScriptletRule.parseAdg rule)).map (ToUbo.convertRule registry)
  else .ok .notAdg

end FilterDialects
