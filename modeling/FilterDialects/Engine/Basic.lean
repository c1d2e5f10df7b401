import FilterDialects.Conversion.FromAbp
import FilterDialects.Conversion.FromUbo
import FilterDialects.Conversion.Redirect
import FilterDialects.Conversion.ToUbo
import FilterDialects.Registry.Load

/-!
# Engines

An engine owns a registry and answers questions about rules against it. Whether a name
stands for a scriptlet is looked up only the first time it is asked; the engine
remembers the names it has checked until it gets another table.

A session is an engine at work together with the events it has emitted so far. The
actions of this module are those that remember names, emit events, or both; everything
else an engine can answer is a plain function of its registry.
-/

namespace FilterDialects

/-- A registry with what has been found out about names. -/
structure Engine where
  options : Options
  registry : Registry
  /-- The names that were checked, and whether they stand for a scriptlet. -/
  checked : Std.HashMap Text Bool

namespace Engine

/-- An engine that has checked no name yet. -/
def new (options : Options) (registry : Registry) : Engine :=
  ⟨options, registry, ∅⟩

def checkedCount (engine : Engine) : Nat :=
  engine.checked.size

def ofTable (options : Options) (table : Table) : List Event × Except RegistryError Engine :=
  ((Registry.build table).1, (Registry.build table).2.map (new options))

/-- The engine with another table. What was found out about names is forgotten; a table
that does not build changes nothing. -/
def reload (engine : Engine) (table : Table) : List Event × Except RegistryError Engine :=
  ((Registry.build table).1,
    (Registry.build table).2.map fun registry =>
      { engine with registry := registry, checked := ∅ })

@[simp] theorem checkedCount_new (options : Options) (registry : Registry) :
    (new options registry).checkedCount = 0 := by
  simp [new, checkedCount]

end Engine

/-- An engine and the events emitted so far, oldest first. -/
structure Session where
  engine : Engine
  events : List Event

/-- An action on a session. -/
abbrev Work (α : Type) := StateM Session α

/-- How a rule is converted to AdGuard scriptlet rules. -/
inductive ScriptletSource where
  /-- A uBlock Origin scriptlet rule. -/
  | ubo
  /-- An Adblock Plus snippet rule. -/
  | abp
  /-- An AdGuard rule whose scriptlet is known. -/
  | adgKnown
  /-- An AdGuard rule whose scriptlet is unknown. -/
  | adgUnknown
  /-- No scriptlet rule. -/
  | other
  deriving DecidableEq

namespace Work

def emit (events : List Event) : Work Unit :=
  modify fun session => { session with events := session.events ++ events }

def registry : Work Registry := do
  return (← get).engine.registry

def remember (name : Text) (known : Bool) : Work Unit :=
  modify fun session =>
    { session with
      engine := { session.engine with checked := session.engine.checked.insert name known } }

/-- Whether a name stands for a scriptlet, from memory where possible. The empty name is
accepted, as it switches all scriptlets off, and is not remembered. -/
def isKnownName (name : Text) : Work Bool := do
  if name = [] then return true
  match (← get).engine.checked[name]? with
  | some known => return known
  | none =>
    let known := (← registry).knowsScriptlet name
    remember name known
    return known

def classifyRule (rule : Text) : Work RuleKind := do
  let registry ← registry
  emit (classifyEvents registry rule)
  return classify registry rule

/-- How a rule is converted to AdGuard. An AdGuard rule is read, so that its scriptlet can
be checked. -/
def scriptletSource (rule : Text) : Work (Except ConversionError ScriptletSource) := do
  match ← classifyRule rule with
  | .scriptlet .ubo => return .ok .ubo
  | .scriptlet .abp => return .ok .abp
  | .scriptlet .adg =>
    match ScriptletRule.parseAdg rule with
    | .error fault => return .error (.malformed fault)
    | .ok parsed => return .ok (if ← isKnownName parsed.name then .adgKnown else .adgUnknown)
  | .comment | .redirect _ | .other => return .ok .other

/-- Convert a scriptlet rule of any dialect to AdGuard rules. A rule with an unknown
scriptlet gives none; what is no scriptlet rule stays. -/
def scriptletToAdg (rule : Text) : Work (Except ConversionError (List Text)) := do
  match ← scriptletSource rule with
  | .error failure => return .error failure
  | .ok .ubo => return (uboScriptletToAdg (← get).engine.options rule).map fun out => [out]
  | .ok .abp => return abpSnippetToAdg rule
  | .ok .adgKnown | .ok .other => return .ok [rule]
  | .ok .adgUnknown =>
    emit [.unknownRuleDropped rule]
    return .ok []

/-- Convert an AdGuard scriptlet rule to uBlock Origin, if it has a counterpart there. -/
def scriptletToUbo (rule : Text) : Work (Except ConversionError (Option Text)) := do
  match adgScriptletToUbo (← registry) rule with
  | .error failure => return .error failure
  | .ok outcome =>
    emit outcome.events
    return .ok outcome.text?

def redirectToAdg (rule : Text) : Work (Option Text) := do
  let registry ← registry
  emit (classifyEvents registry rule)
  return redirectToAdg? registry rule

/-- Convert an AdGuard rule of either family to uBlock Origin, if it has a counterpart
there. -/
def adgToUbo (rule : Text) : Work (Except ConversionError (Option Text)) := do
  match ← classifyRule rule with
  | .scriptlet .adg => scriptletToUbo rule
  | .redirect .adg => return (adgRedirectToUbo (← registry) rule).map some
  | _ => return .ok none

/-- Whether AdGuard rules are well formed and their scriptlets known. Checking stops at
the first that is not. -/
def areKnownRules : List Text → Work Bool
  | [] => return true
  | rule :: rules => do
    match ScriptletRule.parseAdg rule with
    | .error _ => return false
    | .ok parsed => if ← isKnownName parsed.name then areKnownRules rules else return false

def isValidScriptletRule (rule : Text) : Work Bool := do
  match (← classifyRule rule).family with
  | .redirect | .other => return false
  | .scriptletInjection =>
    match ← scriptletToAdg rule with
    | .error failure =>
      emit [.notConvertible rule failure.message]
      return false
    | .ok [] => return false
    | .ok rules => areKnownRules rules

def replaceTable (table : Table) : Work (Except RegistryError Unit) := do
  let (events, outcome) := (← get).engine.reload table
  emit events
  match outcome with
  | .error fault => return .error fault
  | .ok engine =>
    modify fun session => { session with engine := engine }
    return .ok ()

/-- Replace the table of the engine by the one that a text holds. -/
def reload (text : Text) : Work (Except RegistryError Unit) :=
  match Table.parse? text with
  | none => return .error .invalidJson
  | some table => replaceTable table

end Work

end FilterDialects
