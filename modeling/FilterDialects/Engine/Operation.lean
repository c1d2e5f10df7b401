import FilterDialects.Engine.Basic

/-!
# Operations of an engine

Everything that an engine can be asked, as data, and the answers. `Operation.perform`
carries one operation out and `performAll` a sequence, in which a failing operation does
not stop the ones after it.
-/

namespace FilterDialects

inductive Operation where
  | uboScriptletToAdg (rule : Text)
  | abpSnippetToAdg (rule : Text)
  | scriptletToAdg (rule : Text)
  | adgScriptletToUbo (rule : Text)
  | uboRedirectToAdg (rule : Text)
  | abpRedirectToAdg (rule : Text)
  | redirectToAdg (rule : Text)
  | adgRedirectToUbo (rule : Text)
  | adgToUbo (rule : Text)
  | isValidScriptletRule (rule : Text)
  | isValidAdgRedirect (rule : Text)
  | redirectName (name : Text)
  | isKnownName (name : Text)
  | isAdgRedirect (name : Text)
  | classify (rule : Text)
  | predicates (rule : Text)
  | scriptletSource (rule : Text)
  | lookup (name : Text)
  | checkedCount
  | replaceTable (table : Table)
  | reload (text : Text)
  deriving DecidableEq

/-- What can be said of a rule by yes or no. -/
structure Predicates where
  isComment : Bool
  isAdgScriptlet : Bool
  isUboScriptlet : Bool
  isAbpSnippet : Bool
  isValidScriptletRule : Bool
  isValidAdgRedirect : Bool
  hasAdgFormOfUbo : Bool
  hasAdgFormOfAbp : Bool
  hasUboForm : Bool
  hasContentType : Bool
  deriving DecidableEq

/-- What a registry knows about a name: the canonical names it stands for. -/
structure NameReport where
  /-- The scriptlet with this canonical name. -/
  scriptlet : Option Text
  /-- The scriptlet that each dialect knows under this name. -/
  scriptletByAlias : Dialect → Option Text
  /-- The scriptlet that the name stands for in an AdGuard rule. -/
  found : Option Text
  /-- The redirect resource with this canonical name. -/
  redirect : Option Text
  isAdgRedirect : Bool
  /-- The uBlock Origin name of the redirect resource with this canonical name. -/
  redirectToUbo : Option Text
  redirectOfUbo : Option Text
  redirectOfAbp : Option Text
  contentTypes : Option (List Text)

inductive Answer where
  | text (t : Text)
  | texts (ts : List Text)
  | optionalText (t : Option Text)
  | verdict (b : Bool)
  | kind (kind : RuleKind)
  | predicates (predicates : Predicates)
  | source (source : ScriptletSource)
  | report (report : NameReport)
  | count (n : Nat)
  | sizes (scriptlets redirects : Nat)

inductive Failure where
  | conversion (error : ConversionError)
  | registry (error : RegistryError)
  deriving DecidableEq

def Failure.message? : Failure → Option Text
  | conversion error => some error.message
  | registry error => error.message?

def Registry.report (registry : Registry) (name : Text) : NameReport where
  scriptlet := (registry.scriptlet? name).map Entry.name
  scriptletByAlias dialect := (registry.scriptletByAlias? dialect name).map Entry.name
  found := (registry.findScriptlet? name).map Entry.name
  redirect := (registry.redirect? name).map Entry.name
  isAdgRedirect := registry.isAdgRedirect name
  redirectToUbo := registry.redirectToUbo? name
  redirectOfUbo := registry.redirectOfUbo? name
  redirectOfAbp := registry.redirectOfAbp? name
  contentTypes := registry.contentTypes? name

def Work.predicates (rule : Text) : Work Predicates := do
  let isValid ← isValidScriptletRule rule
  let registry ← registry
  return {
    isComment := Mask.isComment rule
    isAdgScriptlet := Mask.isAdgScriptlet rule
    isUboScriptlet := Mask.isUboScriptlet rule
    isAbpSnippet := Mask.isAbpSnippet rule
    isValidScriptletRule := isValid
    isValidAdgRedirect := isValidAdgRedirect registry rule
    hasAdgFormOfUbo := hasAdgFormOfUbo registry rule
    hasAdgFormOfAbp := hasAdgFormOfAbp registry rule
    hasUboForm := hasUboForm registry rule
    hasContentType := hasContentType rule }

namespace Operation

/-- An answer, or the failure of a conversion. -/
def ofConversion {α : Type} (answer : α → Answer) (outcome : Except ConversionError α) :
    Except Failure Answer :=
  match outcome with
  | .ok a => .ok (answer a)
  | .error error => .error (.conversion error)

/-- The sizes of the table in force, or why it was not replaced. -/
def ofReload : Except RegistryError Unit → Work (Except Failure Answer)
  | .error error => return .error (.registry error)
  | .ok () => do
    let registry ← Work.registry
    return .ok (.sizes registry.scriptlets.length registry.redirects.length)

def perform : Operation → Work (Except Failure Answer)
  | .uboScriptletToAdg rule => do
    return ofConversion .text (FilterDialects.uboScriptletToAdg (← get).engine.options rule)
  | .abpSnippetToAdg rule => return ofConversion .texts (FilterDialects.abpSnippetToAdg rule)
  | .scriptletToAdg rule => return ofConversion .texts (← Work.scriptletToAdg rule)
  | .adgScriptletToUbo rule => return ofConversion .optionalText (← Work.scriptletToUbo rule)
  | .uboRedirectToAdg rule => do
    return .ok (.optionalText (uboRedirectToAdg? (← Work.registry) rule))
  | .abpRedirectToAdg rule => do
    return .ok (.optionalText (abpRedirectToAdg? (← Work.registry) rule))
  | .redirectToAdg rule => return .ok (.optionalText (← Work.redirectToAdg rule))
  | .adgRedirectToUbo rule => do
    return ofConversion .text (FilterDialects.adgRedirectToUbo (← Work.registry) rule)
  | .adgToUbo rule => return ofConversion .optionalText (← Work.adgToUbo rule)
  | .isValidScriptletRule rule => return .ok (.verdict (← Work.isValidScriptletRule rule))
  | .isValidAdgRedirect rule => do
    return .ok (.verdict (FilterDialects.isValidAdgRedirect (← Work.registry) rule))
  | .redirectName name => return .ok (.optionalText ((← Work.registry).redirectName? name))
  | .isKnownName name => return .ok (.verdict (← Work.isKnownName name))
  | .isAdgRedirect name => return .ok (.verdict ((← Work.registry).isAdgRedirect name))
  | .classify rule => return .ok (.kind (← Work.classifyRule rule))
  | .predicates rule => return .ok (.predicates (← Work.predicates rule))
  | .scriptletSource rule => return ofConversion .source (← Work.scriptletSource rule)
  | .lookup name => return .ok (.report ((← Work.registry).report name))
  | .checkedCount => return .ok (.count (← get).engine.checkedCount)
  | .replaceTable table => do ofReload (← Work.replaceTable table)
  | .reload text => do ofReload (← Work.reload text)

def performAll (operations : List Operation) : Work (List (Except Failure Answer)) :=
  operations.mapM perform

end Operation

end FilterDialects
