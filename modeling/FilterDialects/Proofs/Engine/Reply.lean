import FilterDialects.Engine.Operation

/-!
# Engines without memory

What an engine says depends on its options and its registry alone. The functions of this
module answer from these two, without a session; next to each stands the list of names
that the engine looks up on the way, in the order in which it does.

An engine is sound when it remembers only what its registry says. In a session on a sound
engine every action of the library gives the answer computed here, and does nothing else
than to learn those names and to append its events.
-/

namespace FilterDialects

namespace Engine

/-- The engine remembers of a name only what its registry says of it, and never remembers
the empty name. -/
def IsSound (engine : Engine) : Prop :=
  ∀ name known, engine.checked[name]? = some known →
    name ≠ [] ∧ known = engine.registry.knowsScriptlet name

/-- The engine after a name was looked up. -/
def learn (engine : Engine) (name : Text) : Engine :=
  if name = [] ∨ name ∈ engine.checked then engine
  else { engine with checked := engine.checked.insert name (engine.registry.knowsScriptlet name) }

def learnAll (engine : Engine) (names : List Text) : Engine :=
  names.foldl learn engine

@[simp] theorem learn_options (engine : Engine) (name : Text) :
    (engine.learn name).options = engine.options := by
  unfold learn
  split <;> rfl

@[simp] theorem learn_registry (engine : Engine) (name : Text) :
    (engine.learn name).registry = engine.registry := by
  unfold learn
  split <;> rfl

@[simp] theorem learnAll_nil (engine : Engine) : engine.learnAll [] = engine := rfl

@[simp] theorem learnAll_cons (engine : Engine) (name : Text) (names : List Text) :
    engine.learnAll (name :: names) = (engine.learn name).learnAll names := rfl

@[simp] theorem learnAll_append (engine : Engine) (first second : List Text) :
    engine.learnAll (first ++ second) = (engine.learnAll first).learnAll second :=
  List.foldl_append

@[simp] theorem learnAll_options (engine : Engine) (names : List Text) :
    (engine.learnAll names).options = engine.options := by
  induction names generalizing engine with
  | nil => rfl
  | cons name names ih => rw [learnAll_cons, ih, learn_options]

@[simp] theorem learnAll_registry (engine : Engine) (names : List Text) :
    (engine.learnAll names).registry = engine.registry := by
  induction names generalizing engine with
  | nil => rfl
  | cons name names ih => rw [learnAll_cons, ih, learn_registry]

namespace IsSound

theorem new (options : Options) (registry : Registry) : (new options registry).IsSound := by
  intro name known h
  simp [Engine.new] at h

theorem learn {engine : Engine} (h : engine.IsSound) (name : Text) :
    (engine.learn name).IsSound := by
  unfold Engine.learn
  split
  · exact h
  · next hnew =>
    intro other known hknown
    simp only [Std.HashMap.getElem?_insert, beq_iff_eq] at hknown
    split at hknown
    · next heq =>
      subst heq
      exact ⟨fun hnil => hnew (.inl hnil), (Option.some.inj hknown).symm⟩
    · exact h other known hknown

theorem learnAll {engine : Engine} (h : engine.IsSound) (names : List Text) :
    (engine.learnAll names).IsSound := by
  induction names generalizing engine with
  | nil => exact h
  | cons name names ih => exact ih (h.learn name)

end IsSound

end Engine

namespace Session

/-- The session after names were looked up and events emitted. -/
def advance (session : Session) (names : List Text) (events : List Event) : Session :=
  ⟨session.engine.learnAll names, session.events ++ events⟩

@[simp] theorem advance_engine (session : Session) (names : List Text) (events : List Event) :
    (session.advance names events).engine = session.engine.learnAll names := rfl

@[simp] theorem advance_events (session : Session) (names : List Text) (events : List Event) :
    (session.advance names events).events = session.events ++ events := rfl

@[simp] theorem advance_nil (session : Session) : session.advance [] [] = session := by
  simp [advance]

@[simp] theorem advance_advance (session : Session) (names names' : List Text)
    (events events' : List Event) :
    (session.advance names events).advance names' events' =
      session.advance (names ++ names') (events ++ events') := by
  simp [advance]

end Session

namespace Registry

/-- Whether a name may stand in an AdGuard rule: it stands for a scriptlet, or for all. -/
def acceptsName (registry : Registry) (name : Text) : Bool :=
  decide (name = []) || registry.knowsScriptlet name

def scriptletSource (registry : Registry) (rule : Text) :
    Except ConversionError ScriptletSource :=
  match classify registry rule with
  | .scriptlet .ubo => .ok .ubo
  | .scriptlet .abp => .ok .abp
  | .scriptlet .adg =>
    match ScriptletRule.parseAdg rule with
    | .error fault => .error (.malformed fault)
    | .ok parsed => .ok (if registry.acceptsName parsed.name then .adgKnown else .adgUnknown)
  | .comment | .redirect _ | .other => .ok .other

def adgNames (rule : Text) : List Text :=
  match ScriptletRule.parseAdg rule with
  | .error _ => []
  | .ok parsed => [parsed.name]

def sourceNames (registry : Registry) (rule : Text) : List Text :=
  if classify registry rule = .scriptlet .adg then adgNames rule else []

def scriptletToAdg (registry : Registry) (options : Options) (rule : Text) :
    Except ConversionError (List Text) :=
  match registry.scriptletSource rule with
  | .error failure => .error failure
  | .ok .ubo => (uboScriptletToAdg options rule).map fun out => [out]
  | .ok .abp => abpSnippetToAdg rule
  | .ok .adgKnown | .ok .other => .ok [rule]
  | .ok .adgUnknown => .ok []

def conversionEvents (registry : Registry) (rule : Text) : List Event :=
  classifyEvents registry rule ++
    match registry.scriptletSource rule with
    | .ok .adgUnknown => [.unknownRuleDropped rule]
    | _ => []

def scriptletToUbo (registry : Registry) (rule : Text) : Except ConversionError (Option Text) :=
  (adgScriptletToUbo registry rule).map ToUbo.Outcome.text?

def uboEvents (registry : Registry) (rule : Text) : List Event :=
  match adgScriptletToUbo registry rule with
  | .error _ => []
  | .ok outcome => outcome.events

def adgToUbo (registry : Registry) (rule : Text) : Except ConversionError (Option Text) :=
  match classify registry rule with
  | .scriptlet .adg => registry.scriptletToUbo rule
  | .redirect .adg => (adgRedirectToUbo registry rule).map some
  | _ => .ok none

def adgToUboEvents (registry : Registry) (rule : Text) : List Event :=
  classifyEvents registry rule ++
    if classify registry rule = .scriptlet .adg then registry.uboEvents rule else []

def isKnownRule (registry : Registry) (rule : Text) : Bool :=
  match ScriptletRule.parseAdg rule with
  | .error _ => false
  | .ok parsed => registry.acceptsName parsed.name

/-- The names that are looked up in AdGuard rules, up to the first that is not known. -/
def ruleNames (registry : Registry) : List Text → List Text
  | [] => []
  | rule :: rules =>
    adgNames rule ++ if registry.isKnownRule rule then registry.ruleNames rules else []

def isValidScriptletRule (registry : Registry) (options : Options) (rule : Text) : Bool :=
  match classify registry rule with
  | .scriptlet _ =>
    match registry.scriptletToAdg options rule with
    | .error _ => false
    | .ok rules => !rules.isEmpty && rules.all registry.isKnownRule
  | .comment | .redirect _ | .other => false

def validityNames (registry : Registry) (options : Options) (rule : Text) : List Text :=
  match classify registry rule with
  | .scriptlet _ =>
    registry.sourceNames rule ++
      match registry.scriptletToAdg options rule with
      | .error _ => []
      | .ok rules => registry.ruleNames rules
  | .comment | .redirect _ | .other => []

def validityEvents (registry : Registry) (options : Options) (rule : Text) : List Event :=
  classifyEvents registry rule ++
    match classify registry rule with
    | .scriptlet _ =>
      registry.conversionEvents rule ++
        match registry.scriptletToAdg options rule with
        | .error failure => [.notConvertible rule failure.message]
        | .ok _ => []
    | .comment | .redirect _ | .other => []

end Registry

/-- What comes of an action: its answer, the names looked up and the events emitted. -/
structure Reply (α : Type) where
  answer : α
  names : List Text
  events : List Event

namespace Work

variable {α β : Type} {session : Session}

theorem pure_apply (a : α) (session : Session) : (pure a : Work α) session = (a, session) := rfl

theorem bind_apply (work : Work α) (next : α → Work β) (session : Session) :
    (work >>= next) session = next (work session).1 (work session).2 := rfl

theorem map_apply (f : α → β) (work : Work α) (session : Session) :
    (f <$> work) session = (f (work session).1, (work session).2) := rfl

theorem get_apply (session : Session) : (get : Work Session) session = (session, session) := rfl

theorem registry_apply (session : Session) :
    registry session = (session.engine.registry, session) := rfl

theorem emit_apply (events : List Event) (session : Session) :
    emit events session = ((), session.advance [] events) := rfl

theorem classifyRule_apply (rule : Text) (session : Session) :
    classifyRule rule session =
      (classify session.engine.registry rule,
        session.advance [] (classifyEvents session.engine.registry rule)) := rfl

theorem remember_apply (name : Text) (known : Bool) (session : Session) :
    remember name known session =
      ((), { session with
        engine := { session.engine with
          checked := session.engine.checked.insert name known } }) := rfl

/-- A name is accepted by what the registry says, whether it was looked up before or not. -/
theorem isKnownName_apply (h : session.engine.IsSound) (name : Text) :
    isKnownName name session =
      (session.engine.registry.acceptsName name, session.advance [name] []) := by
  by_cases hnil : name = []
  · subst hnil
    simp [isKnownName, Registry.acceptsName, pure_apply, Session.advance, Engine.learn]
  simp only [isKnownName, hnil, if_false, bind_apply, get_apply]
  cases hmem : session.engine.checked[name]? with
  | some known =>
    have hin : name ∈ session.engine.checked := by
      rw [Std.HashMap.mem_iff_isSome_getElem?, hmem]
      rfl
    have hknown := (h name known hmem).2
    simp [Registry.acceptsName, hnil, hknown, pure_apply, Session.advance, Engine.learn, hin]
  | none =>
    have hout : name ∉ session.engine.checked := by
      rw [Std.HashMap.mem_iff_isSome_getElem?, hmem]
      simp
    simp [Registry.acceptsName, hnil, bind_apply, map_apply, registry_apply, remember_apply,
      Session.advance, Engine.learn, hout]

theorem scriptletSource_apply (h : session.engine.IsSound) (rule : Text) :
    scriptletSource rule session =
      (session.engine.registry.scriptletSource rule,
        session.advance (session.engine.registry.sourceNames rule)
          (classifyEvents session.engine.registry rule)) := by
  simp only [scriptletSource, bind_apply, classifyRule_apply, Registry.scriptletSource,
    Registry.sourceNames]
  cases hkind : classify session.engine.registry rule with
  | comment | redirect _ | other => simp [pure_apply]
  | scriptlet dialect =>
    cases dialect with
    | ubo | abp => simp [pure_apply]
    | adg =>
      cases hparse : ScriptletRule.parseAdg rule with
      | error fault => simp [Registry.adgNames, hparse, pure_apply]
      | ok parsed =>
        have hclassified :
            (session.advance [] (classifyEvents session.engine.registry rule)).engine.IsSound := h
        simp [Registry.adgNames, hparse, bind_apply, isKnownName_apply hclassified, pure_apply]

theorem scriptletToAdg_apply (h : session.engine.IsSound) (rule : Text) :
    scriptletToAdg rule session =
      (session.engine.registry.scriptletToAdg session.engine.options rule,
        session.advance (session.engine.registry.sourceNames rule)
          (session.engine.registry.conversionEvents rule)) := by
  simp only [scriptletToAdg, bind_apply, scriptletSource_apply h, Registry.scriptletToAdg,
    Registry.conversionEvents]
  cases session.engine.registry.scriptletSource rule with
  | error failure => simp [pure_apply]
  | ok source =>
    cases source <;> simp [bind_apply, get_apply, emit_apply, pure_apply]

theorem scriptletToUbo_apply (rule : Text) (session : Session) :
    scriptletToUbo rule session =
      (session.engine.registry.scriptletToUbo rule,
        session.advance [] (session.engine.registry.uboEvents rule)) := by
  simp only [scriptletToUbo, bind_apply, registry_apply, Registry.scriptletToUbo,
    Registry.uboEvents]
  cases adgScriptletToUbo session.engine.registry rule with
  | error failure => simp [pure_apply, Except.map]
  | ok outcome => rfl

theorem adgToUbo_apply (rule : Text) (session : Session) :
    adgToUbo rule session =
      (session.engine.registry.adgToUbo rule,
        session.advance [] (session.engine.registry.adgToUboEvents rule)) := by
  simp only [adgToUbo, bind_apply, classifyRule_apply, Registry.adgToUbo,
    Registry.adgToUboEvents]
  cases classify session.engine.registry rule with
  | comment | other => simp [pure_apply]
  | scriptlet dialect => cases dialect <;> simp [scriptletToUbo_apply, pure_apply]
  | redirect dialect => cases dialect <;> simp [map_apply, registry_apply, pure_apply]

/-- Rules are read up to the first that is not known. -/
theorem areKnownRules_apply (h : session.engine.IsSound) (rules : List Text) :
    areKnownRules rules session =
      (rules.all session.engine.registry.isKnownRule,
        session.advance (session.engine.registry.ruleNames rules) []) := by
  induction rules generalizing session with
  | nil => simp [areKnownRules, Registry.ruleNames, pure_apply]
  | cons rule rules ih =>
    cases hparse : ScriptletRule.parseAdg rule with
    | error fault =>
      simp [areKnownRules, Registry.ruleNames, Registry.isKnownRule, Registry.adgNames, hparse,
        pure_apply]
    | ok parsed =>
      have hnext : (session.advance [parsed.name] []).engine.IsSound := h.learnAll _
      simp only [areKnownRules, hparse, bind_apply, isKnownName_apply h]
      cases haccepts : session.engine.registry.acceptsName parsed.name with
      | false =>
        simp [Registry.ruleNames, Registry.isKnownRule, Registry.adgNames, hparse, haccepts,
          pure_apply]
      | true =>
        simp [Registry.ruleNames, Registry.isKnownRule, Registry.adgNames, hparse, haccepts,
          ih hnext]

theorem isValidScriptletRule_apply (h : session.engine.IsSound) (rule : Text) :
    isValidScriptletRule rule session =
      (session.engine.registry.isValidScriptletRule session.engine.options rule,
        session.advance (session.engine.registry.validityNames session.engine.options rule)
          (session.engine.registry.validityEvents session.engine.options rule)) := by
  simp only [isValidScriptletRule, bind_apply, classifyRule_apply, Registry.isValidScriptletRule,
    Registry.validityNames, Registry.validityEvents]
  cases hkind : classify session.engine.registry rule with
  | comment | redirect _ | other => simp [RuleKind.family, pure_apply]
  | scriptlet dialect =>
    have hclassified :
        (session.advance [] (classifyEvents session.engine.registry rule)).engine.IsSound := h
    simp only [RuleKind.family, bind_apply, scriptletToAdg_apply hclassified]
    simp only [Session.advance_engine, Engine.learnAll_nil, Session.advance_advance]
    cases session.engine.registry.scriptletToAdg session.engine.options rule with
    | error failure => simp [bind_apply, emit_apply, pure_apply]
    | ok rules =>
      cases rules with
      | nil => simp [Registry.ruleNames, pure_apply]
      | cons first rest =>
        have hconverted :
            (session.advance (session.engine.registry.sourceNames rule)
              (classifyEvents session.engine.registry rule ++
                session.engine.registry.conversionEvents rule)).engine.IsSound := h.learnAll _
        simp [areKnownRules_apply hconverted]

theorem predicates_apply (h : session.engine.IsSound) (rule : Text) :
    predicates rule session =
      ({ isComment := Mask.isComment rule
         isAdgScriptlet := Mask.isAdgScriptlet rule
         isUboScriptlet := Mask.isUboScriptlet rule
         isAbpSnippet := Mask.isAbpSnippet rule
         isValidScriptletRule :=
           session.engine.registry.isValidScriptletRule session.engine.options rule
         isValidAdgRedirect := isValidAdgRedirect session.engine.registry rule
         hasAdgFormOfUbo := hasAdgFormOfUbo session.engine.registry rule
         hasAdgFormOfAbp := hasAdgFormOfAbp session.engine.registry rule
         hasUboForm := hasUboForm session.engine.registry rule
         hasContentType := hasContentType rule },
        session.advance (session.engine.registry.validityNames session.engine.options rule)
          (session.engine.registry.validityEvents session.engine.options rule)) := by
  simp [predicates, bind_apply, map_apply, isValidScriptletRule_apply h, registry_apply]

end Work

end FilterDialects
