import FilterDialects.Proofs.Engine.Reply
import FilterDialects.Proofs.Outcome
import FilterDialects.Proofs.Registry.Lookup

/-!
# The memory of an engine cannot be observed

An engine that has carried out any operations is sound, and a sound engine answers every
question as an engine does that was just built from the table in force. Only the number
of names that were checked tells the two apart.

A question leaves the table alone. A new table either builds, and then the engine is the
one that the table gives anew, or it does not, and then the engine stays what it was.
-/

namespace FilterDialects

namespace Operation

/-- The answer to a question, with the names looked up for it and its events. Counting the
checked names and replacing the table are no questions. -/
def reply? (options : Options) (registry : Registry) :
    Operation → Option (Reply (Except Failure Answer))
  | .uboScriptletToAdg rule =>
    some ⟨ofConversion .text (FilterDialects.uboScriptletToAdg options rule), [], []⟩
  | .abpSnippetToAdg rule =>
    some ⟨ofConversion .texts (FilterDialects.abpSnippetToAdg rule), [], []⟩
  | .scriptletToAdg rule =>
    some ⟨ofConversion .texts (registry.scriptletToAdg options rule),
      registry.sourceNames rule, registry.conversionEvents rule⟩
  | .adgScriptletToUbo rule =>
    some ⟨ofConversion .optionalText (registry.scriptletToUbo rule), [], registry.uboEvents rule⟩
  | .uboRedirectToAdg rule => some ⟨.ok (.optionalText (uboRedirectToAdg? registry rule)), [], []⟩
  | .abpRedirectToAdg rule => some ⟨.ok (.optionalText (abpRedirectToAdg? registry rule)), [], []⟩
  | .redirectToAdg rule =>
    some ⟨.ok (.optionalText (redirectToAdg? registry rule)), [], classifyEvents registry rule⟩
  | .adgRedirectToUbo rule =>
    some ⟨ofConversion .text (FilterDialects.adgRedirectToUbo registry rule), [], []⟩
  | .adgToUbo rule =>
    some ⟨ofConversion .optionalText (registry.adgToUbo rule), [], registry.adgToUboEvents rule⟩
  | .isValidScriptletRule rule =>
    some ⟨.ok (.verdict (registry.isValidScriptletRule options rule)),
      registry.validityNames options rule, registry.validityEvents options rule⟩
  | .isValidAdgRedirect rule =>
    some ⟨.ok (.verdict (FilterDialects.isValidAdgRedirect registry rule)), [], []⟩
  | .redirectName name => some ⟨.ok (.optionalText (registry.redirectName? name)), [], []⟩
  | .isKnownName name => some ⟨.ok (.verdict (registry.acceptsName name)), [name], []⟩
  | .isAdgRedirect name => some ⟨.ok (.verdict (registry.isAdgRedirect name)), [], []⟩
  | .classify rule =>
    some ⟨.ok (.kind (FilterDialects.classify registry rule)), [], classifyEvents registry rule⟩
  | .predicates rule =>
    some ⟨.ok (.predicates
      { isComment := Mask.isComment rule
        isAdgScriptlet := Mask.isAdgScriptlet rule
        isUboScriptlet := Mask.isUboScriptlet rule
        isAbpSnippet := Mask.isAbpSnippet rule
        isValidScriptletRule := registry.isValidScriptletRule options rule
        isValidAdgRedirect := FilterDialects.isValidAdgRedirect registry rule
        hasAdgFormOfUbo := hasAdgFormOfUbo registry rule
        hasAdgFormOfAbp := hasAdgFormOfAbp registry rule
        hasUboForm := hasUboForm registry rule
        hasContentType := hasContentType rule }),
      registry.validityNames options rule, registry.validityEvents options rule⟩
  | .scriptletSource rule =>
    some ⟨ofConversion .source (registry.scriptletSource rule), registry.sourceNames rule,
      classifyEvents registry rule⟩
  | .lookup name => some ⟨.ok (.report (registry.report name)), [], []⟩
  | .checkedCount | .replaceTable _ | .reload _ => none

open Work in
/-- On a sound engine a question is answered from options and registry. -/
theorem perform_of_reply? {session : Session} {operation : Operation}
    {reply : Reply (Except Failure Answer)} (h : session.engine.IsSound)
    (hreply : operation.reply? session.engine.options session.engine.registry = some reply) :
    operation.perform session = (reply.answer, session.advance reply.names reply.events) := by
  cases operation with
  | uboScriptletToAdg rule | abpSnippetToAdg rule | uboRedirectToAdg rule | abpRedirectToAdg rule
  | adgRedirectToUbo rule | isValidAdgRedirect rule | redirectName name | isAdgRedirect name
  | lookup name =>
    obtain rfl := Option.some.inj hreply
    simp [perform, bind_apply, get_apply, registry_apply, pure_apply]
  | redirectToAdg rule | classify rule =>
    obtain rfl := Option.some.inj hreply
    rfl
  | scriptletToAdg rule =>
    obtain rfl := Option.some.inj hreply
    simp [perform, map_apply, scriptletToAdg_apply h]
  | adgScriptletToUbo rule =>
    obtain rfl := Option.some.inj hreply
    simp [perform, map_apply, scriptletToUbo_apply]
  | adgToUbo rule =>
    obtain rfl := Option.some.inj hreply
    simp [perform, map_apply, adgToUbo_apply]
  | isValidScriptletRule rule =>
    obtain rfl := Option.some.inj hreply
    simp [perform, map_apply, isValidScriptletRule_apply h]
  | isKnownName name =>
    obtain rfl := Option.some.inj hreply
    simp [perform, map_apply, isKnownName_apply h]
  | predicates rule =>
    obtain rfl := Option.some.inj hreply
    simp [perform, map_apply, predicates_apply h]
  | scriptletSource rule =>
    obtain rfl := Option.some.inj hreply
    simp [perform, map_apply, scriptletSource_apply h]
  | checkedCount | replaceTable _ | reload _ => simp [reply?] at hreply

/-- An operation is a question, counts the checked names or brings a table. -/
theorem reply?_cases (operation : Operation) (options : Options) (registry : Registry) :
    (∃ reply, operation.reply? options registry = some reply) ∨ operation = .checkedCount ∨
      (∃ table, operation = .replaceTable table) ∨ ∃ text, operation = .reload text := by
  cases operation <;> simp [reply?]

theorem perform_replaceTable_of_ok {table : Table} {registry : Registry}
    (h : (Registry.build table).2 = .ok registry) (session : Session) :
    (replaceTable table).perform session =
      (.ok (.sizes registry.scriptlets.length registry.redirects.length),
        ⟨Engine.new session.engine.options registry,
          session.events ++ (Registry.build table).1⟩) := by
  simp only [perform, Work.replaceTable, Engine.reload, Work.bind_apply, Work.get_apply, h]
  rfl

theorem perform_replaceTable_of_error {table : Table} {fault : RegistryError}
    (h : (Registry.build table).2 = .error fault) (session : Session) :
    (replaceTable table).perform session =
      (.error (.registry fault),
        ⟨session.engine, session.events ++ (Registry.build table).1⟩) := by
  simp only [perform, Work.replaceTable, Engine.reload, Work.bind_apply, Work.get_apply, h]
  rfl

theorem perform_reload_of_none {text : Text} (h : Table.parse? text = none) (session : Session) :
    (reload text).perform session = (.error (.registry .invalidJson), session) := by
  simp only [perform, Work.reload, h]
  rfl

theorem perform_reload_of_some {text : Text} {table : Table} (h : Table.parse? text = some table) :
    (reload text).perform = (replaceTable table).perform := by
  simp only [perform, Work.reload, h]

/-- What is answered to a table does not depend on the engine that gets it. -/
theorem answer_replaceTable (table : Table) (session other : Session) :
    ((replaceTable table).perform session).1 = ((replaceTable table).perform other).1 := by
  cases hbuild : (Registry.build table).2 with
  | error fault => simp only [perform_replaceTable_of_error hbuild]
  | ok registry => simp only [perform_replaceTable_of_ok hbuild]

theorem answer_reload (text : Text) (session other : Session) :
    ((reload text).perform session).1 = ((reload text).perform other).1 := by
  cases hparse : Table.parse? text with
  | none => simp only [perform_reload_of_none hparse]
  | some table =>
    simpa only [perform_reload_of_some hparse] using answer_replaceTable table session other

/-- The table that an operation brings, if it brings one. -/
def newTable? : Operation → Option Table
  | .replaceTable table => some table
  | .reload text => Table.parse? text
  | _ => none

@[simp] theorem performAll_nil (session : Session) : performAll [] session = ([], session) := rfl

@[simp] theorem performAll_cons (operation : Operation) (operations : List Operation)
    (session : Session) :
    performAll (operation :: operations) session =
      ((operation.perform session).1 :: (performAll operations (operation.perform session).2).1,
        (performAll operations (operation.perform session).2).2) := by
  simp only [performAll, List.mapM_cons]
  rfl

end Operation

namespace Table

def builds (table : Table) : Bool :=
  (Registry.build table).2.isOk

/-- The table in force after an operation. A table that does not build never is. -/
def after (table : Table) (operation : Operation) : Table :=
  (operation.newTable?.filter builds).getD table

def afterAll (table : Table) (operations : List Operation) : Table :=
  operations.foldl after table

@[simp] theorem afterAll_nil (table : Table) : table.afterAll [] = table := rfl

@[simp] theorem afterAll_cons (table : Table) (operation : Operation)
    (operations : List Operation) :
    table.afterAll (operation :: operations) = (table.after operation).afterAll operations := rfl

theorem builds_of_ok {table : Table} {registry : Registry}
    (h : (Registry.build table).2 = .ok registry) : table.builds = true := by
  simp [builds, h, Except.isOk, Except.toBool]

theorem builds_of_error {table : Table} {fault : RegistryError}
    (h : (Registry.build table).2 = .error fault) : table.builds = false := by
  simp [builds, h, Except.isOk, Except.toBool]

end Table

namespace Engine

theorem ofTable_eq_ok_iff {options : Options} {table : Table} {engine : Engine} :
    (ofTable options table).2 = .ok engine ↔
      ∃ registry, (Registry.build table).2 = .ok registry ∧ new options registry = engine :=
  Outcome.map_eq_ok

/-- What stays true of an engine at work: it is sound, keeps its options, and its registry
is the one of the table in force. -/
structure Serves (engine : Engine) (options : Options) (table : Table) : Prop where
  sound : engine.IsSound
  options_eq : engine.options = options
  built : (Registry.build table).2 = .ok engine.registry

namespace Serves

variable {options : Options} {table : Table} {session : Session}

theorem of_ofTable {engine : Engine} (h : (ofTable options table).2 = .ok engine) :
    engine.Serves options table := by
  obtain ⟨registry, hbuild, rfl⟩ := ofTable_eq_ok_iff.1 h
  exact ⟨.new options registry, rfl, hbuild⟩

/-- A table that is served can be given to a new engine, which then has the same registry. -/
theorem ofTable_eq {engine : Engine} (h : engine.Serves options table) :
    (ofTable options table).2 = .ok (new options engine.registry) := by
  simp [ofTable, h.built, Except.map]

theorem perform_replaceTable (h : session.engine.Serves options table) (next : Table) :
    ((Operation.replaceTable next).perform session).2.engine.Serves options
      (table.after (.replaceTable next)) := by
  cases hbuild : (Registry.build next).2 with
  | error fault =>
    have hafter : table.after (.replaceTable next) = table := by
      simp [Table.after, Operation.newTable?, Option.filter, Table.builds_of_error hbuild]
    rw [Operation.perform_replaceTable_of_error hbuild, hafter]
    exact h
  | ok registry =>
    have hafter : table.after (.replaceTable next) = next := by
      simp [Table.after, Operation.newTable?, Option.filter, Table.builds_of_ok hbuild]
    rw [Operation.perform_replaceTable_of_ok hbuild, hafter]
    exact ⟨.new _ registry, h.options_eq, hbuild⟩

/-- One operation: whatever it is, the engine then serves the table in force after it. -/
theorem perform (h : session.engine.Serves options table) (operation : Operation) :
    (operation.perform session).2.engine.Serves options (table.after operation) := by
  rcases operation.reply?_cases session.engine.options session.engine.registry with
    ⟨reply, hreply⟩ | rfl | ⟨next, rfl⟩ | ⟨text, rfl⟩
  · have hafter : table.after operation = table := by
      cases operation <;> first | rfl | simp [Operation.reply?] at hreply
    rw [Operation.perform_of_reply? h.sound hreply, hafter]
    exact ⟨h.sound.learnAll _, by simpa using h.options_eq, by simpa using h.built⟩
  · exact h
  · exact h.perform_replaceTable next
  · cases hparse : Table.parse? text with
    | none =>
      have hafter : table.after (.reload text) = table := by
        simp [Table.after, Operation.newTable?, hparse]
      rw [Operation.perform_reload_of_none hparse, hafter]
      exact h
    | some next =>
      have hafter : table.after (.reload text) = table.after (.replaceTable next) := by
        simp [Table.after, Operation.newTable?, hparse]
      rw [Operation.perform_reload_of_some hparse, hafter]
      exact h.perform_replaceTable next

/-- A whole run: the engine serves the table in force at its end. -/
theorem performAll (h : session.engine.Serves options table) (operations : List Operation) :
    (Operation.performAll operations session).2.engine.Serves options
      (table.afterAll operations) := by
  induction operations generalizing session table with
  | nil => exact h
  | cons operation operations ih =>
    rw [Operation.performAll_cons, Table.afterAll_cons]
    exact ih (h.perform operation)

theorem registry_eq {engine other : Engine} {options' : Options} (h : engine.Serves options table)
    (hother : other.Serves options' table) : engine.registry = other.registry :=
  Except.ok.inj (h.built.symm.trans hother.built)

/-- Two engines that serve the same table answer everything alike, but for the number of
names they have checked. -/
theorem answer_eq {other : Session} (h : session.engine.Serves options table)
    (hother : other.engine.Serves options table) {operation : Operation}
    (hcount : operation ≠ .checkedCount) :
    (operation.perform session).1 = (operation.perform other).1 := by
  have hregistry : session.engine.registry = other.engine.registry := h.registry_eq hother
  have hoptions : session.engine.options = other.engine.options :=
    h.options_eq.trans hother.options_eq.symm
  rcases operation.reply?_cases session.engine.options session.engine.registry with
    ⟨reply, hreply⟩ | rfl | ⟨next, rfl⟩ | ⟨text, rfl⟩
  · have hreply' := hreply
    rw [hoptions, hregistry] at hreply'
    rw [Operation.perform_of_reply? h.sound hreply,
      Operation.perform_of_reply? hother.sound hreply']
  · exact absurd rfl hcount
  · exact Operation.answer_replaceTable next session other
  · exact Operation.answer_reload text session other

/-- Every answer of a run is the one that any engine gives which serves the table in force
at that step. -/
theorem performAll_answer (h : session.engine.Serves options table)
    {operations : List Operation} {i : Nat} {operation : Operation}
    (hop : operations[i]? = some operation) (hcount : operation ≠ .checkedCount)
    {other : Session}
    (hother : other.engine.Serves options (table.afterAll (operations.take i))) :
    (Operation.performAll operations session).1[i]? = some (operation.perform other).1 := by
  induction operations generalizing session table i with
  | nil => simp at hop
  | cons first rest ih =>
    rw [Operation.performAll_cons]
    cases i with
    | zero =>
      obtain rfl : first = operation := by simpa using hop
      simp [h.answer_eq hother hcount]
    | succ i =>
      have hlater := ih (h.perform first) (by simpa using hop) (by simpa using hother)
      simpa using hlater

/-- Sessions with one engine go on alike, whatever events came before. -/
theorem perform_congr {other : Session} (h : session.engine.Serves options table)
    (heq : session.engine = other.engine) (operation : Operation) :
    (operation.perform session).1 = (operation.perform other).1 ∧
      (operation.perform session).2.engine = (operation.perform other).2.engine := by
  have hother : other.engine.Serves options table := heq ▸ h
  have hreplace (next : Table) : ((Operation.replaceTable next).perform session).2.engine =
      ((Operation.replaceTable next).perform other).2.engine := by
    cases hbuild : (Registry.build next).2 with
    | error fault => simp only [Operation.perform_replaceTable_of_error hbuild, heq]
    | ok registry => simp only [Operation.perform_replaceTable_of_ok hbuild, heq]
  refine ⟨?_, ?_⟩
  · by_cases hcount : operation = .checkedCount
    · subst hcount
      exact congrArg (fun engine => Except.ok (Answer.count (checkedCount engine))) heq
    · exact h.answer_eq hother hcount
  · rcases operation.reply?_cases session.engine.options session.engine.registry with
      ⟨reply, hreply⟩ | rfl | ⟨next, rfl⟩ | ⟨text, rfl⟩
    · have hreply' := hreply
      rw [heq] at hreply'
      rw [Operation.perform_of_reply? h.sound hreply,
        Operation.perform_of_reply? hother.sound hreply', Session.advance_engine,
        Session.advance_engine, heq]
    · exact heq
    · exact hreplace next
    · cases hparse : Table.parse? text with
      | none => simpa only [Operation.perform_reload_of_none hparse] using heq
      | some next => simpa only [Operation.perform_reload_of_some hparse] using hreplace next

theorem performAll_congr {other : Session} (h : session.engine.Serves options table)
    (heq : session.engine = other.engine) (operations : List Operation) :
    (Operation.performAll operations session).1 = (Operation.performAll operations other).1 := by
  induction operations generalizing session other table with
  | nil => rfl
  | cons operation operations ih =>
    obtain ⟨hanswer, hengine⟩ := h.perform_congr heq operation
    rw [Operation.performAll_cons, Operation.performAll_cons, hanswer,
      ih (h.perform operation) hengine]

end Serves

/-- An engine that was built from a table and carried out any operations answers every
question as one that is built anew from the table in force at that step; what it
remembers is right. Given a table that builds, it becomes the engine that this table
gives anew, and any run from there on gets the same answers, the number of checked names
included. Given one that does not, it stays as it is. -/
theorem answers_as_new {options : Options} {table : Table} {engine : Engine}
    (hengine : (ofTable options table).2 = .ok engine) (operations : List Operation)
    (events : List Event) :
    let run := Operation.performAll operations ⟨engine, events⟩
    (∀ i operation, operations[i]? = some operation → operation ≠ .checkedCount →
      ∃ fresh, (ofTable options (table.afterAll (operations.take i))).2 = .ok fresh ∧
        run.1[i]? = some (operation.perform ⟨fresh, []⟩).1) ∧
    (∃ fresh, (ofTable options (table.afterAll operations)).2 = .ok fresh ∧
      run.2.engine.registry = fresh.registry) ∧
    (∀ name known, run.2.engine.checked[name]? = some known →
      name ≠ [] ∧ known = (run.2.engine.registry.findScriptlet? name).isSome) ∧
    (∀ next fresh, (ofTable options next).2 = .ok fresh →
      ((Operation.replaceTable next).perform run.2).2.engine = fresh ∧
      ∀ later,
        (Operation.performAll later ((Operation.replaceTable next).perform run.2).2).1 =
          (Operation.performAll later ⟨fresh, []⟩).1) ∧
    (∀ next fault, (ofTable options next).2 = .error fault →
      ((Operation.replaceTable next).perform run.2).1 = .error (.registry fault) ∧
      ((Operation.replaceTable next).perform run.2).2.engine = run.2.engine) ∧
    (∀ text, match Table.parse? text with
      | none => (Operation.reload text).perform run.2 = (.error (.registry .invalidJson), run.2)
      | some next =>
        (Operation.reload text).perform run.2 = (Operation.replaceTable next).perform run.2) := by
  have hstart : (Session.mk engine events).engine.Serves options table := Serves.of_ofTable hengine
  have hrun := hstart.performAll operations
  intro run
  refine ⟨?_, ⟨_, hrun.ofTable_eq, rfl⟩, hrun.sound, ?_, ?_, ?_⟩
  · intro i operation hop hcount
    have hstep := (hstart.performAll (operations.take i)).ofTable_eq
    exact ⟨_, hstep, hstart.performAll_answer hop hcount (Serves.of_ofTable hstep)⟩
  · intro next fresh hfresh
    have hnext := hrun.perform_replaceTable next
    have hengine : ((Operation.replaceTable next).perform run.2).2.engine = fresh := by
      cases hbuild : (Registry.build next).2 with
      | error fault => simp [ofTable, hbuild, Except.map] at hfresh
      | ok registry =>
        obtain rfl : new options registry = fresh := by
          simpa [ofTable, hbuild, Except.map] using hfresh
        rw [Operation.perform_replaceTable_of_ok hbuild, hrun.options_eq]
    exact ⟨hengine, hnext.performAll_congr hengine⟩
  · intro next fault hfault
    have hbuild : (Registry.build next).2 = .error fault := by
      cases hbuild : (Registry.build next).2 with
      | error other => simpa [ofTable, hbuild, Except.map] using hfault
      | ok registry => simp [ofTable, hbuild, Except.map] at hfault
    rw [Operation.perform_replaceTable_of_error hbuild]
    exact ⟨rfl, rfl⟩
  · intro text
    cases hparse : Table.parse? text with
    | none => exact Operation.perform_reload_of_none hparse run.2
    | some next => exact congrFun (Operation.perform_reload_of_some hparse) run.2

/-- A name is known, a table without a name is refused, the table is emptied, and the
name is unknown as it is to an engine of the empty table. -/
theorem answers_as_new_emptied :
    ∃ engine, (ofTable {} ⟨[Table.record "log" (some "log.js") none], []⟩).2 = .ok engine ∧
      (Operation.performAll
        [.isKnownName "log".toList, .replaceTable ⟨[Table.record "" none none], []⟩,
          .isKnownName "log".toList, .replaceTable ⟨[], []⟩, .isKnownName "log".toList]
        ⟨engine, []⟩).1[4]? =
        some ((Operation.isKnownName "log".toList).perform ⟨new {} Registry.empty, []⟩).1 := by
  obtain ⟨registry, hbuild⟩ := Registry.exists_build_ok
    ⟨[Table.record "log" (some "log.js") none], []⟩ (by decide) (by decide)
  have hengine : (ofTable {} ⟨[Table.record "log" (some "log.js") none], []⟩).2 =
      .ok (new {} registry) := by
    simp [ofTable, hbuild, Except.map]
  refine ⟨_, hengine, ?_⟩
  obtain ⟨fresh, hfresh, hanswer⟩ :=
    (answers_as_new hengine
      [.isKnownName "log".toList, .replaceTable ⟨[Table.record "" none none], []⟩,
        .isKnownName "log".toList, .replaceTable ⟨[], []⟩, .isKnownName "log".toList] []).1
      4 _ rfl (by simp)
  obtain rfl : new {} Registry.empty = fresh := Except.ok.inj hfresh
  exact hanswer

end Engine

end FilterDialects
