import FilterDialects.Proofs.Engine.Memory
import FilterDialects.Proofs.Registry.Aliases
import Mathlib.Data.List.Dedup
import Mathlib.Data.List.DropRight
import Mathlib.Data.List.Permutation

/-!
# The names that an engine has checked

An engine remembers exactly the names that were checked since it got its table: an
operation checks a few names that can be told from its rule and the registry, and a new
table forgets all of them. The number of checked names counts these, each of them once
and the empty name not at all.
-/

namespace FilterDialects

namespace Engine

variable {engine other : Engine} {name : Text}

theorem mem_checked_learn {learned : Text} :
    name ∈ (engine.learn learned).checked ↔
      name ∈ engine.checked ∨ name ≠ [] ∧ name = learned := by
  unfold learn
  split
  · next hold =>
    constructor
    · exact .inl
    · rintro (hmem | ⟨hname, rfl⟩)
      · exact hmem
      · exact hold.resolve_left hname
  · next hnew =>
    rw [Std.HashMap.mem_insert, beq_iff_eq]
    constructor
    · rintro (rfl | hmem)
      · exact .inr ⟨fun hnil => hnew (.inl hnil), rfl⟩
      · exact .inl hmem
    · rintro (hmem | ⟨-, rfl⟩)
      · exact .inr hmem
      · exact .inl rfl

theorem mem_checked_learnAll {names : List Text} :
    name ∈ (engine.learnAll names).checked ↔
      name ∈ engine.checked ∨ name ≠ [] ∧ name ∈ names := by
  induction names generalizing engine with
  | nil => simp
  | cons first names ih =>
    rw [learnAll_cons, ih, mem_checked_learn, List.mem_cons, or_assoc, ← and_or_left]

/-- The count of an engine that has checked the names of a list and no others. -/
theorem checkedCount_eq {names : List Text} (h : ∀ name, name ∈ engine.checked ↔ name ∈ names) :
    engine.checkedCount = names.dedup.length := by
  have hperm : engine.checked.keys.Perm names.dedup := by
    rw [List.perm_ext_iff_of_nodup Std.HashMap.nodup_keys names.nodup_dedup]
    intro name
    rw [Std.HashMap.mem_keys, h, List.mem_dedup]
  rw [checkedCount, ← Std.HashMap.length_keys, hperm.length_eq]

theorem checkedCount_le (h : ∀ name ∈ engine.checked, name ∈ other.checked) :
    engine.checkedCount ≤ other.checkedCount := by
  have hsubset : engine.checked.keys ⊆ other.checked.keys := by
    intro name hname
    rw [Std.HashMap.mem_keys] at hname ⊢
    exact h name hname
  have hlength := (List.subperm_of_subset Std.HashMap.nodup_keys hsubset).length_le
  rwa [Std.HashMap.length_keys, Std.HashMap.length_keys] at hlength

end Engine

namespace Registry

variable {registry : Registry} {rule name : Text}

/-- The names that are checked in the AdGuard rules that a rule is converted to: those of
the rules in order, until one of these cannot be read or has an unknown name. -/
def convertedNames (registry : Registry) (rules : List Text) : List Text :=
  (rules.take ((rules.takeWhile registry.isKnownRule).length + 1)).flatMap adgNames

theorem ruleNames_eq_convertedNames (registry : Registry) (rules : List Text) :
    registry.ruleNames rules = registry.convertedNames rules := by
  induction rules with
  | nil => rfl
  | cons rule rules ih =>
    rw [ruleNames, ih, convertedNames, convertedNames, List.takeWhile_cons]
    cases registry.isKnownRule rule <;> simp

theorem knowsScriptlet_empty (name : Text) : empty.knowsScriptlet name = false := by
  cases hfound : empty.findScriptlet? name with
  | none => rw [knowsScriptlet, hfound, Option.isSome_none]
  | some entry => exact absurd (mem_of_findScriptlet? hfound) List.not_mem_nil

end Registry

namespace Operation

/-- The names that an operation checks. The predicates of a rule are those operations that
answer by yes or no, and so check what these check. -/
def checkedNames (options : Options) (registry : Registry) : Operation → List Text
  | .isKnownName name => [name]
  | .scriptletSource rule | .scriptletToAdg rule =>
    if FilterDialects.classify registry rule = .scriptlet .adg then Registry.adgNames rule else []
  | .isValidScriptletRule rule | .predicates rule =>
    match FilterDialects.classify registry rule with
    | .scriptlet .adg => Registry.adgNames rule
    | .scriptlet .ubo =>
      match FilterDialects.uboScriptletToAdg options rule with
      | .ok converted => registry.convertedNames [converted]
      | .error _ => []
    | .scriptlet .abp =>
      match FilterDialects.abpSnippetToAdg rule with
      | .ok converted => registry.convertedNames converted
      | .error _ => []
    | .comment | .redirect _ | .other => []
  | _ => []

theorem mem_validityNames (options : Options) (registry : Registry) (rule name : Text) :
    name ∈ registry.validityNames options rule ↔
      name ∈ checkedNames options registry (.isValidScriptletRule rule) := by
  simp only [Registry.validityNames, checkedNames, Registry.sourceNames, Registry.scriptletToAdg,
    Registry.scriptletSource, Registry.ruleNames_eq_convertedNames]
  cases FilterDialects.classify registry rule with
  | comment | redirect _ | other => simp
  | scriptlet dialect =>
    cases dialect with
    | ubo => cases FilterDialects.uboScriptletToAdg options rule <;> simp [Except.map]
    | abp => cases FilterDialects.abpSnippetToAdg rule <;> simp
    | adg =>
      cases hparse : ScriptletRule.parseAdg rule with
      | error fault => simp [Registry.adgNames, hparse]
      | ok parsed =>
        cases haccepts : registry.acceptsName parsed.name <;>
          simp [Registry.convertedNames, Registry.adgNames, hparse, haccepts]

/-- A question looks up the names that it checks. -/
theorem mem_names_of_reply? {options : Options} {registry : Registry} {operation : Operation}
    {reply : Reply (Except Failure Answer)} (h : operation.reply? options registry = some reply)
    (name : Text) : name ∈ reply.names ↔ name ∈ operation.checkedNames options registry := by
  cases operation with
  | checkedCount | replaceTable _ | reload _ => simp [reply?] at h
  | isValidScriptletRule rule | predicates rule =>
    obtain rfl := Option.some.inj h
    exact mem_validityNames options registry rule name
  | _ =>
    obtain rfl := Option.some.inj h
    rfl

/-- Whether an operation brings a table that builds. -/
def replaces (operation : Operation) : Bool :=
  operation.newTable?.any Table.builds

/-- What an operation does to the engine of a session: a table that builds makes it new, any
other table leaves it as it is, and everything else has it look up names. -/
inductive Effect (operation : Operation) (session : Session) : Prop where
  | replaced (registry : Registry) (hreplaces : operation.replaces = true)
      (hanswer : (operation.perform session).1 =
        .ok (.sizes registry.scriptlets.length registry.redirects.length))
      (hengine : (operation.perform session).2.engine =
        Engine.new session.engine.options registry)
  | refused (fault : RegistryError) (hkeeps : operation.replaces = false)
      (hanswer : (operation.perform session).1 = .error (.registry fault))
      (hnames : ∀ options registry, operation.checkedNames options registry = [])
      (hengine : (operation.perform session).2.engine = session.engine)
  | answered (names : List Text) (hkeeps : operation.replaces = false)
      (hsizes : ∀ scriptlets redirects,
        (operation.perform session).1 ≠ .ok (.sizes scriptlets redirects))
      (hfault : ∀ fault, (operation.perform session).1 ≠ .error (.registry fault))
      (hnames : ∀ name, name ∈ names ↔
        name ∈ operation.checkedNames session.engine.options session.engine.registry)
      (hengine : (operation.perform session).2.engine = session.engine.learnAll names)

theorem ofConversion_ne_sizes {α : Type} {answer : α → Answer}
    {outcome : Except ConversionError α} {scriptlets redirects : Nat}
    (h : ∀ a, answer a ≠ .sizes scriptlets redirects) :
    ofConversion answer outcome ≠ .ok (.sizes scriptlets redirects) := by
  cases outcome with
  | ok a => simpa [ofConversion] using h a
  | error error => simp [ofConversion]

theorem ofConversion_ne_registry {α : Type} {answer : α → Answer}
    {outcome : Except ConversionError α} {fault : RegistryError} :
    ofConversion answer outcome ≠ .error (.registry fault) := by
  cases outcome <;> simp [ofConversion]

/-- A question is never answered as if it brought a table. -/
theorem answer_of_reply? {options : Options} {registry : Registry} {operation : Operation}
    {reply : Reply (Except Failure Answer)} (h : operation.reply? options registry = some reply) :
    operation.replaces = false ∧
      (∀ scriptlets redirects, reply.answer ≠ .ok (.sizes scriptlets redirects)) ∧
      ∀ fault, reply.answer ≠ .error (.registry fault) := by
  cases operation with
  | checkedCount | replaceTable _ | reload _ => simp [reply?] at h
  | uboScriptletToAdg _ | abpSnippetToAdg _ | scriptletToAdg _ | adgScriptletToUbo _
  | adgRedirectToUbo _ | adgToUbo _ | scriptletSource _ =>
    obtain rfl := Option.some.inj h
    exact ⟨rfl, fun _ _ => ofConversion_ne_sizes (by simp), fun _ => ofConversion_ne_registry⟩
  | _ =>
    obtain rfl := Option.some.inj h
    simp [replaces, newTable?]

theorem effect_of_newTable? {operation : Operation} {table : Table} {session : Session}
    (hnew : operation.newTable? = some table)
    (hperform : operation.perform session = (replaceTable table).perform session)
    (hnames : ∀ options registry, operation.checkedNames options registry = []) :
    operation.Effect session := by
  cases hbuild : (Registry.build table).2 with
  | ok registry =>
    rw [perform_replaceTable_of_ok hbuild] at hperform
    refine .replaced registry ?_ ?_ ?_
    · rw [replaces, hnew, Option.any_some, Table.builds_of_ok hbuild]
    · rw [hperform]
    · rw [hperform]
  | error fault =>
    rw [perform_replaceTable_of_error hbuild] at hperform
    refine .refused fault ?_ ?_ hnames ?_
    · rw [replaces, hnew, Option.any_some, Table.builds_of_error hbuild]
    · rw [hperform]
    · rw [hperform]

/-- One operation, whatever it is. -/
theorem effect {session : Session} (h : session.engine.IsSound) (operation : Operation) :
    operation.Effect session := by
  rcases operation.reply?_cases session.engine.options session.engine.registry with
    ⟨reply, hreply⟩ | rfl | ⟨table, rfl⟩ | ⟨text, rfl⟩
  · have hperform := perform_of_reply? h hreply
    obtain ⟨hkeeps, hsizes, hfault⟩ := answer_of_reply? hreply
    refine .answered reply.names hkeeps ?_ ?_ (mem_names_of_reply? hreply) ?_
    · rwa [hperform]
    · rwa [hperform]
    · rw [hperform, Session.advance_engine]
  · have hanswer : (checkedCount.perform session).1 =
        .ok (.count session.engine.checkedCount) := rfl
    refine .answered [] rfl ?_ ?_ (fun _ => .rfl) rfl
    · simp [hanswer]
    · simp [hanswer]
  · exact effect_of_newTable? rfl rfl fun _ _ => rfl
  · cases hparse : Table.parse? text with
    | none =>
      have hperform := perform_reload_of_none hparse session
      refine .refused .invalidJson ?_ ?_ (fun _ _ => rfl) ?_
      · rw [replaces, newTable?, hparse, Option.any_none]
      · rw [hperform]
      · rw [hperform]
    | some table =>
      have hperform := congrFun (perform_reload_of_some hparse) session
      exact effect_of_newTable? hparse hperform fun _ _ => rfl

namespace Effect

variable {operation : Operation} {session : Session}

theorem replaces_iff (h : operation.Effect session) :
    operation.replaces = true ↔
      ∃ scriptlets redirects,
        (operation.perform session).1 = .ok (.sizes scriptlets redirects) := by
  cases h with
  | replaced registry hreplaces hanswer _ => exact iff_of_true hreplaces ⟨_, _, hanswer⟩
  | refused fault hkeeps hanswer _ _ => simp [hkeeps, hanswer]
  | answered names hkeeps hsizes _ _ _ => simp [hkeeps, hsizes]

/-- A table that builds makes the engine forget, and everything else adds the names checked. -/
theorem mem_checked_iff (h : operation.Effect session) (name : Text) :
    name ∈ (operation.perform session).2.engine.checked ↔
      operation.replaces = false ∧ (name ∈ session.engine.checked ∨ name ≠ [] ∧
        name ∈ operation.checkedNames session.engine.options session.engine.registry) := by
  cases h with
  | replaced registry hreplaces _ hengine => simp [hreplaces, hengine, Engine.new]
  | refused fault hkeeps _ hnames hengine => simp [hkeeps, hnames, hengine]
  | answered names hkeeps _ _ hnames hengine =>
    rw [hengine, Engine.mem_checked_learnAll, hnames]
    simp [hkeeps]

theorem registry_eq (h : operation.Effect session) (hkeeps : operation.replaces = false) :
    (operation.perform session).2.engine.registry = session.engine.registry := by
  cases h with
  | replaced registry hreplaces _ _ => simp [hkeeps] at hreplaces
  | refused fault _ _ _ hengine => rw [hengine]
  | answered names _ _ _ _ hengine => rw [hengine, Engine.learnAll_registry]

theorem engine_eq (h : operation.Effect session) {fault : RegistryError}
    (hanswer : (operation.perform session).1 = .error (.registry fault)) :
    (operation.perform session).2.engine = session.engine := by
  cases h with
  | replaced registry _ hsizes _ => simp [hanswer] at hsizes
  | refused fault _ _ _ hengine => exact hengine
  | answered names _ _ hfault _ _ => exact absurd hanswer (hfault fault)

end Effect

theorem performAll_concat (operations : List Operation) (operation : Operation)
    (session : Session) :
    (performAll (operations ++ [operation]) session).2 =
      (operation.perform (performAll operations session).2).2 := by
  induction operations generalizing session with
  | nil => rfl
  | cons first operations ih => simp [ih]

/-- The names that operations check after the last table that builds among them. -/
def namesSinceTable (options : Options) (registry : Registry) (operations : List Operation) :
    List Text :=
  (operations.rtakeWhile fun operation => !operation.replaces).flatMap
    (checkedNames options registry)

theorem namesSinceTable_concat (options : Options) (registry : Registry)
    (operations : List Operation) (operation : Operation) :
    namesSinceTable options registry (operations ++ [operation]) =
      if operation.replaces then []
      else namesSinceTable options registry operations ++
        operation.checkedNames options registry := by
  rw [namesSinceTable, List.rtakeWhile_concat]
  cases operation.replaces <;> simp [namesSinceTable]

end Operation

namespace Engine

variable {options : Options} {table : Table} {engine : Engine}

/-- A run: an engine that has checked nothing remembers the names that are checked after the
last table that builds. -/
theorem Serves.mem_checked_performAll {session : Session}
    (h : session.engine.Serves options table) (hnew : ∀ name, name ∉ session.engine.checked)
    (operations : List Operation) (name : Text) :
    name ∈ (Operation.performAll operations session).2.engine.checked ↔
      name ≠ [] ∧ name ∈ Operation.namesSinceTable options
        (Operation.performAll operations session).2.engine.registry operations := by
  induction operations using List.reverseRecOn with
  | nil => simp [hnew, Operation.namesSinceTable]
  | append_singleton operations operation ih =>
    have hserves := h.performAll operations
    have heffect := Operation.effect hserves.sound operation
    rw [Operation.performAll_concat, heffect.mem_checked_iff, Operation.namesSinceTable_concat]
    cases hreplaces : operation.replaces with
    | true => simp
    | false =>
      rw [heffect.registry_eq hreplaces, hserves.options_eq, ih]
      simp only [Bool.false_eq_true, if_false, List.mem_append, true_and, and_or_left]

/-- The engine of a table remembers, after any operations, the names that were checked since
its table was last replaced, but for the empty one, and counts each of them once. Only an
operation that is answered by the sizes of a new table can lower the count, and a table that
is refused does not change it. -/
theorem checked_names_of_run (hengine : (ofTable options table).2 = .ok engine)
    (operations : List Operation) (events : List Event) :
    let run := Operation.performAll operations ⟨engine, events⟩
    let names := Operation.namesSinceTable options run.2.engine.registry operations
    (∀ name, name ∈ run.2.engine.checked ↔ name ≠ [] ∧ name ∈ names) ∧
    (Operation.checkedCount.perform run.2).1 =
      .ok (.count (names.filter fun name => decide (name ≠ [])).dedup.length) ∧
    (∀ operation : Operation, operation.replaces = true ↔ ∃ scriptlets redirects,
      (operation.perform run.2).1 = .ok (.sizes scriptlets redirects)) ∧
    (∀ operation : Operation, operation.replaces = false →
      run.2.engine.checkedCount ≤ (operation.perform run.2).2.engine.checkedCount) ∧
    (∀ (operation : Operation) fault, (operation.perform run.2).1 = .error (.registry fault) →
      (operation.perform run.2).2.engine.checkedCount = run.2.engine.checkedCount) := by
  have hstart : (Session.mk engine events).engine.Serves options table := Serves.of_ofTable hengine
  have hnew : ∀ name, name ∉ engine.checked := by
    obtain ⟨registry, -, rfl⟩ := ofTable_eq_ok_iff.1 hengine
    simp [new]
  intro run names
  have hmem : ∀ name, name ∈ run.2.engine.checked ↔ name ≠ [] ∧ name ∈ names :=
    hstart.mem_checked_performAll hnew operations
  have heffect : ∀ operation : Operation, operation.Effect run.2 :=
    Operation.effect (hstart.performAll operations).sound
  refine ⟨hmem, ?_, fun operation => (heffect operation).replaces_iff, ?_, ?_⟩
  · have hcount : run.2.engine.checkedCount =
        (names.filter fun name => decide (name ≠ [])).dedup.length := by
      apply checkedCount_eq
      intro name
      rw [hmem, List.mem_filter, decide_eq_true_iff, and_comm]
    exact congrArg (fun count => Except.ok (Answer.count count)) hcount
  · intro operation hkeeps
    apply checkedCount_le
    intro name hname
    exact ((heffect operation).mem_checked_iff name).2 ⟨hkeeps, .inl hname⟩
  · intro operation fault hanswer
    rw [(heffect operation).engine_eq hanswer]

/-- What was checked before the table is emptied is forgotten. Of the snippet that follows only
the first name is checked, since it is unknown, and a refused table changes nothing. -/
theorem checked_names_of_run_emptied :
    let operations : List Operation :=
      [.isKnownName "log".toList, .isKnownName "set".toList, .replaceTable ⟨[], []⟩,
        .isValidScriptletRule "a#$#log; set".toList, .isKnownName "".toList,
        .replaceTable ⟨[Table.record "" none none], []⟩, .isKnownName "abp-log".toList,
        .isKnownName "log".toList]
    ∃ engine, (ofTable {} ⟨[Table.record "log" (some "log.js") none], []⟩).2 = .ok engine ∧
      (Operation.checkedCount.perform (Operation.performAll operations ⟨engine, []⟩).2).1 =
        .ok (.count 2) := by
  intro operations
  obtain ⟨registry, hbuild⟩ := Registry.exists_build_ok
    ⟨[Table.record "log" (some "log.js") none], []⟩ (by decide) (by decide)
  have hengine : (ofTable {} ⟨[Table.record "log" (some "log.js") none], []⟩).2 =
      .ok (new {} registry) := ofTable_eq_ok_iff.2 ⟨registry, hbuild, rfl⟩
  refine ⟨_, hengine, ?_⟩
  have hstart : (Session.mk (new {} registry) []).engine.Serves {} _ := Serves.of_ofTable hengine
  have hbuilt := (hstart.performAll operations).built
  have htable : (Table.mk [Table.record "log" (some "log.js") none] []).afterAll operations =
      ⟨[], []⟩ := by decide
  rw [htable] at hbuilt
  obtain hempty : Registry.empty = _ := Except.ok.inj hbuilt
  have hconverted : abpSnippetToAdg "a#$#log; set".toList =
      .ok ["a#%#//scriptlet('abp-log')".toList, "a#%#//scriptlet('abp-set')".toList] := by cbv
  have hunknown : Registry.empty.isKnownRule "a#%#//scriptlet('abp-log')".toList = false :=
    Registry.knowsScriptlet_empty "abp-log".toList
  have hkind : classify Registry.empty "a#$#log; set".toList = .scriptlet .abp := by decide
  have hsnippet : Operation.checkedNames {} Registry.empty
      (.isValidScriptletRule "a#$#log; set".toList) = ["abp-log".toList] := by
    rw [Operation.checkedNames, hkind, hconverted]
    simp only [Registry.convertedNames, List.takeWhile_cons, hunknown]
    rfl
  have hsuffix : (operations.rtakeWhile fun operation => !operation.replaces) =
      operations.drop 3 := by decide
  have hnames : Operation.namesSinceTable {} Registry.empty operations =
      ["abp-log".toList, [], "abp-log".toList, "log".toList] := by
    rw [Operation.namesSinceTable, hsuffix]
    simp only [operations, List.drop_succ_cons, List.drop_zero, List.flatMap_cons, hsnippet]
    rfl
  rw [(checked_names_of_run hengine operations []).2.1, ← hempty, hnames]
  rfl

end Engine

end FilterDialects
