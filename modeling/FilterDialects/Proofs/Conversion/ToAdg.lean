import FilterDialects.Proofs.Conversion.FromAbp
import FilterDialects.Proofs.Conversion.FromUbo
import FilterDialects.Proofs.Engine.Memory
import FilterDialects.Proofs.Registry.Aliases

/-!
# Converting a rule to AdGuard twice

What comes out of a conversion to AdGuard carries the AdGuard mask, and besides it at most
the mask of the dialect it came from: an argument may hold that one. So it is an AdGuard
rule or a rule of two dialects, and in neither case there is anything left to convert, if
only its scriptlet is known.

A valid rule becomes rules that name known scriptlets. They are valid themselves unless an
argument has made a rule of two dialects of them.
-/

namespace FilterDialects

namespace Registry

variable {registry : Registry} {options : Options} {rule : Text} {outs : List Text}

/-- Whether a rule is left as it is when scriptlet rules are converted to AdGuard. -/
def Keeps (registry : Registry) (rule : Text) : Prop :=
  ∀ dialect, classify registry rule = .scriptlet dialect →
    dialect = .adg ∧ registry.isKnownRule rule = true

theorem Keeps.of_known (hkind : classify registry rule = .scriptlet .adg)
    (hknown : registry.isKnownRule rule = true) : registry.Keeps rule := by
  intro dialect hdialect
  rw [hkind] at hdialect
  exact ⟨(RuleKind.scriptlet.inj hdialect).symm, hknown⟩

/-- What a rule looks like that was converted from a dialect: it carries the AdGuard mask,
and of the others at most that of the dialect it came from. -/
structure IsTranslation (dialect : Dialect) (out : Text) : Prop where
  adg : carriesMask out .adg = true
  others : ∀ other, other ≠ .adg → other ≠ dialect → carriesMask out other = false

namespace IsTranslation

variable {dialect : Dialect} {out : Text}

theorem of_uboScriptletToAdg (hkind : classify registry rule = .scriptlet .ubo)
    (hout : uboScriptletToAdg options rule = .ok out) : IsTranslation .ubo out := by
  have hcomment := isComment_of_classify_scriptlet hkind
  obtain ⟨parsed, hparsed, rfl, -⟩ := FromUbo.exists_of_uboScriptletToAdg hcomment hout
  have hdomains : (FromUbo.adgForm parsed).domains <+: rule := by
    rw [FromUbo.adgForm_domains]
    exact ScriptletRule.prefix_of_parseUbo hparsed
  refine ⟨isAdgScriptlet_toAdg hcomment hdomains, ?_⟩
  intro other hadg hubo
  cases other with
  | adg => exact absurd rfl hadg
  | ubo => exact absurd rfl hubo
  | abp => exact FromUbo.isAbpSnippet_toAdg hkind hparsed

theorem of_abpSnippetToAdg (hkind : classify registry rule = .scriptlet .abp)
    (houts : abpSnippetToAdg rule = .ok outs) (hout : out ∈ outs) : IsTranslation .abp out := by
  have hcomment := isComment_of_classify_scriptlet hkind
  obtain ⟨statements, hparsed, -, rfl⟩ := (FromAbp.abpSnippetToAdg_eq_ok hcomment).1 houts
  obtain ⟨statement, hstatement, rfl⟩ := List.mem_map.1 hout
  have hdomains : (FromAbp.adgForm statement).domains <+: rule := by
    obtain ⟨body, rfl, -⟩ := ScriptletRule.exists_of_mem_parseAbp hparsed hstatement
    exact List.prefix_append _ _
  refine ⟨isAdgScriptlet_toAdg hcomment hdomains, ?_⟩
  intro other hadg habp
  cases other with
  | adg => exact absurd rfl hadg
  | ubo => exact FromAbp.isUboScriptlet_toAdg hkind hparsed hstatement
  | abp => exact absurd rfl habp

theorem eq_adg (h : IsTranslation dialect out) {other : Dialect}
    (hkind : classify registry out = .scriptlet other) : other = .adg :=
  ((classify_eq_scriptlet_iff.1 hkind .adg).1 h.adg).symm

theorem keeps (h : IsTranslation dialect out) (hknown : registry.isKnownRule out = true) :
    registry.Keeps out :=
  fun _ hkind => ⟨h.eq_adg hkind, hknown⟩

theorem classify_eq_adg (h : IsTranslation dialect out) (hnone : carriesMask out dialect = false) :
    classify registry out = .scriptlet .adg := by
  rw [classify_eq_scriptlet_iff]
  intro other
  constructor
  · intro hother
    by_contra hadg
    by_cases hdialect : other = dialect
    · rw [hdialect, hnone] at hother
      contradiction
    · rw [h.others other hadg hdialect] at hother
      contradiction
  · rintro rfl
    exact h.adg

end IsTranslation

/-- A conversion to AdGuard translates the rule, keeps it, or drops it for its scriptlet. -/
theorem scriptletToAdg_cases (h : registry.scriptletToAdg options rule = .ok outs) :
    (∃ dialect, dialect ≠ .adg ∧ classify registry rule = .scriptlet dialect ∧
      ∀ out ∈ outs, IsTranslation dialect out) ∨
    (registry.Keeps rule ∧ outs = [rule]) ∨
    (classify registry rule = .scriptlet .adg ∧ registry.isKnownRule rule = false ∧ outs = []) := by
  unfold scriptletToAdg scriptletSource at h
  cases hkind : classify registry rule with
  | comment | redirect _ | other =>
    simp only [hkind] at h
    refine .inr (.inl ⟨?_, (Except.ok.inj h).symm⟩)
    intro dialect hdialect
    rw [hkind] at hdialect
    contradiction
  | scriptlet dialect =>
    cases dialect with
    | ubo =>
      simp only [hkind] at h
      obtain ⟨out, hout, rfl⟩ := Outcome.map_eq_ok.1 h
      refine .inl ⟨.ubo, by simp, rfl, ?_⟩
      intro out' hmem
      rw [List.mem_singleton.1 hmem]
      exact .of_uboScriptletToAdg hkind hout
    | abp =>
      simp only [hkind] at h
      exact .inl ⟨.abp, by simp, rfl, fun out hout => .of_abpSnippetToAdg hkind h hout⟩
    | adg =>
      simp only [hkind] at h
      cases hparse : ScriptletRule.parseAdg rule with
      | error fault => simp [hparse] at h
      | ok parsed =>
        by_cases hknown : registry.acceptsName parsed.name = true
        · simp only [hparse, hknown, if_true] at h
          have hrule : registry.isKnownRule rule = true := by
            simpa [isKnownRule, hparse] using hknown
          exact .inr (.inl ⟨.of_known hkind hrule, (Except.ok.inj h).symm⟩)
        · simp only [hparse, hknown] at h
          refine .inr (.inr ⟨rfl, ?_, (Except.ok.inj h).symm⟩)
          simpa [isKnownRule, hparse] using hknown

theorem exists_of_isKnownRule (h : registry.isKnownRule rule = true) :
    ∃ parsed, ScriptletRule.parseAdg rule = .ok parsed ∧
      registry.acceptsName parsed.name = true := by
  unfold isKnownRule at h
  split at h
  · contradiction
  · next parsed hparse => exact ⟨parsed, hparse, h⟩

theorem Keeps.scriptletToAdg_eq (h : registry.Keeps rule) (options : Options) :
    registry.scriptletToAdg options rule = .ok [rule] := by
  unfold scriptletToAdg scriptletSource
  cases hkind : classify registry rule with
  | comment | redirect _ | other => rfl
  | scriptlet dialect =>
    obtain ⟨rfl, hknown⟩ := h dialect hkind
    obtain ⟨parsed, hparse, haccepted⟩ := exists_of_isKnownRule hknown
    simp only [hparse, haccepted, if_true]

/-- A rule is valid when it is a scriptlet rule that becomes known rules. -/
theorem isValidScriptletRule_iff (h : registry.scriptletToAdg options rule = .ok outs) :
    registry.isValidScriptletRule options rule = true ↔
      (∃ dialect, classify registry rule = .scriptlet dialect) ∧ outs ≠ [] ∧
        ∀ out ∈ outs, registry.isKnownRule out = true := by
  unfold isValidScriptletRule
  cases hkind : classify registry rule <;> simp [h]

theorem isValidScriptletRule_of_singleton {dialect : Dialect} {out : Text}
    (hkind : classify registry rule = .scriptlet dialect)
    (hout : registry.scriptletToAdg options rule = .ok [out])
    (hknown : registry.isKnownRule out = true) :
    registry.isValidScriptletRule options rule = true := by
  rw [isValidScriptletRule_iff hout]
  exact ⟨⟨dialect, hkind⟩, List.cons_ne_nil _ _, by simpa using hknown⟩

theorem isValidScriptletRule_of_classify (hkind : classify registry rule = .scriptlet .adg)
    (hknown : registry.isKnownRule rule = true) (options : Options) :
    registry.isValidScriptletRule options rule = true := by
  have hkeeps : registry.Keeps rule := .of_known hkind hknown
  exact isValidScriptletRule_of_singleton hkind (hkeeps.scriptletToAdg_eq options) hknown

/-- A valid rule becomes rules that name known scriptlets. A translation among them is valid
unless it is of two dialects. -/
theorem isValidScriptletRule_iff_of_scriptletToAdg {dialect : Dialect}
    (h : registry.scriptletToAdg options rule = .ok outs)
    (hvalid : registry.isValidScriptletRule options rule = true)
    (hkind : classify registry rule = .scriptlet dialect) {out : Text} (hout : out ∈ outs) :
    (registry.isValidScriptletRule options out = true ↔
      dialect = .adg ∨ carriesMask out dialect = false) ∧
    (dialect ≠ .adg → carriesMask out dialect = true → classify registry out = .other) := by
  have hknown := ((isValidScriptletRule_iff h).1 hvalid).2.2 out hout
  rcases scriptletToAdg_cases h with ⟨source, hadg, hsource, htranslated⟩ | ⟨hkeeps, rfl⟩ |
    ⟨-, -, rfl⟩
  · obtain rfl : source = dialect := RuleKind.scriptlet.inj (hsource.symm.trans hkind)
    have hother (hmask : carriesMask out source = true) : classify registry out = .other :=
      classify_eq_other hadg.symm (htranslated out hout).adg hmask
    refine ⟨⟨?_, ?_⟩, fun _ => hother⟩
    · intro hvalid
      right
      rw [← Bool.not_eq_true]
      intro hmask
      rw [isValidScriptletRule, hother hmask] at hvalid
      contradiction
    · intro hsingle
      have hadg : classify registry out = .scriptlet .adg :=
        (htranslated out hout).classify_eq_adg (hsingle.resolve_left hadg)
      exact isValidScriptletRule_of_classify hadg hknown options
  · obtain rfl := (hkeeps dialect hkind).1
    rw [List.mem_singleton.1 hout]
    exact ⟨iff_of_true hvalid (.inl rfl), fun hadg => absurd rfl hadg⟩
  · exact absurd hout List.not_mem_nil

/-- A rule that is left alone, or whose translations name known scriptlets, is converted to
rules that are left alone. -/
theorem keeps_of_scriptletToAdg (h : registry.scriptletToAdg options rule = .ok outs)
    (hrule : registry.isValidScriptletRule options rule = true ∨
      classify registry rule ≠ .scriptlet .ubo ∧ classify registry rule ≠ .scriptlet .abp)
    {out : Text} (hout : out ∈ outs) : registry.Keeps out := by
  rcases scriptletToAdg_cases h with ⟨dialect, hadg, hkind, htranslated⟩ | ⟨hkeeps, rfl⟩ |
    ⟨-, -, rfl⟩
  · cases hrule with
    | inl hvalid =>
      have hknown := ((isValidScriptletRule_iff h).1 hvalid).2.2
      exact (htranslated out hout).keeps (hknown out hout)
    | inr hother =>
      cases dialect with
      | adg => exact absurd rfl hadg
      | ubo => exact absurd hkind hother.1
      | abp => exact absurd hkind hother.2
  · rw [List.mem_singleton.1 hout]
    exact hkeeps
  · exact absurd hout List.not_mem_nil

/-- No rule that comes out of a conversion to AdGuard is of another dialect. -/
theorem eq_adg_of_scriptletToAdg (h : registry.scriptletToAdg options rule = .ok outs)
    {out : Text} (hout : out ∈ outs) {dialect : Dialect}
    (hkind : classify registry out = .scriptlet dialect) : dialect = .adg := by
  rcases scriptletToAdg_cases h with ⟨source, -, -, htranslated⟩ | ⟨hkeeps, rfl⟩ | ⟨-, -, rfl⟩
  · exact (htranslated out hout).eq_adg hkind
  · rw [List.mem_singleton.1 hout] at hkind
    exact (hkeeps dialect hkind).1
  · exact absurd hout List.not_mem_nil

end Registry

section Runs

variable {options : Options} {table : Table} {session : Session} {rule : Text} {outs : List Text}

/-- What comes out of a conversion to AdGuard is of no other dialect. Converting it again
changes nothing, if the rule was valid or there was nothing to translate in it. -/
theorem Work.scriptletToAdg_fixed (h : session.engine.Serves options table)
    (houts : (Work.scriptletToAdg rule session).1 = .ok outs) :
    (∀ out ∈ outs, classify session.engine.registry out ≠ .scriptlet .ubo ∧
      classify session.engine.registry out ≠ .scriptlet .abp) ∧
    ((Work.isValidScriptletRule rule session).1 = true ∨
        classify session.engine.registry rule ≠ .scriptlet .ubo ∧
          classify session.engine.registry rule ≠ .scriptlet .abp →
      ∀ out ∈ outs, ∀ later : Session, later.engine.Serves options table →
        (Work.scriptletToAdg out later).1 = .ok [out]) := by
  rw [Work.scriptletToAdg_apply h.sound] at houts
  rw [Work.isValidScriptletRule_apply h.sound]
  constructor
  · intro out hout
    constructor
    · intro hubo
      exact absurd (Registry.eq_adg_of_scriptletToAdg houts hout hubo) (by decide)
    · intro habp
      exact absurd (Registry.eq_adg_of_scriptletToAdg houts hout habp) (by decide)
  · intro hrule out hout later hlater
    have hregistry : later.engine.registry = session.engine.registry := hlater.registry_eq h
    rw [Work.scriptletToAdg_apply hlater.sound, hregistry]
    exact (Registry.keeps_of_scriptletToAdg houts hrule hout).scriptletToAdg_eq _

theorem exists_serves_accepts :
    ∃ session : Session,
      session.engine.Serves {} ⟨[⟨"set-constant".toList, some "set.js".toList, none⟩], []⟩ ∧
        session.engine.registry.acceptsName "ubo-set.js".toList = true := by
  obtain ⟨registry, hbuild, hentries, hplain⟩ := Registry.exists_hasPlainAliases
  refine ⟨⟨.new {} registry, []⟩, ⟨.new {} registry, rfl, hbuild⟩, ?_⟩
  have hfound := hplain.findScriptlet?_marked "set.js".toList
  rw [Registry.scriptletByAlias?_ubo_eq_find?, hentries] at hfound
  show (decide _ || (registry.findScriptlet? (Registry.uboMark ++ "set.js".toList)).isSome) = true
  rw [hfound]
  rfl

/-- A valid rule with the mask of its dialect among its arguments, and what becomes of it. -/
theorem exists_valid_ambiguous :
    ∃ session : Session,
      session.engine.Serves {} ⟨[⟨"set-constant".toList, some "set.js".toList, none⟩], []⟩ ∧
      (Work.isValidScriptletRule "a.org##+js(set, ##+js, x)".toList session).1 = true ∧
      (Work.scriptletToAdg "a.org##+js(set, ##+js, x)".toList session).1 =
        .ok ["a.org#%#//scriptlet('ubo-set.js', '##+js', 'x')".toList] := by
  obtain ⟨session, h, haccepts⟩ := exists_serves_accepts
  have hkind : classify session.engine.registry "a.org##+js(set, ##+js, x)".toList =
      .scriptlet .ubo := rfl
  have hout : session.engine.registry.scriptletToAdg {} "a.org##+js(set, ##+js, x)".toList =
      .ok ["a.org#%#//scriptlet('ubo-set.js', '##+js', 'x')".toList] := rfl
  refine ⟨session, h, ?_, ?_⟩
  · rw [Work.isValidScriptletRule_apply h.sound, h.options_eq]
    exact Registry.isValidScriptletRule_of_singleton hkind hout haccepts
  · rw [Work.scriptletToAdg_apply h.sound, h.options_eq]
    exact hout

/-- What came out of that rule is a rule of two dialects, and converting it changes nothing. -/
theorem Work.scriptletToAdg_fixed_ambiguous :
    ∃ session : Session,
      session.engine.Serves {} ⟨[⟨"set-constant".toList, some "set.js".toList, none⟩], []⟩ ∧
      (Work.isValidScriptletRule "a.org##+js(set, ##+js, x)".toList session).1 = true ∧
      (Work.scriptletToAdg "a.org##+js(set, ##+js, x)".toList session).1 =
        .ok ["a.org#%#//scriptlet('ubo-set.js', '##+js', 'x')".toList] ∧
      (Work.scriptletToAdg "a.org#%#//scriptlet('ubo-set.js', '##+js', 'x')".toList session).1 =
        .ok ["a.org#%#//scriptlet('ubo-set.js', '##+js', 'x')".toList] := by
  obtain ⟨session, h, hvalid, houts⟩ := exists_valid_ambiguous
  refine ⟨session, h, hvalid, houts, ?_⟩
  exact (Work.scriptletToAdg_fixed h houts).2 (.inl hvalid) _ List.mem_cons_self session h

/-- A valid rule becomes at least one AdGuard rule, and all of them can be read and name
known scriptlets. They are valid, but for those that an argument makes a rule of two
dialects: such a rule carries the mask of its old dialect and is no scriptlet rule. -/
theorem Work.isValidScriptletRule_of_scriptletToAdg (h : session.engine.Serves options table)
    (hvalid : (Work.isValidScriptletRule rule session).1 = true)
    (houts : (Work.scriptletToAdg rule session).1 = .ok outs) :
    outs ≠ [] ∧ ∃ dialect, classify session.engine.registry rule = .scriptlet dialect ∧
      ∀ out ∈ outs, ∀ later : Session, later.engine.Serves options table →
        (∃ parsed, ScriptletRule.parseAdg out = .ok parsed ∧
          (Work.isKnownName parsed.name later).1 = true) ∧
        ((Work.isValidScriptletRule out later).1 = true ↔
          dialect = .adg ∨ carriesMask out dialect = false) ∧
        (dialect ≠ .adg → carriesMask out dialect = true →
          classify later.engine.registry out = .other) := by
  rw [Work.isValidScriptletRule_apply h.sound] at hvalid
  rw [Work.scriptletToAdg_apply h.sound] at houts
  obtain ⟨⟨dialect, hkind⟩, hne, hknown⟩ := (Registry.isValidScriptletRule_iff houts).1 hvalid
  refine ⟨hne, dialect, hkind, ?_⟩
  intro out hout later hlater
  rw [Work.isValidScriptletRule_apply hlater.sound, hlater.registry_eq h, hlater.options_eq,
    ← h.options_eq]
  refine ⟨?_, Registry.isValidScriptletRule_iff_of_scriptletToAdg houts hvalid hkind hout⟩
  obtain ⟨parsed, hparse, haccepted⟩ := Registry.exists_of_isKnownRule (hknown out hout)
  refine ⟨parsed, hparse, ?_⟩
  rw [Work.isKnownName_apply hlater.sound, hlater.registry_eq h]
  exact haccepted

/-- A rule without masks among its arguments becomes a valid one. -/
theorem Work.isValidScriptletRule_of_scriptletToAdg_set :
    ∃ session : Session,
      session.engine.Serves {} ⟨[⟨"set-constant".toList, some "set.js".toList, none⟩], []⟩ ∧
      (Work.isValidScriptletRule "a.org##+js(set, ads, false)".toList session).1 = true ∧
      (Work.scriptletToAdg "a.org##+js(set, ads, false)".toList session).1 =
        .ok ["a.org#%#//scriptlet('ubo-set.js', 'ads', 'false')".toList] ∧
      (Work.isValidScriptletRule
        "a.org#%#//scriptlet('ubo-set.js', 'ads', 'false')".toList session).1 = true := by
  obtain ⟨session, h, haccepts⟩ := exists_serves_accepts
  have hkind : classify session.engine.registry "a.org##+js(set, ads, false)".toList =
      .scriptlet .ubo := rfl
  have hout : session.engine.registry.scriptletToAdg {} "a.org##+js(set, ads, false)".toList =
      .ok ["a.org#%#//scriptlet('ubo-set.js', 'ads', 'false')".toList] := rfl
  have hvalid : (Work.isValidScriptletRule "a.org##+js(set, ads, false)".toList session).1 =
      true := by
    rw [Work.isValidScriptletRule_apply h.sound, h.options_eq]
    exact Registry.isValidScriptletRule_of_singleton hkind hout haccepts
  have houts : (Work.scriptletToAdg "a.org##+js(set, ads, false)".toList session).1 =
      .ok ["a.org#%#//scriptlet('ubo-set.js', 'ads', 'false')".toList] := by
    rw [Work.scriptletToAdg_apply h.sound, h.options_eq]
    exact hout
  refine ⟨session, h, hvalid, houts, ?_⟩
  obtain ⟨-, dialect, hdialect, hresults⟩ :=
    Work.isValidScriptletRule_of_scriptletToAdg h hvalid houts
  obtain rfl : dialect = .ubo := RuleKind.scriptlet.inj (hdialect.symm.trans hkind)
  exact (hresults _ List.mem_cons_self session h).2.1.2 (.inr rfl)

/-- A valid rule may become a rule that is not: it has the masks of two dialects. -/
theorem Work.exists_invalid_of_scriptletToAdg :
    ∃ session : Session,
      session.engine.Serves {} ⟨[⟨"set-constant".toList, some "set.js".toList, none⟩], []⟩ ∧
      (Work.isValidScriptletRule "a.org##+js(set, ##+js, x)".toList session).1 = true ∧
      (Work.scriptletToAdg "a.org##+js(set, ##+js, x)".toList session).1 =
        .ok ["a.org#%#//scriptlet('ubo-set.js', '##+js', 'x')".toList] ∧
      classify session.engine.registry
        "a.org#%#//scriptlet('ubo-set.js', '##+js', 'x')".toList = .other ∧
      (Work.isValidScriptletRule
        "a.org#%#//scriptlet('ubo-set.js', '##+js', 'x')".toList session).1 = false := by
  obtain ⟨session, h, hvalid, houts⟩ := exists_valid_ambiguous
  refine ⟨session, h, hvalid, houts, rfl, ?_⟩
  rw [Work.isValidScriptletRule_apply h.sound]
  rfl

end Runs

end FilterDialects
