import FilterDialects.Proofs.Classify
import FilterDialects.Proofs.Conversion.Spelling
import FilterDialects.Proofs.Registry.Aliases
import FilterDialects.Proofs.Scriptlet.RoundTrip

/-!
# Converted AdGuard rules

An AdGuard scriptlet rule that is converted becomes a uBlock Origin rule for the same
domains and the same scriptlet, and its arguments are those of the rule in the spelling of
uBlock Origin. They stand without quotes now, which is safe since no argument of an
AdGuard rule ends in a backslash.

The spelling brings in a handful of fixed values. None of them has a character that could
make a mask, so the masks of the result but its own are those of the rule.
-/

namespace FilterDialects.ToUbo

variable {registry : Registry} {entry : Entry} {rule out : Text} {parsed : ScriptletRule}

def uboArgs (entry : Entry) (parsed : ScriptletRule) : List Text :=
  let spelled := spellArgs entry.name parsed.args
  if Registry.uboMark <+: parsed.name then spelled.map singleDollar else spelled

def uboForm (entry : Entry) (name : Text) (parsed : ScriptletRule) : ScriptletRule :=
  { parsed with name := dropJs name, args := uboArgs entry parsed }

/-- The spelling of uBlock Origin leaves no choice. -/
theorem isUboArgs_iff {args : List Text} :
    IsUboArgs entry.name parsed.name parsed.args args ↔ uboArgs entry parsed = args := by
  constructor
  · intro h
    cases h with
    | marked hmark hspelled hsingled =>
      obtain rfl := spellsValues_iff.1 hspelled
      obtain rfl := forall₂_uboDollar_iff.1 hsingled
      exact if_pos hmark
    | unmarked hmark hspelled =>
      obtain rfl := spellsValues_iff.1 hspelled
      exact if_neg hmark
  · rintro rfl
    have hspelled := spellsValues_spellArgs entry.name parsed.args
    rw [uboArgs]
    split
    · next hmark => exact .marked hmark hspelled (forall₂_uboDollar_iff.2 rfl)
    · next hmark => exact .unmarked hmark hspelled

section Arguments

/-- What the spelling of uBlock Origin puts in the place of an argument. -/
def newValues : List Text :=
  ["''".toList, "[]".toList, "\x7b\x7d".toList, "/^/".toList, "$".toList]

theorem mem_of_mem_respelled {table : List (Text × Text)}
    (htable : ∀ pair ∈ table, pair.2 ∈ newValues) {old new arg : Text} {others : List Text}
    (h : Text.IsRespelling table old new) (harg : arg ∈ new :: others) :
    arg ∈ old :: others ∨ arg ∈ newValues := by
  rcases List.mem_cons.1 harg with rfl | hother
  · rcases h.eq_or_mem with rfl | hlisted
    · exact .inl List.mem_cons_self
    · exact .inr (htable _ hlisted)
  · exact .inl (List.mem_cons_of_mem old hother)

theorem mem_of_spellsValues {scriptlet arg : Text} {args spelled : List Text}
    (h : SpellsValues scriptlet args spelled) (harg : arg ∈ spelled) :
    arg ∈ args ∨ arg ∈ newValues := by
  cases h with
  | @constant first old new others hvalue =>
    rcases List.mem_cons.1 harg with rfl | harg
    · exact .inl List.mem_cons_self
    · exact (mem_of_mem_respelled (by decide) hvalue harg).imp_left (List.mem_cons_of_mem first)
  | fetch hpattern => exact mem_of_mem_respelled (by decide) hpattern harg
  | same _ _ => exact .inl harg

theorem mem_of_mem_uboArgs {arg : Text} (h : arg ∈ uboArgs entry parsed) :
    arg ∈ parsed.args ∨ arg ∈ newValues := by
  have hspelled := spellsValues_spellArgs entry.name parsed.args
  unfold uboArgs at h
  dsimp only at h
  split at h
  · obtain ⟨source, hsource, rfl⟩ := List.mem_map.1 h
    rcases (isRespelling_singleDollar source).eq_or_mem with heq | hlisted
    · rw [heq]
      exact mem_of_spellsValues hspelled hsource
    · have hsingle : ∀ pair ∈ uboDollar, pair.2 ∈ newValues := by decide
      exact .inr (hsingle _ hlisted)
  · exact mem_of_spellsValues hspelled h

end Arguments

section Conversion

theorem convertFound_of_marked {name : Text} (hname : parsed.name = Registry.uboMark ++ name) :
    convertFound parsed entry = .converted (uboForm entry name parsed).toUbo := by
  have hmark : Registry.uboMark.isPrefixOf? parsed.name = some name :=
    Text.isPrefixOf?_eq_some.2 hname.symm
  have hpre : Registry.uboMark <+: parsed.name := ⟨name, hname.symm⟩
  rw [convertFound, hmark, uboForm, uboArgs, if_pos hpre]

theorem convertFound_of_unmarked (hname : ¬ Registry.uboMark <+: parsed.name) :
    convertFound parsed entry =
      match entry.preferredUboName with
      | none => .noName parsed.name
      | some name => .converted (uboForm entry name parsed).toUbo := by
  have hmark : Registry.uboMark.isPrefixOf? parsed.name = none :=
    Text.isPrefixOf?_eq_none_iff.2 hname
  have hargs : uboArgs entry parsed = spellArgs entry.name parsed.args := if_neg hname
  rw [convertFound, hmark]
  cases entry.preferredUboName with
  | none => rfl
  | some name =>
    show Outcome.converted _ = Outcome.converted _
    rw [uboForm, hargs]

theorem convertRule_of_found (hname : parsed.name ≠ [])
    (hentry : registry.findScriptlet? parsed.name = some entry) :
    convertRule registry parsed = convertFound parsed entry := by
  rw [convertRule, if_neg hname, hentry]

/-- A rule that is converted has a scriptlet, and the name it is written with is one of
the scriptlet's, with or without its extension. -/
theorem exists_of_convertRule (haliases : registry.HasPlainAliases) (hname : parsed.name ≠ [])
    (h : convertRule registry parsed = .converted out) :
    ∃ entry ∈ registry.scriptlets, ∃ name, ∃ known ∈ entry.uboNames,
      registry.findScriptlet? parsed.name = some entry ∧ dropJs name = dropJs known ∧
        out = (uboForm entry name parsed).toUbo := by
  cases hentry : registry.findScriptlet? parsed.name with
  | none =>
    rw [convertRule, if_neg hname, hentry] at h
    simp at h
  | some entry =>
    rw [convertRule_of_found hname hentry] at h
    refine ⟨entry, Registry.mem_of_findScriptlet? hentry, ?_⟩
    by_cases hmarked : Registry.uboMark <+: parsed.name
    · obtain ⟨name, hmark⟩ := hmarked
      rw [convertFound_of_marked hmark.symm] at h
      rw [← hmark, haliases.findScriptlet?_marked] at hentry
      obtain ⟨-, known, hknown, heq⟩ := Registry.mem_of_scriptletByAlias?_ubo hentry
      exact ⟨name, known, hknown, rfl, heq.symm, (Outcome.converted.inj h).symm⟩
    · rw [convertFound_of_unmarked hmarked] at h
      split at h
      · simp at h
      · next name hpreferred =>
        exact ⟨name, name, List.mem_of_mem_head? hpreferred, rfl, rfl,
          (Outcome.converted.inj h).symm⟩

theorem adgScriptletToUbo_of_parseAdg (hmask : Mask.isAdgScriptlet rule = true)
    (hparsed : ScriptletRule.parseAdg rule = .ok parsed) :
    adgScriptletToUbo registry rule = .ok (convertRule registry parsed) := by
  rw [adgScriptletToUbo, if_pos hmask, hparsed]
  rfl

end Conversion

section Result

variable {name known : Text}

/-- The form of a rule under an alias of a table is read back. -/
theorem uboReadable_uboForm {table : Table} (hbuild : (Registry.build table).2 = .ok registry)
    (haliases : registry.HasPlainAliases) (hentry : entry ∈ registry.scriptlets)
    (hknown : known ∈ entry.uboNames) (hname : dropJs name = dropJs known)
    (hdomains : Mask.cutUbo? parsed.domains = none)
    (hends : ∀ arg ∈ parsed.args, arg.getLast? ≠ some '\\') :
    (uboForm entry name parsed).UboReadable := by
  have hwritten : (uboForm entry name parsed).name = dropJs known := hname
  have hseparates : ∀ c ∈ dropJs known, Entry.separatesNames c = false := fun c hc =>
    Registry.separatesNames_of_build hbuild hentry hknown ((dropJs_isPrefix known).subset hc)
  constructor
  · exact hdomains
  · rw [hwritten]
    exact haliases.ne_nil entry hentry known hknown
  · intro hcomma
    rw [hwritten] at hcomma
    have hplain := hseparates ',' hcomma
    simp [Entry.separatesNames] at hplain
  · rw [hwritten]
    apply Text.trim_of_forall
    intro c hc
    have hplain := hseparates c hc
    simp only [Entry.separatesNames, Bool.or_eq_false_iff] at hplain
    exact hplain.2
  · intro element helement
    have hfixed : ∀ value ∈ newValues, value.getLast? ≠ some '\\' := by decide
    rcases List.mem_cons.1 (List.mem_of_mem_dropLast helement) with rfl | harg
    · rw [hwritten]
      exact haliases.not_backslash entry hentry known hknown
    · exact (mem_of_mem_uboArgs harg).elim (hends element) (hfixed element)

/-- A mask in a converted rule stands in the domains and the mask of it, or in an argument
of the rule that it was converted from. -/
theorem infix_of_infix_toUbo {mask : Text} (hclear : Mask.IsClear mask) (hhash : '#' ∈ mask)
    (hplain : '#' ∉ dropJs name) (h : mask <:+: (uboForm entry name parsed).toUbo) :
    mask <:+: parsed.domains ++ Mask.ubo parsed.isException ∨
      ∃ arg ∈ parsed.args, mask <:+: arg := by
  cases ScriptletRule.infix_of_infix_assemble hclear h with
  | inl hbefore => exact .inl hbefore
  | inr hlist =>
    obtain ⟨element, helement, hoccurs⟩ :=
      ScriptletRule.infix_of_infix_uboList hclear (List.ne_nil_of_mem hhash) hlist
    have hfixed : ∀ value ∈ newValues, '#' ∉ value := by decide
    rcases List.mem_cons.1 helement with rfl | harg
    · exact absurd (hoccurs.subset hhash) hplain
    · cases mem_of_mem_uboArgs harg with
      | inl hold => exact .inr ⟨element, hold, hoccurs⟩
      | inr hnew => exact absurd (hoccurs.subset hhash) (hfixed element hnew)

/-- A rule with a single AdGuard mask loses it. -/
theorem not_infix_adg_toUbo (honce : Mask.countAdg rule = 1)
    (hparsed : ScriptletRule.parseAdg rule = .ok parsed) (hplain : '#' ∉ dropJs name)
    (isException : Bool) : ¬ Mask.adg isException <:+: (uboForm entry name parsed).toUbo := by
  obtain ⟨body, rfl, -, helements⟩ := ScriptletRule.exists_of_parseAdg hparsed
  obtain ⟨hdomains, hbody⟩ := Mask.not_infix_of_countAdg honce isException
  have hclear := Mask.isClear_adg isException
  have hhash : '#' ∈ Mask.adg isException := by cases isException <;> decide
  intro hoccurs
  rcases infix_of_infix_toUbo hclear hhash hplain hoccurs with hbefore | ⟨arg, harg, hoccurs⟩
  · rw [← List.append_nil (Mask.ubo parsed.isException)] at hbefore
    have hseam : Text.overlaps (Mask.adg isException) (Mask.ubo parsed.isException) = false := by
      cases isException <;> cases parsed.isException <;> decide
    have hown : ¬ Mask.adg isException <:+: Mask.ubo parsed.isException ++ [] := by
      cases isException <;> cases parsed.isException <;> decide
    exact (Text.infix_append_of_not_overlaps hseam hbefore).elim hdomains hown
  · have hmem := List.mem_cons_of_mem parsed.name harg
    exact hbody ((helements arg hmem).2 _ (fun c => hclear.isQuote_eq_false) hoccurs)

/-- A rule that is an AdGuard rule only has no Adblock Plus mask, so it gets none. -/
theorem not_infix_abp_toUbo (hkind : classify registry rule = .scriptlet .adg)
    (hparsed : ScriptletRule.parseAdg rule = .ok parsed) (hplain : '#' ∉ dropJs name)
    (isException : Bool) : ¬ Mask.abp isException <:+: (uboForm entry name parsed).toUbo := by
  have hnone := not_infix_abp_of_classify hkind (by simp)
    (ScriptletRule.getLast?_of_parseAdg hparsed) isException
  obtain ⟨body, hrule, -, helements⟩ := ScriptletRule.exists_of_parseAdg hparsed
  have hmask := Mask.isAtomic_abp isException
  intro hoccurs
  rcases infix_of_infix_toUbo hmask.clear hmask.hash hplain hoccurs with
    hbefore | ⟨arg, harg, hoccurs⟩
  · -- the mask of the rule starts with the same character
    have hstart : parsed.domains ++ ['#'] <+: rule := by
      rw [← hrule, List.prefix_append_right_inj]
      cases parsed.isException <;> exact ⟨_, rfl⟩
    exact hnone ((Mask.infix_abp_append_ubo hbefore).trans hstart.isInfix)
  · have hmem := List.mem_cons_of_mem parsed.name harg
    have hbody := (helements arg hmem).2 _ (fun c => hmask.clear.isQuote_eq_false) hoccurs
    refine hnone (hbody.trans (List.IsSuffix.isInfix ?_))
    rw [← hrule, ← List.append_assoc]
    exact List.suffix_append _ _

theorem isUboScriptlet_toUbo (hcomment : Mask.isComment rule = false)
    (hpre : parsed.domains <+: rule) (hdomains : Mask.cutUbo? parsed.domains = none) :
    Mask.isUboScriptlet parsed.toUbo = true := by
  have hwritten : parsed.toUbo =
      parsed.domains ++ (Mask.ubo parsed.isException ++ ('(' :: parsed.uboList ++ [')'])) :=
    ScriptletRule.assemble_eq _ _ _
  have hmask : Mask.ubo parsed.isException <:+: parsed.toUbo := by
    rw [hwritten]
    exact (List.prefix_append _ _).isInfix.trans (List.suffix_append _ _).isInfix
  have hplain : Mask.isComment parsed.toUbo = false := by
    rw [hwritten]
    refine Mask.isComment_append hpre hcomment ?_
    cases parsed.isException <;> rfl
  have hcut : (Mask.cutUbo? parsed.toUbo).isSome = true := by
    rw [hwritten, Mask.cutUbo?_append hdomains]
    rfl
  have hcontains := Text.containsMask_iff.2 hmask
  rw [Mask.isUboScriptlet, hplain, hcut]
  cases hexception : parsed.isException with
  | true => simp [hexception] at hcontains; simp [hcontains]
  | false => simp [hexception] at hcontains; simp [hcontains]

/-- A rule with a single AdGuard mask and no other becomes a uBlock Origin rule. -/
theorem classify_toUbo (hkind : classify registry rule = .scriptlet .adg)
    (honce : Mask.countAdg rule = 1) (hparsed : ScriptletRule.parseAdg rule = .ok parsed)
    (hdomains : Mask.cutUbo? parsed.domains = none) (hplain : '#' ∉ dropJs name) :
    classify registry (uboForm entry name parsed).toUbo = .scriptlet .ubo := by
  have hcomment := isComment_of_classify_scriptlet hkind
  have hpre : parsed.domains <+: rule := by
    obtain ⟨body, hrule, -⟩ := ScriptletRule.exists_of_parseAdg hparsed
    exact ⟨_, hrule⟩
  have hubo : Mask.isUboScriptlet (uboForm entry name parsed).toUbo = true :=
    isUboScriptlet_toUbo hcomment hpre hdomains
  have hadg : ¬ Mask.isAdgScriptlet (uboForm entry name parsed).toUbo = true := by
    intro hcarries
    obtain ⟨-, isException, hoccurs⟩ := Mask.isAdgScriptlet_iff.1 hcarries
    exact not_infix_adg_toUbo honce hparsed hplain isException hoccurs
  have habp : ¬ Mask.isAbpSnippet (uboForm entry name parsed).toUbo = true := by
    intro hcarries
    obtain ⟨-, ⟨isException, hoccurs⟩, -⟩ := Mask.isAbpSnippet_iff.1 hcarries
    exact not_infix_abp_toUbo hkind hparsed hplain isException hoccurs
  rw [classify_eq_scriptlet_iff]
  intro other
  cases other with
  | adg => exact iff_of_false hadg (by simp)
  | ubo => exact iff_of_true hubo rfl
  | abp => exact iff_of_false habp (by simp)

/-- A converted rule reads as a uBlock Origin rule for the same domains and the same
scriptlet, with the arguments of the rule as uBlock Origin spells them, but for blanks around
them. If the rule was nothing else than one AdGuard rule, the result is nothing else than
a uBlock Origin rule. -/
theorem parseUbo_of_adgScriptletToUbo {table : Table}
    (hbuild : (Registry.build table).2 = .ok registry) (haliases : registry.HasPlainAliases)
    (hparsed : ScriptletRule.parseAdg rule = .ok parsed) (hname : parsed.name ≠ [])
    (hdomains : Mask.cutUbo? parsed.domains = none)
    (hout : adgScriptletToUbo registry rule = .ok (.converted out)) :
    ∃ entry result args,
      registry.findScriptlet? parsed.name = some entry ∧
        ScriptletRule.parseUbo out = .ok result ∧
        result.domains = parsed.domains ∧ result.isException = parsed.isException ∧
        registry.scriptletByAlias? .ubo result.name = some entry ∧
        IsUboArgs entry.name parsed.name parsed.args args ∧
        result.args = args.map Text.trim ∧
        (classify registry rule = .scriptlet .adg → Mask.countAdg rule = 1 →
          classify registry out = .scriptlet .ubo) := by
  have hconvert : convertRule registry parsed = .converted out := by
    unfold adgScriptletToUbo at hout
    split at hout
    · simpa [hparsed, Except.map] using hout
    · simp at hout
  obtain ⟨entry, hentry, name, known, hknown, hfound, hsame, rfl⟩ :=
    exists_of_convertRule haliases hname hconvert
  have hends : ∀ arg ∈ parsed.args, arg.getLast? ≠ some '\\' := by
    obtain ⟨body, -, -, helements⟩ := ScriptletRule.exists_of_parseAdg hparsed
    exact fun arg harg => (helements arg (List.mem_cons_of_mem _ harg)).1
  have hread := ScriptletRule.parseUbo_toUbo
    (uboReadable_uboForm hbuild haliases hentry hknown hsame hdomains hends)
  refine ⟨entry, _, _, hfound, hread, rfl, rfl, ?_, isUboArgs_iff.2 rfl, rfl, ?_⟩
  · have hlookup := haliases.scriptletByAlias?_of_mem hentry hknown
    rw [← hsame] at hlookup
    exact hlookup
  · intro hkind honce
    have hplain := haliases.not_hash entry hentry known hknown
    rw [← hsame] at hplain
    exact classify_toUbo hkind honce hparsed hdomains hplain

/-- A comma inside of an argument gets its backslash and the empty value its quotes. A rule
that is named by an alias has single dollars, and in any other a doubled one stays. -/
theorem parseUbo_of_adgScriptletToUbo_constant :
    ∃ registry, (Registry.build ⟨[⟨"set-constant".toList, some "set.js".toList, none⟩,
        ⟨"prevent-fetch".toList, some "no-fetch-if.js".toList, none⟩], []⟩).2 = .ok registry ∧
      (adgScriptletToUbo registry "a.org#%#//scriptlet('set-constant', 'x,y', '')".toList =
          .ok (.converted "a.org##+js(set, x\\,y, '')".toList) ∧
        classify registry "a.org##+js(set, x\\,y, '')".toList = .scriptlet .ubo ∧
        ∃ result, ScriptletRule.parseUbo "a.org##+js(set, x\\,y, '')".toList = .ok result ∧
          result.args = ["x,y".toList, "''".toList]) ∧
      (adgScriptletToUbo registry "a.org#%#//scriptlet('ubo-set.js', '$$', 'emptyObj')".toList =
          .ok (.converted "a.org##+js(set, $, \x7b\x7d)".toList) ∧
        classify registry "a.org##+js(set, $, \x7b\x7d)".toList = .scriptlet .ubo ∧
        ∃ result, ScriptletRule.parseUbo "a.org##+js(set, $, \x7b\x7d)".toList = .ok result ∧
          result.args = ["$".toList, "\x7b\x7d".toList]) ∧
      (adgScriptletToUbo registry
            "a.org#%#//scriptlet('prevent-fetch', '*', '$$', 'emptyArr')".toList =
          .ok (.converted "a.org##+js(no-fetch-if, /^/, $$, emptyArr)".toList) ∧
        classify registry "a.org##+js(no-fetch-if, /^/, $$, emptyArr)".toList =
          .scriptlet .ubo ∧
        ∃ result,
          ScriptletRule.parseUbo "a.org##+js(no-fetch-if, /^/, $$, emptyArr)".toList =
            .ok result ∧
          result.args = ["/^/".toList, "$$".toList, "emptyArr".toList]) := by
  obtain ⟨registry, hbuild, hentries, haliases⟩ := Registry.exists_hasPlainAliases_fetch
  have hread {rule out : Text} {parsed : ScriptletRule} {entry : Entry}
      (hkind : classify registry rule = .scriptlet .adg) (honce : Mask.countAdg rule = 1)
      (hparsed : ScriptletRule.parseAdg rule = .ok parsed) (hname : parsed.name ≠ [])
      (hdomains : Mask.cutUbo? parsed.domains = none)
      (hentry : registry.findScriptlet? parsed.name = some entry)
      (hout : adgScriptletToUbo registry rule = .ok (.converted out)) :
      classify registry out = .scriptlet .ubo ∧ ∃ result,
        ScriptletRule.parseUbo out = .ok result ∧
          result.args = (uboArgs entry parsed).map Text.trim := by
    obtain ⟨entry', result, args, hfound, hresult, -, -, -, hspelled, hargs, hclass⟩ :=
      parseUbo_of_adgScriptletToUbo hbuild haliases hparsed hname hdomains hout
    obtain rfl := Option.some.inj (hentry.symm.trans hfound)
    obtain rfl := isUboArgs_iff.1 hspelled
    exact ⟨hclass hkind honce, result, hresult, hargs⟩
  have hconvert {rule out : Text} {parsed : ScriptletRule} {entry : Entry}
      (hmask : Mask.isAdgScriptlet rule = true)
      (hparsed : ScriptletRule.parseAdg rule = .ok parsed) (hname : parsed.name ≠ [])
      (hentry : registry.findScriptlet? parsed.name = some entry)
      (hout : convertFound parsed entry = .converted out) :
      adgScriptletToUbo registry rule = .ok (.converted out) := by
    rw [adgScriptletToUbo_of_parseAdg hmask hparsed, convertRule_of_found hname hentry, hout]
  refine ⟨registry, hbuild, ?_, ?_, ?_⟩
  · have hentry : registry.findScriptlet? "set-constant".toList =
        some ⟨"set-constant".toList, ["set.js".toList], none, none⟩ := by
      rw [Registry.findScriptlet?, Registry.scriptlet?_eq_find?, hentries]
      rfl
    have hparsed : ScriptletRule.parseAdg
        "a.org#%#//scriptlet('set-constant', 'x,y', '')".toList =
          .ok ⟨"a.org".toList, false, "set-constant".toList, ["x,y".toList, []]⟩ := rfl
    have hout := hconvert rfl hparsed (List.cons_ne_nil _ _) hentry rfl
    exact ⟨hout, hread rfl (by decide) hparsed (List.cons_ne_nil _ _) rfl hentry hout⟩
  · have hentry : registry.findScriptlet? (Registry.uboMark ++ "set.js".toList) =
        some ⟨"set-constant".toList, ["set.js".toList], none, none⟩ := by
      rw [haliases.findScriptlet?_marked, Registry.scriptletByAlias?_ubo_eq_find?, hentries]
      rfl
    have hparsed : ScriptletRule.parseAdg
        "a.org#%#//scriptlet('ubo-set.js', '$$', 'emptyObj')".toList =
          .ok ⟨"a.org".toList, false, "ubo-set.js".toList,
            ["$$".toList, "emptyObj".toList]⟩ := rfl
    have hout := hconvert rfl hparsed (List.cons_ne_nil _ _) hentry rfl
    exact ⟨hout, hread rfl (by decide) hparsed (List.cons_ne_nil _ _) rfl hentry hout⟩
  · have hentry : registry.findScriptlet? "prevent-fetch".toList =
        some ⟨"prevent-fetch".toList, ["no-fetch-if.js".toList], none, none⟩ := by
      rw [Registry.findScriptlet?, Registry.scriptlet?_eq_find?, hentries]
      rfl
    have hparsed : ScriptletRule.parseAdg
        "a.org#%#//scriptlet('prevent-fetch', '*', '$$', 'emptyArr')".toList =
          .ok ⟨"a.org".toList, false, "prevent-fetch".toList,
            ["*".toList, "$$".toList, "emptyArr".toList]⟩ := rfl
    have hout := hconvert rfl hparsed (List.cons_ne_nil _ _) hentry rfl
    exact ⟨hout, hread rfl (by decide) hparsed (List.cons_ne_nil _ _) rfl hentry hout⟩

end Result

end FilterDialects.ToUbo
