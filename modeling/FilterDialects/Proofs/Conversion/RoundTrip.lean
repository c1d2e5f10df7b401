import FilterDialects.Proofs.Conversion.FromUbo
import FilterDialects.Proofs.Conversion.ToUbo

/-!
# From uBlock Origin to AdGuard and back

A uBlock Origin rule whose scriptlet is known comes back from AdGuard under its plain name
with the same domains. Every argument comes back as it is requoted, with the values that
uBlock Origin spells differently in their own spelling, so a rule that already is in that
form comes back unchanged.

The scriptlets that take a selector are left out, since a selector that is put together
does not come apart again.
-/

namespace FilterDialects

open FromUbo ToUbo

variable {registry : Registry} {rule : Text} {parsed : ScriptletRule} {entry : Entry}

/-- The arguments of a uBlock Origin rule after the way to AdGuard and back: spelled as there
and requoted, and then spelled as at first. -/
def IsReturned (scriptlet : Text) (args returned : List Text) : Prop :=
  ∃ doubled spelled, List.Forall₂ (Text.IsRespelling adgDollar) args doubled ∧
    SpellsValues scriptlet (doubled.map Text.requote) spelled ∧
    List.Forall₂ (Text.IsRespelling uboDollar) spelled returned

theorem isReturned_iff {scriptlet : Text} {args returned : List Text} :
    IsReturned scriptlet args returned ↔
      (spellArgs scriptlet ((args.map doubleDollar).map Text.requote)).map singleDollar =
        returned := by
  simp [IsReturned, forall₂_adgDollar_iff, spellsValues_iff, forall₂_uboDollar_iff]

namespace FromUbo

theorem isQuotable_doubleDollar {arg : Text} (h : Text.isQuotable arg = true) :
    Text.isQuotable (doubleDollar arg) = true := by
  unfold doubleDollar
  split
  · rfl
  · exact h

theorem uboScriptletToAdg_of_isQuotable (options : Options)
    (hcomment : Mask.isComment rule = false)
    (hparsed : ScriptletRule.parseUbo rule = .ok parsed) (hname : parsed.name ≠ [])
    (hselector : plainName parsed.name ∉ selectorScriptlets)
    (hquotable : ∀ arg ∈ parsed.args, Text.isQuotable arg = true) :
    (adgForm parsed).args = parsed.args.map doubleDollar ∧
      (∀ arg ∈ (adgForm parsed).args, Text.isQuotable arg = true) ∧
        uboScriptletToAdg options rule = .ok (adgForm parsed).toAdg := by
  have hargs : (adgForm parsed).args = parsed.args.map doubleDollar := by
    rw [adgForm_args hname, adgArgs, if_neg fun h => hselector h.1]
  have hdoubled : ∀ arg ∈ (adgForm parsed).args, Text.isQuotable arg = true := by
    rw [hargs]
    intro arg harg
    obtain ⟨source, hsource, rfl⟩ := List.mem_map.1 harg
    exact isQuotable_doubleDollar (hquotable source hsource)
  refine ⟨hargs, hdoubled, ?_⟩
  have hconvert : convertRule options parsed = .ok (adgForm parsed) := by
    have hconverted : convertArgs options (plainName parsed.name) parsed.args =
        .ok (adgForm parsed).args := by
      rw [hargs, convertArgs, if_neg]
      simp [hselector]
    rw [convertRule, if_neg hname]
    simp only [hconverted, checkAllQuotable_eq_ok.2 hdoubled, Except.map]
    rw [adgForm, if_neg hname]
  rw [uboScriptletToAdg, hcomment, hparsed]
  simp only [Except.bind, hconvert, Except.map]
  rfl

theorem bare_marked {name : Text} (h : '\'' ∉ name) :
    Text.bare (Registry.uboMark ++ name ++ ".js".toList) =
      Registry.uboMark ++ (name ++ ".js".toList) := by
  rw [Text.bare, stripQuotes_marked, List.append_assoc, Text.softenQuotes_of_notMem]
  simp [Registry.uboMark, h]

end FromUbo

/-- A rule goes to AdGuard and comes back with its plain name and its arguments requoted
and spelled. -/
theorem adgScriptletToUbo_of_uboScriptletToAdg (options : Options) {plain : Text}
    (hkind : classify registry rule = .scriptlet .ubo)
    (hparsed : ScriptletRule.parseUbo rule = .ok parsed) (hname : parsed.name ≠ [])
    (hplain : IsPlainName parsed.name plain) (hquote : '\'' ∉ plain)
    (hselector : ¬ TakesSelector plain)
    (hentry : registry.findScriptlet? ("ubo-".toList ++ plain ++ ".js".toList) = some entry)
    (hquotable : ∀ arg ∈ parsed.args, Text.isQuotable arg = true) :
    ∃ adg args, uboScriptletToAdg options rule = .ok adg ∧
      IsReturned entry.name parsed.args args ∧
      adgScriptletToUbo registry adg =
        .ok (.converted (ScriptletRule.toUbo { parsed with name := plain, args := args })) ∧
      (rule = ScriptletRule.toUbo { parsed with name := plain } →
        IsReturned entry.name parsed.args parsed.args →
          adgScriptletToUbo registry adg = .ok (.converted rule)) := by
  obtain rfl := isPlainName_iff.1 hplain
  have hcomment := isComment_of_classify_scriptlet hkind
  obtain ⟨hargs, hdoubled, hout⟩ := uboScriptletToAdg_of_isQuotable options
    hcomment hparsed hname (mt takesSelector_iff.2 hselector) hquotable
  have hread := ScriptletRule.parseAdg_toAdg
    (adgReadable_adgForm hparsed (not_infix_adg_of_classify hkind (by simp)) fun _ => hdoubled)
  have hpre : (adgForm parsed).domains <+: rule :=
    adgForm_domains parsed ▸ ScriptletRule.prefix_of_parseUbo hparsed
  have hadg : Mask.isAdgScriptlet (adgForm parsed).toAdg = true :=
    isAdgScriptlet_toAdg hcomment hpre
  rw [adgForm_name hname, bare_marked hquote, hargs, adgForm_domains, adgForm_isException] at hread
  rw [List.append_assoc] at hentry
  have hback : ∀ args, IsReturned entry.name parsed.args args →
      adgScriptletToUbo registry (adgForm parsed).toAdg = .ok (.converted
        (ScriptletRule.toUbo { parsed with name := plainName parsed.name, args := args })) := by
    intro args hreturned
    have hbare : Text.bare = Text.requote := funext Text.bare_eq_requote
    rw [adgScriptletToUbo_of_parseAdg hadg hread,
      convertRule_of_found (by simp [Registry.uboMark]) hentry, convertFound_of_marked rfl,
      uboForm, dropJs_append, uboArgs, if_pos (List.prefix_append _ _), hbare,
      ← isReturned_iff.1 hreturned]
  have hreturned := isReturned_iff.2 (Eq.refl
    ((spellArgs entry.name ((parsed.args.map doubleDollar).map Text.requote)).map singleDollar))
  refine ⟨_, _, hout, hreturned, hback _ hreturned, ?_⟩
  intro hrule hsame
  rw [hback _ hsame]
  exact congrArg (fun text => Except.ok (Outcome.converted text)) hrule.symm

/-- The quotes of an empty value are lost on the way to AdGuard and come back. A lone `$` is
doubled and single again, and values get the spelling that uBlock Origin has for them. -/
theorem adgScriptletToUbo_of_uboScriptletToAdg_constant :
    ∃ registry, (Registry.build ⟨[⟨"set-constant".toList, some "set.js".toList, none⟩,
        ⟨"prevent-fetch".toList, some "no-fetch-if.js".toList, none⟩], []⟩).2 = .ok registry ∧
      (∃ adg, uboScriptletToAdg {} "a.org##+js(set, x, '')".toList = .ok adg ∧
        adgScriptletToUbo registry adg = .ok (.converted "a.org##+js(set, x, '')".toList)) ∧
      (∃ adg, uboScriptletToAdg {} "a.org##+js('set.js', $, emptyObj)".toList = .ok adg ∧
        adgScriptletToUbo registry adg =
          .ok (.converted "a.org##+js(set, $, \x7b\x7d)".toList)) ∧
      (∃ adg, uboScriptletToAdg {} "a.org##+js(no-fetch-if, *, 'it\\'s', $)".toList = .ok adg ∧
        adgScriptletToUbo registry adg =
          .ok (.converted "a.org##+js(no-fetch-if, /^/, it\"s, $)".toList)) := by
  obtain ⟨registry, hbuild, hentries, haliases⟩ := Registry.exists_hasPlainAliases_fetch
  have hset : registry.findScriptlet? (Registry.uboMark ++ "set.js".toList) =
      some ⟨"set-constant".toList, ["set.js".toList], none, none⟩ := by
    rw [haliases.findScriptlet?_marked, Registry.scriptletByAlias?_ubo_eq_find?, hentries]
    rfl
  have hfetch : registry.findScriptlet? (Registry.uboMark ++ "no-fetch-if.js".toList) =
      some ⟨"prevent-fetch".toList, ["no-fetch-if.js".toList], none, none⟩ := by
    rw [haliases.findScriptlet?_marked, Registry.scriptletByAlias?_ubo_eq_find?, hentries]
    rfl
  refine ⟨registry, hbuild, ?_, ?_, ?_⟩
  · have hparsed : ScriptletRule.parseUbo "a.org##+js(set, x, '')".toList =
        .ok ⟨"a.org".toList, false, "set".toList, ["x".toList, "''".toList]⟩ := rfl
    obtain ⟨adg, args, hadg, -, -, hsame⟩ :=
      adgScriptletToUbo_of_uboScriptletToAdg {} rfl hparsed (List.cons_ne_nil _ _)
        (isPlainName_plainName _) (by decide) (by decide) hset (by decide)
    exact ⟨adg, hadg, hsame rfl (isReturned_iff.2 (by decide))⟩
  · have hparsed : ScriptletRule.parseUbo "a.org##+js('set.js', $, emptyObj)".toList =
        .ok ⟨"a.org".toList, false, "'set.js'".toList, ["$".toList, "emptyObj".toList]⟩ := rfl
    obtain ⟨adg, args, hadg, hreturned, hback, -⟩ :=
      adgScriptletToUbo_of_uboScriptletToAdg {} rfl hparsed (List.cons_ne_nil _ _)
        (isPlainName_plainName _) (by decide) (by decide) hset (by decide)
    obtain rfl := isReturned_iff.1 hreturned
    exact ⟨adg, hadg, hback⟩
  · have hparsed : ScriptletRule.parseUbo "a.org##+js(no-fetch-if, *, 'it\\'s', $)".toList =
        .ok ⟨"a.org".toList, false, "no-fetch-if".toList,
          ["*".toList, "'it\\'s'".toList, "$".toList]⟩ := rfl
    obtain ⟨adg, args, hadg, hreturned, hback, -⟩ :=
      adgScriptletToUbo_of_uboScriptletToAdg {} rfl hparsed (List.cons_ne_nil _ _)
        (isPlainName_plainName _) (by decide) (by decide) hfetch (by decide)
    obtain rfl := isReturned_iff.1 hreturned
    exact ⟨adg, hadg, hback⟩

end FilterDialects
