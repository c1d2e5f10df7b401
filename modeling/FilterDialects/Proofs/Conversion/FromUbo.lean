import FilterDialects.Proofs.Classify
import FilterDialects.Proofs.Conversion.Spelling
import FilterDialects.Proofs.Scriptlet.RoundTrip

/-!
# Converted uBlock Origin rules

A uBlock Origin scriptlet rule that is converted becomes an AdGuard rule for the same
domains, whose elements are those of the rule as AdGuard spells them, requoted. No argument
can end its quotes early or swallow what follows, and the only AdGuard mask of the result
is its own: every other mask in it would have stood in the rule already.
-/

namespace FilterDialects.FromUbo

variable {registry : Registry} {options : Options} {rule : Text} {parsed : ScriptletRule}

/-- Put the selector together that is spread over all arguments but the first, except for
a last one that says when the scriptlet applies. -/
def glueSelector (args : List Text) : List Text :=
  match (splitApplying args).1 with
  | name :: piece :: pieces =>
    name :: gluedSelector (name :: piece :: pieces) :: (splitApplying args).2
  | _ => args

theorem append_splitApplying (args : List Text) :
    (splitApplying args).1 ++ (splitApplying args).2 = args := by
  unfold splitApplying
  split
  · next last hlast =>
    split
    · exact List.dropLast_append_getLast? last hlast
    · exact List.append_nil args
  · exact List.append_nil args

/-- The arguments that a scriptlet takes in AdGuard, before they are quoted. -/
def adgArgs (name : Text) (args : List Text) : List Text :=
  let args := args.map doubleDollar
  if name ∈ selectorScriptlets ∧ 1 < args.length then glueSelector args else args

/-- The rule that a uBlock Origin rule becomes in AdGuard, before it is quoted. -/
def adgForm (parsed : ScriptletRule) : ScriptletRule :=
  if parsed.name = [] then parsed
  else
    { parsed with
      name := Registry.uboMark ++ plainName parsed.name ++ ".js".toList
      args := adgArgs (plainName parsed.name) parsed.args }

/-- Putting a selector together leaves no choice. -/
theorem isGlued_iff {args glued : List Text} (hmany : 1 < args.length) :
    IsGlued args glued ↔ glueSelector args = glued := by
  constructor
  · intro h
    cases h with
    | @selector pieces first applying h hne =>
      obtain ⟨piece, others, rfl⟩ := List.exists_cons_of_ne_nil hne
      rw [glueSelector, h.splitApplying_eq hmany]
      rfl
    | whole h => rw [glueSelector, h.splitApplying_eq hmany]
  · rintro rfl
    obtain ⟨first, pieces, applying, h⟩ := exists_isSelectorSplit hmany
    rw [glueSelector, h.splitApplying_eq hmany]
    cases pieces with
    | nil => exact .whole h
    | cons piece others => exact .selector h (List.cons_ne_nil piece others)

/-- Nor does the spelling of AdGuard. -/
theorem isAdgArgs_iff {plain : Text} {args spelled : List Text} :
    IsAdgArgs plain args spelled ↔ adgArgs plain args = spelled := by
  constructor
  · intro h
    cases h with
    | glued htakes hmany hdoubled hglued =>
      obtain rfl := forall₂_adgDollar_iff.1 hdoubled
      rw [adgArgs, if_pos ⟨takesSelector_iff.1 htakes, by simpa using hmany⟩]
      exact (isGlued_iff (by simpa using hmany)).1 hglued
    | apart hfew hdoubled =>
      obtain rfl := forall₂_adgDollar_iff.1 hdoubled
      rw [adgArgs, if_neg]
      rintro ⟨htakes, hmany⟩
      have hfew := hfew (takesSelector_iff.2 htakes)
      rw [List.length_map] at hmany
      omega
  · rintro rfl
    have hdoubled := forall₂_adgDollar_iff.2 (rfl : args.map doubleDollar = _)
    rw [adgArgs]
    split
    · next hselector =>
      have hmany : 1 < args.length := by simpa using hselector.2
      exact .glued (takesSelector_iff.2 hselector.1) hmany hdoubled
        ((isGlued_iff hselector.2).2 rfl)
    · next hselector =>
      refine .apart (fun htakes => ?_) hdoubled
      by_contra hmany
      exact hselector ⟨takesSelector_iff.1 htakes, by simpa using hmany⟩

@[simp] theorem adgForm_domains (parsed : ScriptletRule) :
    (adgForm parsed).domains = parsed.domains := by
  unfold adgForm
  split <;> rfl

@[simp] theorem adgForm_isException (parsed : ScriptletRule) :
    (adgForm parsed).isException = parsed.isException := by
  unfold adgForm
  split <;> rfl

theorem adgForm_of_nil (h : parsed.name = []) : adgForm parsed = parsed := if_pos h

theorem adgForm_name (h : parsed.name ≠ []) :
    (adgForm parsed).name = Registry.uboMark ++ plainName parsed.name ++ ".js".toList := by
  rw [adgForm, if_neg h]

theorem adgForm_args (h : parsed.name ≠ []) :
    (adgForm parsed).args = adgArgs (plainName parsed.name) parsed.args := by
  rw [adgForm, if_neg h]

section Conversion

/-- Pieces are joined and checked together. -/
theorem IsSelectorSplit.joinSelector_eq {args pieces : List Text} {first : Text}
    {applying : Option Text} (h : IsSelectorSplit args first pieces applying)
    (hne : pieces ≠ []) :
    joinSelector options args =
      if options.checkSelectors && !Selector.isValid (", ".toList.intercalate pieces) then
        .error (.invalidSelector (", ".toList.intercalate pieces))
      else .ok (first :: ", ".toList.intercalate pieces :: applying.toList) := by
  have hmany := h.one_lt_length hne
  obtain ⟨piece, others, rfl⟩ := List.exists_cons_of_ne_nil hne
  rw [joinSelector, h.splitApplying_eq hmany]
  rfl

/-- A checked selector is put together like any other. -/
theorem eq_of_joinSelector {args joined : List Text} (h : joinSelector options args = .ok joined) :
    joined = glueSelector args := by
  unfold joinSelector at h
  unfold glueSelector
  have hwhole := append_splitApplying args
  split at h
  · next name piece pieces applying hsplit =>
    rw [hsplit]
    dsimp only at h
    split at h
    · simp at h
    · exact (Except.ok.inj h).symm
  · next few applying hfew hsplit =>
    rw [hsplit] at hwhole
    obtain rfl := Except.ok.inj h
    rw [hsplit]
    split
    · next name piece pieces hpieces => exact (hfew name piece pieces hpieces).elim
    · exact hwhole

theorem eq_of_convertArgs {name : Text} {args converted : List Text}
    (h : convertArgs options name args = .ok converted) : converted = adgArgs name args := by
  unfold convertArgs at h
  unfold adgArgs
  by_cases hselector : name ∈ selectorScriptlets ∧ 1 < (args.map doubleDollar).length
  · rw [if_pos (by simpa using hselector)] at h
    rw [if_pos hselector]
    exact eq_of_joinSelector h
  · rw [if_neg (by simpa using hselector)] at h
    rw [if_neg hselector]
    exact (Except.ok.inj h).symm

/-- A rule is converted to its AdGuard form, and only if that can be quoted. -/
theorem eq_of_convertRule {converted : ScriptletRule}
    (h : convertRule options parsed = .ok converted) :
    converted = adgForm parsed ∧
      (parsed.name ≠ [] → ∀ arg ∈ (adgForm parsed).args, Text.isQuotable arg = true) := by
  unfold convertRule at h
  split at h
  · next hnil =>
    cases h
    exact ⟨(adgForm_of_nil hnil).symm, fun hne => absurd hnil hne⟩
  · next hne =>
    dsimp only at h
    split at h
    · simp at h
    · next args hargs =>
      obtain ⟨⟨⟩, hquotable, rfl⟩ := Outcome.map_eq_ok.1 h
      obtain rfl := eq_of_convertArgs hargs
      rw [adgForm, if_neg hne]
      exact ⟨rfl, fun _ => checkAllQuotable_eq_ok.1 hquotable⟩

theorem exists_of_uboScriptletToAdg {out : Text} (hcomment : Mask.isComment rule = false)
    (h : uboScriptletToAdg options rule = .ok out) :
    ∃ parsed, ScriptletRule.parseUbo rule = .ok parsed ∧ out = (adgForm parsed).toAdg ∧
      (parsed.name ≠ [] → ∀ arg ∈ (adgForm parsed).args, Text.isQuotable arg = true) := by
  rw [uboScriptletToAdg, hcomment] at h
  obtain ⟨converted, hconverted, rfl⟩ := Outcome.map_eq_ok.1 (Outcome.ofSyntax_eq_ok.1 h)
  obtain ⟨parsed, hparsed, hconvert⟩ := Outcome.bind_eq_ok.1 hconverted
  obtain ⟨rfl, hquotable⟩ := eq_of_convertRule hconvert
  exact ⟨parsed, hparsed, rfl, hquotable⟩

end Conversion

section Masks

variable {mask : Text}

theorem infix_of_infix_doubleDollar (hmask : Mask.IsAtomic mask) {arg : Text}
    (h : mask <:+: doubleDollar arg) : mask <:+: arg := by
  unfold doubleDollar at h
  split at h
  · exact absurd (h.subset hmask.hash) (by decide)
  · exact h

/-- A mask in a glued selector stood in one of its pieces. -/
theorem infix_of_mem_glueSelector (hmask : Mask.IsAtomic mask) {args : List Text} {arg : Text}
    (harg : arg ∈ glueSelector args) (h : mask <:+: arg) : ∃ source ∈ args, mask <:+: source := by
  unfold glueSelector at harg
  split at harg
  · next name piece pieces hpieces =>
    have hwhole := append_splitApplying args
    rw [hpieces] at hwhole
    rw [← hwhole]
    rcases List.mem_cons.1 harg with rfl | harg
    · exact ⟨arg, by simp, h⟩
    · rcases List.mem_cons.1 harg with rfl | happlying
      · have hglued : mask <:+: ScriptletRule.joinElements (piece :: pieces) := h
        obtain ⟨source, hsource, hoccurs⟩ := ScriptletRule.infix_of_infix_joinElements
          hmask.clear hmask.ne_nil hglued
        exact ⟨source, List.mem_append_left _ (List.mem_cons_of_mem name hsource), hoccurs⟩
      · exact ⟨arg, List.mem_append_right _ happlying, h⟩
  · exact ⟨arg, harg, h⟩

theorem infix_of_mem_adgArgs (hmask : Mask.IsAtomic mask) {name : Text} {args : List Text}
    {arg : Text} (harg : arg ∈ adgArgs name args) (h : mask <:+: arg) :
    ∃ source ∈ args, mask <:+: source := by
  have hdoubled : ∃ doubled ∈ args.map doubleDollar, mask <:+: doubled := by
    unfold adgArgs at harg
    dsimp only at harg
    split at harg
    · exact infix_of_mem_glueSelector hmask harg h
    · exact ⟨arg, harg, h⟩
  obtain ⟨doubled, hmem, hoccurs⟩ := hdoubled
  obtain ⟨source, hsource, rfl⟩ := List.mem_map.1 hmem
  exact ⟨source, hsource, infix_of_infix_doubleDollar hmask hoccurs⟩

theorem infix_of_infix_plainName {name : Text} (h : mask <:+: plainName name) : mask <:+: name :=
  (h.trans (dropJs_isPrefix _).isInfix).trans (Text.stripQuotes_isInfix name)

/-- The mark and the extension of a name make no mask. -/
theorem infix_of_infix_adgForm (hmask : Mask.IsAtomic mask) {element : Text}
    (helement : element ∈ (adgForm parsed).name :: (adgForm parsed).args)
    (h : mask <:+: element) : ∃ source ∈ parsed.name :: parsed.args, mask <:+: source := by
  by_cases hname : parsed.name = []
  · rw [adgForm_of_nil hname] at helement
    exact ⟨element, helement, h⟩
  · rw [adgForm_name hname, adgForm_args hname] at helement
    rcases List.mem_cons.1 helement with rfl | harg
    · have hseams : mask <:+:
          "ubo".toList ++ '-' :: (plainName parsed.name ++ '.' :: "js".toList) := by
        simpa [Registry.uboMark] using h
      rw [Text.infix_append_cons_iff hmask.dash, Text.infix_append_cons_iff hmask.dot] at hseams
      rcases hseams with hmark | hplain | hjs
      · exact absurd (hmark.subset hmask.hash) (by decide)
      · exact ⟨parsed.name, List.mem_cons_self, infix_of_infix_plainName hplain⟩
      · exact absurd (hjs.subset hmask.hash) (by decide)
    · obtain ⟨source, hsource, hoccurs⟩ := infix_of_mem_adgArgs hmask harg h
      exact ⟨source, List.mem_cons_of_mem _ hsource, hoccurs⟩

end Masks

theorem stripQuotes_marked (name : Text) :
    Text.stripQuotes (Registry.uboMark ++ name ++ ".js".toList) =
      Registry.uboMark ++ name ++ ".js".toList :=
  Text.stripQuotes_of_head (by decide) _

theorem isQuotable_marked (name : Text) :
    Text.isQuotable (Registry.uboMark ++ name ++ ".js".toList) = true := by
  rw [Text.isQuotable, stripQuotes_marked]
  simp

/-- The AdGuard form of a rule without AdGuard masks is read back, if it can be quoted. -/
theorem adgReadable_adgForm (hparsed : ScriptletRule.parseUbo rule = .ok parsed)
    (hmask : ∀ isException, ¬ Mask.adg isException <:+: rule)
    (hquotable : parsed.name ≠ [] → ∀ arg ∈ (adgForm parsed).args, Text.isQuotable arg = true) :
    (adgForm parsed).AdgReadable := by
  have hdomains : ∀ isException, ¬ Mask.adg isException <:+: (adgForm parsed).domains := by
    intro isException hoccurs
    rw [adgForm_domains] at hoccurs
    exact hmask isException (hoccurs.trans (ScriptletRule.prefix_of_parseUbo hparsed).isInfix)
  have helements : ∀ element ∈ (adgForm parsed).name :: (adgForm parsed).args,
      ¬ Mask.adg true <:+: element := by
    intro element helement hoccurs
    obtain ⟨source, hsource, hin⟩ :=
      infix_of_infix_adgForm (Mask.isAtomic_adg true) helement hoccurs
    exact hmask true (ScriptletRule.infix_of_parseUbo (by decide) hparsed hsource hin)
  have hnormal := ScriptletRule.not_infix_toAdg (hdomains true) helements
  by_cases hname : parsed.name = []
  · obtain ⟨hexception, hargs⟩ := ScriptletRule.named_of_parseUbo hparsed hname
    rw [adgForm_of_nil hname] at hdomains hnormal ⊢
    refine ⟨hdomains, hnormal, ?_, fun _ => ⟨hexception, hargs⟩⟩
    rw [hname, hargs]
    decide
  · refine ⟨hdomains, hnormal, ?_, ?_⟩
    · intro element helement
      rcases List.mem_cons.1 helement with rfl | harg
      · rw [adgForm_name hname]
        exact isQuotable_marked _
      · exact hquotable hname element harg
    · intro hbare
      rw [adgForm_name hname, Text.bare_eq_nil_iff, stripQuotes_marked] at hbare
      simp at hbare

/-- A converted rule has no Adblock Plus mask: a uBlock Origin rule with one would have been
taken for a rule of two dialects. -/
theorem isAbpSnippet_toAdg (hkind : classify registry rule = .scriptlet .ubo)
    (hparsed : ScriptletRule.parseUbo rule = .ok parsed) :
    Mask.isAbpSnippet (adgForm parsed).toAdg = false := by
  rw [← Bool.not_eq_true, Mask.isAbpSnippet_iff]
  rintro ⟨-, ⟨isException, hoccurs⟩, -⟩
  have hmask := Mask.isAtomic_abp isException
  have hnone := not_infix_abp_of_classify hkind (by simp)
    (ScriptletRule.getLast?_of_parseUbo hparsed) isException
  cases ScriptletRule.infix_of_infix_assemble hmask.clear hoccurs with
  | inl hbefore =>
    rw [adgForm_domains] at hbefore
    have hstart := ScriptletRule.prefix_hash_of_parseUbo hparsed
    exact hnone ((Mask.infix_abp_append_adg hbefore).trans hstart.isInfix)
  | inr hlist =>
    obtain ⟨element, helement, hin⟩ :=
      ScriptletRule.infix_of_infix_adgList hmask.clear hmask.ne_nil hlist
    obtain ⟨source, hsource, hin⟩ := infix_of_infix_adgForm hmask helement hin
    have hcomma : ',' ∉ Mask.abp isException := hmask.clear ',' (by decide)
    exact hnone (ScriptletRule.infix_of_parseUbo hcomma hparsed hsource hin)

/-- A converted rule reads as an AdGuard rule for the same domains. Its elements are the plain
name under the mark of uBlock Origin and the arguments as AdGuard spells them, requoted, unless
the rule is an exception for all scriptlets and has none. -/
theorem parseAdg_of_uboScriptletToAdg {out : Text}
    (hkind : classify registry rule = .scriptlet .ubo)
    (hout : uboScriptletToAdg options rule = .ok out) :
    ∃ parsed result,
      ScriptletRule.parseUbo rule = .ok parsed ∧ ScriptletRule.parseAdg out = .ok result ∧
        result.domains = parsed.domains ∧ result.isException = parsed.isException ∧
          (parsed.name = [] ∧ result.name = [] ∧ result.args = [] ∨
            ∃ plain spelled, parsed.name ≠ [] ∧ IsPlainName parsed.name plain ∧
              IsAdgArgs plain parsed.args spelled ∧
              result.name = Text.requote ("ubo-".toList ++ plain ++ ".js".toList) ∧
              result.args = spelled.map Text.requote) := by
  obtain ⟨parsed, hparsed, rfl, hquotable⟩ :=
    exists_of_uboScriptletToAdg (isComment_of_classify_scriptlet hkind) hout
  have hread := ScriptletRule.parseAdg_toAdg
    (adgReadable_adgForm hparsed (not_infix_adg_of_classify hkind (by simp)) hquotable)
  refine ⟨parsed, _, hparsed, hread, adgForm_domains parsed, adgForm_isException parsed, ?_⟩
  by_cases hname : parsed.name = []
  · obtain ⟨-, hargs⟩ := ScriptletRule.named_of_parseUbo hparsed hname
    left
    rw [adgForm_of_nil hname]
    simp [hname, hargs]
  · right
    refine ⟨plainName parsed.name, _, hname, isPlainName_plainName _, isAdgArgs_iff.2 rfl, ?_, ?_⟩
    · rw [adgForm_name hname]
      exact Text.bare_eq_requote _
    · rw [adgForm_args hname]
      exact List.map_congr_left fun arg _ => Text.bare_eq_requote arg

/-- Quotes inside of an argument become double quotes, and the selector that a comma has
split is one argument again. A lone `$` is doubled, with quotes around it it is not, and the
name loses its quotes and its extension. -/
theorem parseAdg_of_uboScriptletToAdg_selector :
    (classify .empty "example.org##+js(ra, it's \\'on\\', .a, .b, asap)".toList =
        .scriptlet .ubo ∧
      uboScriptletToAdg { checkSelectors := false }
          "example.org##+js(ra, it's \\'on\\', .a, .b, asap)".toList =
        .ok "example.org#%#//scriptlet('ubo-ra.js', 'it\"s \"on\"', '.a, .b', 'asap')".toList ∧
      ∃ result,
        ScriptletRule.parseAdg
            "example.org#%#//scriptlet('ubo-ra.js', 'it\"s \"on\"', '.a, .b', 'asap')".toList =
          .ok result ∧
        result.name = "ubo-ra.js".toList ∧
          result.args = ["it\"s \"on\"".toList, ".a, .b".toList, "asap".toList]) ∧
    (classify .empty "a.org##+js('set.js', $, \"$\", $x)".toList = .scriptlet .ubo ∧
      uboScriptletToAdg {} "a.org##+js('set.js', $, \"$\", $x)".toList =
        .ok "a.org#%#//scriptlet('ubo-set.js', '$$', '$', '$x')".toList ∧
      ∃ result,
        ScriptletRule.parseAdg "a.org#%#//scriptlet('ubo-set.js', '$$', '$', '$x')".toList =
          .ok result ∧
        result.name = "ubo-set.js".toList ∧
          result.args = ["$$".toList, "$".toList, "$x".toList]) := by
  have hread {options : Options} {rule out : Text} {parsed : ScriptletRule}
      (hkind : classify .empty rule = .scriptlet .ubo)
      (hout : uboScriptletToAdg options rule = .ok out)
      (hparsed : ScriptletRule.parseUbo rule = .ok parsed) (hname : parsed.name ≠ []) :
      ∃ result, ScriptletRule.parseAdg out = .ok result ∧
        result.name = Text.requote ("ubo-".toList ++ plainName parsed.name ++ ".js".toList) ∧
        result.args = (adgArgs (plainName parsed.name) parsed.args).map Text.requote := by
    obtain ⟨parsed', result, hparsed', hresult, -, -, hcases⟩ :=
      parseAdg_of_uboScriptletToAdg hkind hout
    obtain rfl := Except.ok.inj (hparsed.symm.trans hparsed')
    rcases hcases with ⟨hnone, -⟩ | ⟨plain, spelled, -, hplain, hspelled, hresults⟩
    · exact absurd hnone hname
    · obtain rfl := isPlainName_iff.1 hplain
      obtain rfl := isAdgArgs_iff.1 hspelled
      exact ⟨result, hresult, hresults⟩
  constructor
  · have hkind : classify .empty "example.org##+js(ra, it's \\'on\\', .a, .b, asap)".toList =
        .scriptlet .ubo := rfl
    have hout : uboScriptletToAdg { checkSelectors := false }
        "example.org##+js(ra, it's \\'on\\', .a, .b, asap)".toList =
          .ok "example.org#%#//scriptlet('ubo-ra.js', 'it\"s \"on\"', '.a, .b', 'asap')".toList :=
      rfl
    have hparsed : ScriptletRule.parseUbo
        "example.org##+js(ra, it's \\'on\\', .a, .b, asap)".toList =
          .ok ⟨"example.org".toList, false, "ra".toList,
            ["it's \\'on\\'".toList, ".a".toList, ".b".toList, "asap".toList]⟩ := rfl
    obtain ⟨result, hresult, hname, hargs⟩ := hread hkind hout hparsed (List.cons_ne_nil _ _)
    exact ⟨hkind, hout, result, hresult, hname.trans (by decide), hargs.trans (by decide)⟩
  · have hkind : classify .empty "a.org##+js('set.js', $, \"$\", $x)".toList =
        .scriptlet .ubo := rfl
    have hout : uboScriptletToAdg {} "a.org##+js('set.js', $, \"$\", $x)".toList =
        .ok "a.org#%#//scriptlet('ubo-set.js', '$$', '$', '$x')".toList := rfl
    have hparsed : ScriptletRule.parseUbo "a.org##+js('set.js', $, \"$\", $x)".toList =
        .ok ⟨"a.org".toList, false, "'set.js'".toList,
          ["$".toList, "\"$\"".toList, "$x".toList]⟩ := rfl
    obtain ⟨result, hresult, hname, hargs⟩ := hread hkind hout hparsed (List.cons_ne_nil _ _)
    exact ⟨hkind, hout, result, hresult, hname.trans (by decide), hargs.trans (by decide)⟩

end FilterDialects.FromUbo
