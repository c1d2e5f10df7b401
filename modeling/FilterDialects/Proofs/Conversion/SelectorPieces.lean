import FilterDialects.Proofs.Conversion.FromUbo

/-!
# Selectors in pieces

A selector with commas stands in a uBlock Origin rule either as one argument whose commas
are escaped, or with bare commas, which spread it over several arguments. Both spellings
are converted alike, to the same rule or with the same fault: the selector that is put
together from the pieces is the argument that the escaped spelling is read as, and neither
is taken for the argument that says when the scriptlet applies.
-/

namespace FilterDialects.FromUbo

open ScriptletRule (assemble joinElements)

/-- An element that is read as it is written when it stands bare in a list. -/
structure IsBare (element : Text) : Prop where
  ne_nil : element ≠ []
  trimmed : Text.trim element = element
  whole : ',' ∉ element
  ends : element.getLast? ≠ some '\\'

def selectorNames : List Text :=
  ["remove-attr".toList, "remove-attr.js".toList, "ra".toList, "ra.js".toList,
   "remove-class".toList, "remove-class.js".toList, "rc".toList, "rc.js".toList]

/-- What the argument list of a scriptlet that takes a selector consists of. -/
structure SelectorCall where
  name : Text
  first : Text
  /-- The parts of the selector between its commas. -/
  pieces : List Text
  /-- When the scriptlet applies, if that is said. -/
  applying : Option Text

namespace SelectorCall

/-- The elements with the pieces as arguments of their own. -/
def spread (call : SelectorCall) : List Text :=
  call.name :: call.first :: (call.pieces ++ call.applying.toList)

/-- The elements with the pieces in one argument, joined by escaped commas. -/
def escaped (call : SelectorCall) : List Text :=
  call.name :: call.first :: "\\, ".toList.intercalate call.pieces :: call.applying.toList

/-- What the two spellings take to mean the same. -/
structure IsPlain (call : SelectorCall) : Prop where
  name : call.name ∈ selectorNames
  bare : ∀ element ∈ call.first :: (call.pieces ++ call.applying.toList), IsBare element
  pieces_ne_nil : call.pieces ≠ []
  /-- A piece that is a lone `$` would be doubled. -/
  not_dollar : ∀ piece ∈ call.pieces, piece ≠ ['$']
  applies : ∀ word ∈ call.applying, SaysWhen word
  /-- Without a last argument that says so, the last piece must not be taken for it. -/
  last : call.applying = none → ∀ piece ∈ call.pieces.getLast?, ¬ SaysWhen piece

def selector (call : SelectorCall) : Text :=
  ", ".toList.intercalate call.pieces

end SelectorCall

variable {options : Options} {call : SelectorCall} {t : Text}

section Applying

theorem SaysWhen.comma_notMem (h : SaysWhen t) : ',' ∉ t := by
  intro hcomma
  obtain ⟨word, hword, hin⟩ := Text.exists_mem_words hcomma (by decide)
  have hplain : ∀ word ∈ ["asap".toList, "stay".toList, "complete".toList], ',' ∉ word := by
    decide
  exact hplain word (h.2 word hword) hin

theorem SaysWhen.ne_dollar (h : SaysWhen t) : t ≠ ['$'] := by
  rintro rfl
  exact absurd h (by decide)

theorem map_doubleDollar {args : List Text} (h : ∀ arg ∈ args, arg ≠ ['$']) :
    args.map doubleDollar = args :=
  (List.map_congr_left fun arg harg => if_neg (h arg harg)).trans (List.map_id args)

end Applying

section Selector

namespace SelectorCall

theorem IsPlain.isBare (h : call.IsPlain) : ∀ piece ∈ call.pieces, IsBare piece :=
  fun piece hmem => h.bare piece (List.mem_cons_of_mem _ (List.mem_append_left _ hmem))

theorem IsPlain.isBare_first (h : call.IsPlain) : IsBare call.first :=
  h.bare call.first List.mem_cons_self

theorem IsPlain.isBare_applying (h : call.IsPlain) : ∀ word ∈ call.applying.toList, IsBare word :=
  fun word hmem => h.bare word (List.mem_cons_of_mem _ (List.mem_append_right _ hmem))

/-- A selector either is a piece of its own or shows by a comma that it is not. -/
theorem pieces_eq_or_comma_mem (hne : call.pieces ≠ []) :
    call.pieces = [call.selector] ∨ ',' ∈ call.selector := by
  unfold selector
  match hpieces : call.pieces with
  | [] => exact absurd hpieces hne
  | [piece] => simp [List.intercalate]
  | first :: second :: others =>
    right
    rw [Text.intercalate_cons_cons]
    simp

theorem IsPlain.selector_ne_dollar (h : call.IsPlain) : call.selector ≠ ['$'] := by
  intro heq
  cases pieces_eq_or_comma_mem h.pieces_ne_nil with
  | inl hwhole => exact h.not_dollar call.selector (by simp [hwhole]) heq
  | inr hcomma => simp [heq] at hcomma

theorem IsPlain.not_saysWhen_selector (h : call.IsPlain) (hnone : call.applying = none) :
    ¬ SaysWhen call.selector := by
  cases pieces_eq_or_comma_mem h.pieces_ne_nil with
  | inl hwhole => exact h.last hnone call.selector (by simp [hwhole])
  | inr hcomma => exact fun hwhen => hwhen.comma_notMem hcomma

theorem IsPlain.trim_selector (h : call.IsPlain) : Text.trim call.selector = call.selector :=
  Text.trim_intercalate _ fun piece hmem =>
    ⟨(h.isBare piece hmem).trimmed, (h.isBare piece hmem).ne_nil⟩

theorem IsPlain.getLast?_selector (h : call.IsPlain) : call.selector.getLast? ≠ some '\\' := by
  have hlast := List.getLast?_eq_some_getLast h.pieces_ne_nil
  have hbare := h.isBare _ (List.getLast_mem h.pieces_ne_nil)
  rw [selector, Text.getLast?_intercalate _ hlast hbare.ne_nil]
  exact hbare.ends

theorem IsPlain.escapeDelimiter_selector (h : call.IsPlain) :
    Text.escapeDelimiter ',' call.selector = "\\, ".toList.intercalate call.pieces :=
  Text.escapeDelimiter_intercalate (by decide) fun piece hmem => (h.isBare piece hmem).whole

end SelectorCall

end Selector

section Reading

theorem takesSelector_of_mem_selectorNames {name : Text} (h : name ∈ selectorNames) :
    TakesSelector (plainName name) := by
  have hall : ∀ name ∈ selectorNames, TakesSelector (plainName name) := by decide
  exact hall name h

theorem isBare_of_mem_selectorNames {name : Text} (h : name ∈ selectorNames) : IsBare name := by
  have hall : ∀ name ∈ selectorNames,
      name ≠ [] ∧ Text.trim name = name ∧ ',' ∉ name ∧ name.getLast? ≠ some '\\' := by decide
  obtain ⟨hne, htrimmed, hwhole, hends⟩ := hall name h
  exact ⟨hne, htrimmed, hwhole, hends⟩

variable {domains mask : Text} {isException : Bool}

theorem map_escapeDelimiter {elements : List Text} (h : ∀ element ∈ elements, ',' ∉ element) :
    elements.map (Text.escapeDelimiter ',') = elements :=
  (List.map_congr_left fun element hmem => Text.escapeDelimiter_of_notMem (h element hmem)).trans
    (List.map_id elements)

/-- A list is read as the rule whose elements it writes, if these are trimmed. -/
theorem parseUbo_of_elements (hdomains : Mask.cutUbo? domains = none)
    (hmask : Mask.IsMaskOf .ubo isException mask) {name : Text} (hname : IsBare name)
    {args : List Text} (hargs : ∀ arg ∈ args, Text.trim arg = arg ∧ arg.getLast? ≠ some '\\') :
    ScriptletRule.parseUbo (assemble domains mask
        (joinElements (name :: args.map (Text.escapeDelimiter ',')))) =
      .ok ⟨domains, isException, name, args⟩ := by
  have hread : ScriptletRule.UboReadable ⟨domains, isException, name, args⟩ := by
    refine ⟨hdomains, hname.ne_nil, hname.whole, hname.trimmed, ?_⟩
    intro element hmem
    rcases List.mem_cons.1 (List.mem_of_mem_dropLast hmem) with rfl | harg
    · exact hname.ends
    · exact (hargs element harg).2
  have htrimmed : args.map Text.trim = args :=
    (List.map_congr_left fun arg harg => (hargs arg harg).1).trans (List.map_id args)
  have hlist := ScriptletRule.parseUbo_assemble_uboList hread hmask
  rw [ScriptletRule.uboList, if_neg hname.ne_nil, htrimmed] at hlist
  exact hlist

namespace SelectorCall

theorem IsPlain.parseUbo_spread (h : call.IsPlain) (hdomains : Mask.cutUbo? domains = none)
    (hmask : Mask.IsMaskOf .ubo isException mask) :
    ScriptletRule.parseUbo (assemble domains mask (joinElements call.spread)) =
      .ok ⟨domains, isException, call.name,
        call.first :: (call.pieces ++ call.applying.toList)⟩ := by
  have hread := parseUbo_of_elements hdomains hmask (isBare_of_mem_selectorNames h.name)
    fun arg harg => ⟨(h.bare arg harg).trimmed, (h.bare arg harg).ends⟩
  have hplain : (call.first :: (call.pieces ++ call.applying.toList)).map
      (Text.escapeDelimiter ',') = call.first :: (call.pieces ++ call.applying.toList) :=
    map_escapeDelimiter fun element hmem => (h.bare element hmem).whole
  rw [hplain] at hread
  exact hread

theorem IsPlain.parseUbo_escaped (h : call.IsPlain) (hdomains : Mask.cutUbo? domains = none)
    (hmask : Mask.IsMaskOf .ubo isException mask) :
    ScriptletRule.parseUbo (assemble domains mask (joinElements call.escaped)) =
      .ok ⟨domains, isException, call.name,
        call.first :: call.selector :: call.applying.toList⟩ := by
  have hargs : ∀ arg ∈ call.first :: call.selector :: call.applying.toList,
      Text.trim arg = arg ∧ arg.getLast? ≠ some '\\' := by
    intro arg harg
    rcases List.mem_cons.1 harg with rfl | harg
    · exact ⟨h.isBare_first.trimmed, h.isBare_first.ends⟩
    rcases List.mem_cons.1 harg with rfl | harg
    · exact ⟨h.trim_selector, h.getLast?_selector⟩
    · exact ⟨(h.isBare_applying arg harg).trimmed, (h.isBare_applying arg harg).ends⟩
  have hread := parseUbo_of_elements hdomains hmask (isBare_of_mem_selectorNames h.name) hargs
  rw [List.map_cons, List.map_cons, h.escapeDelimiter_selector,
    Text.escapeDelimiter_of_notMem h.isBare_first.whole,
    map_escapeDelimiter fun word hword => (h.isBare_applying word hword).whole] at hread
  exact hread

end SelectorCall

end Reading

section Conversion

/-- Pieces that are joined are checked together. -/
theorem convertArgs_of_pieces {name first : Text} {pieces : List Text} {applying : Option Text}
    (hname : TakesSelector name) (hne : pieces ≠ []) (hdollar : ∀ piece ∈ pieces, piece ≠ ['$'])
    (happlies : ∀ word ∈ applying, SaysWhen word)
    (hlast : applying = none → ∀ piece ∈ pieces.getLast?, ¬ SaysWhen piece) :
    convertArgs options name (first :: (pieces ++ applying.toList)) =
      if options.checkSelectors && !Selector.isValid (", ".toList.intercalate pieces) then
        .error (.invalidSelector (", ".toList.intercalate pieces))
      else .ok (doubleDollar first :: ", ".toList.intercalate pieces :: applying.toList) := by
  have hword : applying.toList.map doubleDollar = applying.toList :=
    map_doubleDollar fun word hmem => (happlies word (by simpa using hmem)).ne_dollar
  have hsplit : IsSelectorSplit (doubleDollar first :: (pieces ++ applying.toList))
      (doubleDollar first) pieces applying := ⟨rfl, happlies, hlast⟩
  have hselector : (selectorScriptlets.contains name &&
      decide (1 < (doubleDollar first :: (pieces ++ applying.toList)).length)) = true := by
    rw [Bool.and_eq_true, List.contains_iff_mem, decide_eq_true_iff]
    exact ⟨takesSelector_iff.1 hname, hsplit.one_lt_length hne⟩
  rw [convertArgs, List.map_cons, List.map_append, map_doubleDollar hdollar, hword,
    if_pos hselector, hsplit.joinSelector_eq hne]

/-- A rule is converted as its pieces are put together, in either spelling. -/
theorem SelectorCall.IsPlain.convertArgs_pieces (h : call.IsPlain) :
    convertArgs options (plainName call.name)
        (call.first :: (call.pieces ++ call.applying.toList)) =
      convertArgs options (plainName call.name)
        (call.first :: call.selector :: call.applying.toList) := by
  have hname := takesSelector_of_mem_selectorNames h.name
  have hglued := @convertArgs_of_pieces options _ call.first [call.selector] call.applying hname
    (by simp) (by simpa using h.selector_ne_dollar) h.applies
    (by simpa using h.not_saysWhen_selector)
  rw [convertArgs_of_pieces hname h.pieces_ne_nil h.not_dollar h.applies h.last]
  simpa [SelectorCall.selector, List.intercalate] using hglued.symm

end Conversion

variable {domains mask : Text} {isException : Bool}

/-- A selector in pieces is converted as the selector with escaped commas is: to the same rule,
or with the same fault. -/
theorem uboScriptletToAdg_spread (options : Options)
    (hcomment : Mask.isComment domains = false)
    (hdomains : ∀ isException mask, Mask.IsMaskOf .ubo isException mask → ¬ mask <:+: domains)
    (hmask : Mask.IsMaskOf .ubo isException mask) (hcall : call.IsPlain) :
    uboScriptletToAdg options (assemble domains mask (joinElements call.spread)) =
      uboScriptletToAdg options (assemble domains mask (joinElements call.escaped)) := by
  have hcut := Mask.cutUbo?_eq_none hdomains
  have hplain (list : Text) : Mask.isComment (assemble domains mask list) = false := by
    obtain ⟨c, rest, rfl, -⟩ := Mask.second_of_isMaskOf hmask
    rw [ScriptletRule.assemble_eq]
    exact Mask.isComment_append List.prefix_rfl hcomment rfl
  have hconvert : convertRule options ⟨domains, isException, call.name,
        call.first :: (call.pieces ++ call.applying.toList)⟩ =
      convertRule options ⟨domains, isException, call.name,
        call.first :: call.selector :: call.applying.toList⟩ := by
    have hname := (isBare_of_mem_selectorNames hcall.name).ne_nil
    rw [convertRule, convertRule, if_neg hname, if_neg hname]
    simp only [hcall.convertArgs_pieces]
  simp only [uboScriptletToAdg, hplain, hcall.parseUbo_spread hcut hmask,
    hcall.parseUbo_escaped hcut hmask, Except.bind, hconvert, Bool.false_eq_true, if_false]

/-- The two spellings of a selector of two pieces, whether or not selectors are checked. -/
theorem uboScriptletToAdg_spread_asap :
    (∀ options, uboScriptletToAdg options "a.org##+js(ra, on, .a, [b], asap)".toList =
      uboScriptletToAdg options "a.org##+js(ra, on, .a\\, [b], asap)".toList) ∧
    uboScriptletToAdg { checkSelectors := false } "a.org##+js(ra, on, .a, [b], asap)".toList =
      .ok "a.org#%#//scriptlet('ubo-ra.js', 'on', '.a, [b]', 'asap')".toList := by
  let call : SelectorCall :=
    ⟨"ra".toList, "on".toList, [".a".toList, "[b]".toList], some "asap".toList⟩
  have hbare : ∀ element ∈ call.first :: (call.pieces ++ call.applying.toList),
      element ≠ [] ∧ Text.trim element = element ∧ ',' ∉ element ∧
        element.getLast? ≠ some '\\' := by decide
  have hcall : call.IsPlain := by
    refine ⟨by decide, ?_, by decide, by decide, ?_, by decide⟩
    · intro element hmem
      obtain ⟨hne, htrimmed, hwhole, hends⟩ := hbare element hmem
      exact ⟨hne, htrimmed, hwhole, hends⟩
    · rintro word ⟨⟩
      decide
  have hspread : assemble "a.org".toList (Mask.ubo false) (joinElements call.spread) =
      "a.org##+js(ra, on, .a, [b], asap)".toList := by decide +kernel
  have hescaped : assemble "a.org".toList (Mask.ubo false) (joinElements call.escaped) =
      "a.org##+js(ra, on, .a\\, [b], asap)".toList := by decide +kernel
  refine ⟨fun options => ?_, rfl⟩
  rw [← hspread, ← hescaped]
  exact uboScriptletToAdg_spread options rfl
    (fun _ _ => Mask.not_infix_of_hash_notMem (by decide))
    ⟨_, Mask.isUboWord_js, Mask.ubo_eq_opening false⟩ hcall

end FilterDialects.FromUbo
