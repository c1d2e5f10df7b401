import FilterDialects.Scriptlet.Mask
import FilterDialects.Text.Quote
import FilterDialects.Proofs.Text.Blank
import FilterDialects.Proofs.Text.Search

/-!
# Where a rule is cut

A rule that is put together from domains, a mask and a body is cut around that mask again
when the domains hold none. This is so because no mask can begin in the domains and end
behind them: the normal and the exception form of a mask do not overlap, and neither do
they overlap themselves.

The masks have none of the characters that argument lists are put together with, hence a
mask in an argument list stands in one of its elements. Nor do conversions put a mask
together: they bring in no `#`, and next to an element only what no mask has.
-/

namespace FilterDialects.Mask

variable {domains body rule t : Text} {isException : Bool}

/-- The characters that argument lists are put together with. -/
def listCharacters : List Char := ['(', ')', ',', ' ', '\'', '"', '\\']

/-- Whether a mask has none of the characters of argument lists. -/
def IsClear (mask : Text) : Prop :=
  ∀ c ∈ listCharacters, c ∉ mask

theorem isClear_adg (isException : Bool) : IsClear (adg isException) := by
  cases isException <;> simp [IsClear, listCharacters, adg]

theorem isClear_abp (isException : Bool) : IsClear (abp isException) := by
  cases isException <;> simp [IsClear, listCharacters, abp]

theorem IsClear.isQuote_eq_false {mask : Text} (h : IsClear mask) {c : Char} (hc : c ∈ mask) :
    Text.isQuote c = false := by
  have hsingle : c ≠ '\'' := fun heq => h '\'' (by decide) (heq ▸ hc)
  have hdouble : c ≠ '"' := fun heq => h '"' (by decide) (heq ▸ hc)
  simp [Text.isQuote, hsingle, hdouble]

/-- A mask that no conversion puts together: what conversions bring in has no `#`, and the
mask has none of the characters that are brought in next to an element of the rule. -/
structure IsAtomic (mask : Text) : Prop where
  clear : IsClear mask
  hash : '#' ∈ mask
  dash : '-' ∉ mask
  dot : '.' ∉ mask

theorem isAtomic_adg (isException : Bool) : IsAtomic (adg isException) := by
  refine ⟨isClear_adg isException, ?_, ?_, ?_⟩ <;> cases isException <;> decide

theorem isAtomic_abp (isException : Bool) : IsAtomic (abp isException) := by
  refine ⟨isClear_abp isException, ?_, ?_, ?_⟩ <;> cases isException <;> decide

theorem IsAtomic.ne_nil {mask : Text} (h : IsAtomic mask) : mask ≠ [] :=
  List.ne_nil_of_mem h.hash

/-- The two plain spellings of the mask of a uBlock Origin rule. -/
def uboPlain (isException : Bool) : List Text :=
  [ubo isException, uboInject isException]

theorem mem_uboPlain {mask : Text} :
    mask ∈ uboPlain isException ↔ mask = ubo isException ∨ mask = uboInject isException :=
  List.mem_pair

theorem isAtomic_of_mem_uboPlain {mask : Text} (h : mask ∈ uboPlain isException) :
    IsAtomic mask := by
  have hclear : ∀ mask ∈ uboPlain isException, IsClear mask := by
    cases isException <;> simp [IsClear, listCharacters, uboPlain, ubo, uboInject]
  have hplain : ∀ mask ∈ uboPlain isException, '#' ∈ mask ∧ '-' ∉ mask ∧ '.' ∉ mask := by
    cases isException <;> decide
  obtain ⟨hhash, hdash, hdot⟩ := hplain mask h
  exact ⟨hclear mask h, hhash, hdash, hdot⟩

theorem append_of_cut? {mask : Bool → Text} {cut : Cut} (h : cut? mask rule = some cut) :
    cut.domains ++ (mask cut.isException ++ cut.body) = rule := by
  unfold cut? at h
  split at h
  · next domains body hcut =>
    cases h
    simpa using Text.append_of_cutMask? hcut
  · obtain ⟨⟨domains, body⟩, hcut, rfl⟩ := Option.map_eq_some_iff.1 h
    simpa using Text.append_of_cutMask? hcut

/-- A rule is cut around the AdGuard mask behind its domains, unless the mask has the
normal form and the exception form occurs somewhere else. -/
theorem cut?_adg_append (hdomains : ∀ isException, ¬ adg isException <:+: domains)
    (hother : isException = false → ¬ adg true <:+: domains ++ (adg isException ++ body)) :
    cut? adg (domains ++ (adg isException ++ body)) = some ⟨domains, isException, body⟩ := by
  cases isException with
  | true =>
    have hcut := Text.cutMask?_append (by decide) (hdomains true) body
    rw [cut?, hcut]
  | false =>
    have hnone := Text.cutMask?_eq_none_iff.2 (hother rfl)
    have hcut := Text.cutMask?_append (by decide) (hdomains false) body
    rw [cut?, hnone]
    simp only [hcut, Option.map_some]

/-- The exception mask of Adblock Plus is not made of its normal mask and texts without `#`. -/
theorem not_infix_abp_append (hdomains : '#' ∉ domains) (hbody : '#' ∉ body) :
    ¬ abp true <:+: domains ++ (abp false ++ body) := by
  rintro ⟨before, after, heq⟩
  have hplaces : before ++ '#' :: ("@$#".toList ++ after) =
      domains ++ '#' :: ("$#".toList ++ body) := by
    rw [List.append_assoc] at heq
    exact heq
  rcases Text.append_cons_cases hplaces with ⟨mid, rfl, -⟩ | ⟨-, -, htail⟩ | ⟨mid, -, htail⟩
  · simp at hdomains
  · exact absurd (List.cons.inj htail).1 (by decide)
  · have hcount := congrArg (List.count '#') htail
    simp [List.count_eq_zero.2 hbody] at hcount
    omega

/-- A rule is cut around the Adblock Plus mask that stands between texts without `#`. -/
theorem cut?_abp_append (hdomains : '#' ∉ domains) (hbody : '#' ∉ body) (isException : Bool) :
    cut? abp (domains ++ (abp isException ++ body)) = some ⟨domains, isException, body⟩ := by
  have hcut : Text.cutMask? (abp isException) (domains ++ (abp isException ++ body)) =
      some (domains, body) := by
    apply Text.cut?_append (Text.isPrefixOf?_eq_some.2 rfl)
    intro s hs hne
    obtain ⟨c, s, rfl⟩ := List.exists_cons_of_ne_nil hne
    have hc : '#' ≠ c := by
      rintro rfl
      exact hdomains (hs.subset List.mem_cons_self)
    rw [Text.isPrefixOf?_eq_none_iff]
    cases isException <;> simp [abp, List.cons_prefix_cons, hc]
  cases isException with
  | true => rw [cut?, hcut]
  | false =>
    rw [cut?, Text.cutMask?_eq_none_iff.2 (not_infix_abp_append hdomains hbody), hcut]
    rfl

def startsAdg (t : Text) : Bool :=
  (adg true).isPrefixOf t || (adg false).isPrefixOf t

/-- The number of places where an AdGuard mask begins. -/
def countAdg (t : Text) : Nat :=
  t.tails.countP startsAdg

theorem countAdg_cons (c : Char) (t : Text) :
    countAdg (c :: t) = countAdg t + if startsAdg (c :: t) then 1 else 0 := by
  simp [countAdg, List.countP_cons]

theorem startsAdg_append (h : startsAdg t = true) (after : Text) :
    startsAdg (t ++ after) = true := by
  simp only [startsAdg, Bool.or_eq_true, List.isPrefixOf_iff_prefix] at h ⊢
  exact h.imp (·.trans (List.prefix_append t after)) (·.trans (List.prefix_append t after))

/-- A text has the masks of its parts, and those that reach across the seam. -/
theorem add_countAdg_le (before t : Text) :
    countAdg before + countAdg t ≤ countAdg (before ++ t) := by
  induction before with
  | nil =>
    have hnil : countAdg [] = 0 := by decide
    rw [hnil, List.nil_append, Nat.zero_add]
  | cons c before ih =>
    rw [List.cons_append, countAdg_cons, countAdg_cons, ← List.cons_append]
    by_cases hstarts : startsAdg (c :: before) = true
    · rw [if_pos hstarts, if_pos (startsAdg_append hstarts t)]
      omega
    · rw [if_neg hstarts]
      omega

theorem countAdg_adg (isException : Bool) : countAdg (adg isException) = 1 := by
  cases isException <;> decide

theorem countAdg_pos (h : adg isException <:+: t) : 0 < countAdg t := by
  obtain ⟨before, after, rfl⟩ := h
  have hfirst := add_countAdg_le (before ++ adg isException) after
  have hsecond := add_countAdg_le before (adg isException)
  rw [countAdg_adg] at hsecond
  omega

/-- A rule with a single AdGuard mask has none before it and none behind it. -/
theorem not_infix_of_countAdg (h : countAdg (domains ++ (adg isException ++ body)) = 1)
    (other : Bool) : ¬ adg other <:+: domains ∧ ¬ adg other <:+: body := by
  have hfirst := add_countAdg_le domains (adg isException ++ body)
  have hsecond := add_countAdg_le (adg isException) body
  rw [countAdg_adg] at hsecond
  constructor
  · intro hoccurs
    have hpos := countAdg_pos hoccurs
    omega
  · intro hoccurs
    have hpos := countAdg_pos hoccurs
    omega

theorem isComment_append {own : Text} (hpre : domains <+: rule)
    (hrule : isComment rule = false) (hown : isComment own = false) :
    isComment (domains ++ own) = false := by
  obtain ⟨rest, rfl⟩ := hpre
  cases domains with
  | nil => exact hown
  | cons c domains => exact hrule

theorem isAdgScriptlet_iff :
    isAdgScriptlet rule = true ↔
      isComment rule = false ∧ ∃ isException, adg isException <:+: rule := by
  simp [isAdgScriptlet, Text.containsMask_iff, Bool.exists_bool]

theorem isAbpSnippet_iff :
    isAbpSnippet rule = true ↔
      isComment rule = false ∧ (∃ isException, abp isException <:+: rule) ∧
        isStyleRule rule = false := by
  simp [isAbpSnippet, Text.containsMask_iff, Bool.exists_bool, and_assoc]

theorem isStyleRule_of_getLast? {c : Char} (h : (Text.trimEnd rule).getLast? = some c)
    (hc : c ≠ '}') : isStyleRule rule = false := by
  unfold isStyleRule
  split
  · next opened hopened =>
    rw [← Text.isSuffixOf?_eq_some.1 hopened] at h
    exact absurd (by simpa using h.symm) hc
  · rfl

/-- An Adblock Plus mask that ends in another mask takes one character of it. -/
theorem infix_abp_append {own : Text} (hown : ¬ abp isException <:+: own)
    (hends : ∀ r ∈ (abp isException).tail.tails, r ≠ [] → r <+: own → r = ['#'])
    (h : abp isException <:+: domains ++ own) : abp isException <:+: domains ++ ['#'] := by
  rcases List.infix_append_iff_ne_nil.1 h with hl | hr | ⟨l, r, hl, hr, heq, hsuffix, hpre⟩
  · exact hl.trans List.infix_append_left
  · exact absurd hr hown
  · have hmem : r ∈ (abp isException).tail.tails := by
      rw [List.mem_tails, heq, List.tail_append_of_ne_nil hl]
      exact List.suffix_append _ _
    obtain rfl := hends r hmem hr hpre
    obtain ⟨before, rfl⟩ := hsuffix
    rw [heq, List.append_assoc]
    exact (List.suffix_append before _).isInfix

theorem infix_abp_append_ubo {isException' : Bool}
    (h : abp isException <:+: domains ++ ubo isException') :
    abp isException <:+: domains ++ ['#'] := by
  apply infix_abp_append _ _ h <;> cases isException <;> cases isException' <;> decide

theorem infix_abp_append_adg {isException' : Bool}
    (h : abp isException <:+: domains ++ adg isException') :
    abp isException <:+: domains ++ ['#'] := by
  apply infix_abp_append _ _ h <;> cases isException <;> cases isException' <;> decide

/-- How a uBlock Origin mask begins. -/
def uboOpening (isException : Bool) : Text :=
  if isException then "#@#".toList else "##".toList

/-- How a uBlock Origin mask ends: with the older word, or with blanks and the newer one. -/
def IsUboWord (word : Text) : Prop :=
  word = "script:inject".toList ∨
    ∃ blanks, (∀ c ∈ blanks, Text.isBlank c = true) ∧ word = blanks ++ "+js".toList

theorem exists_word_of_readUboWord? (h : readUboWord? t = some body) :
    ∃ word, IsUboWord word ∧ word ++ body = t := by
  rcases Option.or_eq_some_iff.1 h with hinject | ⟨-, hjs⟩
  · exact ⟨_, .inl rfl, Text.isPrefixOf?_eq_some.1 hinject⟩
  · refine ⟨t.takeWhile Text.isBlank ++ "+js".toList, .inr ⟨_, ?_, rfl⟩, ?_⟩
    · exact fun c hc => List.mem_takeWhile_imp hc
    · rw [List.append_assoc, Text.isPrefixOf?_eq_some.1 hjs]
      exact List.takeWhile_append_dropWhile

/-- What is read as a uBlock Origin mask is an opening and a word. -/
theorem exists_word_of_readUbo? (h : readUbo? t = some (isException, body)) :
    ∃ word, IsUboWord word ∧ uboOpening isException ++ (word ++ body) = t := by
  unfold readUbo? at h
  split at h
  · next u =>
    obtain ⟨body', hread, heq⟩ := Option.map_eq_some_iff.1 h
    obtain ⟨rfl, rfl⟩ : true = isException ∧ body' = body := by simpa using heq
    obtain ⟨word, hword, rfl⟩ := exists_word_of_readUboWord? hread
    exact ⟨word, hword, rfl⟩
  · next u =>
    obtain ⟨body', hread, heq⟩ := Option.map_eq_some_iff.1 h
    obtain ⟨rfl, rfl⟩ : false = isException ∧ body' = body := by simpa using heq
    obtain ⟨word, hword, rfl⟩ := exists_word_of_readUboWord? hread
    exact ⟨word, hword, rfl⟩
  · simp at h

theorem append_of_cutUbo? {cut : Cut} (h : cutUbo? rule = some cut) :
    ∃ word, IsUboWord word ∧
      cut.domains ++ (uboOpening cut.isException ++ (word ++ cut.body)) = rule := by
  obtain ⟨⟨domains, isException, body⟩, hcut, rfl⟩ := Option.map_eq_some_iff.1 h
  obtain ⟨rest, rfl, hread, -⟩ := Text.exists_of_cut? hcut
  obtain ⟨word, hword, rfl⟩ := exists_word_of_readUbo? hread
  exact ⟨word, hword, rfl⟩

theorem exists_of_cutUbo? {cut : Cut} (h : cutUbo? rule = some cut) :
    ∃ mask, cut.domains ++ (mask ++ cut.body) = rule := by
  obtain ⟨word, -, rfl⟩ := append_of_cutUbo? h
  exact ⟨uboOpening cut.isException ++ word, by rw [List.append_assoc]⟩

theorem prefix_of_cutUbo? {cut : Cut} (h : cutUbo? rule = some cut) :
    cut.domains ++ ['#'] <+: rule := by
  obtain ⟨word, -, rfl⟩ := append_of_cutUbo? h
  rw [List.prefix_append_right_inj]
  cases cut.isException with
  | true => exact ⟨_, rfl⟩
  | false => exact ⟨_, rfl⟩

/-- A word that does not stand before a `#` does not stand across it either. -/
theorem readUboWord?_append (h : readUboWord? t = none) (after : Text) :
    readUboWord? (t ++ '#' :: after) = none := by
  obtain ⟨hinject, hjs⟩ := Option.or_eq_none_iff.1 h
  rw [Text.isPrefixOf?_eq_none_iff] at hinject hjs
  refine Option.or_eq_none_iff.2 ⟨?_, ?_⟩
  · rw [Text.isPrefixOf?_eq_none_iff, Text.prefix_append_cons_iff (by decide)]
    exact hinject
  · rw [Text.trimStart_append_cons (by decide), Text.isPrefixOf?_eq_none_iff,
      Text.prefix_append_cons_iff (by decide)]
    exact hjs

theorem readUboWord?_of_head {c : Char} (hinject : c ≠ 's') (hjs : c ≠ '+')
    (hblank : Text.isBlank c = false) (t : Text) : readUboWord? (c :: t) = none := by
  refine Option.or_eq_none_iff.2 ⟨?_, ?_⟩
  · rw [Text.isPrefixOf?_eq_none_iff]
    exact fun h => hinject (List.cons_prefix_cons.1 h).1.symm
  · rw [Text.trimStart_of_head hblank, Text.isPrefixOf?_eq_none_iff]
    exact fun h => hjs (List.cons_prefix_cons.1 h).1.symm

theorem readUboWord?_word {word : Text} (h : IsUboWord word) (body : Text) :
    readUboWord? (word ++ body) = some body := by
  rcases h with rfl | ⟨blanks, hblanks, rfl⟩
  · rfl
  · have hjs : "+js".toList.isPrefixOf? (Text.trimStart (blanks ++ "+js".toList ++ body)) =
        some body := by
      rw [List.append_assoc, Text.trimStart_append_of_blank hblanks]
      rfl
    have hinject : "script:inject".toList.isPrefixOf? (blanks ++ "+js".toList ++ body) = none := by
      rw [Text.isPrefixOf?_eq_none_iff]
      intro hpre
      cases blanks with
      | nil => exact absurd (List.cons_prefix_cons.1 hpre).1 (by decide)
      | cons c blanks =>
        obtain rfl := (List.cons_prefix_cons.1 hpre).1
        exact absurd (hblanks _ List.mem_cons_self) (by decide)
    rw [readUboWord?, hinject, hjs]
    rfl

/-- Every uBlock Origin mask is read as one, in any spelling. -/
theorem readUbo?_opening {word : Text} (h : IsUboWord word) (isException : Bool) (body : Text) :
    readUbo? (uboOpening isException ++ (word ++ body)) = some (isException, body) := by
  have hread := readUboWord?_word h body
  cases isException with
  | true =>
    show (readUboWord? (word ++ body)).map (true, ·) = some (true, body)
    rw [hread]
    rfl
  | false =>
    show (readUboWord? (word ++ body)).map (false, ·) = some (false, body)
    rw [hread]
    rfl

/-- No word begins behind the first character of a mask. -/
theorem exists_opening_append (isException : Bool) (t : Text) :
    ∃ rest, uboOpening isException ++ t = '#' :: rest ∧ readUboWord? rest = none := by
  cases isException with
  | true => exact ⟨_, rfl, readUboWord?_of_head (by decide) (by decide) (by decide) _⟩
  | false => exact ⟨_, rfl, readUboWord?_of_head (by decide) (by decide) (by decide) _⟩

/-- A mask cannot begin before another mask and end inside of it. -/
theorem readUbo?_append (h : readUbo? t = none) (hne : t ≠ []) (isException : Bool)
    (after : Text) : readUbo? (t ++ (uboOpening isException ++ after)) = none := by
  obtain ⟨rest, heq, hrest⟩ := exists_opening_append isException after
  rw [heq]
  unfold readUbo?
  split
  · next u hmask =>
    -- the exception form takes three characters, some of which may be those of `t`
    rcases t with _ | ⟨c, _ | ⟨d, _ | ⟨e, t⟩⟩⟩
    · exact absurd rfl hne
    · simp at hmask
    · obtain ⟨rfl, rfl, rfl⟩ : c = '#' ∧ d = '@' ∧ rest = u := by simpa using hmask
      simp [hrest]
    · obtain ⟨rfl, rfl, rfl, rfl⟩ : c = '#' ∧ d = '@' ∧ e = '#' ∧ t ++ '#' :: rest = u := by
        simpa using hmask
      have hword : readUboWord? t = none := Option.map_eq_none_iff.1 h
      simp [readUboWord?_append hword]
  · next u hmask =>
    rcases t with _ | ⟨c, _ | ⟨d, t⟩⟩
    · exact absurd rfl hne
    · obtain ⟨rfl, rfl⟩ : c = '#' ∧ rest = u := by simpa using hmask
      simp [hrest]
    · obtain ⟨rfl, rfl, rfl⟩ : c = '#' ∧ d = '#' ∧ t ++ '#' :: rest = u := by simpa using hmask
      have hword : readUboWord? t = none := Option.map_eq_none_iff.1 h
      simp [readUboWord?_append hword]
  · rfl

/-- A rule is cut around the uBlock Origin mask behind its domains, in any spelling. -/
theorem cutUbo?_opening_append {word : Text} (hdomains : cutUbo? domains = none)
    (hword : IsUboWord word) (isException : Bool) (body : Text) :
    cutUbo? (domains ++ (uboOpening isException ++ (word ++ body))) =
      some ⟨domains, isException, body⟩ := by
  have hnone : ∀ s, s <:+ domains → readUbo? s = none :=
    Text.cut?_eq_none_iff.1 (Option.map_eq_none_iff.1 hdomains)
  have hcut := Text.cut?_append (readUbo?_opening hword isException body) fun s hs hne =>
    readUbo?_append (hnone s hs) hne isException (word ++ body)
  rw [cutUbo?, hcut]
  rfl

theorem isUboWord_js : IsUboWord "+js".toList :=
  .inr ⟨[], by simp, rfl⟩

theorem ubo_eq_opening (isException : Bool) :
    ubo isException = uboOpening isException ++ "+js".toList := by
  cases isException <;> rfl

theorem uboInject_eq_opening (isException : Bool) :
    uboInject isException = uboOpening isException ++ "script:inject".toList := by
  cases isException <;> rfl

theorem cutUbo?_append (hdomains : cutUbo? domains = none) (isException : Bool) (body : Text) :
    cutUbo? (domains ++ (ubo isException ++ body)) = some ⟨domains, isException, body⟩ := by
  rw [ubo_eq_opening, List.append_assoc]
  exact cutUbo?_opening_append hdomains isUboWord_js isException body

/-- A uBlock Origin mask does not reach into an AdGuard mask. -/
theorem infix_of_infix_append_adg {mask : Text} (hmask : mask ∈ uboPlain isException)
    {isException' : Bool} (h : mask <:+: domains ++ adg isException') : mask <:+: domains := by
  have hseams : ∀ mask ∈ uboPlain isException,
      Text.overlaps mask (adg isException') = false ∧ ¬ mask <:+: adg isException' ++ [] := by
    cases isException <;> cases isException' <;> decide
  obtain ⟨hseam, hown⟩ := hseams mask hmask
  rw [← List.append_nil (adg isException')] at h
  exact (Text.infix_append_of_not_overlaps hseam h).resolve_right hown

theorem readUbo?_of_mem_uboPlain {mask : Text} (h : mask ∈ uboPlain isException) (after : Text) :
    readUbo? (mask ++ after) = some (isException, after) := by
  rcases mem_uboPlain.1 h with rfl | rfl
  · rw [ubo_eq_opening, List.append_assoc]
    exact readUbo?_opening isUboWord_js isException after
  · rw [uboInject_eq_opening, List.append_assoc]
    exact readUbo?_opening (.inl rfl) isException after

/-- A rule is cut wherever a mask occurs that is always read as one. -/
theorem isSome_cutUbo?_of_infix {mask : Text} (hread : ∀ after, readUbo? (mask ++ after) ≠ none)
    (hoccurs : mask <:+: rule) : (cutUbo? rule).isSome = true := by
  rw [Option.isSome_iff_ne_none, cutUbo?, Ne, Option.map_eq_none_iff, Text.cut?_eq_none_iff]
  obtain ⟨before, after, rfl⟩ := hoccurs
  intro hnone
  exact hread after (hnone (mask ++ after) ⟨before, by rw [List.append_assoc]⟩)

/-- A rule is cut wherever a plain uBlock Origin mask occurs, so looking for the mask a
second time never changes the verdict. -/
theorem isUboScriptlet_iff :
    isUboScriptlet rule = true ↔
      isComment rule = false ∧ ∃ isException, ∃ mask ∈ uboPlain isException, mask <:+: rule := by
  constructor
  · intro h
    simp only [isUboScriptlet, Bool.and_eq_true, Bool.or_eq_true, Text.containsMask_iff] at h
    obtain ⟨⟨hcomment, hmask⟩, -⟩ := h
    refine ⟨by simpa using hcomment, ?_⟩
    rcases hmask with ((hmask | hmask) | hmask) | hmask
    · exact ⟨false, _, by simp [uboPlain], hmask⟩
    · exact ⟨false, _, by simp [uboPlain], hmask⟩
    · exact ⟨true, _, by simp [uboPlain], hmask⟩
    · exact ⟨true, _, by simp [uboPlain], hmask⟩
  · rintro ⟨hcomment, isException, mask, hmask, hoccurs⟩
    have hsome := isSome_cutUbo?_of_infix
      (fun after => by simp [readUbo?_of_mem_uboPlain hmask]) hoccurs
    simp only [isUboScriptlet, hcomment, hsome, Bool.not_false, Bool.true_and, Bool.and_true,
      Bool.or_eq_true, Text.containsMask_iff]
    cases isException <;> rcases mem_uboPlain.1 hmask with rfl | rfl <;> simp [hoccurs]

end FilterDialects.Mask
