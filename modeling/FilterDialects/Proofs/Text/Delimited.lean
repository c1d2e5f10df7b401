import FilterDialects.Text.Delimited
import FilterDialects.Proofs.Text.Blank
import FilterDialects.Proofs.Text.Search

/-!
# Delimited lists, written and read

A list whose elements are written with `escapeDelimiter` and joined by the delimiter is
split into the same elements exactly when none of them but the last ends in a backslash.
Each that does takes the delimiter and the element behind it along, so there is one piece
less for it. A single element is read back with the backslash as its delimiter too.
Splitting only drops backslashes before delimiters, so a piece brings in nothing that the
list did not hold.
-/

namespace FilterDialects.Text

variable {d : Char}

theorem piecesUnescaped_cons_cons (d c next : Char) (t : Text) :
    piecesUnescaped d (c :: next :: t) =
      if c = '\\' ∧ next = d then (piecesUnescaped d t).modifyHead (d :: ·)
      else if c = d then [] :: piecesUnescaped d (next :: t)
      else (piecesUnescaped d (next :: t)).modifyHead (c :: ·) := rfl

/-- A delimiter with a backslash belongs to its piece. -/
theorem piecesUnescaped_escape (d : Char) (t : Text) :
    piecesUnescaped d ('\\' :: d :: t) = (piecesUnescaped d t).modifyHead (d :: ·) := by
  simp [piecesUnescaped_cons_cons]

theorem piecesUnescaped_delimiter (hd : d ≠ '\\') (t : Text) :
    piecesUnescaped d (d :: t) = [] :: piecesUnescaped d t := by
  cases t with
  | nil => simp [piecesUnescaped]
  | cons next t => simp [piecesUnescaped_cons_cons, hd]

theorem piecesUnescaped_of_ne {c : Char} (hc : c ≠ d) {t : Text}
    (hnext : c = '\\' → t.head? ≠ some d) :
    piecesUnescaped d (c :: t) = (piecesUnescaped d t).modifyHead (c :: ·) := by
  cases t with
  | nil => simp [piecesUnescaped, hc]
  | cons next t =>
    have hpair : ¬ (c = '\\' ∧ next = d) := fun h => hnext h.1 (by simp [h.2])
    simp [piecesUnescaped_cons_cons, hpair, hc]

/-- An element is read as a piece up to the text that follows it, where the delimiter can
follow only if the element does not end in a backslash. -/
theorem piecesUnescaped_escapeDelimiter_append (element : Text) {rest : Text}
    (hend : element.getLast? = some '\\' → rest.head? ≠ some d) :
    piecesUnescaped d (escapeDelimiter d element ++ rest) =
      (piecesUnescaped d rest).modifyHead (element ++ ·) := by
  induction element with
  | nil => cases hpieces : piecesUnescaped d rest <;> simp [hpieces]
  | cons c element ih =>
    have htail : element.getLast? = some '\\' → rest.head? ≠ some d := by
      intro hlast
      exact hend (by simp [List.getLast?_cons, hlast])
    by_cases hc : c = d
    · subst hc
      simp [piecesUnescaped_escape, ih htail, Function.comp_def]
    · have hnext : c = '\\' → (escapeDelimiter d element ++ rest).head? ≠ some d := by
        rintro rfl
        cases element with
        | nil => simpa using hend
        | cons next element =>
          by_cases hnext : next = d
          · simp [hnext, hc]
          · simp [hnext]
      simp only [escapeDelimiter_cons, hc, if_false, List.cons_append, List.nil_append]
      rw [piecesUnescaped_of_ne hc hnext, ih htail]
      simp [Function.comp_def]

/-- A single element is read back, with the backslash as its delimiter too. -/
theorem piecesUnescaped_escapeDelimiter (d : Char) (element : Text) :
    piecesUnescaped d (escapeDelimiter d element) = [element] := by
  have hend : element.getLast? = some '\\' → ([] : Text).head? ≠ some d := by simp
  simpa [piecesUnescaped] using piecesUnescaped_escapeDelimiter_append element hend

theorem intercalate_cons_cons (sep first second : Text) (others : List Text) :
    sep.intercalate (first :: second :: others) =
      first ++ (sep ++ sep.intercalate (second :: others)) := by
  rw [List.intercalate_cons_cons, List.append_assoc]

theorem infix_of_mem_intercalate {sep piece : Text} {pieces : List Text} (h : piece ∈ pieces) :
    piece <:+: sep.intercalate pieces := by
  induction pieces with
  | nil => simp at h
  | cons first others ih =>
    cases others with
    | nil =>
      obtain rfl : piece = first := by simpa using h
      simp [List.intercalate]
    | cons second others =>
      rw [intercalate_cons_cons]
      cases List.mem_cons.1 h with
      | inl heq => exact heq ▸ List.infix_append_left
      | inr hlater =>
        exact ((ih hlater).trans List.infix_append_right).trans List.infix_append_right

/-- Trimmed pieces that are joined make a trimmed text. -/
theorem trim_intercalate (sep : Text) {pieces : List Text}
    (h : ∀ piece ∈ pieces, trim piece = piece ∧ piece ≠ []) :
    trim (sep.intercalate pieces) = sep.intercalate pieces := by
  induction pieces with
  | nil => rfl
  | cons first others ih =>
    obtain ⟨hfirst, hne⟩ := h first List.mem_cons_self
    cases others with
    | nil => simpa [List.intercalate] using hfirst
    | cons second others =>
      have hlater := (trim_eq_self_iff.1 (ih fun piece hmem => h piece (by simp [hmem]))).2
      have hsecond := (h second (by simp)).2
      have hjoined : sep.intercalate (second :: others) ≠ [] := by
        cases others <;> simp [List.intercalate, hsecond]
      rw [intercalate_cons_cons, trim_eq_self_iff]
      constructor
      · obtain ⟨c, t, rfl⟩ := List.exists_cons_of_ne_nil hne
        exact trimStart_of_head (isBlank_of_trimStart (trim_eq_self_iff.1 hfirst).1) _
      · rw [← List.append_assoc, trimEnd_append_of_ne_nil (by rwa [hlater]), hlater]

theorem getLast?_intercalate (sep : Text) {pieces : List Text} {last : Text}
    (h : pieces.getLast? = some last) (hne : last ≠ []) :
    (sep.intercalate pieces).getLast? = last.getLast? := by
  induction pieces with
  | nil => simp at h
  | cons first others ih =>
    cases others with
    | nil =>
      obtain rfl : first = last := by simpa using h
      simp [List.intercalate]
    | cons second others =>
      rw [List.getLast?_cons_cons] at h
      rw [intercalate_cons_cons, ← List.append_assoc, List.getLast?_append, ih h]
      rw [List.getLast?_eq_some_getLast hne, Option.some_or]

/-- The gap that follows a delimiter belongs to the next piece. -/
theorem piecesUnescaped_gap_append {gap : Text} (hgap : d ∉ gap)
    (hgapEnd : gap.getLast? ≠ some '\\') (rest : Text) :
    piecesUnescaped d (gap ++ rest) = (piecesUnescaped d rest).modifyHead (gap ++ ·) := by
  have hread : piecesUnescaped d (escapeDelimiter d gap ++ rest) = _ :=
    piecesUnescaped_escapeDelimiter_append gap fun h => absurd h hgapEnd
  rwa [escapeDelimiter_of_notMem hgap] at hread

/-- A joined list is split into its elements, each but the first behind the gap that
follows a delimiter. -/
theorem piecesUnescaped_intercalate (hd : d ≠ '\\') {gap : Text} (hgap : d ∉ gap)
    (hgapEnd : gap.getLast? ≠ some '\\') (first : Text) (others : List Text)
    (hends : ∀ element ∈ (first :: others).dropLast, element.getLast? ≠ some '\\') :
    piecesUnescaped d ((d :: gap).intercalate ((first :: others).map (escapeDelimiter d))) =
      first :: others.map (gap ++ ·) := by
  induction others generalizing first with
  | nil => simpa [List.intercalate] using piecesUnescaped_escapeDelimiter d first
  | cons second others ih =>
    have hfirst : first.getLast? ≠ some '\\' := hends first (by simp)
    have hlater := ih second fun element hmem => hends element (by simp [hmem])
    rw [List.map_cons, List.map_cons, intercalate_cons_cons,
      piecesUnescaped_escapeDelimiter_append first fun h => absurd h hfirst,
      List.cons_append, piecesUnescaped_delimiter hd, ← List.map_cons,
      piecesUnescaped_gap_append hgap hgapEnd, hlater]
    simp

theorem escapeDelimiter_append (d : Char) (t u : Text) :
    escapeDelimiter d (t ++ u) = escapeDelimiter d t ++ escapeDelimiter d u :=
  List.flatMap_append

/-- A list that is an element of another list has its delimiters escaped there. -/
theorem escapeDelimiter_intercalate {gap : Text} (hgap : d ∉ gap) {pieces : List Text}
    (h : ∀ piece ∈ pieces, d ∉ piece) :
    escapeDelimiter d ((d :: gap).intercalate pieces) = ('\\' :: d :: gap).intercalate pieces := by
  induction pieces with
  | nil => rfl
  | cons first others ih =>
    have hfirst := escapeDelimiter_of_notMem (h first List.mem_cons_self)
    cases others with
    | nil => simpa [List.intercalate] using hfirst
    | cons second others =>
      rw [intercalate_cons_cons, intercalate_cons_cons, escapeDelimiter_append, hfirst,
        escapeDelimiter_append, ih fun piece hmem => h piece (List.mem_cons_of_mem first hmem),
        escapeDelimiter_cons, if_pos rfl, escapeDelimiter_of_notMem hgap]
      rfl

/-- An element that ends in a backslash takes the delimiter behind it along. -/
theorem piecesUnescaped_backslash_append (hd : d ≠ '\\') (element rest : Text) :
    piecesUnescaped d (escapeDelimiter d (element ++ ['\\']) ++ d :: rest) =
      (piecesUnescaped d rest).modifyHead ((element ++ [d]) ++ ·) := by
  have hbackslash : escapeDelimiter d ['\\'] = ['\\'] :=
    escapeDelimiter_of_notMem (by simpa using hd)
  have hread : piecesUnescaped d (escapeDelimiter d element ++ '\\' :: d :: rest) = _ :=
    piecesUnescaped_escapeDelimiter_append element fun _ => by simpa using hd.symm
  rw [escapeDelimiter_append, hbackslash, List.append_assoc, List.singleton_append, hread,
    piecesUnescaped_escape, List.modifyHead_modifyHead]
  simp [Function.comp_def]

/-- A joined list has a piece for its last element and one for each other element that does
not end in a backslash. -/
theorem length_piecesUnescaped_intercalate (hd : d ≠ '\\') {gap : Text} (hgap : d ∉ gap)
    (hgapEnd : gap.getLast? ≠ some '\\') (first : Text) (others : List Text) :
    (piecesUnescaped d ((d :: gap).intercalate
        ((first :: others).map (escapeDelimiter d)))).length =
      (first :: others).dropLast.countP (·.getLast? ≠ some '\\') + 1 := by
  induction others generalizing first with
  | nil => simp [List.intercalate, piecesUnescaped_escapeDelimiter]
  | cons second others ih =>
    rw [List.map_cons, List.map_cons, intercalate_cons_cons, List.cons_append, ← List.map_cons,
      List.dropLast_cons_cons, List.countP_cons]
    by_cases hlast : first.getLast? = some '\\'
    · obtain ⟨earlier, rfl⟩ := List.getLast?_eq_some_iff.1 hlast
      rw [piecesUnescaped_backslash_append hd, piecesUnescaped_gap_append hgap hgapEnd,
        List.length_modifyHead, List.length_modifyHead, ih second]
      simp
    · rw [piecesUnescaped_escapeDelimiter_append first fun h => absurd h hlast,
        piecesUnescaped_delimiter hd, piecesUnescaped_gap_append hgap hgapEnd,
        List.length_modifyHead, List.length_cons, List.length_modifyHead, ih second]
      simp [hlast]

/-- The first piece starts as the list does, or with the delimiter that is escaped there. -/
theorem exists_head_piecesUnescaped {c : Char} (hc : c ≠ d) (t : Text) :
    ∃ b piece pieces, (b = c ∨ b = d) ∧ piecesUnescaped d (c :: t) = (b :: piece) :: pieces := by
  have hhead (b : Char) (u : Text) :
      ∃ piece pieces, (piecesUnescaped d u).modifyHead (b :: ·) = (b :: piece) :: pieces := by
    obtain ⟨first, others, hpieces⟩ := List.exists_cons_of_ne_nil (piecesUnescaped_ne_nil d u)
    exact ⟨first, others, by rw [hpieces, List.modifyHead_cons]⟩
  by_cases hescape : c = '\\' ∧ t.head? = some d
  · obtain ⟨rfl, hnext⟩ := hescape
    obtain ⟨u, rfl⟩ := List.head?_eq_some_iff.1 hnext
    obtain ⟨piece, pieces, heq⟩ := hhead d u
    exact ⟨d, piece, pieces, .inr rfl, by rw [piecesUnescaped_escape, heq]⟩
  · obtain ⟨piece, pieces, heq⟩ := hhead c t
    refine ⟨c, piece, pieces, .inl rfl, ?_⟩
    rw [piecesUnescaped_of_ne hc fun hbackslash hnext => hescape ⟨hbackslash, hnext⟩, heq]

/-- A list whose elements are written one behind the other, with blanks in between or without,
is split into the trimmed elements. -/
theorem splitUnescaped_intercalate (hd : d ≠ '\\') {gap : Text} (hgap : d ∉ gap)
    (hblank : ∀ c ∈ gap, isBlank c = true) (first : Text) (others : List Text)
    (hends : ∀ element ∈ (first :: others).dropLast, element.getLast? ≠ some '\\') :
    splitUnescaped d ((d :: gap).intercalate ((first :: others).map (escapeDelimiter d))) =
      (first :: others).map trim := by
  have hgapEnd : gap.getLast? ≠ some '\\' := by
    intro hlast
    exact absurd (hblank _ (List.mem_of_getLast? hlast)) (by decide)
  have htrim (element : Text) : trim (gap ++ element) = trim element := by
    rw [trim, trimStart_append_of_blank hblank, trim]
  rw [splitUnescaped, piecesUnescaped_intercalate hd hgap hgapEnd first others hends]
  simp [Function.comp_def, htrim]

/-- Write a list: a delimiter goes between two elements, and the delimiters inside of them
carry a backslash. -/
def joinEscaped (d : Char) (elements : List Text) : Text :=
  [d].intercalate (elements.map (escapeDelimiter d))

/-- A list that is written without gaps has a piece for its last element and one for each
other element that does not end in a backslash. -/
theorem length_splitUnescaped_joinEscaped (hd : d ≠ '\\') {elements : List Text}
    (hne : elements ≠ []) :
    (splitUnescaped d (joinEscaped d elements)).length =
      elements.dropLast.countP (·.getLast? ≠ some '\\') + 1 := by
  obtain ⟨first, others, rfl⟩ := List.exists_cons_of_ne_nil hne
  rw [splitUnescaped, List.length_map, joinEscaped]
  exact length_piecesUnescaped_intercalate hd List.not_mem_nil (by simp) first others

/-- Splitting undoes writing. A list is split into its trimmed elements, in number and order,
exactly when none of them but the last ends in a backslash, and into fewer pieces otherwise.
A single element is read back for every delimiter. -/
theorem splitUnescaped_joinEscaped (d : Char) {elements : List Text} (hne : elements ≠ []) :
    (d ≠ '\\' →
      (splitUnescaped d (joinEscaped d elements) = elements.map trim ↔
        ∀ element ∈ elements.dropLast, element.getLast? ≠ some '\\') ∧
      ((splitUnescaped d (joinEscaped d elements)).length < elements.length ↔
        ∃ element ∈ elements.dropLast, element.getLast? = some '\\')) ∧
    ∀ element, splitUnescaped d (escapeDelimiter d element) = [trim element] := by
  constructor
  · intro hd
    have hlength := length_splitUnescaped_joinEscaped hd hne
    have hpos := List.length_pos_iff.2 hne
    have hbound := List.countP_le_length (p := (·.getLast? ≠ some '\\')) (l := elements.dropLast)
    have hall : elements.dropLast.countP (·.getLast? ≠ some '\\') = elements.dropLast.length ↔
        ∀ element ∈ elements.dropLast, element.getLast? ≠ some '\\' := by
      rw [List.countP_eq_length]
      simp
    have hsome : (∃ element ∈ elements.dropLast, element.getLast? = some '\\') ↔
        ¬ ∀ element ∈ elements.dropLast, element.getLast? ≠ some '\\' := by
      simp
    rw [List.length_dropLast] at hall hbound
    refine ⟨⟨?_, ?_⟩, ?_⟩
    · intro hread
      rw [hread, List.length_map] at hlength
      exact hall.1 (by omega)
    · intro hends
      obtain ⟨first, others, rfl⟩ := List.exists_cons_of_ne_nil hne
      exact splitUnescaped_intercalate hd List.not_mem_nil (by simp) first others hends
    · rw [hsome, ← hall]
      omega
  · intro element
    rw [splitUnescaped, piecesUnescaped_escapeDelimiter, List.map_singleton]

/-- Commas, blanks and a last backslash survive, and the backslash as a delimiter too. An
earlier backslash takes the delimiter behind it along. -/
theorem splitUnescaped_joinEscaped_comma :
    ["a, b ".toList, [], "c\\".toList] ≠ [] ∧ ["a\\".toList, "b".toList] ≠ [] ∧ ',' ≠ '\\' ∧
      splitUnescaped ',' (joinEscaped ',' ["a, b ".toList, [], "c\\".toList]) =
        ["a, b".toList, [], "c\\".toList] ∧
      (splitUnescaped ',' (joinEscaped ',' ["a\\".toList, "b".toList])).length < 2 ∧
      splitUnescaped '\\' (escapeDelimiter '\\' "a\\b\\".toList) = ["a\\b\\".toList] := by
  have hthree : ["a, b ".toList, [], "c\\".toList] ≠ [] := List.cons_ne_nil _ _
  have htwo : ["a\\".toList, "b".toList] ≠ [] := List.cons_ne_nil _ _
  have hcomma : ',' ≠ '\\' := by decide
  obtain ⟨hread, -⟩ := (splitUnescaped_joinEscaped ',' hthree).1 hcomma
  obtain ⟨-, hfewer⟩ := (splitUnescaped_joinEscaped ',' htwo).1 hcomma
  refine ⟨hthree, htwo, hcomma, ?_, hfewer.2 (by decide), ?_⟩
  · rw [hread.2 (by decide)]
    decide
  · rw [(splitUnescaped_joinEscaped '\\' htwo).2]
    decide

section Infix

variable {mask t : Text} {piece : Text}

/-- The first piece starts as the list does, where there is no delimiter. -/
theorem prefix_of_prefix_head (hmask : d ∉ mask) (hpiece : (piecesUnescaped d t).head? = some piece)
    (h : mask <+: piece) : mask <+: t := by
  induction mask generalizing t piece with
  | nil => exact List.nil_prefix
  | cons m mask ih =>
    have hm : m ≠ d := fun heq => hmask (by simp [heq])
    have hrest : d ∉ mask := fun hmem => hmask (List.mem_cons_of_mem m hmem)
    have hstep {c : Char} {u : Text}
        (hhead : ((piecesUnescaped d u).modifyHead (c :: ·)).head? = some piece) :
        m = c ∧ mask <+: u := by
      rw [List.head?_modifyHead] at hhead
      obtain ⟨tail, htail, rfl⟩ := Option.map_eq_some_iff.1 hhead
      obtain ⟨rfl, hpre⟩ := List.cons_prefix_cons.1 h
      exact ⟨rfl, ih hrest htail hpre⟩
    fun_cases piecesUnescaped d t with
    | case1 => simp_all [piecesUnescaped]
    | case2 => simp_all [piecesUnescaped]
    | case3 => simp_all [piecesUnescaped]
    | case4 c next t hpair =>
      simp only [piecesUnescaped_cons_cons, hpair, and_self, if_true] at hpiece
      exact absurd (hstep hpiece).1 hm
    | case5 next t hpair =>
      have hnil : piece = [] := by simpa [piecesUnescaped_cons_cons, hpair] using hpiece.symm
      exact absurd (hnil ▸ h) (by simp)
    | case6 c next t hpair hc =>
      simp only [piecesUnescaped_cons_cons, hpair, hc, if_false] at hpiece
      obtain ⟨rfl, hpre⟩ := hstep hpiece
      exact List.cons_prefix_cons.2 ⟨rfl, hpre⟩

/-- A piece that a character was put in front of holds a mask at its front or behind. -/
theorem infix_of_mem_modifyHead {c : Char} {u : Text}
    (hpiece : piece ∈ (piecesUnescaped d u).modifyHead (c :: ·)) (h : mask <:+: piece) :
    (((piecesUnescaped d u).modifyHead (c :: ·)).head? = some piece ∧ mask <+: piece) ∨
      ∃ later ∈ piecesUnescaped d u, mask <:+: later := by
  obtain ⟨first, others, hpieces⟩ := List.exists_cons_of_ne_nil (piecesUnescaped_ne_nil d u)
  rw [hpieces, List.modifyHead_cons] at hpiece ⊢
  rcases List.mem_cons.1 hpiece with rfl | hmem
  · cases List.infix_cons_iff.1 h with
    | inl hpre => exact .inl ⟨rfl, hpre⟩
    | inr hoccurs => exact .inr ⟨first, List.mem_cons_self, hoccurs⟩
  · exact .inr ⟨piece, List.mem_cons_of_mem first hmem, h⟩

/-- What stands in a piece and has no delimiter stood in the list. -/
theorem infix_of_infix_piece (hmask : d ∉ mask) (hpiece : piece ∈ piecesUnescaped d t)
    (h : mask <:+: piece) : mask <:+: t := by
  fun_induction piecesUnescaped d t generalizing piece with
  | case1 => simp_all
  | case2 => simp_all
  | case3 => simp_all
  | case4 c next t hpair ih =>
    have hwhole := piecesUnescaped_cons_cons d c next t
    rw [if_pos hpair] at hwhole
    rcases infix_of_mem_modifyHead hpiece h with ⟨hhead, hpre⟩ | ⟨later, hlater, hoccurs⟩
    · exact (prefix_of_prefix_head hmask (hwhole ▸ hhead) hpre).isInfix
    · exact (ih hlater hoccurs).trans ⟨[c, next], [], by simp⟩
  | case5 next t hpair ih =>
    rcases List.mem_cons.1 hpiece with rfl | hmem
    · exact h.trans List.nil_infix
    · exact (ih hmem h).trans (List.suffix_cons d (next :: t)).isInfix
  | case6 c next t hpair hc ih =>
    have hwhole := piecesUnescaped_cons_cons d c next t
    rw [if_neg hpair, if_neg hc] at hwhole
    rcases infix_of_mem_modifyHead hpiece h with ⟨hhead, hpre⟩ | ⟨later, hlater, hoccurs⟩
    · exact (prefix_of_prefix_head hmask (hwhole ▸ hhead) hpre).isInfix
    · exact (ih hlater hoccurs).trans (List.suffix_cons c (next :: t)).isInfix

theorem infix_of_infix_splitUnescaped (hmask : d ∉ mask) (hpiece : piece ∈ splitUnescaped d t)
    (h : mask <:+: piece) : mask <:+: t := by
  obtain ⟨raw, hraw, rfl⟩ := List.mem_map.1 hpiece
  exact infix_of_infix_piece hmask hraw (h.trans (trim_isInfix raw))

/-- What stands in an escaped element behind a text, with neither delimiter nor backslash,
stands in the element behind that text. -/
theorem infix_of_infix_append_escapeDelimiter (hmask : d ∉ mask) (hbackslash : '\\' ∉ mask)
    (before : Text) (h : mask <:+: before ++ escapeDelimiter d t) : mask <:+: before ++ t := by
  induction t generalizing before with
  | nil => exact h
  | cons c t ih =>
    by_cases hc : c = d
    · subst hc
      simp only [escapeDelimiter_cons, if_true, List.cons_append, List.nil_append] at h
      rw [infix_append_cons_iff hbackslash, ← List.nil_append (c :: escapeDelimiter c t),
        infix_append_cons_iff hmask] at h
      rcases h with h | h | h
      · exact h.trans List.infix_append_left
      · exact h.trans List.nil_infix
      · exact (infix_append_cons_iff hmask).2 (.inr (ih [] h))
    · simp only [escapeDelimiter_cons, hc, if_false, List.cons_append, List.nil_append] at h
      simpa using ih (before ++ [c]) (by simpa using h)

theorem infix_of_infix_escapeDelimiter (hmask : d ∉ mask) (hbackslash : '\\' ∉ mask)
    (h : mask <:+: escapeDelimiter d t) : mask <:+: t :=
  infix_of_infix_append_escapeDelimiter hmask hbackslash [] h

end Infix

end FilterDialects.Text
