import FilterDialects.Proofs.Text.Pattern
import FilterDialects.Proofs.Text.Search
import FilterDialects.Proofs.Text.Sentence

/-!
# Which words a sentence has

A sentence is cut into words in one way only: blanks or nothing stand in front of each word and
behind the last, and a word is the complete group that the text starts with where the word
does, or else the longest run without blanks. So a word that starts with a quote is a run when
the quote is not closed, and two words may touch behind a group.

The same words are found by searching for a pattern, a group of either kind or else a run, with
backtracking. A group can be read in one way at most, since the quote that closes it is nothing
that may stand in it.
-/

namespace FilterDialects.Text

section Words

variable {c : Char} {t word rest : Text} {words : List Text}

/-- The first word of a text that starts with it: the complete group that the text starts with,
or else the longest run without blanks. -/
structure IsFirstWord (word rest : Text) : Prop where
  ne_nil : word ≠ []
  eq_group : ∀ group, IsGroup group → group <+: word ++ rest → word = group
  isRun : (∀ group, IsGroup group → ¬ group <+: word ++ rest) →
    (∀ c ∈ word, isBlank c = false) ∧ ∀ c ∈ rest.head?, isBlank c = true

theorem IsFirstWord.isGroup_or_isRun (h : IsFirstWord word rest) :
    IsGroup word ∨ (∀ group, IsGroup group → ¬ group <+: word ++ rest) ∧
      (∀ c ∈ word, isBlank c = false) ∧ ∀ c ∈ rest.head?, isBlank c = true := by
  by_cases hgroup : ∃ group, IsGroup group ∧ group <+: word ++ rest
  · obtain ⟨group, hisGroup, hprefix⟩ := hgroup
    obtain rfl := h.eq_group group hisGroup hprefix
    exact .inl hisGroup
  · have hnone : ∀ group, IsGroup group → ¬ group <+: word ++ rest := by simpa using hgroup
    exact .inr ⟨hnone, h.isRun hnone⟩

theorem IsFirstWord.readWord_eq (h : IsFirstWord word rest) :
    readWord (word ++ rest) = (word, rest) := by
  rcases h.isGroup_or_isRun with hgroup | ⟨hnone, hword, hrest⟩
  · exact readWord_of_group hgroup
  · exact readWord_of_run hnone hword hrest

theorem isFirstWord_readWord (hc : isBlank c = false) (t : Text) :
    IsFirstWord (readWord (c :: t)).1 (readWord (c :: t)).2 := by
  refine ⟨readWord_ne_nil hc t, ?_, ?_⟩
  · rw [readWord_append]
    rintro group hgroup ⟨behind, hplace⟩
    rw [← hplace, readWord_of_group hgroup]
  · rw [readWord_append]
    intro hgroup
    rw [readWord, readQuotedWord?_eq_none_iff.2 hgroup, Option.getD_none]
    constructor
    · intro d hd
      simpa using List.mem_takeWhile_imp hd
    · intro d hd
      have hstop := List.head?_dropWhile_not (! isBlank ·) (c :: t)
      rw [Option.mem_def.1 hd] at hstop
      simpa using hstop

theorem IsFirstWord.exists_cons (h : IsFirstWord word rest) :
    ∃ c t, word = c :: t ∧ isBlank c = false := by
  rcases h.isGroup_or_isRun with hgroup | ⟨-, hword, -⟩
  · exact hgroup.exists_cons
  · obtain ⟨c, t, rfl⟩ := List.exists_cons_of_ne_nil h.ne_nil
    exact ⟨c, t, rfl, hword c List.mem_cons_self⟩

/-- The words of a text with blanks, or nothing, in front of each and behind the last. -/
inductive IsSentence : Text → List Text → Prop
  | blank {t : Text} (h : ∀ c ∈ t, isBlank c = true) : IsSentence t []
  | word {lead word rest : Text} {words : List Text} (hlead : ∀ c ∈ lead, isBlank c = true)
      (hword : IsFirstWord word rest) (h : IsSentence rest words) :
      IsSentence (lead ++ (word ++ rest)) (word :: words)

theorem isSentence_splitSentence (t : Text) : IsSentence t (splitSentence t) := by
  induction t using splitSentence.induct with
  | case1 t hblank =>
    rw [splitSentence_of_blank hblank]
    exact .blank (List.dropWhile_eq_nil_iff.1 hblank)
  | case2 t c u htrim ih =>
    have hplace : t.takeWhile isBlank ++ ((readWord (c :: u)).1 ++ (readWord (c :: u)).2) = t := by
      rw [readWord_append, ← htrim, takeWhile_append_trimStart]
    have hlead : ∀ c ∈ t.takeWhile isBlank, isBlank c = true := fun c hc =>
      List.mem_takeWhile_imp hc
    have hword := isFirstWord_readWord (isBlank_of_trimStart htrim) u
    rw [splitSentence_of_cons htrim]
    exact hplace ▸ .word hlead hword ih

/-- A text is a sentence in one way only. -/
theorem IsSentence.splitSentence_eq (h : IsSentence t words) : splitSentence t = words := by
  induction h with
  | blank h => exact splitSentence_eq_nil_iff.2 h
  | word hlead hword h ih =>
    have hread := hword.readWord_eq
    obtain ⟨c, u, rfl, hc⟩ := hword.exists_cons
    rw [List.cons_append] at hread ⊢
    rw [splitSentence_append_of_blank hlead, splitSentence_of_cons (trimStart_of_head hc _), hread,
      ih]

end Words

namespace Pattern

/-- A backslash with the character behind it, unless that is a line break, or any character but
the quote and the backslash. -/
def groupItem (quote : Char) : Pattern :=
  .orElse (.andThen (.char (· = '\\')) (.char (· ≠ '\n')))
    (.char fun c => c ≠ quote ∧ c ≠ '\\')

def closing (quote : Char) : Pattern :=
  .andThen (.many (groupItem quote)) (.char (· = quote))

def group (quote : Char) : Pattern :=
  .andThen (.char (· = quote)) (closing quote)

def visible : Pattern :=
  .char (! isBlank ·)

def run : Pattern :=
  .andThen visible (.many visible)

/-- A word: a group in single quotes, or else one in double quotes, or else a run. -/
def sentenceWord : Pattern :=
  .orElse (group '\'') (.orElse (group '"') run)

variable {quote c : Char} {t read rest : Text}

/-- A backslash is part of an item with the character behind it only. -/
theorem ways_groupItem_backslash (t : Text) :
    ways (groupItem quote) ('\\' :: t) =
      (ways (.char (· ≠ '\n')) t).map fun (read, rest) => ('\\' :: read, rest) := by
  simp [groupItem, ways_orElse, ways_andThen, ways_char]

theorem ways_groupItem_of_ne (hc : c ≠ '\\') (t : Text) :
    ways (groupItem quote) (c :: t) = if c = quote then [] else [([c], t)] := by
  simp [groupItem, ways_orElse, ways_andThen, ways_char, hc]

/-- Where no item can be read, the group has to be closed. -/
theorem ways_closing_of_nil (hitem : ways (groupItem quote) t = []) :
    ways (closing quote) t = ways (.char (· = quote)) t := by
  rw [closing, ways_many_andThen, hitem, continued_nil, List.nil_append]

/-- Where an item can be read, the group goes on behind it, if it is not closed instead. -/
theorem ways_closing_of_item (hitem : ways (groupItem quote) t = [(read, rest)])
    (hlength : rest.length < t.length) :
    ways (closing quote) t =
      ((ways (closing quote) rest).map fun (more, rest) => (read ++ more, rest)) ++
        ways (.char (· = quote)) t := by
  rw [closing, ways_many_andThen, hitem, continued_singleton, if_pos hlength]

/-- There is one way at most to read the rest of a group: the quote is no item of the group,
and nothing else closes it. -/
theorem ways_closing (hquote : quote ≠ '\\') (t : Text) :
    ways (closing quote) t = (readClosing? quote t).toList := by
  have hclose (t : Text) : ways (.char (· = quote)) ('\\' :: t) = [] := by
    simp [ways_char, hquote.symm]
  fun_induction readClosing? quote t with
  | case1 =>
    rw [ways_closing_of_nil (by simp [groupItem, ways_orElse, ways_andThen]), ways_char_nil]
    rfl
  | case2 =>
    rw [ways_closing_of_nil (by simp [ways_groupItem_backslash]), hclose]
    rfl
  | case3 t =>
    rw [ways_closing_of_nil (by simp [ways_groupItem_backslash, ways_char]), hclose]
    rfl
  | case4 c t hline ih =>
    have hitem : ways (groupItem quote) ('\\' :: c :: t) = [(['\\', c], t)] := by
      simp [ways_groupItem_backslash, ways_char, hline]
    rw [ways_closing_of_item hitem (show t.length < t.length + 1 + 1 by omega), ih, hclose]
    cases readClosing? quote t <;> simp
  | case5 t =>
    rw [ways_closing_of_nil (by simp [ways_groupItem_of_ne hquote])]
    simp [ways_char]
  | case6 c t hlast hpair hc ih =>
    have hbackslash := ne_backslash_of_readClosing? hlast hpair
    have hitem : ways (groupItem quote) (c :: t) = [([c], t)] := by
      rw [ways_groupItem_of_ne hbackslash, if_neg hc]
    rw [ways_closing_of_item hitem (by simp), ih]
    cases readClosing? quote t <;> simp [ways_char, hc]

/-- The longest run is preferred. -/
theorem first?_many_visible (t : Text) :
    first? (.many visible) t = some (t.takeWhile (! isBlank ·), t.dropWhile (! isBlank ·)) := by
  induction t with
  | nil => simp [first?, ways_many, visible]
  | cons c t ih =>
    rw [first?, ways_many, visible, ways_char, ← visible]
    by_cases hc : isBlank c = true
    · simp [hc]
    · obtain ⟨others, hways⟩ := List.head?_eq_some_iff.1 ih
      simp [hc, hways]

theorem first?_run (c : Char) (t : Text) :
    first? run (c :: t) =
      if isBlank c then none
      else some ((c :: t).takeWhile (! isBlank ·), (c :: t).dropWhile (! isBlank ·)) := by
  obtain ⟨others, hways⟩ := List.head?_eq_some_iff.1 (first?_many_visible t)
  rw [first?, run, ways_andThen, visible, ways_char, ← visible]
  by_cases hc : isBlank c = true
  · simp [hc]
  · simp [hc, hways]

theorem ways_group (hquote : quote ≠ '\\') (c : Char) (t : Text) :
    ways (group quote) (c :: t) =
      if c = quote then (readClosing? quote t).toList.map fun (more, rest) => (c :: more, rest)
      else [] := by
  rw [group, ways_andThen, ways_char]
  by_cases hc : c = quote
  · simp [hc, ways_closing hquote]
  · simp [hc]

/-- A group of either kind is read as a quoted word. -/
theorem ways_group_append (c : Char) (t : Text) :
    ways (group '\'') (c :: t) ++ ways (group '"') (c :: t) =
      (readQuotedWord? (c :: t)).toList := by
  rw [ways_group (by decide), ways_group (by decide), readQuotedWord?]
  by_cases hsingle : c = '\''
  · subst hsingle
    cases readClosing? '\'' t <;> simp
  · by_cases hdouble : c = '"'
    · subst hdouble
      cases readClosing? '"' t <;> simp
    · simp [hsingle, hdouble]

/-- What the pattern of a word reads is the word, and it reads nothing in front of a blank. -/
theorem first?_sentenceWord (c : Char) (t : Text) :
    first? sentenceWord (c :: t) = if isBlank c then none else some (readWord (c :: t)) := by
  have hways : ways sentenceWord (c :: t) =
      (readQuotedWord? (c :: t)).toList ++ ways run (c :: t) := by
    rw [sentenceWord, ways_orElse, ways_orElse, ← List.append_assoc, ways_group_append]
  rw [first?, hways, List.head?_append, Option.head?_toList, ← first?, first?_run, readWord]
  cases hquoted : readQuotedWord? (c :: t) with
  | none => simp
  | some word =>
    obtain ⟨hgroup, hplace⟩ := readQuotedWord?_eq_some_iff.1 hquoted
    obtain ⟨d, u, hword, hd⟩ := hgroup.exists_cons
    obtain ⟨rfl, -⟩ : d = c ∧ u ++ word.2 = t := by simpa [hword] using hplace
    simp [hd]

theorem first?_sentenceWord_of_blank {s : Text} (h : ∀ c ∈ s.head?, isBlank c = true) :
    first? sentenceWord s = none := by
  cases s with
  | nil => simp [first?, sentenceWord, group, run, visible, ways_orElse, ways_andThen]
  | cons c s => rw [first?_sentenceWord, if_pos (h c rfl)]

/-- The words of a sentence are all that the pattern reads from left to right. -/
theorem findAll_sentenceWord (t : Text) : findAll sentenceWord t = splitSentence t := by
  induction t using splitSentence.induct with
  | case1 t hblank =>
    have hall := List.dropWhile_eq_nil_iff.1 hblank
    have hnone : cut? sentenceWord.first? t = none := by
      rw [cut?_eq_none_iff]
      intro s hs
      exact first?_sentenceWord_of_blank fun c hc =>
        hall c (hs.subset (List.mem_of_head? hc))
    rw [splitSentence_of_blank hblank, findAll_of_none hnone]
  | case2 t c u htrim ih =>
    have hfound : first? sentenceWord (c :: u) = some (readWord (c :: u)) := by
      rw [first?_sentenceWord, isBlank_of_trimStart htrim]
      rfl
    have hlead : ∀ s, s <:+ t.takeWhile isBlank → s ≠ [] →
        first? sentenceWord (s ++ c :: u) = none := by
      intro s hs hne
      obtain ⟨d, s, rfl⟩ := List.exists_cons_of_ne_nil hne
      refine first?_sentenceWord_of_blank fun b hb => ?_
      obtain rfl : d = b := by simpa using hb
      exact List.mem_takeWhile_imp (hs.subset List.mem_cons_self)
    have hplace : t.takeWhile isBlank ++ c :: u = t := by
      rw [← htrim, takeWhile_append_trimStart]
    have hcut := cut?_append hfound hlead
    rw [hplace] at hcut
    rw [splitSentence_of_cons htrim, findAll_of_some hcut (readWord_rest_lt htrim), ih]

end Pattern

/-- A sentence is split into the only words that it has: parts of the text one behind the other,
with nothing but blanks around them, each of them a complete group where one starts and the
longest run without blanks elsewhere. They are what the pattern of a word reads from left to
right, and a text has none only if it consists of blanks. -/
theorem splitSentence_eq_iff (t : Text) :
    (∀ words, splitSentence t = words ↔ IsSentence t words) ∧
    Pattern.findAll Pattern.sentenceWord t = splitSentence t ∧
    (splitSentence t = [] ↔ ∀ c ∈ t, isBlank c = true) := by
  refine ⟨fun words => ⟨?_, fun h => h.splitSentence_eq⟩, Pattern.findAll_sentenceWord t,
    splitSentence_eq_nil_iff⟩
  rintro rfl
  exact isSentence_splitSentence t

/-- Groups may touch, an escaped quote closes none, and a quote that is not closed starts a
run. -/
example :
    splitSentence "log 'it\\'s'\"b c\" 'open d".toList =
      ["log".toList, "'it\\'s'".toList, "\"b c\"".toList, "'open".toList, "d".toList] := by
  decide +kernel

end FilterDialects.Text
