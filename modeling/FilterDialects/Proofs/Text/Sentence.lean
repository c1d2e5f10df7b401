import FilterDialects.Text.Quote
import FilterDialects.Text.Sentence
import FilterDialects.Proofs.Text.Blank

/-!
# The words of a sentence

Reading a word takes it from the front of a text and leaves an end of it, so every word of
a sentence stands in the sentence as it is, with its quotes and backslashes, and only blanks
are lost between them.

In the other direction, words that are written with a space in between are read back, as
long as each is bare or a complete double-quoted word.
-/

namespace FilterDialects.Text

theorem readWord_isPrefix (t : Text) : (readWord t).1 <+: t :=
  ⟨(readWord t).2, readWord_append t⟩

theorem readWord_isSuffix (t : Text) : (readWord t).2 <:+ t :=
  ⟨(readWord t).1, readWord_append t⟩

theorem infix_of_mem_splitSentence {t word : Text} (h : word ∈ splitSentence t) :
    word <:+: t := by
  induction t using splitSentence.induct with
  | case1 t hblank =>
    rw [splitSentence_of_blank hblank] at h
    simp at h
  | case2 t c u htrim ih =>
    have hstart : c :: u <:+ t := by
      rw [← htrim]
      exact trimStart_isSuffix t
    rw [splitSentence_of_cons htrim] at h
    cases List.mem_cons.1 h with
    | inl hfirst =>
      rw [hfirst]
      exact (readWord_isPrefix (c :: u)).isInfix.trans hstart.isInfix
    | inr hlater => exact (ih hlater).trans ((readWord_isSuffix (c :: u)).trans hstart).isInfix

theorem splitSentence_eq_nil_iff {t : Text} :
    splitSentence t = [] ↔ ∀ c ∈ t, isBlank c = true := by
  rw [← List.dropWhile_eq_nil_iff]
  constructor
  · intro h
    cases htrim : trimStart t with
    | nil => exact htrim
    | cons c u => simp [splitSentence_of_cons htrim] at h
  · exact splitSentence_of_blank

theorem ne_nil_of_mem_splitSentence {t word : Text} (h : word ∈ splitSentence t) :
    word ≠ [] := by
  induction t using splitSentence.induct with
  | case1 t hblank =>
    rw [splitSentence_of_blank hblank] at h
    simp at h
  | case2 t c u htrim ih =>
    rw [splitSentence_of_cons htrim] at h
    cases List.mem_cons.1 h with
    | inl hfirst =>
      rw [hfirst]
      exact readWord_ne_nil (isBlank_of_trimStart htrim) u
    | inr hlater => exact ih hlater

/-- The words of a sentence hold all its characters but blanks. -/
theorem count_flatten_splitSentence {c : Char} (hc : isBlank c = false) (t : Text) :
    (splitSentence t).flatten.count c = t.count c := by
  have hstart (t : Text) : (trimStart t).count c = t.count c := by
    induction t with
    | nil => rfl
    | cons d t ih =>
      rw [trimStart_cons]
      split
      · next hd =>
        rw [ih, List.count_cons_of_ne]
        rintro rfl
        simp [hc] at hd
      · rfl
  induction t using splitSentence.induct with
  | case1 t hblank => rw [splitSentence_of_blank hblank, ← hstart t, hblank, List.flatten_nil]
  | case2 t d u htrim ih =>
    rw [splitSentence_of_cons htrim, List.flatten_cons, List.count_append, ih,
      ← List.count_append, readWord_append, ← htrim, hstart]

section Groups

/-- What may stand between two quotes of one kind: backslashes with the character behind them,
unless that is a line break, and other characters but that quote. -/
inductive IsGroupBody (quote : Char) : Text → Prop
  | nil : IsGroupBody quote []
  | plain {c : Char} {t : Text} (hquote : c ≠ quote) (hbackslash : c ≠ '\\')
      (h : IsGroupBody quote t) : IsGroupBody quote (c :: t)
  | escape {c : Char} {t : Text} (hline : c ≠ '\n') (h : IsGroupBody quote t) :
      IsGroupBody quote ('\\' :: c :: t)

/-- A complete group: a quote, what may stand behind it, and the same quote. -/
def IsGroup (group : Text) : Prop :=
  ∃ quote body, isQuote quote = true ∧ IsGroupBody quote body ∧ group = quote :: (body ++ [quote])

variable {quote c : Char} {t read group word rest : Text}

theorem isBlank_of_isQuote (h : isQuote c = true) : isBlank c = false := by
  rw [isQuote, Bool.or_eq_true, decide_eq_true_eq, decide_eq_true_eq] at h
  rcases h with rfl | rfl <;> decide

theorem IsGroup.exists_cons (h : IsGroup group) : ∃ c t, group = c :: t ∧ isBlank c = false := by
  obtain ⟨quote, body, hquote, -, rfl⟩ := h
  exact ⟨quote, _, rfl, isBlank_of_isQuote hquote⟩

/-- A character other than a backslash closes a group if it is the quote of that group. -/
theorem readClosing?_cons (hc : c ≠ '\\') (t : Text) :
    readClosing? quote (c :: t) =
      if c = quote then some ([c], t)
      else (readClosing? quote t).map fun (read, rest) => (c :: read, rest) := by
  rw [readClosing?]
  · rintro rfl
    exact absurd rfl hc
  · rintro next u rfl
    exact absurd rfl hc

/-- The character that is read for itself is no backslash: behind a last backslash and behind a
backslash with another character other cases apply. -/
theorem ne_backslash_of_readClosing? (hlast : c = '\\' → t = [] → False)
    (hpair : ∀ next u, c = '\\' → t = next :: u → False) : c ≠ '\\' := by
  rintro rfl
  cases t with
  | nil => exact hlast rfl rfl
  | cons next t => exact hpair next t rfl rfl

theorem exists_body_of_readClosing? (h : readClosing? quote t = some (read, rest)) :
    ∃ body, IsGroupBody quote body ∧ read = body ++ [quote] ∧ read ++ rest = t := by
  fun_induction readClosing? quote t generalizing read with
  | case1 | case2 | case3 => simp at h
  | case4 c t hline ih =>
    obtain ⟨⟨read', rest'⟩, hread, heq⟩ := Option.map_eq_some_iff.1 h
    obtain ⟨rfl, rfl⟩ : '\\' :: c :: read' = read ∧ rest' = rest := by simpa using heq
    obtain ⟨body, hbody, rfl, rfl⟩ := ih hread
    exact ⟨'\\' :: c :: body, .escape hline hbody, rfl, rfl⟩
  | case5 =>
    obtain ⟨rfl, rfl⟩ : [quote] = read ∧ _ = rest := by simpa using h
    exact ⟨[], .nil, rfl, rfl⟩
  | case6 c t hlast hpair hquote ih =>
    obtain ⟨⟨read', rest'⟩, hread, heq⟩ := Option.map_eq_some_iff.1 h
    obtain ⟨rfl, rfl⟩ : c :: read' = read ∧ rest' = rest := by simpa using heq
    obtain ⟨body, hbody, rfl, hplace⟩ := ih hread
    have hbackslash := ne_backslash_of_readClosing? hlast hpair
    exact ⟨c :: body, .plain hquote hbackslash hbody, rfl, congrArg (c :: ·) hplace⟩

/-- What is read up to the closing quote is a body with that quote behind it. -/
theorem readClosing?_eq_some_iff (hquote : isQuote quote = true) :
    readClosing? quote t = some (read, rest) ↔
      ∃ body, IsGroupBody quote body ∧ read = body ++ [quote] ∧ read ++ rest = t := by
  refine ⟨exists_body_of_readClosing?, ?_⟩
  rintro ⟨body, hbody, rfl, rfl⟩
  have hbackslash : quote ≠ '\\' := by
    rintro rfl
    exact absurd hquote (by decide)
  induction hbody with
  | nil => simp [readClosing?_cons hbackslash]
  | plain hc hbackslash hbody ih => simp_all [readClosing?_cons hbackslash]
  | escape hline hbody ih => simp_all [readClosing?]

/-- A quoted word is a group at the front of a text. -/
theorem readQuotedWord?_eq_some_iff :
    readQuotedWord? t = some (word, rest) ↔ IsGroup word ∧ word ++ rest = t := by
  cases t with
  | nil =>
    refine iff_of_false (by simp [readQuotedWord?]) ?_
    rintro ⟨⟨quote, body, -, -, rfl⟩, hplace⟩
    simp at hplace
  | cons c t =>
    rw [readQuotedWord?]
    split
    · next hmark =>
      have hquote : isQuote c = true := by simpa [isQuote] using hmark
      rw [Option.map_eq_some_iff]
      constructor
      · rintro ⟨⟨read, rest'⟩, hread, heq⟩
        obtain ⟨rfl, rfl⟩ : c :: read = word ∧ rest' = rest := by simpa using heq
        obtain ⟨body, hbody, rfl, rfl⟩ := exists_body_of_readClosing? hread
        exact ⟨⟨c, body, hquote, hbody, rfl⟩, rfl⟩
      · rintro ⟨⟨quote, body, -, hbody, rfl⟩, hplace⟩
        obtain ⟨rfl, rfl⟩ := List.cons.inj hplace
        exact ⟨_, (readClosing?_eq_some_iff hquote).2 ⟨body, hbody, rfl, rfl⟩, rfl⟩
    · next hmark =>
      refine iff_of_false (by simp) ?_
      rintro ⟨⟨quote, body, hquote, -, rfl⟩, hplace⟩
      obtain ⟨rfl, -⟩ := List.cons.inj hplace
      exact hmark (by simpa [isQuote] using hquote)

theorem readQuotedWord?_eq_none_iff :
    readQuotedWord? t = none ↔ ∀ group, IsGroup group → ¬ group <+: t := by
  rw [Option.eq_none_iff_forall_ne_some]
  constructor
  · rintro h group hgroup ⟨rest, hplace⟩
    exact h (group, rest) (readQuotedWord?_eq_some_iff.2 ⟨hgroup, hplace⟩)
  · rintro h ⟨word, rest⟩ hread
    obtain ⟨hgroup, hplace⟩ := readQuotedWord?_eq_some_iff.1 hread
    exact h word hgroup ⟨rest, hplace⟩

theorem readWord_of_group (hgroup : IsGroup word) : readWord (word ++ rest) = (word, rest) := by
  rw [readWord, readQuotedWord?_eq_some_iff.2 ⟨hgroup, rfl⟩, Option.getD_some]

theorem readWord_of_run (hgroup : ∀ group, IsGroup group → ¬ group <+: word ++ rest)
    (hword : ∀ c ∈ word, isBlank c = false) (hrest : ∀ c ∈ rest.head?, isBlank c = true) :
    readWord (word ++ rest) = (word, rest) := by
  have hrun : ∀ c ∈ word, (! isBlank c) = true := fun c hc => by simp [hword c hc]
  have hstop : rest.takeWhile (! isBlank ·) = [] ∧ rest.dropWhile (! isBlank ·) = rest := by
    cases rest with
    | nil => exact ⟨rfl, rfl⟩
    | cons c rest => simp [hrest c rfl]
  rw [readWord, readQuotedWord?_eq_none_iff.2 hgroup, Option.getD_none,
    List.takeWhile_append_of_pos hrun, hstop.1,
    List.dropWhile_append_of_pos hrun, hstop.2, List.append_nil]

end Groups

section Written

/-- What may stand between double quotes: backslashes with the character behind them, unless
that is a line break, and other characters but quotes. -/
inductive IsQuotedBody : Text → Prop
  | nil : IsQuotedBody []
  | plain {c : Char} {t : Text} (hquote : c ≠ '"') (hbackslash : c ≠ '\\') (h : IsQuotedBody t) :
      IsQuotedBody (c :: t)
  | escape {c : Char} {t : Text} (hline : c ≠ '\n') (h : IsQuotedBody t) :
      IsQuotedBody ('\\' :: c :: t)

/-- A word that is read as it is written: a run of characters without blanks and quotes, or
a complete double-quoted word. -/
inductive IsWord : Text → Prop
  | bare {word : Text} (hne : word ≠ [])
      (h : ∀ c ∈ word, isBlank c = false ∧ isQuote c = false) : IsWord word
  | quoted {body : Text} (h : IsQuotedBody body) : IsWord ('"' :: (body ++ ['"']))

variable {word body rest : Text}

theorem IsQuotedBody.isGroupBody (h : IsQuotedBody body) : IsGroupBody '"' body := by
  induction h with
  | nil => exact .nil
  | plain hquote hbackslash h ih => exact .plain hquote hbackslash ih
  | escape hline h ih => exact .escape hline ih

theorem IsWord.exists_cons (h : IsWord word) :
    ∃ c t, word = c :: t ∧ isBlank c = false := by
  cases h with
  | bare hne hplain =>
    obtain ⟨c, t, rfl⟩ := List.exists_cons_of_ne_nil hne
    exact ⟨c, t, rfl, (hplain c List.mem_cons_self).1⟩
  | quoted hbody => exact ⟨_, _, rfl, by decide⟩

/-- A word is read up to a blank or the end of the text. -/
theorem IsWord.readWord_append (h : IsWord word) (hrest : ∀ c ∈ rest.head?, isBlank c = true) :
    readWord (word ++ rest) = (word, rest) := by
  cases h with
  | bare hne hplain =>
    refine readWord_of_run ?_ (fun c hc => (hplain c hc).1) hrest
    rintro group ⟨quote, body, hquote, -, rfl⟩ hprefix
    obtain ⟨c, t, rfl⟩ := List.exists_cons_of_ne_nil hne
    obtain ⟨rfl, -⟩ := List.cons_prefix_cons.1 hprefix
    simp [(hplain quote List.mem_cons_self).2] at hquote
  | quoted hbody => exact readWord_of_group ⟨'"', _, rfl, hbody.isGroupBody, rfl⟩

theorem splitSentence_append_of_blank {lead : Text} (hlead : ∀ c ∈ lead, isBlank c = true)
    (t : Text) : splitSentence (lead ++ t) = splitSentence t := by
  have htrim := trimStart_append_of_blank hlead t
  cases hstart : trimStart t with
  | nil => rw [splitSentence_of_blank (htrim.trans hstart), splitSentence_of_blank hstart]
  | cons d u => rw [splitSentence_of_cons (htrim.trans hstart), splitSentence_of_cons hstart]

theorem splitSentence_append (h : IsWord word) (hrest : ∀ c ∈ rest.head?, isBlank c = true) :
    splitSentence (word ++ rest) = word :: splitSentence rest := by
  have hread := h.readWord_append hrest
  obtain ⟨c, t, rfl, hc⟩ := h.exists_cons
  rw [List.cons_append] at hread ⊢
  rw [splitSentence_of_cons (trimStart_of_head hc _), hread]

theorem splitSentence_intercalate {words : List Text} (h : ∀ word ∈ words, IsWord word) :
    splitSentence ([' '].intercalate words) = words := by
  induction words with
  | nil => exact splitSentence_of_blank rfl
  | cons first others ih =>
    have hfirst := h first List.mem_cons_self
    have hlater := ih fun word hmem => h word (List.mem_cons_of_mem first hmem)
    cases others with
    | nil =>
      have hend : splitSentence (first ++ []) = _ := splitSentence_append hfirst (by simp)
      rw [List.append_nil, splitSentence_of_blank trimStart_nil] at hend
      rw [List.intercalate_singleton, hend]
    | cons second others =>
      rw [List.intercalate_cons_cons, List.append_assoc,
        splitSentence_append hfirst (by simpa using isBlank_of_mem_space),
        splitSentence_append_of_blank isBlank_of_mem_space, hlater]

end Written

end FilterDialects.Text
