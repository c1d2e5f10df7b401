import FilterDialects.Text.Blank

/-!
# Sentences with quoted words

A sentence is a row of words. A word that starts with a quote and is closed by the same
quote is one word with all the blanks inside it; a backslash in it takes the next
character along, whatever that is, except a line break. Any other word, an unclosed
quote included, reaches up to the next blank.

Words keep their quotes and backslashes. Two words may touch, since a closed quote ends
its word even when no blank follows.
-/

namespace FilterDialects.Text

/-- Read up to and with the closing `quote`. The result is what was read and the rest;
there is none when the quote is not closed, or a backslash stands before a line break. -/
def readClosing? (quote : Char) : Text → Option (Text × Text)
  | [] => none
  | ['\\'] => none
  | '\\' :: c :: t =>
    if c = '\n' then none
    else (readClosing? quote t).map fun (read, rest) => ('\\' :: c :: read, rest)
  | c :: t =>
    if c = quote then some ([c], t)
    else (readClosing? quote t).map fun (read, rest) => (c :: read, rest)

/-- Read the quoted word at the front of a text, with its quotes, if there is a complete
one. -/
def readQuotedWord? : Text → Option (Text × Text)
  | [] => none
  | c :: t =>
    if c = '\'' ∨ c = '"' then
      (readClosing? c t).map fun (read, rest) => (c :: read, rest)
    else none

/-- Read the word at the front of a text: a complete quoted word, else all characters
before the next blank. -/
def readWord (t : Text) : Text × Text :=
  (readQuotedWord? t).getD (t.takeWhile (! isBlank ·), t.dropWhile (! isBlank ·))

theorem append_of_readClosing? {quote : Char} {t read rest : Text}
    (h : readClosing? quote t = some (read, rest)) : read ++ rest = t := by
  fun_induction readClosing? quote t generalizing read with
  | case1 | case2 | case3 => simp at h
  | case4 c t _ ih =>
    obtain ⟨⟨read', rest'⟩, hread, heq⟩ := Option.map_eq_some_iff.1 h
    obtain ⟨rfl, rfl⟩ : '\\' :: c :: read' = read ∧ rest' = rest := by simpa using heq
    simp [ih hread]
  | case5 =>
    obtain ⟨rfl, rfl⟩ : [quote] = read ∧ _ = rest := by simpa using h
    rfl
  | case6 c t _ _ _ ih =>
    obtain ⟨⟨read', rest'⟩, hread, heq⟩ := Option.map_eq_some_iff.1 h
    obtain ⟨rfl, rfl⟩ : c :: read' = read ∧ rest' = rest := by simpa using heq
    simp [ih hread]

theorem append_of_readQuotedWord? {t read rest : Text}
    (h : readQuotedWord? t = some (read, rest)) : read ++ rest = t ∧ read ≠ [] := by
  cases t with
  | nil => simp [readQuotedWord?] at h
  | cons c t =>
    simp only [readQuotedWord?] at h
    split at h
    · obtain ⟨⟨read', rest'⟩, hread, heq⟩ := Option.map_eq_some_iff.1 h
      obtain ⟨rfl, rfl⟩ : c :: read' = read ∧ rest' = rest := by simpa using heq
      simp [append_of_readClosing? hread]
    · simp at h

theorem readWord_append (t : Text) : (readWord t).1 ++ (readWord t).2 = t := by
  cases h : readQuotedWord? t with
  | none => simp [readWord, h]
  | some word => simpa [readWord, h] using (append_of_readQuotedWord? h).1

theorem readWord_ne_nil {c : Char} (hc : isBlank c = false) (t : Text) :
    (readWord (c :: t)).1 ≠ [] := by
  cases h : readQuotedWord? (c :: t) with
  | none => simp [readWord, h, hc]
  | some word => simpa [readWord, h] using (append_of_readQuotedWord? h).2

theorem readWord_rest_lt {t u : Text} {c : Char} (h : trimStart t = c :: u) :
    (readWord (c :: u)).2.length < t.length := by
  have hlen := congrArg List.length (readWord_append (c :: u))
  have hpos := List.length_pos_iff.2 (readWord_ne_nil (isBlank_of_trimStart h) u)
  have hle := trimStart_length_le t
  rw [h] at hle
  simp only [List.length_append] at hlen
  omega

def splitSentence (t : Text) : List Text :=
  match _h : trimStart t with
  | [] => []
  | c :: u => (readWord (c :: u)).1 :: splitSentence (readWord (c :: u)).2
termination_by t.length
decreasing_by exact readWord_rest_lt _h

theorem splitSentence_of_blank {t : Text} (h : trimStart t = []) : splitSentence t = [] := by
  rw [splitSentence]
  split <;> simp_all

/-- A sentence starts with its first word. -/
theorem splitSentence_of_cons {t u : Text} {c : Char} (h : trimStart t = c :: u) :
    splitSentence t = (readWord (c :: u)).1 :: splitSentence (readWord (c :: u)).2 := by
  rw [splitSentence]
  split <;> simp_all

end FilterDialects.Text
