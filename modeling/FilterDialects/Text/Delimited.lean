import FilterDialects.Text.Blank

/-!
# Delimited lists

Two dialects write lists without quoting every element. In the first form a delimiter
inside an element carries a backslash; `escapeDelimiter` writes such an element and
`splitUnescaped` reads the list, trimming each element. In the second form an element
may hold double-quoted sections, and `splitOutsideQuotes` cuts only outside of them.

Backslashes are not escaped themselves, so an element that ends in one swallows the
delimiter after it.
-/

namespace FilterDialects.Text

/-- The pieces of a text between the delimiters without a backslash. A backslash before
a delimiter is dropped and the delimiter belongs to the piece. -/
def piecesUnescaped (d : Char) : Text → List Text
  | [] => [[]]
  | [c] => if c = d then [[], []] else [[c]]
  | c :: next :: t =>
    if c = '\\' ∧ next = d then (piecesUnescaped d t).modifyHead (d :: ·)
    else if c = d then [] :: piecesUnescaped d (next :: t)
    else (piecesUnescaped d (next :: t)).modifyHead (c :: ·)

/-- Split a text on every delimiter that has no backslash before it, and trim the
pieces. -/
def splitUnescaped (d : Char) (t : Text) : List Text :=
  (piecesUnescaped d t).map trim

/-- Write one element of a delimited list: a backslash goes before each delimiter. -/
def escapeDelimiter (d : Char) (t : Text) : Text :=
  t.flatMap fun c => if c = d then ['\\', c] else [c]

/-- Cut a text at the delimiters with an even number of double quotes after them, where
`quotesAhead` is the number of double quotes that the text holds. -/
def splitEvenQuotes (d : Char) : Nat → Text → List Text
  | _, [] => [[]]
  | quotesAhead, c :: t =>
    if c = '"' then (splitEvenQuotes d (quotesAhead - 1) t).modifyHead (c :: ·)
    else if c = d ∧ quotesAhead % 2 = 0 then [] :: splitEvenQuotes d quotesAhead t
    else (splitEvenQuotes d quotesAhead t).modifyHead (c :: ·)

/-- Split a text on every delimiter outside of double-quoted sections, that is on every
delimiter followed by an even number of double quotes. -/
def splitOutsideQuotes (d : Char) (t : Text) : List Text :=
  splitEvenQuotes d (t.count '"') t

@[simp] theorem escapeDelimiter_nil (d : Char) : escapeDelimiter d [] = [] := rfl

@[simp] theorem escapeDelimiter_cons (d c : Char) (t : Text) :
    escapeDelimiter d (c :: t) =
      (if c = d then ['\\', c] else [c]) ++ escapeDelimiter d t := by
  simp [escapeDelimiter]

theorem escapeDelimiter_of_notMem {d : Char} {t : Text} (h : d ∉ t) :
    escapeDelimiter d t = t := by
  induction t with
  | nil => rfl
  | cons c t ih =>
    have hc : c ≠ d := fun hcd => h (by simp [hcd])
    have ht : d ∉ t := fun hd => h (List.mem_cons_of_mem c hd)
    simp [hc, ih ht]

theorem splitEvenQuotes_ne_nil (d : Char) (quotesAhead : Nat) (t : Text) :
    splitEvenQuotes d quotesAhead t ≠ [] := by
  induction t generalizing quotesAhead with
  | nil => simp [splitEvenQuotes]
  | cons c t ih =>
    simp only [splitEvenQuotes]
    split
    · simpa using ih (quotesAhead - 1)
    · split
      · simp
      · simpa using ih quotesAhead

theorem piecesUnescaped_ne_nil (d : Char) (t : Text) : piecesUnescaped d t ≠ [] := by
  fun_induction piecesUnescaped d t <;> simp_all

end FilterDialects.Text
