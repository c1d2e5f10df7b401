import FilterDialects.Text.Basic

/-!
# Blanks

A blank is a character with the Unicode property White_Space. Names, arguments and
modifiers are trimmed of blanks, and words are the maximal runs between them.

The no-break space and the ideographic space are blanks; the zero-width space, the
byte order mark and the separators U+001C to U+001F are not.
-/

namespace FilterDialects.Text

/-- The code points with the property White_Space. -/
def blankRanges : List (Nat × Nat) :=
  [(0x9, 0xd), (0x20, 0x20), (0x85, 0x85), (0xa0, 0xa0), (0x1680, 0x1680), (0x2000, 0x200a),
   (0x2028, 0x2029), (0x202f, 0x202f), (0x205f, 0x205f), (0x3000, 0x3000)]

def isBlank (c : Char) : Bool :=
  inRanges blankRanges c

def trimStart (t : Text) : Text :=
  t.dropWhile isBlank

def trimEnd : Text → Text
  | [] => []
  | c :: t =>
    match trimEnd t with
    | [] => if isBlank c then [] else [c]
    | kept => c :: kept

def trim (t : Text) : Text :=
  trimEnd (trimStart t)

/-- The maximal runs of characters other than blanks, in order. -/
def words (t : Text) : List Text :=
  (t.splitOnP isBlank).filter (· ≠ [])

@[simp] theorem trimStart_nil : trimStart [] = [] := rfl

@[simp] theorem trimEnd_nil : trimEnd [] = [] := rfl

@[simp] theorem trim_nil : trim [] = [] := rfl

@[simp] theorem words_nil : words [] = [] := by simp [words]

theorem trimStart_cons (c : Char) (t : Text) :
    trimStart (c :: t) = if isBlank c then trimStart t else c :: t := by
  simp only [trimStart, List.dropWhile_cons]

theorem trimStart_length_le (t : Text) : (trimStart t).length ≤ t.length :=
  (List.dropWhile_suffix isBlank).length_le

theorem trimStart_of_head {c : Char} (h : isBlank c = false) (t : Text) :
    trimStart (c :: t) = c :: t := by
  simp [trimStart_cons, h]

theorem isBlank_of_trimStart {t u : Text} {c : Char} (h : trimStart t = c :: u) :
    isBlank c = false := by
  induction t with
  | nil => simp at h
  | cons d t ih =>
    rw [trimStart_cons] at h
    split at h
    · exact ih h
    · simp_all

end FilterDialects.Text
