/-!
# Texts and how they are cut

A rule of a filter list is read as the list of its characters. The two cuts of this
module serve every reader above it: `cut?` takes the leftmost position where
something can be read, `cutLast?` the last occurrence of one character.

Both keep everything: a cut gives the text before the position and what follows it,
so a reader never has to count characters.
-/

namespace FilterDialects

/-- A text, as its characters in order. -/
abbrev Text := List Char

/-- Texts are hashed character by character. -/
instance (priority := high) : Hashable Text := @instHashableList Char instHashableChar

namespace Text

/-- Whether the code point of `c` lies in one of the inclusive `ranges`. -/
def inRanges (ranges : List (Nat × Nat)) (c : Char) : Bool :=
  ranges.any fun range => decide (range.1 ≤ c.toNat) && decide (c.toNat ≤ range.2)

/-- Cut a text at the leftmost position where `read?` reads something. The result is
the text before that position and what was read there. -/
def cut? {α : Type} (read? : Text → Option α) : Text → Option (Text × α)
  | [] => (read? []).map fun found => ([], found)
  | c :: t =>
    match read? (c :: t) with
    | some found => some ([], found)
    | none => (cut? read? t).map fun cut => (c :: cut.1, cut.2)

/-- Cut a text around its leftmost occurrence of `mask`. -/
def cutMask? (mask t : Text) : Option (Text × Text) :=
  cut? mask.isPrefixOf? t

def containsMask (t mask : Text) : Bool :=
  (cutMask? mask t).isSome

def cutLast? (d : Char) : Text → Option (Text × Text)
  | [] => none
  | c :: t =>
    match cutLast? d t with
    | some (before, after) => some (c :: before, after)
    | none => if c = d then some ([], t) else none

theorem isPrefixOf?_eq_some {mask t rest : Text} :
    mask.isPrefixOf? t = some rest ↔ mask ++ rest = t := by
  induction mask generalizing t with
  | nil =>
    show some t = some rest ↔ rest = t
    rw [Option.some.injEq, eq_comm]
  | cons m mask ih =>
    cases t with
    | nil => exact iff_of_false nofun nofun
    | cons c t =>
      show (if m == c then mask.isPrefixOf? t else none) = some rest ↔ m :: (mask ++ rest) = c :: t
      by_cases hc : m = c
      · simp [hc, ih]
      · simp [hc]

theorem isSuffixOf?_eq_some {mask t rest : Text} :
    mask.isSuffixOf? t = some rest ↔ rest ++ mask = t := by
  show (mask.reverse.isPrefixOf? t.reverse).map List.reverse = some rest ↔ rest ++ mask = t
  rw [Option.map_eq_some_iff]
  simp only [isPrefixOf?_eq_some]
  constructor
  · rintro ⟨tser, htser, rfl⟩
    simpa using congrArg List.reverse htser
  · rintro rfl
    exact ⟨rest.reverse, by simp⟩

@[simp] theorem cutLast?_nil (d : Char) : cutLast? d [] = none := rfl

theorem cut?_cons_of_some {α : Type} {read? : Text → Option α} {c : Char} {t : Text} {found : α}
    (h : read? (c :: t) = some found) : cut? read? (c :: t) = some ([], found) := by
  simp [cut?, h]

theorem cut?_cons_of_none {α : Type} {read? : Text → Option α} {c : Char} {t : Text}
    (h : read? (c :: t) = none) :
    cut? read? (c :: t) = (cut? read? t).map fun cut => (c :: cut.1, cut.2) := by
  simp [cut?, h]

theorem append_of_cutLast? {d : Char} {t before after : Text}
    (h : cutLast? d t = some (before, after)) : before ++ d :: after = t := by
  induction t generalizing before after with
  | nil => simp at h
  | cons c t ih =>
    simp only [cutLast?] at h
    split at h
    · next b a hcut =>
      obtain ⟨rfl, rfl⟩ : c :: b = before ∧ a = after := by simpa using h
      simp [ih hcut]
    · split at h
      · next hc => simp_all
      · simp at h

end Text

end FilterDialects
