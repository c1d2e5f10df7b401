import FilterDialects.Text.Basic

/-!
# Patterns with backtracking

A pattern says how to read the front of a text. Where it leaves a choice, one way is preferred:
the first of two patterns to the second, and one more repetition to none. The ways to read a
pattern are listed in this order, and what a pattern reads is the first way that lets all of it
be read. A search takes the leftmost place where something can be read, and goes on behind it.
-/

namespace FilterDialects.Text

/-- A pattern of characters. -/
inductive Pattern where
  /-- One character of a class. -/
  | char (accepts : Char → Bool)
  /-- One pattern behind the other. -/
  | andThen (first second : Pattern)
  /-- The first of two patterns, or else the second. -/
  | orElse (first second : Pattern)
  /-- A pattern any number of times, as often as possible. -/
  | many (p : Pattern)

namespace Pattern

/-- Read on behind everything that was read so far, in the same order. -/
def continued (found : List (Text × Text)) (next : Text → List (Text × Text)) :
    List (Text × Text) :=
  found.flatMap fun (read, rest) => (next rest).map fun (more, rest) => (read ++ more, rest)

/-- The ways to read a pattern at the front of a text, the preferred ones first. Each is what
was read and the rest. A repetition has to read something. -/
def ways : Pattern → Text → List (Text × Text)
  | .char _, [] => []
  | .char accepts, c :: t => if accepts c then [([c], t)] else []
  | .andThen p q, t => continued (ways p t) fun rest => ways q rest
  | .orElse p q, t => ways p t ++ ways q t
  | .many p, t =>
    continued (ways p t) (fun rest => if rest.length < t.length then ways (.many p) rest else []) ++
      [([], t)]
termination_by p t => (sizeOf p, t.length)

/-- What a pattern reads at the front of a text, and the rest. -/
def first? (p : Pattern) (t : Text) : Option (Text × Text) :=
  (ways p t).head?

/-- All that a pattern reads in a text, from left to right. It is meant for patterns that read
at least one character. -/
def findAll (p : Pattern) (t : Text) : List Text :=
  match cut? p.first? t with
  | none => []
  | some (_, read, rest) => read :: if rest.length < t.length then findAll p rest else []
termination_by t.length

variable {p q : Pattern} {t : Text} {found later : List (Text × Text)}
  {next after : Text → List (Text × Text)}

@[simp] theorem continued_nil : continued [] next = [] := rfl

@[simp] theorem continued_singleton (read rest : Text) :
    continued [(read, rest)] next =
      (next rest).map fun (more, rest) => (read ++ more, rest) := by
  simp [continued]

theorem continued_append :
    continued (found ++ later) next = continued found next ++ continued later next :=
  List.flatMap_append

theorem continued_continued :
    continued (continued found next) after =
      continued found fun rest => continued (next rest) after := by
  simp [continued, List.flatMap_assoc, List.flatMap_map, List.map_flatMap, Function.comp_def]

theorem ways_char (accepts : Char → Bool) (c : Char) (t : Text) :
    ways (.char accepts) (c :: t) = if accepts c then [([c], t)] else [] := by
  rw [ways]

@[simp] theorem ways_char_nil (accepts : Char → Bool) : ways (.char accepts) [] = [] := by
  rw [ways]

theorem ways_andThen : ways (.andThen p q) t = continued (ways p t) (ways q) := by
  rw [ways]

theorem ways_orElse : ways (.orElse p q) t = ways p t ++ ways q t := by
  rw [ways]

theorem ways_many :
    ways (.many p) t =
      continued (ways p t)
        (fun rest => if rest.length < t.length then ways (.many p) rest else []) ++ [([], t)] := by
  rw [ways]

/-- A repetition before another pattern is read once more, or else that pattern. -/
theorem ways_many_andThen :
    ways (.andThen (.many p) q) t =
      continued (ways p t)
        (fun rest => if rest.length < t.length then ways (.andThen (.many p) q) rest else []) ++
        ways q t := by
  rw [ways_andThen, ways_many, continued_append, continued_continued]
  congr 1
  · congr 1
    funext rest
    split
    · rw [ways_andThen]
    · rfl
  · simp

theorem findAll_of_none (h : cut? p.first? t = none) : findAll p t = [] := by
  rw [findAll, h]

theorem findAll_of_some {before : Text} {word : Text × Text}
    (h : cut? p.first? t = some (before, word)) (hlength : word.2.length < t.length) :
    findAll p t = word.1 :: findAll p word.2 := by
  rw [findAll, h]
  simp only [if_pos hlength]

end Pattern

end FilterDialects.Text
