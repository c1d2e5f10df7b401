import FilterDialects.Text.Basic

/-!
# Priorities of redirect resources

uBlock Origin lets a redirect resource carry a priority behind a colon, as in
`noop.js:10`. A priority is a decimal number of 32 bits with an optional sign. What
follows the last colon is part of the name when it is no such number.
-/

namespace FilterDialects.Priority

/-- The value of a row of decimal digits. There is none when another character occurs. -/
def digitsValue? : Nat → Text → Option Nat
  | value, [] => some value
  | value, c :: t =>
    if c.isDigit then digitsValue? (10 * value + (c.toNat - '0'.toNat)) t else none

/-- The natural number that a text spells in decimal digits, of which there is at least
one. -/
def natural? (t : Text) : Option Nat :=
  if t = [] then none else digitsValue? 0 t

/-- The integer that a text spells: decimal digits after an optional sign. -/
def integer? : Text → Option Int
  | '-' :: digits => (natural? digits).map fun n => -(n : Int)
  | '+' :: digits => (natural? digits).map fun n => (n : Int)
  | digits => (natural? digits).map fun n => (n : Int)

/-- The least positive number that is not an integer of 32 bits. -/
def limit : Int := 2147483648

/-- The priority that a text spells: an integer of 32 bits. -/
def parse? (t : Text) : Option Int :=
  (integer? t).filter fun n => decide (-limit ≤ n) && decide (n < limit)

def split (resource : Text) : Text × Option Int :=
  match Text.cutLast? ':' resource with
  | none => (resource, none)
  | some (name, tail) =>
    match parse? tail with
    | none => (resource, none)
    | some priority => (name, some priority)

/-- Without a priority the whole resource is the name. -/
theorem split_of_none {resource : Text} (h : (split resource).2 = none) :
    split resource = (resource, none) := by
  simp only [split] at h ⊢
  split <;> simp_all
  split <;> simp_all

end FilterDialects.Priority
