import FilterDialects.Text.Hex

/-!
# JSON values

A value as its text spells it. A string is kept as units, since an escape may give half
of a surrogate pair: such a string is well formed, but it is a text only when its halves
come in pairs. Members of an object stay in order and may repeat a key; a number keeps
its spelling.
-/

namespace FilterDialects.Json

/-- An element of a string. -/
inductive StringUnit where
  /-- A character. -/
  | char (c : Char)
  /-- Half of a surrogate pair, counted from U+D800. -/
  | surrogate (half : Fin 2048)
  deriving DecidableEq

inductive Value where
  | null
  | bool (b : Bool)
  | number (spelling : Text)
  | string (units : List StringUnit)
  | array (elements : List Value)
  | object (members : List (List StringUnit × Value))

namespace StringUnit

/-- The unit with a code point below U+10000. -/
def ofCode (n : Nat) : StringUnit :=
  if h : 0xd800 ≤ n ∧ n < 0xe000 then surrogate ⟨n - 0xd800, by omega⟩ else char (Char.ofNat n)

/-- The character that two surrogate halves make, high half first. -/
def pair (high low : Fin 2048) : Char :=
  Char.ofNat (0x10000 + high.val * 0x400 + (low.val - 0x400))

/-- The text that units spell; there is none when a surrogate half has no partner. -/
def text? : List StringUnit → Option Text
  | [] => some []
  | char c :: units => (text? units).map (c :: ·)
  | surrogate high :: surrogate low :: units =>
    if high.val < 0x400 ∧ 0x400 ≤ low.val then (text? units).map (pair high low :: ·) else none
  | surrogate _ :: _ => none

@[simp] theorem text?_map_char (t : Text) : text? (t.map char) = some t := by
  induction t with
  | nil => rfl
  | cons c t ih => simp [text?, ih]

end StringUnit

namespace Value

def text? : Value → Option Text
  | string units => StringUnit.text? units
  | _ => none

/-- The text of a string, or nothing for null. -/
def optionalText? : Value → Option (Option Text)
  | null => some none
  | value => value.text?.map some

def elements? : Value → Option (List Value)
  | array elements => some elements
  | _ => none

end Value

/-- The members of an object under the texts of their keys. -/
def textMembers? : List (List StringUnit × Value) → Option (List (Text × Value))
  | [] => some []
  | (key, value) :: members =>
    match StringUnit.text? key, textMembers? members with
    | some name, some named => some ((name, value) :: named)
    | _, _ => none

/-- The member with a name, if there is one. A name that repeats is refused. -/
def member? (name : Text) (members : List (Text × Value)) : Option (Option Value) :=
  match members.filter (·.1 = name) with
  | [] => some none
  | [member] => some (some member.2)
  | _ :: _ :: _ => none

end FilterDialects.Json
