import FilterDialects.Text.Basic

/-!
# Hexadecimal digits

Escapes give a character by its code point in hexadecimal digits, in either case.
-/

namespace FilterDialects.Text

def isHexDigit (c : Char) : Bool :=
  c.isDigit || ('a'.toNat ≤ c.toNat && c.toNat ≤ 'f'.toNat) ||
    ('A'.toNat ≤ c.toNat && c.toNat ≤ 'F'.toNat)

def hexDigitValue (c : Char) : Nat :=
  if c.isDigit then c.toNat - '0'.toNat
  else if 'a'.toNat ≤ c.toNat then c.toNat - 'a'.toNat + 10
  else c.toNat - 'A'.toNat + 10

def hexValue (digits : Text) : Nat :=
  digits.foldl (fun value c => 16 * value + hexDigitValue c) 0

@[simp] theorem hexValue_nil : hexValue [] = 0 := rfl

end FilterDialects.Text
