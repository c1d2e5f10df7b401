import FilterDialects.Text.Combining
import FilterDialects.Text.Unprintable

/-!
# Texts as messages show them

A message that names a text or a character puts it in quotes, double for a text and
single for a character. Inside, a backslash and the quote in use carry a backslash, four
control characters have a letter of their own, and every other character that is
unprintable or combining is given by its code point, as in `\u{200b}`.
-/

namespace FilterDialects.Text

/-- A character as a message in quotes of the kind `quote` shows it. -/
def showChar (quote c : Char) : Text :=
  if c = '\x00' then ['\\', '0']
  else if c = '\t' then ['\\', 't']
  else if c = '\r' then ['\\', 'r']
  else if c = '\n' then ['\\', 'n']
  else if c = '\\' ∨ c = quote then ['\\', c]
  else if isCombining c || isUnprintable c then
    "\\u\x7b".toList ++ Nat.toDigits 16 c.toNat ++ "\x7d".toList
  else [c]

/-- A text in double quotes, for a message. -/
def shown (t : Text) : Text :=
  '"' :: t.flatMap (showChar '"') ++ ['"']

/-- A character in single quotes, for a message. -/
def shownChar (c : Char) : Text :=
  '\'' :: showChar '\'' c ++ ['\'']

def ofNat (n : Nat) : Text :=
  Nat.toDigits 10 n

end FilterDialects.Text
