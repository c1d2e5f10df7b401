import FilterDialects.Text.Basic

/-!
# Writing JSON

The compact form: no blanks, short escapes where there are any, other control characters
by their code point, and every other character as it is. Arrays and objects are put
together from parts that are written already.
-/

namespace FilterDialects.Json

def escapeChar (c : Char) : Text :=
  if c = '"' then ['\\', '"']
  else if c = '\\' then ['\\', '\\']
  else if c = '\x08' then ['\\', 'b']
  else if c = '\x0c' then ['\\', 'f']
  else if c = '\n' then ['\\', 'n']
  else if c = '\r' then ['\\', 'r']
  else if c = '\t' then ['\\', 't']
  else if c.toNat < 0x20 then
    ['\\', 'u', '0', '0', Nat.digitChar (c.toNat / 16), Nat.digitChar (c.toNat % 16)]
  else [c]

def writeText (t : Text) : Text :=
  '"' :: t.flatMap escapeChar ++ ['"']

def writeArray (elements : List Text) : Text :=
  '[' :: [','].intercalate elements ++ [']']

def writeObject (members : List (Text × Text)) : Text :=
  '{' :: [','].intercalate (members.map fun member => writeText member.1 ++ ':' :: member.2) ++
    ['}']

end FilterDialects.Json
