import FilterDialects.SyntaxError

/-!
# Argument lists of AdGuard rules

An argument list is parenthesised and every argument in it is quoted, as in
`('set-constant', "it\"s", 'false')`. A small automaton reads it from left to right: it
is between arguments, inside a quoted argument, or past the final parenthesis.

Inside an argument the opening quote is written with a backslash before it; every other
character stands for itself, backslashes included. Between arguments only spaces,
commas and parentheses may stand, in any number, and the last character of the text has
to be a closing parenthesis.
-/

namespace FilterDialects.ArgumentList

/-- Where the reader of an argument list is. -/
inductive State where
  /-- Between two arguments. -/
  | between
  /-- Inside an argument: its quote, and what it holds so far, last character first. -/
  | quoted (quote : Char) (held : Text)
  /-- Behind the final parenthesis. -/
  | closed
  deriving DecidableEq

/-- Read the rest of an argument list from a state. The number is the byte offset of the
rest in the whole text. -/
def read : State → Nat → Text → Except SyntaxError (List Text)
  | .between, _, [] => .error .notClosed
  | .quoted _ _, _, [] => .error .unterminatedQuote
  | .closed, _, [] => .ok []
  | .between, offset, c :: t =>
    if c = ' ' ∨ c = '(' ∨ c = ',' then read .between (offset + c.utf8Size) t
    else if Text.isQuote c then read (.quoted c []) (offset + c.utf8Size) t
    else if c = ')' then
      read (if t = [] then .closed else .between) (offset + c.utf8Size) t
    else .error (.unexpectedCharacter c offset)
  | .quoted quote held, offset, c :: t =>
    if c = quote then
      match held with
      | '\\' :: earlier => read (.quoted quote (c :: earlier)) (offset + c.utf8Size) t
      | _ => (read .between (offset + c.utf8Size) t).map (held.reverse :: ·)
    else read (.quoted quote (c :: held)) (offset + c.utf8Size) t
  | .closed, offset, c :: _ => .error (.unexpectedCharacter c offset)

/-- The arguments of an argument list, without their quotes. -/
def parse (t : Text) : Except SyntaxError (List Text) :=
  read .between 0 t

end FilterDialects.ArgumentList
