import FilterDialects.Css.Lexer
import FilterDialects.SyntaxError

/-!
# Selectors that stay inside their rule

A selector that is embedded in a rule must not be able to end it, open a block of
declarations or comment out what follows. Only its tokens are looked at; whether they
make a selector is left to whoever applies the rule.

The check reads a row of tokens up to the one that closes it, and reads what a function
or a bracket opens in between in the same way. A block that is still open at the end of
the text passes.
-/

namespace FilterDialects.Selector

/-- The delimiters that stand between the parts of a selector. -/
def delimiters : List Char := ['.', '*', '>', '+', '~', '|', '=', '&']

/-- Whether a token may stand in a selector, unless it closes the bracket that it stands
in. Strings, addresses and other delimiters may only inside of brackets. -/
def isAllowed (nested : Bool) : Css.Token → Bool
  | .comment | .badString | .badUrl | .openCurly | .closeCurly | .closeRound | .closeSquare
  | .semicolon | .atKeyword | .commentOpen | .commentClose => false
  | .delim c => nested || delimiters.contains c
  | .string | .url => nested
  | _ => true

/-- Read tokens up to and with `closer`, or all of them when there is none. The result is
the tokens after it; there is none when a token on the way is not allowed. -/
def readBlock? (closer : Option Css.Token) (tokens : List Css.Token) :
    Option { rest : List Css.Token // rest.length ≤ tokens.length } :=
  match tokens with
  | [] => some ⟨[], Nat.le_refl _⟩
  | token :: tokens =>
    if closer = some token then some ⟨tokens, by simp⟩
    else if isAllowed closer.isSome token then
      match token.closer? with
      | some inner =>
        match readBlock? (some inner) tokens with
        | none => none
        | some ⟨rest, _⟩ =>
          match readBlock? closer rest with
          | none => none
          | some ⟨rest', _⟩ => some ⟨rest', by simp only [List.length_cons]; omega⟩
      | none =>
        match readBlock? closer tokens with
        | none => none
        | some ⟨rest, _⟩ => some ⟨rest, by simp only [List.length_cons]; omega⟩
    else none
termination_by tokens.length

def isValid (t : Text) : Bool :=
  (readBlock? none (Css.tokens t)).isSome

end FilterDialects.Selector

namespace FilterDialects

/-- Refuse a text that cannot be embedded as a selector. -/
def checkSelector (t : Text) : Except SyntaxError Unit :=
  if Selector.isValid t then .ok () else .error (.invalidSelector t)

end FilterDialects
