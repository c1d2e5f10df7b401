/-!
# Tokens of style sheets

The kinds of token that the text of a style sheet consists of. Only what a token is
matters here, not what it spells, so names, strings and numbers carry no content; a
delimiter is the one kind that does.
-/

namespace FilterDialects.Css

inductive Token where
  /-- A run of blanks. -/
  | whitespace
  /-- A comment, closed or not. -/
  | comment
  /-- A name. -/
  | ident
  /-- A name with the parenthesis that opens its arguments. -/
  | function
  /-- A name behind an `@`. -/
  | atKeyword
  /-- A name behind a `#`. -/
  | hash
  /-- A quoted string. -/
  | string
  /-- A quoted string that a line break cut off. -/
  | badString
  /-- An address without quotes. -/
  | url
  /-- An address without quotes that holds what it must not. -/
  | badUrl
  /-- A number without a unit. -/
  | number
  /-- A number with a percent sign. -/
  | percentage
  /-- A number with a unit. -/
  | dimension
  /-- An operator that compares attributes, such as `^=`. -/
  | matchOperator
  /-- The opening of a markup comment. -/
  | commentOpen
  /-- The closing of a markup comment. -/
  | commentClose
  | colon
  | semicolon
  | comma
  | openRound
  | closeRound
  | openSquare
  | closeSquare
  | openCurly
  | closeCurly
  /-- Any other character. -/
  | delim (c : Char)
  deriving DecidableEq

namespace Token

/-- The token that closes what a token opens. -/
def closer? : Token → Option Token
  | function | openRound => some closeRound
  | openSquare => some closeSquare
  | openCurly => some closeCurly
  | _ => none

/-- The token that a single character makes where no longer token starts. -/
def ofChar : Char → Token
  | ':' => colon
  | ';' => semicolon
  | ',' => comma
  | '(' => openRound
  | ')' => closeRound
  | '[' => openSquare
  | ']' => closeSquare
  | '{' => openCurly
  | '}' => closeCurly
  | c => delim c

end Token

end FilterDialects.Css
