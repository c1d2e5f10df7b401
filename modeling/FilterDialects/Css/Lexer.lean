import FilterDialects.Css.Token
import FilterDialects.Text.Hex
import FilterDialects.Text.Quote

/-!
# Reading the tokens of a style sheet

A text is cut into tokens from left to right, each as long as it can be. Every text has
tokens: a string, a comment or an address that is not closed reaches to the end of the
text, and a character that starts no token is a delimiter.

Names may hold escapes, a backslash with up to six hexadecimal digits and one blank, or
with any other character. An escape counts as a character of the name, so an escaped
spelling of `url` still opens an address.
-/

namespace FilterDialects.Css

def isNewline (c : Char) : Bool :=
  c = '\n' || c = '\r' || c = '\x0c'

def isSpace (c : Char) : Bool :=
  c = ' ' || c = '\t' || isNewline c

def isNameStart (c : Char) : Bool :=
  c.isAlpha || c = '_' || c = '\x00' || decide (128 ≤ c.toNat)

def isNameChar (c : Char) : Bool :=
  isNameStart c || c.isDigit || c = '-'

/-- What stands for a character that cannot be. -/
def replacement : Char := '\uFFFD'

/-- The character with a code point, if it is one that may be escaped. -/
def ofCodePoint (n : Nat) : Char :=
  if n ≠ 0 ∧ n.isValidChar then Char.ofNat n else replacement

/-- A character as it counts in a name. -/
def nameChar (c : Char) : Char :=
  if c = '\x00' then replacement else c

def startsWithNewline : Text → Bool
  | [] => false
  | c :: _ => isNewline c

/-- Drop the blank that may end an escape. -/
def dropSpace : Text → Text
  | [] => []
  | c :: t =>
    if c = '\r' ∧ t.head? = some '\n' then t.tail
    else if isSpace c then t
    else c :: t

/-- Read an escape from behind its backslash: the character it stands for, and the rest
of the text. -/
def readEscape (t : Text) : Char × Text :=
  match (t.take 6).takeWhile Text.isHexDigit with
  | [] =>
    match t with
    | [] => (replacement, [])
    | c :: rest => (nameChar c, rest)
  | digits => (ofCodePoint (Text.hexValue digits), dropSpace (t.drop digits.length))

theorem dropSpace_length_le (t : Text) : (dropSpace t).length ≤ t.length := by
  cases t with
  | nil => simp [dropSpace]
  | cons c t =>
    simp only [dropSpace]
    split
    · simp only [List.length_tail, List.length_cons]
      omega
    · split <;> simp

theorem readEscape_length_le (t : Text) : (readEscape t).2.length ≤ t.length := by
  simp only [readEscape]
  split
  · cases t <;> simp
  · refine Nat.le_trans (dropSpace_length_le _) ?_
    simp

/-- Read the name at the front of a text, its escapes resolved. -/
def readName : Text → Text × Text
  | [] => ([], [])
  | c :: t =>
    if isNameChar c then
      (nameChar c :: (readName t).1, (readName t).2)
    else if c = '\\' ∧ startsWithNewline t = false then
      have := readEscape_length_le t
      ((readEscape t).1 :: (readName (readEscape t).2).1, (readName (readEscape t).2).2)
    else ([], c :: t)
termination_by t => t.length

theorem readName_length_le (t : Text) : (readName t).2.length ≤ t.length := by
  fun_induction readName t with
  | case1 => simp
  | case2 c t _ ih => simpa using Nat.le_succ_of_le ih
  | case3 c t _ _ hle ih =>
    simp only [List.length_cons]
    omega
  | case4 => simp

/-- Whether a text starts with a name. A hyphen starts one only together with a letter,
another hyphen or a backslash. -/
def startsName : Text → Bool
  | [] => false
  | ['-'] => false
  | '-' :: c :: _ => isNameStart c || c = '-' || c = '\\'
  | '\\' :: t => !startsWithNewline t
  | c :: _ => isNameStart c

theorem readName_length_le_of_startsName {c : Char} {t : Text}
    (h : startsName (c :: t) = true) : (readName (c :: t)).2.length ≤ t.length := by
  rw [readName]
  split
  · exact readName_length_le t
  · split
    · exact Nat.le_trans (readName_length_le _) (readEscape_length_le t)
    · next hname hescape =>
      exfalso
      simp only [startsName] at h
      split at h <;> simp_all [isNameChar]

def startsNumber : Text → Bool
  | [] => false
  | [c] => c.isDigit
  | c :: d :: _ => c.isDigit || (c = '.' && d.isDigit)

def dropDigits (t : Text) : Text :=
  t.dropWhile Char.isDigit

def dropFraction : Text → Text
  | '.' :: d :: t => if d.isDigit then dropDigits t else '.' :: d :: t
  | t => t

/-- Drop a sign that a digit follows. -/
def dropSign : Text → Text
  | [] => []
  | c :: t => if (c = '+' || c = '-') && (t.head?.any Char.isDigit) then t else c :: t

def dropExponent : Text → Text
  | [] => []
  | c :: t =>
    if (c = 'e' || c = 'E') && (dropSign t).head?.any Char.isDigit then dropDigits (dropSign t)
    else c :: t

/-- Read a number without a sign at the front of a text, with its unit. -/
def readNumber (t : Text) : Token × Text :=
  let rest := dropExponent (dropFraction (dropDigits t))
  if rest.head? = some '%' then (.percentage, rest.tail)
  else if startsName rest then (.dimension, (readName rest).2)
  else (.number, rest)

def readString (quote : Char) : Text → Token × Text
  | [] => (.string, [])
  | c :: t =>
    if isNewline c then (.badString, c :: t)
    else if c = quote then (.string, t)
    else if c = '\\' then
      if t = [] then (.string, [])
      else if startsWithNewline t then
        have := dropSpace_length_le t
        readString quote (dropSpace t)
      else
        have := readEscape_length_le t
        readString quote (readEscape t).2
    else readString quote t
termination_by t => t.length

def dropComment : Text → Text
  | [] => []
  | [_] => []
  | c :: d :: t => if c = '*' ∧ d = '/' then t else dropComment (d :: t)

/-- Drop the rest of a bad address up to and with its parenthesis. A parenthesis or a
backslash behind a backslash is part of it. -/
def dropBadUrl : Text → Text
  | [] => []
  | [_] => []
  | c :: d :: t =>
    if c = ')' then d :: t
    else if c = '\\' ∧ (d = ')' ∨ d = '\\') then dropBadUrl t
    else dropBadUrl (d :: t)

/-- Read the end of an address from behind its blanks, where only a parenthesis may
stand. -/
def readUrlEnd : Text → Token × Text
  | [] => (.url, [])
  | c :: t =>
    if c = ')' then (.url, t)
    else if isSpace c then readUrlEnd t
    else (.badUrl, dropBadUrl t)

/-- Whether a character has no place in an address without quotes. -/
def isBadInUrl (c : Char) : Bool :=
  Text.isQuote c || c = '(' || (1 ≤ c.toNat && c.toNat ≤ 8) || c = '\x0b' ||
    (0xe ≤ c.toNat && c.toNat ≤ 0x1f) || c = '\x7f'

/-- Read an address without quotes, from behind the blanks before it. -/
def readUrl : Text → Token × Text
  | [] => (.url, [])
  | c :: t =>
    if c = ')' then (.url, t)
    else if isSpace c then readUrlEnd t
    else if isBadInUrl c then (.badUrl, dropBadUrl t)
    else if c = '\\' then
      if startsWithNewline t then (.badUrl, dropBadUrl t)
      else
        have := readEscape_length_le t
        readUrl (readEscape t).2
    else readUrl t
termination_by t => t.length

/-- Read on from behind `url(`. An address in quotes is an argument of a function. -/
def readUrlArgument (t : Text) : Token × Text :=
  let rest := t.dropWhile isSpace
  if rest.head?.any Text.isQuote then (.function, t) else readUrl rest

/-- Read a name, the function that it opens, or an address. -/
def readIdent (t : Text) : Token × Text :=
  let name := readName t
  if name.2.head? = some '(' then
    if name.1.map Char.toLower = "url".toList then readUrlArgument name.2.tail
    else (.function, name.2.tail)
  else (.ident, name.2)

def readToken (c : Char) (t : Text) : Token × Text :=
  if isSpace c then (.whitespace, t.dropWhile isSpace)
  else if Text.isQuote c then readString c t
  else if c = '#' then
    if startsName t || t.head?.any (fun d => d.isDigit || d = '-') then (.hash, (readName t).2)
    else (.delim c, t)
  else if (c = '+' || c = '-') && startsNumber t then readNumber t
  else if startsNumber (c :: t) then readNumber (c :: t)
  else if c = '-' ∧ ['-', '>'].isPrefixOf t then (.commentClose, t.drop 2)
  else if c = '<' ∧ ['!', '-', '-'].isPrefixOf t then (.commentOpen, t.drop 3)
  else if c = '/' ∧ t.head? = some '*' then (.comment, dropComment t.tail)
  else if c = '@' ∧ startsName t then (.atKeyword, (readName t).2)
  else if "$*^|~".toList.contains c && t.head? == some '=' then (.matchOperator, t.tail)
  else if startsName (c :: t) then readIdent (c :: t)
  else (.ofChar c, t)

theorem dropDigits_length_le (t : Text) : (dropDigits t).length ≤ t.length :=
  (List.dropWhile_suffix _).length_le

theorem dropFraction_length_le (t : Text) : (dropFraction t).length ≤ t.length := by
  fun_cases dropFraction t with
  | case1 d t => exact Nat.le_trans (dropDigits_length_le t) (by simp only [List.length_cons]; omega)
  | case2 => simp
  | case3 => simp

theorem dropSign_length_le (t : Text) : (dropSign t).length ≤ t.length := by
  cases t with
  | nil => simp [dropSign]
  | cons c t => simp only [dropSign]; split <;> simp

theorem dropExponent_length_le (t : Text) : (dropExponent t).length ≤ t.length := by
  cases t with
  | nil => simp [dropExponent]
  | cons c t =>
    simp only [dropExponent]
    split
    · exact Nat.le_trans (Nat.le_trans (dropDigits_length_le _) (dropSign_length_le t)) (by simp)
    · simp

/-- What follows the digits, the fraction and the exponent bounds what follows the whole
number. -/
theorem readNumber_length_le_rest (t : Text) :
    (readNumber t).2.length ≤ (dropFraction (dropDigits t)).length := by
  simp only [readNumber]
  have hle := dropExponent_length_le (dropFraction (dropDigits t))
  split
  · simp only [List.length_tail]
    omega
  · split
    · exact Nat.le_trans (readName_length_le _) hle
    · exact hle

theorem readNumber_length_le (t : Text) : (readNumber t).2.length ≤ t.length :=
  Nat.le_trans (readNumber_length_le_rest t)
    (Nat.le_trans (dropFraction_length_le _) (dropDigits_length_le t))

theorem readNumber_length_le_of_startsNumber {c : Char} {t : Text}
    (h : startsNumber (c :: t) = true) : (readNumber (c :: t)).2.length ≤ t.length := by
  refine Nat.le_trans (readNumber_length_le_rest _) ?_
  by_cases hc : c.isDigit = true
  · refine Nat.le_trans (dropFraction_length_le _) ?_
    simpa [dropDigits, hc] using dropDigits_length_le t
  · cases t with
    | nil => simp_all [startsNumber]
    | cons d t =>
      obtain ⟨rfl, hd⟩ : c = '.' ∧ d.isDigit = true := by simpa [startsNumber, hc] using h
      simpa [dropDigits, dropFraction, hc, hd] using
        Nat.le_succ_of_le (dropDigits_length_le t)

theorem readString_length_le (quote : Char) (t : Text) :
    (readString quote t).2.length ≤ t.length := by
  fun_induction readString quote t <;> grind

theorem dropComment_length_le (t : Text) : (dropComment t).length ≤ t.length := by
  fun_induction dropComment t <;> grind

theorem dropBadUrl_length_le (t : Text) : (dropBadUrl t).length ≤ t.length := by
  fun_induction dropBadUrl t <;> grind

theorem readUrlEnd_length_le (t : Text) : (readUrlEnd t).2.length ≤ t.length := by
  fun_induction readUrlEnd t with
  | case4 c t => simpa using Nat.le_succ_of_le (dropBadUrl_length_le t)
  | _ => grind

theorem readUrl_length_le (t : Text) : (readUrl t).2.length ≤ t.length := by
  fun_induction readUrl t with
  | case3 c t => simpa using Nat.le_succ_of_le (readUrlEnd_length_le t)
  | case4 c t => simpa using Nat.le_succ_of_le (dropBadUrl_length_le t)
  | case5 t => simpa using Nat.le_succ_of_le (dropBadUrl_length_le t)
  | _ => grind

theorem readUrlArgument_length_le (t : Text) : (readUrlArgument t).2.length ≤ t.length := by
  simp only [readUrlArgument]
  split
  · simp
  · exact Nat.le_trans (readUrl_length_le _) (List.dropWhile_suffix isSpace).length_le

theorem readIdent_length_le {t : Text} :
    (readIdent t).2.length ≤ (readName t).2.length := by
  simp only [readIdent]
  split
  · split
    · exact Nat.le_trans (readUrlArgument_length_le _) (by simp)
    · simp
  · simp

/-- A choice between two readings keeps a bound that both keep. -/
theorem length_ite_le {p : Prop} [Decidable p] {yes no : Token × Text} {bound : Nat}
    (hyes : p → yes.2.length ≤ bound) (hno : no.2.length ≤ bound) :
    (if p then yes else no).2.length ≤ bound := by
  split
  · next h => exact hyes h
  · exact hno

theorem readToken_length_le (c : Char) (t : Text) : (readToken c t).2.length ≤ t.length := by
  unfold readToken
  refine length_ite_le (fun _ => (List.dropWhile_suffix isSpace).length_le) ?_
  refine length_ite_le (fun _ => readString_length_le c t) ?_
  refine length_ite_le (fun _ => ?_) ?_
  · exact length_ite_le (fun _ => readName_length_le t) (Nat.le_refl _)
  refine length_ite_le (fun _ => readNumber_length_le t) ?_
  refine length_ite_le readNumber_length_le_of_startsNumber ?_
  refine length_ite_le (fun _ => by simp) ?_
  refine length_ite_le (fun _ => by simp) ?_
  refine length_ite_le (fun _ => Nat.le_trans (dropComment_length_le _) (by simp)) ?_
  refine length_ite_le (fun _ => readName_length_le t) ?_
  refine length_ite_le (fun _ => by simp) ?_
  refine length_ite_le (fun h => ?_) (Nat.le_refl _)
  exact Nat.le_trans readIdent_length_le (readName_length_le_of_startsName h)

def tokens : Text → List Token
  | [] => []
  | c :: t =>
    have := readToken_length_le c t
    (readToken c t).1 :: tokens (readToken c t).2
termination_by t => t.length

end FilterDialects.Css
