import FilterDialects.Json.Basic

/-!
# The tokens of a JSON text

A JSON text is cut into brackets, separators, strings and other scalars; blanks fall
between them. The grammar is the strict one: four blank characters, no leading zeros, a
digit behind every point and exponent, no control characters in strings.

Two scalars may touch here, as in `01`. No place of a JSON text takes two scalars in a
row, so the reader of values refuses them.
-/

namespace FilterDialects.Json

inductive Token where
  | openBrace
  | closeBrace
  | openBracket
  | closeBracket
  | colon
  | comma
  | null
  | bool (b : Bool)
  | number (spelling : Text)
  | string (units : List StringUnit)
  deriving DecidableEq

/-- Whether a character is blank in a JSON text. -/
def isSpace (c : Char) : Bool :=
  c = ' ' || c = '\t' || c = '\n' || c = '\r'

/-- The character that a letter behind a backslash stands for. -/
def unescape? : Char → Option Char
  | '"' => some '"'
  | '\\' => some '\\'
  | '/' => some '/'
  | 'b' => some '\x08'
  | 'f' => some '\x0c'
  | 'n' => some '\n'
  | 'r' => some '\r'
  | 't' => some '\t'
  | _ => none

def readCode? (t : Text) : Option (StringUnit × Text) :=
  let digits := t.take 4
  if digits.length = 4 ∧ digits.all Text.isHexDigit then
    some (.ofCode (Text.hexValue digits), t.drop 4)
  else none

/-- Read the unit of a string that starts with `c` and goes on in `t`. -/
def readUnit? (c : Char) (t : Text) : Option (StringUnit × Text) :=
  if c = '\\' then
    match t with
    | [] => none
    | e :: rest =>
      if e = 'u' then readCode? rest else (unescape? e).map fun d => (.char d, rest)
  else if c.toNat < 0x20 then none
  else some (.char c, t)

theorem readUnit?_length_le {c : Char} {t rest : Text} {unit : StringUnit}
    (h : readUnit? c t = some (unit, rest)) : rest.length ≤ t.length := by
  simp only [readUnit?] at h
  split at h
  · split at h
    · simp at h
    · split at h
      · simp only [readCode?] at h
        split at h
        · obtain ⟨-, rfl⟩ := Prod.mk.inj (Option.some.inj h)
          simp only [List.length_drop, List.length_cons]
          omega
        · simp at h
      · obtain ⟨d, -, heq⟩ := Option.map_eq_some_iff.1 h
        obtain ⟨-, rfl⟩ := Prod.mk.inj heq
        simp
  · split at h
    · simp at h
    · obtain ⟨-, rfl⟩ := Prod.mk.inj (Option.some.inj h)
      exact Nat.le_refl _

def readString? : Text → Option (List StringUnit × Text)
  | [] => none
  | c :: t =>
    if c = '"' then some ([], t)
    else
      match _h : readUnit? c t with
      | none => none
      | some (unit, rest) => (readString? rest).map fun read => (unit :: read.1, read.2)
termination_by t => t.length
decreasing_by exact Nat.lt_succ_of_le (readUnit?_length_le _h)

@[simp] theorem readString?_nil : readString? [] = none := by
  rw [readString?]

@[simp] theorem readString?_quote (t : Text) : readString? ('"' :: t) = some ([], t) := by
  simp [readString?]

theorem readString?_cons {c : Char} (hc : c ≠ '"') (t : Text) :
    readString? (c :: t) = (readUnit? c t).bind fun unit =>
      (readString? unit.2).map fun read => (unit.1 :: read.1, read.2) := by
  rw [readString?, if_neg hc]
  split <;> simp_all

theorem readString?_length_le {t rest : Text} {units : List StringUnit}
    (h : readString? t = some (units, rest)) : rest.length ≤ t.length := by
  fun_induction readString? t generalizing units with
  | case1 => simp at h
  | case2 t =>
    obtain ⟨-, rfl⟩ := Prod.mk.inj (Option.some.inj h)
    simp
  | case3 => simp at h
  | case4 c t _ unit rest' hunit ih =>
    obtain ⟨⟨read, rest''⟩, hread, heq⟩ := Option.map_eq_some_iff.1 h
    obtain ⟨-, rfl⟩ := Prod.mk.inj heq
    exact Nat.le_trans (ih hread) (Nat.le_succ_of_le (readUnit?_length_le hunit))

def readDigits? (t : Text) : Option (Text × Text) :=
  match t.takeWhile Char.isDigit with
  | [] => none
  | digits => some (digits, t.dropWhile Char.isDigit)

/-- Read the digits before the point: a zero alone, or digits that start with another. -/
def readInteger? : Text → Option (Text × Text)
  | '0' :: t => some (['0'], t)
  | t => readDigits? t

def readFraction? : Text → Option (Text × Text)
  | '.' :: t => (readDigits? t).map fun read => ('.' :: read.1, read.2)
  | t => some ([], t)

def readSign (signs : List Char) : Text → Text × Text
  | [] => ([], [])
  | c :: t => if signs.contains c then ([c], t) else ([], c :: t)

def readExponent? : Text → Option (Text × Text)
  | [] => some ([], [])
  | e :: t =>
    if e = 'e' ∨ e = 'E' then
      (readDigits? (readSign ['+', '-'] t).2).map fun read =>
        (e :: (readSign ['+', '-'] t).1 ++ read.1, read.2)
    else some ([], e :: t)

def readNumber? (t : Text) : Option (Text × Text) :=
  (readInteger? (readSign ['-'] t).2).bind fun integer =>
    (readFraction? integer.2).bind fun fraction =>
      (readExponent? fraction.2).map fun exponent =>
        ((readSign ['-'] t).1 ++ integer.1 ++ fraction.1 ++ exponent.1, exponent.2)

theorem readDigits?_length_lt {t digits rest : Text} (h : readDigits? t = some (digits, rest)) :
    rest.length < t.length := by
  cases t with
  | nil => simp [readDigits?] at h
  | cons c t =>
    simp only [readDigits?] at h
    split at h
    · simp at h
    · next hdigits =>
      obtain ⟨-, rfl⟩ := Prod.mk.inj (Option.some.inj h)
      have hc : c.isDigit = true := by
        cases hc : c.isDigit <;> simp_all
      simpa [hc] using Nat.lt_succ_of_le (List.dropWhile_suffix Char.isDigit (l := t)).length_le

theorem readInteger?_length_lt {t integer rest : Text}
    (h : readInteger? t = some (integer, rest)) : rest.length < t.length := by
  simp only [readInteger?] at h
  split at h
  · obtain ⟨-, rfl⟩ := Prod.mk.inj (Option.some.inj h)
    simp
  · exact readDigits?_length_lt h

theorem readFraction?_length_le {t fraction rest : Text}
    (h : readFraction? t = some (fraction, rest)) : rest.length ≤ t.length := by
  simp only [readFraction?] at h
  split at h
  · obtain ⟨⟨digits, rest'⟩, hdigits, heq⟩ := Option.map_eq_some_iff.1 h
    obtain ⟨-, rfl⟩ := Prod.mk.inj heq
    exact Nat.le_succ_of_le (Nat.le_of_lt (readDigits?_length_lt hdigits))
  · obtain ⟨-, rfl⟩ := Prod.mk.inj (Option.some.inj h)
    exact Nat.le_refl _

theorem readSign_length_le (signs : List Char) (t : Text) :
    (readSign signs t).2.length ≤ t.length := by
  cases t with
  | nil => simp [readSign]
  | cons c t => simp only [readSign]; split <;> simp

theorem readExponent?_length_le {t exponent rest : Text}
    (h : readExponent? t = some (exponent, rest)) : rest.length ≤ t.length := by
  cases t with
  | nil => simp_all [readExponent?]
  | cons e t =>
    simp only [readExponent?] at h
    split at h
    · obtain ⟨⟨digits, rest'⟩, hdigits, heq⟩ := Option.map_eq_some_iff.1 h
      obtain ⟨-, rfl⟩ := Prod.mk.inj heq
      have hsign := readSign_length_le ['+', '-'] t
      have hlt := readDigits?_length_lt hdigits
      simp only [List.length_cons]
      omega
    · obtain ⟨-, rfl⟩ := Prod.mk.inj (Option.some.inj h)
      exact Nat.le_refl _

theorem readNumber?_length_lt {t spelling rest : Text}
    (h : readNumber? t = some (spelling, rest)) : rest.length < t.length := by
  obtain ⟨⟨integer, afterInteger⟩, hinteger, h⟩ := Option.bind_eq_some_iff.1 h
  obtain ⟨⟨fraction, afterFraction⟩, hfraction, h⟩ := Option.bind_eq_some_iff.1 h
  obtain ⟨⟨exponent, afterExponent⟩, hexponent, heq⟩ := Option.map_eq_some_iff.1 h
  obtain ⟨-, rfl⟩ := Prod.mk.inj heq
  have hsign := readSign_length_le ['-'] t
  have hinteger : afterInteger.length < _ := readInteger?_length_lt hinteger
  have hfraction : afterFraction.length ≤ _ := readFraction?_length_le hfraction
  have hexponent : afterExponent.length ≤ _ := readExponent?_length_le hexponent
  simp only at hinteger hfraction hexponent ⊢
  omega

def readToken? (c : Char) (t : Text) : Option (Token × Text) :=
  if c = '{' then some (.openBrace, t)
  else if c = '}' then some (.closeBrace, t)
  else if c = '[' then some (.openBracket, t)
  else if c = ']' then some (.closeBracket, t)
  else if c = ':' then some (.colon, t)
  else if c = ',' then some (.comma, t)
  else if c = '"' then (readString? t).map fun read => (.string read.1, read.2)
  else if c = 'n' then ("ull".toList.isPrefixOf? t).map (.null, ·)
  else if c = 't' then ("rue".toList.isPrefixOf? t).map (.bool true, ·)
  else if c = 'f' then ("alse".toList.isPrefixOf? t).map (.bool false, ·)
  else (readNumber? (c :: t)).map fun read => (.number read.1, read.2)

theorem length_le_of_ite {p : Prop} [Decidable p] {bound : Nat} {token : Token} {rest : Text}
    {yes no : Option (Token × Text)} (h : (if p then yes else no) = some (token, rest))
    (hyes : yes = some (token, rest) → rest.length ≤ bound)
    (hno : no = some (token, rest) → rest.length ≤ bound) : rest.length ≤ bound := by
  split at h
  · exact hyes h
  · exact hno h

theorem length_le_of_some {token token' : Token} {t rest : Text}
    (h : some (token', t) = some (token, rest)) : rest.length ≤ t.length := by
  obtain ⟨-, rfl⟩ := Prod.mk.inj (Option.some.inj h)
  exact Nat.le_refl _

theorem length_le_of_isPrefixOf? {token token' : Token} {mask t rest : Text}
    (h : (mask.isPrefixOf? t).map (token', ·) = some (token, rest)) :
    rest.length ≤ t.length := by
  obtain ⟨rest', hrest, heq⟩ := Option.map_eq_some_iff.1 h
  obtain ⟨-, rfl⟩ := Prod.mk.inj heq
  simp [← Text.isPrefixOf?_eq_some.1 hrest]

/-- Every token takes at least its first character. -/
theorem readToken?_length_le {c : Char} {t rest : Text} {token : Token}
    (h : readToken? c t = some (token, rest)) : rest.length ≤ t.length := by
  unfold readToken? at h
  refine length_le_of_ite h length_le_of_some fun h => ?_
  refine length_le_of_ite h length_le_of_some fun h => ?_
  refine length_le_of_ite h length_le_of_some fun h => ?_
  refine length_le_of_ite h length_le_of_some fun h => ?_
  refine length_le_of_ite h length_le_of_some fun h => ?_
  refine length_le_of_ite h length_le_of_some fun h => ?_
  refine length_le_of_ite h (fun h => ?_) fun h => ?_
  · obtain ⟨⟨units, rest'⟩, hread, heq⟩ := Option.map_eq_some_iff.1 h
    obtain ⟨-, rfl⟩ := Prod.mk.inj heq
    exact readString?_length_le hread
  refine length_le_of_ite h length_le_of_isPrefixOf? fun h => ?_
  refine length_le_of_ite h length_le_of_isPrefixOf? fun h => ?_
  refine length_le_of_ite h length_le_of_isPrefixOf? fun h => ?_
  obtain ⟨⟨spelling, rest'⟩, hread, heq⟩ := Option.map_eq_some_iff.1 h
  obtain ⟨-, rfl⟩ := Prod.mk.inj heq
  exact Nat.le_of_lt_succ (readNumber?_length_lt hread)

/-- The tokens of a JSON text, none when some part of it is no token. -/
def tokens? : Text → Option (List Token)
  | [] => some []
  | c :: t =>
    if isSpace c then tokens? t
    else
      match _h : readToken? c t with
      | none => none
      | some (token, rest) => (tokens? rest).map (token :: ·)
termination_by t => t.length
decreasing_by
  · simp
  · exact Nat.lt_succ_of_le (readToken?_length_le _h)

@[simp] theorem tokens?_nil : tokens? [] = some [] := by
  rw [tokens?]

theorem tokens?_cons {c : Char} (hc : isSpace c = false) (t : Text) :
    tokens? (c :: t) = (readToken? c t).bind fun token =>
      (tokens? token.2).map (token.1 :: ·) := by
  rw [tokens?, if_neg (by simp [hc])]
  split <;> simp_all

end FilterDialects.Json
