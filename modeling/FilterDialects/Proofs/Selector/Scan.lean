import FilterDialects.Selector
import Mathlib.Logic.Basic

/-!
# Selectors in a single pass

The check of a selector reads what a bracket opens as a row of its own, and goes on behind
the token that closes it. A single pass from left to right that keeps the open brackets on
a stack accepts the same texts: each token has to be allowed where it stands, and whether
it is depends only on the brackets that the tokens before it leave open.

Brackets that are still open at the end of the text are no obstacle to either.
-/

namespace FilterDialects.Selector

open Css (Token)

inductive BracketKind where
  /-- Opened by a parenthesis or by a function. -/
  | round
  | square
  deriving DecidableEq

namespace BracketKind

def opened? : Token → Option BracketKind
  | .function | .openRound => some round
  | .openSquare => some square
  | _ => none

def closed? : Token → Option BracketKind
  | .closeRound => some round
  | .closeSquare => some square
  | _ => none

def closer : BracketKind → Token
  | round => .closeRound
  | square => .closeSquare

variable {bracket : BracketKind} {token : Token}

@[simp] theorem opened?_closer (bracket : BracketKind) : opened? bracket.closer = none := by
  cases bracket <;> rfl

@[simp] theorem closed?_closer (bracket : BracketKind) : closed? bracket.closer = some bracket := by
  cases bracket <;> rfl

theorem eq_closer_of_closed? (h : closed? token = some bracket) : token = bracket.closer := by
  unfold closed? at h
  split at h
  · cases h; rfl
  · cases h; rfl
  · cases h

/-- A token does not open and close a bracket at once. -/
theorem closed?_of_opened? (h : opened? token = some bracket) : closed? token = none := by
  unfold opened? at h
  split at h <;> first | rfl | cases h

end BracketKind

open BracketKind

/-- The tokens that may not stand anywhere in a selector. -/
def banned : List Token :=
  [.comment, .badString, .badUrl, .openCurly, .closeCurly, .semicolon, .atKeyword,
   .commentOpen, .commentClose]

/-- What may stand behind tokens that leave `brackets` open, the innermost of them first. -/
structure MayStand (brackets : List BracketKind) (token : Token) : Prop where
  not_banned : token ∉ banned
  /-- Only the innermost bracket can be closed. -/
  closes : ∀ bracket, closed? token = some bracket → brackets.head? = some bracket
  /-- Strings, addresses and most delimiters need a bracket around them. -/
  outside : brackets = [] →
    token ≠ .string ∧ token ≠ .url ∧ ∀ c, token = .delim c → c ∈ ".*>+~|=&".toList

/-- The brackets that are open behind a token, when `brackets` are open before it. -/
def behind (brackets : List BracketKind) (token : Token) : List BracketKind :=
  match opened? token with
  | some bracket => bracket :: brackets
  | none => if (closed? token).isSome then brackets.tail else brackets

/-- The brackets that a row of tokens leaves open, the innermost first. -/
def openBehind (tokens : List Token) : List BracketKind :=
  tokens.foldl behind []

/-- Every token of a row may stand behind those before it, where `brackets` are open before
the row. -/
def IsScanned (brackets : List BracketKind) (tokens : List Token) : Prop :=
  ∀ before token rest, before ++ token :: rest = tokens →
    MayStand (before.foldl behind brackets) token

variable {brackets : List BracketKind} {token inner : Token} {tokens : List Token}

@[simp] theorem isScanned_nil (brackets : List BracketKind) : IsScanned brackets [] :=
  fun before token rest h => by simp at h

/-- The first token of a row has to be allowed, and the others behind it. -/
theorem isScanned_cons :
    IsScanned brackets (token :: tokens) ↔
      MayStand brackets token ∧ IsScanned (behind brackets token) tokens := by
  constructor
  · intro h
    exact ⟨h [] token tokens rfl, fun before next rest heq =>
      h (token :: before) next rest (congrArg (token :: ·) heq)⟩
  · rintro ⟨hfirst, hlater⟩ before next rest heq
    cases before with
    | nil =>
      obtain ⟨rfl, -⟩ := List.cons.inj heq
      exact hfirst
    | cons c before =>
      obtain ⟨rfl, hrest⟩ := List.cons.inj heq
      exact hlater before next rest hrest

section Step

theorem behind_of_opened? {bracket : BracketKind} (h : opened? token = some bracket) :
    behind brackets token = bracket :: brackets := by
  simp [behind, h]

@[simp] theorem behind_closer (bracket : BracketKind) :
    behind brackets bracket.closer = brackets.tail := by
  simp [behind]

theorem behind_of_plain (hopened : opened? token = none) (hclosed : closed? token = none) :
    behind brackets token = brackets := by
  simp [behind, hopened, hclosed]

/-- Outside of brackets the check allows fewer tokens than inside of them. -/
theorem isAllowed_iff {nested : Bool} :
    isAllowed nested token = true ↔
      token ∉ banned ∧ closed? token = none ∧ (nested = false →
        token ≠ .string ∧ token ≠ .url ∧ ∀ c, token = .delim c → c ∈ ".*>+~|=&".toList) := by
  cases token with
  | delim c =>
    show (nested || delimiters.contains c) = true ↔ _
    cases nested <;> simp [banned, closed?, delimiters]
  | string | url =>
    show nested = true ↔ _
    cases nested <;> simp [banned, closed?]
  | comment | badString | badUrl | openCurly | closeCurly | closeRound | closeSquare
  | semicolon | atKeyword | commentOpen | commentClose =>
    show false = true ↔ _
    simp [banned, closed?]
  | _ =>
    show true = true ↔ _
    simp [banned, closed?]

/-- A token may stand when it closes the innermost bracket, or when the check allows it in
brackets or outside of them. -/
theorem mayStand_iff {closer? : Option Token} (h : brackets.head?.map closer = closer?) :
    MayStand brackets token ↔ closer? = some token ∨ isAllowed closer?.isSome token = true := by
  subst h
  rw [Option.isSome_map, isAllowed_iff]
  constructor
  · intro hstand
    cases hclosed : closed? token with
    | some bracket =>
      left
      rw [hstand.closes bracket hclosed, Option.map_some, eq_closer_of_closed? hclosed]
    | none =>
      refine .inr ⟨hstand.not_banned, rfl, fun hnone => hstand.outside ?_⟩
      simpa using hnone
  · rintro (hcloser | ⟨hbanned, hclosed, houtside⟩)
    · obtain ⟨bracket, hhead, rfl⟩ := Option.map_eq_some_iff.1 hcloser
      refine ⟨?_, ?_, ?_⟩
      · cases bracket <;> decide
      · simp [hhead]
      · rintro rfl
        cases hhead
    · refine ⟨hbanned, ?_, ?_⟩
      · simp [hclosed]
      · rintro rfl
        exact houtside rfl

/-- A token that is allowed and has a closer opens a bracket. -/
theorem exists_opened?_of_closer? {nested : Bool} (hallowed : isAllowed nested token = true)
    (h : token.closer? = some inner) :
    ∃ bracket, opened? token = some bracket ∧ bracket.closer = inner := by
  cases token with
  | function | openRound | openSquare => exact ⟨_, rfl, Option.some.inj h⟩
  | openCurly => cases hallowed
  | _ => cases h

/-- A token that is allowed and has no closer is no bracket. -/
theorem plain_of_closer? {nested : Bool} (hallowed : isAllowed nested token = true)
    (h : token.closer? = none) : opened? token = none ∧ closed? token = none := by
  refine ⟨?_, (isAllowed_iff.1 hallowed).2.1⟩
  cases token with
  | function | openRound | openSquare => cases h
  | _ => rfl

end Step

/-- A row is read up to the closer of the innermost bracket exactly when its tokens may stand
there, and what is left may stand behind that bracket. -/
theorem isScanned_iff_readBlock? {closer? : Option Token}
    (h : brackets.head?.map closer = closer?) :
    IsScanned brackets tokens ↔
      ∃ rest, readBlock? closer? tokens = some rest ∧ IsScanned brackets.tail rest.1 := by
  -- along the reading of blocks, where a block opened inside adds its bracket to the stack
  fun_induction readBlock? closer? tokens generalizing brackets with
  | case1 => simp
  | case2 token tokens =>
    obtain ⟨bracket, hhead, rfl⟩ := Option.map_eq_some_iff.1 h
    have hfirst : MayStand brackets bracket.closer := (mayStand_iff h).2 (.inl rfl)
    simp [isScanned_cons, hfirst]
  | case3 closer? token tokens _ hallowed inner hinner hnone ih =>
    obtain ⟨bracket, hopened, rfl⟩ := exists_opened?_of_closer? hallowed hinner
    have hblock : IsScanned (bracket :: brackets) tokens ↔ _ := ih rfl
    rw [hnone] at hblock
    simp [isScanned_cons, behind_of_opened? hopened, hblock]
  | case4 closer? token tokens _ hallowed inner hinner rest _ hread hnone ihBlock ih =>
    obtain ⟨bracket, hopened, rfl⟩ := exists_opened?_of_closer? hallowed hinner
    have hblock : IsScanned (bracket :: brackets) tokens ↔ _ := ihBlock rfl
    rw [hread] at hblock
    simp [isScanned_cons, behind_of_opened? hopened, hblock, ih h, hnone]
  | case5 closer? token tokens _ hallowed inner hinner rest _ hread rest' _ hnext ihBlock ih =>
    obtain ⟨bracket, hopened, rfl⟩ := exists_opened?_of_closer? hallowed hinner
    have hfirst : MayStand brackets token := (mayStand_iff h).2 (.inr hallowed)
    have hblock : IsScanned (bracket :: brackets) tokens ↔ _ := ihBlock rfl
    rw [hread] at hblock
    simp [isScanned_cons, behind_of_opened? hopened, hfirst, hblock, ih h, hnext]
  | case6 closer? token tokens _ hallowed hplain hnone ih =>
    obtain ⟨hopened, hclosed⟩ := plain_of_closer? hallowed hplain
    simp [isScanned_cons, behind_of_plain hopened hclosed, ih h, hnone]
  | case7 closer? token tokens _ hallowed hplain rest _ hnext ih =>
    obtain ⟨hopened, hclosed⟩ := plain_of_closer? hallowed hplain
    have hfirst : MayStand brackets token := (mayStand_iff h).2 (.inr hallowed)
    simp [isScanned_cons, behind_of_plain hopened hclosed, hfirst, ih h, hnext]
  | case8 closer? token tokens hne hallowed =>
    have hfirst : ¬ MayStand brackets token := by
      rw [mayStand_iff h]
      exact fun hor => hor.elim hne hallowed
    simp [isScanned_cons, hfirst]

theorem eq_nil_of_readBlock? {rest : { rest : List Token // rest.length ≤ tokens.length }}
    (h : readBlock? none tokens = some rest) : rest.1 = [] := by
  generalize hcloser : (none : Option Token) = closer? at h
  fun_induction readBlock? closer? tokens with
  | case1 => cases h; rfl
  | case2 => cases hcloser
  | case3 => cases h
  | case4 => cases h
  | case5 closer? token tokens _ hallowed inner hinner rest _ hread rest' _ hnext ihBlock ih =>
    cases h
    exact ih hcloser hnext
  | case6 => cases h
  | case7 closer? token tokens _ hallowed hplain rest _ hnext ih =>
    cases h
    exact ih hcloser hnext
  | case8 => cases h

theorem isValid_iff_isScanned {t : Text} : isValid t = true ↔ IsScanned [] (Css.tokens t) := by
  have hscanned : IsScanned [] (Css.tokens t) ↔ _ := isScanned_iff_readBlock? rfl
  rw [isValid, Option.isSome_iff_exists, hscanned]
  constructor
  · rintro ⟨rest, hrest⟩
    exact ⟨rest, hrest, by rw [eq_nil_of_readBlock? hrest]; exact isScanned_nil _⟩
  · rintro ⟨rest, hrest, -⟩
    exact ⟨rest, hrest⟩

theorem checkSelector_eq_ok {t : Text} : checkSelector t = .ok () ↔ isValid t = true := by
  cases h : isValid t <;> simp [checkSelector, h]

theorem checkSelector_eq_error {t : Text} :
    checkSelector t = .error (.invalidSelector t) ↔ ¬ isValid t = true := by
  cases h : isValid t <;> simp [checkSelector, h]

/-- A text passes as a selector exactly when each of its tokens may stand where the tokens
before it leave off. Any other text is refused as a whole. -/
theorem checkSelector_iff_mayStand (t : Text) :
    (checkSelector t = .ok () ↔
      ∀ before token rest, before ++ token :: rest = Css.tokens t →
        MayStand (openBehind before) token) ∧
    (checkSelector t = .error (.invalidSelector t) ↔
      ∃ before token rest, before ++ token :: rest = Css.tokens t ∧
        ¬ MayStand (openBehind before) token) := by
  refine ⟨checkSelector_eq_ok.trans isValid_iff_isScanned, ?_⟩
  rw [checkSelector_eq_error, isValid_iff_isScanned]
  simp only [IsScanned, openBehind, not_forall, exists_prop]

example : isValid "a:not([x".toList = true ∧ isValid "a:not([x)".toList = false := by
  decide +kernel

end FilterDialects.Selector
