import FilterDialects.Proofs.Selector.Scan
import FilterDialects.Proofs.Text.Search

/-!
# Balanced brackets in selectors

A row of tokens is balanced when every bracket in it is closed by a closer of its own, and
every closer closes a bracket. Selectors that pass the check come close to that: no closer
is without its bracket, and what stands between the two is balanced. But a bracket may be
left open at the end of the text, and then only the closers that are missing there would
balance the selector.
-/

namespace FilterDialects.Selector

open Css (Token)
open BracketKind

/-- Rows of tokens in which every bracket is closed by its own closer. -/
inductive IsBalanced : List Token → Prop
  | nil : IsBalanced []
  | plain {token : Token} {rest : List Token} (hopened : opened? token = none)
      (hclosed : closed? token = none) (hrest : IsBalanced rest) : IsBalanced (token :: rest)
  | block {bracket : BracketKind} {opener : Token} {inside rest : List Token}
      (hopened : opened? opener = some bracket) (hinside : IsBalanced inside)
      (hrest : IsBalanced rest) : IsBalanced (opener :: (inside ++ bracket.closer :: rest))

/-- The closers of the brackets that a row leaves open, in the order in which they are
missing at its end. -/
def missing (tokens : List Token) : List Token :=
  (openBehind tokens).map closer

/-- What has to stand behind an opener: a balanced row and its closer. -/
def IsClosedIn (bracket : BracketKind) (rest : List Token) : Prop :=
  ∃ inside after, IsBalanced inside ∧ inside ++ bracket.closer :: after = rest

/-- What has to stand before a closer: its opener and a balanced row. -/
def IsOpenedIn (bracket : BracketKind) (before : List Token) : Prop :=
  ∃ earlier opener inside, opened? opener = some bracket ∧ IsBalanced inside ∧
    earlier ++ opener :: inside = before

/-- What closes open brackets one after the other, with balanced rows in between. -/
def Closes : List BracketKind → List Token → Prop
  | [], row => IsBalanced row
  | bracket :: brackets, row =>
    ∃ inside rest, IsBalanced inside ∧ Closes brackets rest ∧ inside ++ bracket.closer :: rest = row

variable {bracket : BracketKind} {brackets : List BracketKind} {token opener : Token}
  {tokens row before rest : List Token}

section Closes

theorem closes_map_closer (brackets : List BracketKind) :
    Closes brackets (brackets.map closer) := by
  induction brackets with
  | nil => exact .nil
  | cons bracket brackets ih => exact ⟨[], _, .nil, ih, rfl⟩

theorem Closes.plain (hopened : opened? token = none) (hclosed : closed? token = none)
    (h : Closes brackets row) : Closes brackets (token :: row) := by
  cases brackets with
  | nil => exact .plain hopened hclosed h
  | cons bracket brackets =>
    obtain ⟨inside, rest, hinside, hrest, rfl⟩ := h
    exact ⟨token :: inside, rest, .plain hopened hclosed hinside, hrest, rfl⟩

/-- An opener takes the first closer for its own. -/
theorem Closes.opened (hopened : opened? opener = some bracket)
    (h : Closes (bracket :: brackets) row) : Closes brackets (opener :: row) := by
  obtain ⟨block, rest, hblock, hrest, rfl⟩ := h
  cases brackets with
  | nil => exact .block hopened hblock hrest
  | cons outer brackets =>
    obtain ⟨inside, after, hinside, hafter, rfl⟩ := hrest
    refine ⟨opener :: (block ++ bracket.closer :: inside), after, ?_, hafter, ?_⟩
    · exact .block hopened hblock hinside
    · simp

/-- Behind the tokens of a row, the closers that are missing close all open brackets. -/
theorem closes_append_missing (h : IsScanned brackets tokens) :
    Closes brackets (tokens ++ (tokens.foldl behind brackets).map closer) := by
  induction tokens generalizing brackets with
  | nil => exact closes_map_closer brackets
  | cons token tokens ih =>
    obtain ⟨hstand, hlater⟩ := isScanned_cons.1 h
    have hcloses := ih hlater
    rw [List.cons_append, List.foldl_cons]
    cases hopened : opened? token with
    | some bracket =>
      rw [behind_of_opened? hopened] at hcloses ⊢
      exact hcloses.opened hopened
    | none =>
      cases hclosed : closed? token with
      | none =>
        rw [behind_of_plain hopened hclosed] at hcloses ⊢
        exact hcloses.plain hopened hclosed
      | some bracket =>
        obtain ⟨brackets, rfl⟩ := List.head?_eq_some_iff.1 (hstand.closes bracket hclosed)
        obtain rfl := eq_closer_of_closed? hclosed
        rw [behind_closer] at hcloses ⊢
        exact ⟨[], _, .nil, hcloses, rfl⟩

end Closes

section Balanced

theorem IsBalanced.foldl_behind (h : IsBalanced row) (brackets : List BracketKind) :
    row.foldl behind brackets = brackets := by
  induction h generalizing brackets with
  | nil => rfl
  | plain hopened hclosed _ ih => rw [List.foldl_cons, behind_of_plain hopened hclosed, ih]
  | block hopened _ _ ihInside ihRest =>
    rw [List.foldl_cons, behind_of_opened? hopened, List.foldl_append, ihInside, List.foldl_cons,
      behind_closer, List.tail_cons, ihRest]

theorem IsClosedIn.append (h : IsClosedIn bracket rest) (later : List Token) :
    IsClosedIn bracket (rest ++ later) := by
  obtain ⟨inside, after, hinside, rfl⟩ := h
  exact ⟨inside, after ++ later, hinside, by simp⟩

theorem IsOpenedIn.append (h : IsOpenedIn bracket before) (start : List Token) :
    IsOpenedIn bracket (start ++ before) := by
  obtain ⟨earlier, opener, inside, hopened, hinside, rfl⟩ := h
  exact ⟨start ++ earlier, opener, inside, hopened, hinside, by simp⟩

/-- In a balanced row every bracket that is opened is closed behind, and every bracket that is
closed was opened before. -/
theorem IsBalanced.pair (h : IsBalanced row) (heq : before ++ token :: rest = row) :
    (∀ bracket, opened? token = some bracket → IsClosedIn bracket rest) ∧
      (∀ bracket, closed? token = some bracket → IsOpenedIn bracket before) := by
  induction h generalizing before rest with
  | nil => simp at heq
  | plain hopened hclosed _ ih =>
    cases before with
    | nil =>
      obtain ⟨rfl, rfl⟩ := List.cons.inj heq
      simp [hopened, hclosed]
    | cons first before =>
      obtain ⟨hcloses, hopens⟩ := ih (List.cons.inj heq).2
      exact ⟨hcloses, fun bracket hbracket => (hopens bracket hbracket).append [first]⟩
  | @block bracket opener inside after hopened hinside hafter ihInside ihAfter =>
    -- the token is the opener of the block, stands inside, closes the block or stands behind it
    cases before with
    | nil =>
      obtain ⟨rfl, rfl⟩ := List.cons.inj heq
      simp only [hopened, closed?_of_opened? hopened, Option.some.injEq, reduceCtorEq,
        false_implies, implies_true, and_true]
      rintro _ rfl
      exact ⟨inside, after, hinside, rfl⟩
    | cons first before =>
      obtain ⟨rfl, hblock⟩ := List.cons.inj heq
      rcases Text.append_cons_cases hblock with ⟨mid, rfl, rfl⟩ | ⟨rfl, rfl, rfl⟩ | ⟨mid, rfl, rfl⟩
      · obtain ⟨hcloses, hopens⟩ := ihInside rfl
        exact ⟨fun b hb => (hcloses b hb).append _, fun b hb => (hopens b hb).append [first]⟩
      · simp only [opened?_closer, closed?_closer, Option.some.injEq, reduceCtorEq, false_implies,
          implies_true, true_and]
        rintro _ rfl
        exact ⟨[], first, before, hopened, hinside, rfl⟩
      · obtain ⟨hcloses, hopens⟩ := ihAfter rfl
        refine ⟨hcloses, fun b hb => ?_⟩
        simpa using (hopens b hb).append (first :: (inside ++ [bracket.closer]))

end Balanced

/-- A selector that passes is balanced but for the closers that are missing at its end: every
closer in it closes a bracket, and every bracket is closed by its own closer, in the selector
or among those that are missing. It is balanced itself exactly when none is missing. -/
theorem isBalanced_append_missing {t : Text} (h : checkSelector t = .ok ()) :
    IsBalanced (Css.tokens t ++ missing (Css.tokens t)) ∧
      (IsBalanced (Css.tokens t) ↔ missing (Css.tokens t) = []) ∧
      ∀ before token rest, before ++ token :: rest = Css.tokens t →
        (∀ bracket, closed? token = some bracket → IsOpenedIn bracket before) ∧
          ∀ bracket, opened? token = some bracket →
            IsClosedIn bracket (rest ++ missing (Css.tokens t)) := by
  have hscanned := isValid_iff_isScanned.1 (checkSelector_eq_ok.1 h)
  have hbalanced : IsBalanced (Css.tokens t ++ missing (Css.tokens t)) :=
    closes_append_missing hscanned
  refine ⟨hbalanced, ?_, ?_⟩
  · constructor
    · intro hwhole
      rw [missing, openBehind, hwhole.foldl_behind]
      rfl
    · intro hnone
      rwa [hnone, List.append_nil] at hbalanced
  · intro before token rest heq
    have hpair : before ++ token :: (rest ++ missing (Css.tokens t)) =
        Css.tokens t ++ missing (Css.tokens t) := by
      rw [← heq]
      simp
    obtain ⟨hcloses, hopens⟩ := hbalanced.pair hpair
    exact ⟨hopens, hcloses⟩

/-- An attribute and a function that are left open lack their closers, the inner one first. -/
theorem isBalanced_append_missing_attribute :
    checkSelector "a:not([x".toList = .ok () ∧
      IsBalanced [.ident, .colon, .function, .openSquare, .ident, .closeSquare, .closeRound] ∧
      IsClosedIn .square [.ident, .closeSquare, .closeRound] := by
  have hvalid : checkSelector "a:not([x".toList = .ok () :=
    checkSelector_eq_ok.2 (by decide +kernel)
  have htokens : Css.tokens "a:not([x".toList =
      [.ident, .colon, .function, .openSquare, .ident] := by
    decide +kernel
  obtain ⟨hbalanced, -, hpairs⟩ := isBalanced_append_missing hvalid
  rw [htokens] at hbalanced hpairs
  have hpair := hpairs [.ident, .colon, .function] .openSquare [.ident] rfl
  exact ⟨hvalid, hbalanced, hpair.2 .square rfl⟩

/-- A selector passes although its bracket is not closed before its end. -/
theorem not_isBalanced_of_checkSelector :
    checkSelector "a[b".toList = .ok () ∧
      Css.tokens "a[b".toList = [.ident, .openSquare, .ident] ∧
      ¬ IsClosedIn .square [.ident] ∧ ¬ IsBalanced (Css.tokens "a[b".toList) := by
  have htokens : Css.tokens "a[b".toList = [.ident, .openSquare, .ident] := by
    decide +kernel
  have hopen : ¬ IsClosedIn .square [.ident] := by
    rintro ⟨inside, after, -, heq⟩
    have hmem : Token.closeSquare ∈ [Token.ident] := heq ▸ List.mem_append_cons_self
    exact absurd hmem (by decide)
  refine ⟨checkSelector_eq_ok.2 (by decide +kernel), htokens, hopen, ?_⟩
  intro hbalanced
  rw [htokens] at hbalanced
  have hpair : [Token.ident] ++ .openSquare :: [.ident] = [.ident, .openSquare, .ident] := rfl
  exact hopen ((hbalanced.pair hpair).1 .square rfl)

end FilterDialects.Selector
