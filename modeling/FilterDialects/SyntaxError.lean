import FilterDialects.Text.Quote
import FilterDialects.Text.Shown

/-!
# Malformed rules

Why a text is not a rule of the dialect that its mask tells. Each cause has a
constructor of its own, and `SyntaxError.message` words it.
-/

namespace FilterDialects

/-- A fault in the text of a rule. -/
inductive SyntaxError where
  /-- A character that has no place between the arguments, and its byte offset. -/
  | unexpectedCharacter (c : Char) (offset : Nat)
  /-- A quoted argument runs into the end of the text. -/
  | unterminatedQuote
  /-- The argument list has no closing parenthesis. -/
  | notClosed
  /-- There is no mask, or nothing that could be an argument list after it. -/
  | missingArguments
  /-- The name of the scriptlet is left out where it is needed. -/
  | missingScriptletName
  /-- A snippet rule without any statement. -/
  | emptySnippet
  /-- A selector that could break out of its rule. -/
  | invalidSelector (selector : Text)
  /-- An argument whose last backslash would escape its closing quote. -/
  | trailingBackslash (argument : Text)
  deriving DecidableEq

namespace SyntaxError

def message : SyntaxError → Text
  | unexpectedCharacter c offset =>
    "unexpected character ".toList ++ Text.shownChar c ++ " at byte ".toList ++
      Text.ofNat offset ++ " of argument list".toList
  | unterminatedQuote => "unterminated quoted argument".toList
  | notClosed => "argument list is not closed".toList
  | missingArguments => "rule has no argument list".toList
  | missingScriptletName => "rule does not name a scriptlet".toList
  | emptySnippet => "snippet rule has no statements".toList
  | invalidSelector selector => "invalid selector ".toList ++ Text.shown selector
  | trailingBackslash argument =>
    "argument ".toList ++ Text.shown argument ++ " ends in a backslash".toList

end SyntaxError

/-- Refuse an argument that cannot stand between single quotes. -/
def checkQuotable (argument : Text) : Except SyntaxError Unit :=
  if Text.isQuotable argument then .ok () else .error (.trailingBackslash argument)

/-- Refuse the first argument that cannot stand between single quotes. -/
def checkAllQuotable : List Text → Except SyntaxError Unit
  | [] => .ok ()
  | argument :: arguments =>
    match checkQuotable argument with
    | .ok () => checkAllQuotable arguments
    | .error fault => .error fault

@[simp] theorem checkQuotable_eq_ok {argument : Text} :
    checkQuotable argument = .ok () ↔ Text.isQuotable argument = true := by
  cases h : Text.isQuotable argument <;> simp [checkQuotable, h]

/-- Only the argument itself is reported. -/
theorem checkQuotable_eq_error {argument : Text} {fault : SyntaxError} :
    checkQuotable argument = .error fault ↔
      Text.isQuotable argument = false ∧ fault = .trailingBackslash argument := by
  cases h : Text.isQuotable argument <;> simp [checkQuotable, h, eq_comm]

@[simp] theorem checkAllQuotable_eq_ok {arguments : List Text} :
    checkAllQuotable arguments = .ok () ↔ ∀ argument ∈ arguments, Text.isQuotable argument := by
  induction arguments with
  | nil => simp [checkAllQuotable]
  | cons argument arguments ih =>
    cases h : Text.isQuotable argument <;> simp [checkAllQuotable, checkQuotable, h, ih]

/-- The first argument that cannot be quoted is reported. -/
theorem checkAllQuotable_eq_error {arguments : List Text} {fault : SyntaxError} :
    checkAllQuotable arguments = .error fault ↔
      ∃ argument, arguments.find? (!Text.isQuotable ·) = some argument ∧
        fault = .trailingBackslash argument := by
  induction arguments with
  | nil => simp [checkAllQuotable]
  | cons argument arguments ih =>
    cases h : Text.isQuotable argument <;>
      simp [checkAllQuotable, checkQuotable, h, ih, eq_comm]

theorem checkAllQuotable_append (first second : List Text) :
    checkAllQuotable (first ++ second) =
      (checkAllQuotable first).bind fun _ => checkAllQuotable second := by
  induction first with
  | nil => rfl
  | cons argument first ih =>
    cases h : checkQuotable argument with
    | error fault => simp [checkAllQuotable, h, Except.bind]
    | ok => simp [checkAllQuotable, h, ih]

end FilterDialects
