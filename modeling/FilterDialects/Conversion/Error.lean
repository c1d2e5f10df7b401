import FilterDialects.SyntaxError

/-!
# Failed conversions

A conversion fails because the rule is malformed, or because a redirect rule has no form
in the other dialect. A rule that merely has no counterpart is no failure.
-/

namespace FilterDialects

/-- Why a rule was not converted. -/
inductive ConversionError where
  /-- The rule is not what its mask says. -/
  | malformed (fault : SyntaxError)
  /-- Not an AdGuard redirect rule that uBlock Origin has a resource for. -/
  | unsupportedRedirect (rule : Text)
  /-- A redirect rule without a content type, for a resource that implies none. -/
  | missingContentType (rule : Text)
  deriving DecidableEq

namespace ConversionError

def message : ConversionError → Text
  | malformed fault => "malformed rule: ".toList ++ fault.message
  | unsupportedRedirect rule =>
    Text.shown rule ++ " is not an AdGuard redirect rule with a uBlock Origin equivalent".toList
  | missingContentType rule =>
    "no content type can be inferred for redirect rule ".toList ++ Text.shown rule

/-- Take the outcome of reading a rule as that of converting it. -/
def ofSyntax {α : Type} (outcome : Except SyntaxError α) : Except ConversionError α :=
  outcome.mapError malformed

@[simp] theorem ofSyntax_ok {α : Type} (a : α) : ofSyntax (.ok a) = .ok a := rfl

@[simp] theorem ofSyntax_error {α : Type} (fault : SyntaxError) :
    ofSyntax (.error fault : Except SyntaxError α) = .error (.malformed fault) := rfl

end ConversionError

end FilterDialects
