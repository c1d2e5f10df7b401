import FilterDialects.SyntaxError

/-!
# Scriptlet rules

A scriptlet rule names a scriptlet, the domains on whose pages it runs, and its
arguments. An exception switches the scriptlet off instead, and an exception without a
name switches all of them off.
-/

namespace FilterDialects

/-- A rule that injects a scriptlet, or keeps one from being injected. -/
structure ScriptletRule where
  /-- The text before the mask. -/
  domains : Text
  /-- Whether the rule is an exception. -/
  isException : Bool
  /-- The scriptlet, empty in an exception without arguments. A snippet statement that starts
  with an empty pair of quotes leaves it empty too. -/
  name : Text
  /-- The arguments as their dialect writes them: without quotes in AdGuard rules, else
  possibly with quotes of their own. -/
  args : List Text
  deriving DecidableEq

namespace ScriptletRule

/-- Make a rule of the elements of its argument list, the first of which is the name. -/
def ofElements (domains : Text) (isException : Bool) :
    List Text → Except SyntaxError ScriptletRule
  | [] =>
    if isException then .ok ⟨domains, true, [], []⟩ else .error .missingScriptletName
  | name :: args =>
    if name = [] ∧ (isException = false ∨ args ≠ []) then .error .missingScriptletName
    else .ok ⟨domains, isException, name, args⟩

/-- An element list makes a rule exactly when it names a scriptlet or is a bare
exception, and then the rule holds what it was made of. -/
theorem ofElements_eq_ok {domains : Text} {isException : Bool} {elements : List Text}
    {rule : ScriptletRule} (h : ofElements domains isException elements = .ok rule) :
    rule.domains = domains ∧ rule.isException = isException ∧
      (rule.name = [] → isException = true ∧ rule.args = []) := by
  cases elements with
  | nil =>
    cases isException <;> simp [ofElements] at h
    simp [← h]
  | cons name args =>
    simp only [ofElements] at h
    split at h
    · simp at h
    · next hname =>
      cases h
      cases isException <;> simp_all

end ScriptletRule

end FilterDialects
