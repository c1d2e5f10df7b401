import FilterDialects.Conversion.Error

/-!
# Outcomes that are successes

A mapped or chained outcome is a success only when every part of it is, and reading a rule
as part of its conversion fails no other way than reading it alone.
-/

namespace FilterDialects.Outcome

variable {ε α β : Type}

theorem map_eq_ok {f : α → β} {outcome : Except ε α} {b : β} :
    outcome.map f = .ok b ↔ ∃ a, outcome = .ok a ∧ f a = b := by
  cases outcome <;> simp [Except.map]

theorem bind_eq_ok {next : α → Except ε β} {outcome : Except ε α} {b : β} :
    outcome.bind next = .ok b ↔ ∃ a, outcome = .ok a ∧ next a = .ok b := by
  cases outcome <;> simp [Except.bind]

theorem ofSyntax_eq_ok {outcome : Except SyntaxError α} {a : α} :
    ConversionError.ofSyntax outcome = .ok a ↔ outcome = .ok a := by
  cases outcome <;> simp

end FilterDialects.Outcome
