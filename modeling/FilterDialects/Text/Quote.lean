import FilterDialects.Text.Basic

/-!
# Single-quoted arguments

An argument of an AdGuard rule stands between single quotes. An argument taken from
another dialect may carry quotes of its own: one matching outer pair is dropped, and the
single quotes that remain inside, escaped or not, become double quotes.

The written form can be read back only when the argument does not end in a backslash,
which would escape the closing quote.
-/

namespace FilterDialects.Text

/-- Whether a character opens and closes quoted text. -/
def isQuote (c : Char) : Bool :=
  c = '\'' || c = '"'

/-- The text without its outer quotes, when it starts and ends with the same quote. -/
def stripQuotes : Text → Text
  | [] => []
  | c :: t => if isQuote c ∧ t.getLast? = some c then t.dropLast else c :: t

/-- Turn each single quote into a double quote and drop a backslash right before it. -/
def softenQuotes : Text → Text
  | [] => []
  | ['\''] => ['"']
  | [c] => [c]
  | '\\' :: '\'' :: t => '"' :: softenQuotes t
  | '\'' :: t => '"' :: softenQuotes t
  | c :: t => c :: softenQuotes t

/-- An argument as it stands between single quotes. -/
def bare (t : Text) : Text :=
  softenQuotes (stripQuotes t)

def singleQuoted (t : Text) : Text :=
  '\'' :: bare t ++ ['\'']

/-- Whether an argument can stand between single quotes: a trailing backslash would
escape the closing quote. -/
def isQuotable (t : Text) : Bool :=
  (stripQuotes t).getLast? ≠ some '\\'

@[simp] theorem stripQuotes_nil : stripQuotes [] = [] := rfl

@[simp] theorem softenQuotes_nil : softenQuotes [] = [] := rfl

@[simp] theorem bare_nil : bare [] = [] := rfl

/-- Only a quote at the front can be dropped. -/
theorem stripQuotes_of_head {c : Char} (h : isQuote c = false) (t : Text) :
    stripQuotes (c :: t) = c :: t := by
  simp [stripQuotes, h]

theorem notMem_softenQuotes (t : Text) : '\'' ∉ softenQuotes t := by
  fun_induction softenQuotes t <;> simp_all [eq_comm]

end FilterDialects.Text
