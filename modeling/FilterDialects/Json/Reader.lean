import FilterDialects.Json.Lexer

/-!
# Reading JSON values

A machine takes the tokens of a text one after the other. It knows what has to follow
next and what the arrays and objects that are still open hold so far. A text is read
when the machine has seen exactly one value and nothing is open.
-/

namespace FilterDialects.Json

/-- An array or object that is still open, with what it holds so far, last element
first. -/
inductive Frame where
  | array (elements : List Value)
  /-- An object whose member `key` awaits its value. -/
  | object (members : List (List StringUnit × Value)) (key : List StringUnit)

/-- What the machine has seen and what has to follow. -/
inductive State where
  /-- A value has to follow. -/
  | value (stack : List Frame)
  /-- An array was opened: its first element or its end has to follow. -/
  | firstElement (stack : List Frame)
  /-- An object was opened: its first key or its end has to follow. -/
  | firstKey (stack : List Frame)
  /-- The next key of an object has to follow. -/
  | nextKey (members : List (List StringUnit × Value)) (stack : List Frame)
  /-- A key was read and its colon has to follow. -/
  | colon (members : List (List StringUnit × Value)) (key : List StringUnit)
      (stack : List Frame)
  /-- A value was read: a comma, a closing bracket or the end has to follow. -/
  | done (value : Value) (stack : List Frame)

/-- Take a token where a value has to follow. -/
def stepValue (stack : List Frame) : Token → Option State
  | .null => some (.done .null stack)
  | .bool b => some (.done (.bool b) stack)
  | .number spelling => some (.done (.number spelling) stack)
  | .string units => some (.done (.string units) stack)
  | .openBracket => some (.firstElement stack)
  | .openBrace => some (.firstKey stack)
  | _ => none

/-- Take a token behind a value. -/
def stepDone (value : Value) : List Frame → Token → Option State
  | .array elements :: stack, .comma => some (.value (.array (value :: elements) :: stack))
  | .array elements :: stack, .closeBracket =>
    some (.done (.array (value :: elements).reverse) stack)
  | .object members key :: stack, .comma => some (.nextKey ((key, value) :: members) stack)
  | .object members key :: stack, .closeBrace =>
    some (.done (.object ((key, value) :: members).reverse) stack)
  | _, _ => none

def step : State → Token → Option State
  | .value stack, token => stepValue stack token
  | .firstElement stack, .closeBracket => some (.done (.array []) stack)
  | .firstElement stack, token => stepValue (.array [] :: stack) token
  | .firstKey stack, .closeBrace => some (.done (.object []) stack)
  | .firstKey stack, .string key => some (.colon [] key stack)
  | .firstKey _, _ => none
  | .nextKey members stack, .string key => some (.colon members key stack)
  | .nextKey _ _, _ => none
  | .colon members key stack, .colon => some (.value (.object members key :: stack))
  | .colon _ _ _, _ => none
  | .done value stack, token => stepDone value stack token

/-- The value that was read when nothing is open. -/
def State.value? : State → Option Value
  | .done found [] => some found
  | _ => none

/-- Take tokens from a state on. -/
def run (state : State) (tokens : List Token) : Option State :=
  tokens.foldlM step state

def parse? (t : Text) : Option Value :=
  (tokens? t).bind fun tokens => (run (.value []) tokens).bind State.value?

@[simp] theorem run_nil (state : State) : run state [] = some state := rfl

@[simp] theorem run_cons (state : State) (token : Token) (tokens : List Token) :
    run state (token :: tokens) = (step state token).bind (run · tokens) := by
  simp [run, List.foldlM_cons, bind]

theorem run_append (state : State) (tokens tokens' : List Token) :
    run state (tokens ++ tokens') = (run state tokens).bind (run · tokens') := by
  simp [run, List.foldlM_append, bind]

end FilterDialects.Json
