import CurryLang.RuntimeError

/-!
# Values

What expressions evaluate to. Strings, arrays and functions are objects: each carries the number
under which it was made, so that two objects with the same contents can be told apart. A function
remembers the scope in which it was written, and a partial application the scope that holds the
arguments it has got so far.
-/

namespace CurryLang

/-- The number of a scope in the store. -/
abbrev ScopeId := Nat

/-- The number under which an object was made. -/
abbrev ObjectId := Nat

/-- A function with the scope in which it was written. -/
structure Closure where
  id : ObjectId
  parameters : List String
  body : Block
  env : ScopeId

/-- A function that has got some of its arguments: they are bound in `env` and the scopes around
it, and `remaining` are the parameters it still waits for. -/
structure Curried where
  id : ObjectId
  function : Closure
  env : ScopeId
  remaining : List String

/-- Values. A `returning` value is on its way out of the function that returns it, and an `error`
is the result of a run that failed; programs make neither of them into a value of a variable. -/
inductive Value where
  | int (value : Int64)
  | str (id : ObjectId) (text : String)
  | bool (value : Bool)
  | nil
  | array (id : ObjectId) (elements : List Value)
  | function (function : Closure)
  | curried (function : Curried)
  | builtin (function : Builtin)
  | returning (value : Value)
  | error (cause : RuntimeError)

namespace Value

instance : Inhabited Value := ⟨nil⟩

def type : Value → ValueType
  | int _ => .integer
  | str _ _ => .string
  | bool _ => .boolean
  | nil => .nil
  | array _ _ => .array
  | function _ => .function
  | curried _ => .curried
  | builtin _ => .builtin
  | returning _ => .returning
  | error _ => .error

/-- The values that count as true: all but `nil` and `false`. -/
def isTruthy : Value → Bool
  | nil => false
  | bool b => b
  | _ => true

/-- The value inside a returning one, one layer deep. -/
def unwrap : Value → Value
  | returning v => v
  | v => v

end Value

end CurryLang
