import CurryLang.Value
import CurryLang.Program.Text

/-!
# How values are shown

The text of a value: strings stand between quotes, arrays in brackets, and functions show their
parameters and the canonical text of their body.
-/

namespace CurryLang

/-- The text of a function with the given parameters. -/
def functionText (parameters : List String) (body : Block) : String :=
  "fun(" ++ Text.commaSeparated parameters ++ ") \x7b " ++ body.text ++ " \x7d"

def Closure.inspect (f : Closure) : String := functionText f.parameters f.body

/-- The text of a partial application shows the parameters that are still missing. -/
def Curried.inspect (f : Curried) : String :=
  "curried " ++ functionText f.remaining f.function.body

namespace Value

mutual

def inspect : Value → String
  | int n => Decimal.ofInt64 n
  | str _ text => "\"" ++ text ++ "\""
  | bool true => "true"
  | bool false => "false"
  | nil => "nil"
  | array _ elements => Text.bracketed (inspectEach elements)
  | function f => f.inspect
  | curried f => f.inspect
  | builtin b => "builtin function " ++ b.name
  | returning v => v.inspect
  | error e => "ERROR: " ++ e.message

def inspectEach : List Value → List String
  | [] => []
  | v :: vs => v.inspect :: inspectEach vs

end

end Value

end CurryLang
