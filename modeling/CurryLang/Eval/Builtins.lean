import CurryLang.Eval

/-!
# What the built-in functions compute

`len` counts the characters of a string or the elements of an array, `to_string` writes an integer
and leaves a string as it is, `puts` prints a line, and `push`, `head` and `rest` work on arrays
without changing them.
-/

namespace CurryLang.Builtin

open Eval

/-- A built-in function of one argument. -/
def callOne (b : Builtin) (v : Value) : Eval Value :=
  match b, v with
  | .len, .str _ text => pure (.int (Decimal.saturate text.length))
  | .len, .array _ elements => pure (.int (Decimal.saturate elements.length))
  | .toString, .int n => newString (Decimal.ofInt64 n)
  | .toString, .str id text => pure (.str id text)
  | .puts, .str id text => do
    print text
    return .str id text
  | .puts, .int n => do
    print (Value.int n).inspect
    return .int n
  | .puts, .bool x => do
    print (Value.bool x).inspect
    return .bool x
  | .puts, .nil => do
    print Value.nil.inspect
    return .nil
  | .head, .array _ elements => pure (elements.headD .nil)
  | .rest, .array _ [] => pure .nil
  | .rest, .array _ (_ :: elements) => newArray elements
  | .head, _ => fail (.wrongArgumentType .head .array v.type)
  | .rest, _ => fail (.wrongArgumentType .rest .array v.type)
  | _, _ => fail (.unsupportedArgument b v.type)

/-- The array with one more element at its end. -/
def pushOnto : Value → Value → Eval Value
  | .array _ elements, v => newArray (elements ++ [v])
  | a, _ => fail (.wrongArgumentType .push .array a.type)

/-- Calls a built-in function, if the number of arguments is right. -/
def call (b : Builtin) (arguments : List Value) : Eval Value :=
  match b, arguments with
  | .push, [a, v] => pushOnto a v
  | .push, _ => fail (.wrongArgumentCount arguments.length 2)
  | b, [v] => b.callOne v
  | b, _ => fail (.wrongArgumentCount arguments.length b.arity)

end CurryLang.Builtin
