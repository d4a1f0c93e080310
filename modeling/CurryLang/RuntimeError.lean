import CurryLang.Program
import CurryLang.Builtin
import CurryLang.Text.Decimal

/-!
# Failures of a running program

Every way in which an evaluation can fail, as a cause with the facts that its message needs.
-/

namespace CurryLang

/-- The types of values that messages tell apart. -/
inductive ValueType where
  | integer | string | boolean | nil | array | function | curried | builtin | returning | error
  deriving DecidableEq, Repr

/-- How messages name a type. -/
def ValueType.name : ValueType → String
  | integer => "INTEGER"
  | string => "STRING"
  | boolean => "BOOLEAN"
  | nil => "NIL"
  | array => "ARRAY"
  | function => "FUNCTION"
  | curried => "CURRIED_FUNCTION"
  | builtin => "BUILTIN"
  | returning => "RETURN_VALUE"
  | error => "ERROR"

/-- Why an evaluation failed. -/
inductive RuntimeError where
  /-- Neither a scope nor the built-in functions know the name. -/
  | identifierNotFound (name : String)
  /-- A name that is visible already cannot be bound again. -/
  | alreadyBound (name : String)
  /-- Only a visible name can be assigned; `shown` is the value that was to be assigned. -/
  | notBound (name shown : String)
  /-- The operands have different types. -/
  | typeMismatch (left : ValueType) (op : BinaryOp) (right : ValueType)
  /-- The operands have a type that the operator does not know. -/
  | unknownBinary (left : ValueType) (op : BinaryOp) (right : ValueType)
  /-- The operand has a type that the operator does not know. -/
  | unknownUnary (op : UnaryOp) (operand : ValueType)
  /-- An integer was divided by zero. -/
  | divisionByZero (dividend : Int64)
  /-- A built-in function got too few or too many arguments. -/
  | wrongArgumentCount (got want : Nat)
  /-- A built-in function does not work on the type of its argument. -/
  | unsupportedArgument (function : Builtin) (got : ValueType)
  /-- A built-in function works on one type only, and the argument has another. -/
  | wrongArgumentType (function : Builtin) (expected got : ValueType)
  /-- Something else than a function was called. -/
  | notAFunction (shown : String) (got : ValueType)
  /-- Something else than an array was indexed. -/
  | indexNotSupported (got : ValueType)
  /-- An array was indexed by something else than an integer. -/
  | invalidIndex (got : ValueType)
  deriving DecidableEq, Repr

def RuntimeError.message : RuntimeError → String
  | identifierNotFound name => "identifier not found: " ++ name
  | alreadyBound name => "can't re-bind already bound identifier `" ++ name ++ "`"
  | notBound name shown =>
    "can't assign identifier `" ++ name ++ "` because it doesn't exist, you need to do `let " ++
      name ++ " = " ++ shown ++ "` first"
  | typeMismatch left op right =>
    "type mismatch: " ++ left.name ++ " " ++ op.text ++ " " ++ right.name
  | unknownBinary left op right =>
    "unknown operator: " ++ left.name ++ " " ++ op.text ++ " " ++ right.name
  | unknownUnary op operand => "unknown operator: " ++ op.text ++ operand.name
  | divisionByZero dividend => "division by zero: " ++ Decimal.ofInt64 dividend ++ " / 0"
  | wrongArgumentCount got want =>
    "wrong number of arguments. got=" ++ Decimal.ofNat got ++ ", want=" ++ Decimal.ofNat want
  | unsupportedArgument function got =>
    "argument to `" ++ function.name ++ "` not supported, got " ++ got.name
  | wrongArgumentType function expected got =>
    "argument to `" ++ function.name ++ "` must be " ++ expected.name ++ ", got " ++ got.name
  | notAFunction shown got => "expected " ++ shown ++ " to be a function, got " ++ got.name
  | indexNotSupported got => "type " ++ got.name ++ " doesn't support index operations"
  | invalidIndex got => "expected INTEGER as index for array, got " ++ got.name

end CurryLang
