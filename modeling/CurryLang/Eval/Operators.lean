import CurryLang.Eval
import CurryLang.Value.Equality

/-!
# Operators and indexing

Integer arithmetic wraps around at 64 bits and division goes toward zero. Strings can be joined and
compared by their text. Everything else can only be compared, by identity; the other operators fail
with a message about the types of the operands.
-/

namespace CurryLang

open Eval

namespace UnaryOp

def apply : UnaryOp → Value → Eval Value
  | .not, v => pure (.bool !v.isTruthy)
  | .negate, .int n => pure (.int (-n))
  | .plus, .int n => pure (.int n)
  | op, v => fail (.unknownUnary op v.type)

end UnaryOp

namespace BinaryOp

def onIntegers (op : BinaryOp) (a b : Int64) : Eval Value :=
  match op with
  | .add => pure (.int (a + b))
  | .sub => pure (.int (a - b))
  | .mul => pure (.int (a * b))
  | .div => if b == 0 then fail (.divisionByZero a) else pure (.int (a / b))
  | .less => pure (.bool (decide (a < b)))
  | .greater => pure (.bool (decide (b < a)))
  | .equal => pure (.bool (a == b))
  | .notEqual => pure (.bool (a != b))

def onTexts (op : BinaryOp) (a b : String) : Eval Value :=
  match op with
  | .add => newString (a ++ b)
  | .equal => pure (.bool (a == b))
  | .notEqual => pure (.bool (a != b))
  | _ => fail (.unknownBinary .string op .string)

/-- The value of a binary operator on any other pair of values. -/
def onOthers (op : BinaryOp) (l r : Value) : Eval Value :=
  match op with
  | .equal => pure (.bool (l.identical r))
  | .notEqual => pure (.bool !l.identical r)
  | _ =>
    if l.type = r.type then fail (.unknownBinary l.type op r.type)
    else fail (.typeMismatch l.type op r.type)

def apply (op : BinaryOp) : Value → Value → Eval Value
  | .int a, .int b => op.onIntegers a b
  | .str _ a, .str _ b => op.onTexts a b
  | l, r => op.onOthers l r

end BinaryOp

namespace Value

/-- The element of an array at an index; `nil` where the array has none. -/
def index : Value → Value → Eval Value
  | .array _ elements, .int i =>
    match Decimal.within? i elements.length with
    | some k => pure (elements[k]?.getD .nil)
    | none => pure .nil
  | .array _ _, i => fail (.invalidIndex i.type)
  | v, _ => fail (.indexNotSupported v.type)

end Value

end CurryLang
