import CurryLang.Value

/-!
# Sameness of values

Two notions. `identical` is what programs see: objects are the same only if they were made
together. `equal` compares contents, down to functions, which have none to compare.
-/

namespace CurryLang.Value

/-- The same value, or the same object. -/
def identical : Value → Value → Bool
  | int a, int b => a == b
  | bool a, bool b => a == b
  | nil, nil => true
  | str i _, str j _ => i == j
  | array i _, array j _ => i == j
  | function f, function g => f.id == g.id
  | curried f, curried g => f.id == g.id
  | builtin a, builtin b => a == b
  | _, _ => false

mutual

/-- Equal contents; functions are equal when they are identical. -/
def equal : Value → Value → Bool
  | str _ a, str _ b => a == b
  | array _ xs, array _ ys => equalEach xs ys
  | returning v, returning w => equal v w
  | error a, error b => a == b
  | v, w => identical v w

/-- Lists of one length with equal contents at each place. -/
def equalEach : List Value → List Value → Bool
  | [], [] => true
  | x :: xs, y :: ys => equal x y && equalEach xs ys
  | _, _ => false

end

end CurryLang.Value
