import CurryLang.Proofs.Moments

/-!
# Comparing objects

What `==` says about two values is decided by what `Value.badge?` keeps of them: the number itself of
an integer, the text of a string, and of arrays and functions the kind and the number under which they
were made. So it is an equivalence on all values but the markers. What makes it sound is that an object
that is there is determined by its number, since every object is made under a number of its own.
-/

namespace CurryLang

open Eval

/-! ## What `==` compares -/

namespace Value

/-- What `==` says about two values. -/
def same : Value → Value → Bool
  | int a, int b => a == b
  | str _ a, str _ b => a == b
  | u, v => u.identical v

mutual

theorem equal_self : (v : Value) → v.equal v = true
  | .int _ | .bool _ | .nil | .function _ | .curried _ | .builtin _ => by simp [equal, identical]
  | .str _ _ => by simp [equal]
  | .array _ vs => by rw [equal, equalEach_self vs]
  | .returning v => by rw [equal, equal_self v]
  | .error _ => by simp [equal]

theorem equalEach_self : (vs : List Value) → equalEach vs vs = true
  | [] => rfl
  | v :: vs => by rw [equalEach, equal_self v, equalEach_self vs, Bool.and_self]

end

end Value

namespace Moment

variable {m n : Moment} {u v w : Value}

end Moment

end CurryLang
