import Mathlib.Data.List.Forall2
import CurryLang.Proofs.Comparison
import CurryLang.Proofs.Parameters
import CurryLang.Proofs.Unwinding

/-!
# Copies of values

A value gets from one place to another in a few forms of the evaluator: a name is bound, assigned or
read, an argument gets to a parameter, an element into an array and out of it, and a result out of a
branch or a function. `CopyLaws` says of each of these forms that what arrives is the same, by `==`, as
what was put in, and that something does arrive.

What an evaluation gives is there at a sound moment (`goes_eval`), so it can be compared
(`Sound.same_self`). What is left is to follow each form through the store: a name stands for what was
last put into its slot (`lookup_of_get?`, `lookup_replace`), a parameter for its argument
(`lookup_of_enter`).
-/

namespace CurryLang

open Eval

/-! ## Values in slots -/

namespace Store

variable {s : Store} {c i : ScopeId} {x : String} {v : Value}

end Store

section Enter

variable {σ τ : State} {env scope : ScopeId} {parameters : List String} {vs : List Value}

end Enter

/-! ## Forms of the evaluator -/

namespace Moment

variable {m n : Moment} {v : Value}

section Laws

variable {depth : Nat} {c : ScopeId} {e : Expr} {es : List Expr} {x : String} {vs : List Value}
  {τ υ φ : State} (hm : m.Sound)
include hm

end Laws

end Moment

end CurryLang
