import CurryLang.Store
import CurryLang.Text.Quoted

/-!
# Listing the visible names

The names of a chain of scopes, one list for each scope from the inside out, each in the order of
code points.
-/

namespace CurryLang.Store

/-- The names of scope number `c` in order. -/
def sortedNames (s : Store) (c : ScopeId) : List String :=
  ((s.scopes[c]?.map Scope.names).getD []).mergeSort fun a b => decide (a ≤ b)

/-- The names of every scope of a chain, as nested lists of quoted texts. -/
def listing (s : Store) (c : ScopeId) : String :=
  Text.bracketed ((s.chain c).map fun i => Text.bracketed ((s.sortedNames i).map Text.quote))

end CurryLang.Store
