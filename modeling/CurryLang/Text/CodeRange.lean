/-!
# Ranges of code points

A set of characters as a list of closed ranges of code points, the form in which the properties
of characters are tabulated. All tables follow version 17.0 of the Unicode character database.
-/

namespace CurryLang.Text

/-- The code points from `first` to `last`, both included. -/
structure CodeRange where
  first : Nat
  last : Nat

/-- Whether one of the ranges holds the code point of a character. -/
def inRanges (ranges : List CodeRange) (c : Char) : Bool :=
  ranges.any fun r => decide (r.first ≤ c.toNat) && decide (c.toNat ≤ r.last)

end CurryLang.Text
