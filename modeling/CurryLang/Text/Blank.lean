/-!
# Blank characters

The characters that count as blank at the ends of a comment and in an empty input line. These are
the twenty-five code points with the Unicode property `White_Space`, a larger set than the five
characters that may separate tokens.
-/

namespace CurryLang.Text

/-- A blank character: one with the Unicode property `White_Space`. -/
def isBlank (c : Char) : Bool :=
  let n := c.toNat
  (0x09 ≤ n && n ≤ 0x0D) || n == 0x20 || n == 0x85 || n == 0xA0 || n == 0x1680 ||
    (0x2000 ≤ n && n ≤ 0x200A) || n == 0x2028 || n == 0x2029 || n == 0x202F || n == 0x205F ||
    n == 0x3000

/-- The characters left after the blank ones at both ends are removed. -/
def trim (cs : List Char) : List Char :=
  ((cs.dropWhile isBlank).reverse.dropWhile isBlank).reverse

end CurryLang.Text
