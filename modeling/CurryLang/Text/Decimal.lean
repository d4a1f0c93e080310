/-!
# Decimal numbers

Decimal text of natural numbers, integers and 64-bit integers, and its reading. The reader of
64-bit integers takes one optional sign and at least one digit, and refuses everything out of
range; leading zeros are allowed. What is written reads back (`toInt64?_ofInt64`).
-/

namespace CurryLang.Decimal

/-! ## Writing -/

/-- The decimal digits of `n`, the most significant first; zero is one digit. -/
def digits (n : Nat) : List Char := Nat.toDigits 10 n

/-- The decimal text of a natural number. -/
def ofNat (n : Nat) : String := String.ofList (digits n)

/-- The decimal text of an integer: a minus sign stands before a negative one only. -/
def ofInt : Int → String
  | .ofNat n => ofNat n
  | .negSucc n => "-" ++ ofNat (n + 1)

def ofInt64 (n : Int64) : String := ofInt n.toInt

/-! ## Reading -/

/-- The number that a row of digits stands for. -/
def value (cs : List Char) : Nat := Nat.ofDigitChars 10 cs 0

/-- The number written by one or more ASCII digits and nothing else. -/
def toNat? (cs : List Char) : Option Nat :=
  if cs.isEmpty || !cs.all Char.isDigit then none else some (value cs)

/-- The integer written by one optional sign and one or more digits. -/
def toInt? : List Char → Option Int
  | '-' :: cs => (toNat? cs).map fun n => -(n : Int)
  | '+' :: cs => (toNat? cs).map fun n => (n : Int)
  | cs => (toNat? cs).map fun n => (n : Int)

/-- The 64-bit integer with the value `n`, when there is one. -/
def fit? (n : Int) : Option Int64 :=
  if Int64.minValue.toInt ≤ n ∧ n ≤ Int64.maxValue.toInt then some (Int64.ofInt n) else none

/-- The 64-bit integer that a text writes; none when it is no number or out of range. -/
def toInt64? (s : String) : Option Int64 := (toInt? s.toList).bind fit?

/-! ## Sizes and positions as 64-bit integers -/

/-- A size as a 64-bit integer; a size beyond the greatest one becomes the greatest one. -/
def saturate (n : Nat) : Int64 := (fit? n).getD Int64.maxValue

/-- The position that a 64-bit integer names in a row of `size` elements. -/
def within? (i : Int64) (size : Nat) : Option Nat :=
  if 0 ≤ i.toInt ∧ i.toInt.toNat < size then some i.toInt.toNat else none

/-! ## Reading what was written -/

theorem isDigit_of_mem_digits {c : Char} {n : Nat} (h : c ∈ digits n) : c.isDigit = true :=
  Nat.isDigit_of_mem_toDigits (by decide) (by decide) h

theorem digits_ne_nil (n : Nat) : digits n ≠ [] := Nat.toDigits_ne_nil

@[simp] theorem value_digits (n : Nat) : value (digits n) = n := Nat.ofDigitChars_ten_toDigits

@[simp] theorem toNat?_digits (n : Nat) : toNat? (digits n) = some n := by
  have hall : (digits n).all Char.isDigit = true :=
    List.all_eq_true.mpr fun c h => isDigit_of_mem_digits h
  simp [toNat?, digits_ne_nil, hall]

/-- A row that starts with a digit has no sign. -/
theorem toInt?_of_isDigit {c : Char} {cs : List Char} (h : c.isDigit = true) :
    toInt? (c :: cs) = (toNat? (c :: cs)).map fun n => (n : Int) := by
  have hminus : c ≠ '-' := by rintro rfl; simp at h
  have hplus : c ≠ '+' := by rintro rfl; simp at h
  rw [toInt?]
  · rintro cs' ⟨⟩; exact hminus rfl
  · rintro cs' ⟨⟩; exact hplus rfl

theorem toInt?_ofInt (n : Int) : toInt? (ofInt n).toList = some n := by
  cases n with
  | ofNat n =>
    obtain ⟨c, cs, hc⟩ := List.exists_cons_of_ne_nil (digits_ne_nil n)
    have hd : c.isDigit = true := isDigit_of_mem_digits (n := n) (by simp [hc])
    simp only [ofInt, ofNat, String.toList_ofList]
    rw [hc, toInt?_of_isDigit hd, ← hc, toNat?_digits]
    rfl
  | negSucc n =>
    have hsign : "-".toList = ['-'] := by decide
    simp only [ofInt, ofNat, String.toList_append, String.toList_ofList, hsign,
      List.singleton_append, toInt?, toNat?_digits]
    rfl

theorem fit?_toInt (n : Int64) : fit? n.toInt = some n := by
  have hlo := Int64.minValue_le_toInt n
  have hhi := Int64.toInt_le n
  rw [fit?, if_pos ⟨hlo, hhi⟩, Int64.ofInt_toInt]

theorem toInt64?_ofInt64 (n : Int64) : toInt64? (ofInt64 n) = some n := by
  rw [toInt64?, ofInt64, toInt?_ofInt]
  exact fit?_toInt n

end CurryLang.Decimal
