import Mathlib.Tactic.Ring
import CurryLang.Proofs.Lines
import CurryLang.Proofs.ParserExact

/-!
# Integer literals

A source text of digits alone is read as one integer if its decimal value is a 64-bit integer, and is
one error otherwise, however long it is and however many zeros it starts with.

1. `Decimal.positional` is the decimal value: each digit times a power of ten. It is what the reader
   of numbers computes digit by digit (`Decimal.value_eq_positional`).
2. The value has no bound, but reading needs no more than 64 bits. `Decimal.total?` keeps a running
   total and gives up at the first step that leaves the range. No later digit could bring the value
   back into the range, so it gives up exactly where the value is too large (`Decimal.total?_eq`).
3. Every text of digits is the canonical text of its value behind zeros, or without them
   (`Decimal.exists_zeros_digits`).
4. A numeral is one token (`Numeral.tokens_ofSource`). Where a number that is out of range starts a
   statement, one error is recorded and one token is skipped (`Reader.statements_refused`).
-/

namespace CurryLang

open Lexer

namespace Decimal

/-! ## Values of digits -/

def digitValue (c : Char) : Nat := c.toNat - '0'.toNat

/-- The decimal value of a row of digits: a digit with `k` digits behind it counts `10 ^ k` times. -/
def positional : List Char → Nat
  | [] => 0
  | c :: cs => digitValue c * 10 ^ cs.length + positional cs

/-- One digit moves from the row to the number in front of it. -/
theorem positional_behind (front : Nat) (c : Char) (cs : List Char) :
    front * 10 ^ (c :: cs).length + positional (c :: cs) =
      (front * 10 + digitValue c) * 10 ^ cs.length + positional cs := by
  rw [positional, List.length_cons]
  ring

theorem ofDigitChars_eq (cs : List Char) (front : Nat) :
    Nat.ofDigitChars 10 cs front = front * 10 ^ cs.length + positional cs := by
  induction cs generalizing front with
  | nil => simp [positional]
  | cons c cs ih =>
    rw [Nat.ofDigitChars_cons, ih, positional_behind, Nat.mul_comm 10 front]
    rfl

theorem value_eq_positional (cs : List Char) : value cs = positional cs := by
  rw [value, ofDigitChars_eq]
  omega

/-! ## A running total of 64 bits -/

/-- The total with one more digit behind it. Neither the tenfold nor the sum may leave the range. -/
def push? (total : Int64) (c : Char) : Option Int64 :=
  (fit? (total.toInt * 10)).bind fun tenfold => fit? (tenfold.toInt + digitValue c)

/-- The total of a row of digits, as long as it is a 64-bit integer. -/
def total? (cs : List Char) : Option Int64 := cs.foldlM push? 0

theorem fit?_natCast_eq_none_iff {m : Nat} : fit? m = none ↔ 2 ^ 63 - 1 < m := by
  unfold fit?
  rw [Int64.toInt_minValue, Int64.toInt_maxValue]
  split
  · next h =>
    have hm : m ≤ 2 ^ 63 - 1 := by omega
    simpa using hm
  · next h =>
    have hm : 2 ^ 63 - 1 < m := by omega
    simpa using hm

/-- A step gives up exactly if the next total is out of range. -/
theorem push?_eq {total : Int64} {m : Nat} (h : total.toInt = m) (c : Char) :
    push? total c = fit? (m * 10 + digitValue c : Nat) := by
  have htenfold : total.toInt * 10 = (m * 10 : Nat) := by
    rw [h]
    rfl
  unfold push?
  rw [htenfold]
  cases hfit : fit? (m * 10 : Nat) with
  | none =>
    have hlarge := fit?_natCast_eq_none_iff.mp hfit
    exact (fit?_natCast_eq_none_iff.mpr (by omega)).symm
  | some tenfold =>
    rw [Option.bind_some, fit?_eq_some_iff.mp hfit]
    rfl

/-- From a total on, the rest of the digits gives the value of all of them, if that is in range. -/
theorem foldlM_push?_eq {total : Int64} {m : Nat} (h : total.toInt = m) (cs : List Char) :
    cs.foldlM push? total = fit? (m * 10 ^ cs.length + positional cs : Nat) := by
  induction cs generalizing total m with
  | nil =>
    have hm : m * 10 ^ ([] : List Char).length + positional [] = m := by simp [positional]
    rw [hm, ← h, fit?_toInt]
    rfl
  | cons c cs ih =>
    rw [List.foldlM_cons, push?_eq h, positional_behind]
    cases hfit : fit? (m * 10 + digitValue c : Nat) with
    | none =>
      -- more digits make the value larger, never smaller
      have hgrows : m * 10 + digitValue c ≤ (m * 10 + digitValue c) * 10 ^ cs.length :=
        Nat.le_mul_of_pos_right _ (Nat.pow_pos (by decide))
      have hlarge := fit?_natCast_eq_none_iff.mp hfit
      exact (fit?_natCast_eq_none_iff.mpr (by omega)).symm
    | some next => exact ih (fit?_eq_some_iff.mp hfit)

/-- **The running total is the value, if that is in range.** -/
theorem total?_eq (cs : List Char) : total? cs = fit? (positional cs) := by
  have hstart : (0 : Int64).toInt = (0 : Nat) := rfl
  have hrun := foldlM_push?_eq hstart cs
  rwa [Nat.zero_mul, Nat.zero_add] at hrun

theorem total?_eq_some_iff {cs : List Char} {n : Int64} :
    total? cs = some n ↔ n.toInt = positional cs := by
  rw [total?_eq, fit?_eq_some_iff]

theorem total?_eq_none_iff {cs : List Char} : total? cs = none ↔ 2 ^ 63 - 1 < positional cs := by
  rw [total?_eq, fit?_natCast_eq_none_iff]

/-! ## Leading zeros -/

theorem toNat_of_digit {c : Char} (h : Digit c) :
    c.toNat = 48 + digitValue c ∧ digitValue c < 10 := by
  have hc : 48 ≤ c.toNat ∧ c.toNat ≤ 57 := Char.isDigit_iff_toNat.mp (isDigit_iff.mpr h)
  have hvalue : digitValue c = c.toNat - 48 := rfl
  omega

theorem digits_digitValue {c : Char} (h : Digit c) : digits (digitValue c) = [c] := by
  obtain ⟨hc, hlt⟩ := toNat_of_digit h
  have hchar : (digitValue c).digitChar.toNat = c.toNat := by
    rw [Nat.toNat_digitChar_of_lt_ten hlt, hc]
  rw [digits, Nat.toDigits_of_lt_base hlt, Char.toNat_inj.mp hchar]

/-- Digits behind the text of a positive number continue the text. -/
theorem digits_append {m : Nat} (hm : 0 < m) {cs : List Char} (hcs : ∀ c ∈ cs, Digit c) :
    digits m ++ cs = digits (m * 10 ^ cs.length + positional cs) := by
  induction cs generalizing m with
  | nil => simp [positional]
  | cons c cs ih =>
    rw [List.forall_mem_cons] at hcs
    have hnext : digits m ++ [c] = digits (m * 10 + digitValue c) := by
      rw [← digits_digitValue hcs.1, Nat.mul_comm]
      exact Nat.toDigits_append_toDigits (by decide) hm (toNat_of_digit hcs.1).2
    rw [positional_behind, ← ih (by omega) hcs.2, ← hnext, List.append_assoc,
      List.singleton_append]

/-- **A row of digits is the text of its value behind zeros.** -/
theorem exists_zeros_digits {cs : List Char} (hne : cs ≠ []) (hcs : ∀ c ∈ cs, Digit c) :
    ∃ zeros, cs = List.replicate zeros '0' ++ digits (positional cs) := by
  induction cs with
  | nil => exact absurd rfl hne
  | cons c cs ih =>
    rw [List.forall_mem_cons] at hcs
    by_cases hzero : digitValue c = 0
    · have hc : c = '0' := by
        have hself := digits_digitValue hcs.1
        rw [hzero] at hself
        exact (List.singleton_inj.mp hself).symm
      have hvalue : positional (c :: cs) = positional cs := by
        rw [positional, hzero]
        omega
      by_cases hlast : cs = []
      · -- a zero behind which nothing stands is no leading zero
        subst hc hlast
        exact ⟨0, rfl⟩
      · obtain ⟨zeros, hzeros⟩ := ih hlast hcs.2
        refine ⟨zeros + 1, ?_⟩
        rw [hvalue, List.replicate_succ, List.cons_append, ← hzeros, hc]
    · refine ⟨0, ?_⟩
      rw [positional, ← digits_append (Nat.pos_of_ne_zero hzero) hcs.2, digits_digitValue hcs.1]
      rfl

end Decimal

/-! ## Reading a numeral -/

/-- A text of one or more digits and nothing else. -/
def Numeral (d : String) : Prop := d ≠ "" ∧ ∀ c ∈ d.toList, Digit c

theorem wellFormed_int_iff {d : String} : Lexeme.wellFormed ⟨.int, d⟩ = true ↔ Numeral d := by
  simp [Lexeme.wellFormed_iff, Lexeme.Proper, Numeral]

instance (d : String) : Decidable (Numeral d) := decidable_of_iff _ wellFormed_int_iff

namespace Numeral

variable {d : String} (h : Numeral d)
include h

theorem toList_ne_nil : d.toList ≠ [] := by
  simpa using h.1

theorem toInt64?_eq_total? : Decimal.toInt64? d = Decimal.total? d.toList := by
  have hread : Decimal.toInt? d.toList = some (Decimal.value d.toList) :=
    Decimal.toInt?_eq_some_iff.mpr
      ⟨d.toList, h.toList_ne_nil, fun c hc => isDigit_iff.mpr (h.2 c hc), .inl ⟨.inl rfl, rfl⟩⟩
  rw [Decimal.toInt64?, hread, Decimal.total?_eq, Decimal.value_eq_positional]
  rfl

/-- **A numeral is one token**, on the first line. -/
theorem tokens_ofSource (file : String) :
    (TokenStream.ofSource d file).tokens = [⟨⟨.int, d⟩, ⟨file, 1⟩⟩] := by
  have hends : Lexeme.endsBefore ⟨.int, d⟩ ([] : List Char).head? = true := rfl
  obtain ⟨c, more, hspelling, hspace, hcut⟩ :=
    Lexeme.cut_spelling (wellFormed_int_iff.mpr h) hends
  have hlist : d.toList = c :: more ++ [] := by
    rw [List.append_nil]
    exact hspelling
  unfold TokenStream.ofSource
  rw [hlist, scan_piece hspace hcut]
  rfl

theorem sentence_ofSource (file : String) :
    (TokenStream.ofSource d file).sentence = [⟨.int, d⟩] := by
  unfold TokenStream.sentence
  rw [h.tokens_ofSource]
  rfl

theorem significant_ofSource (file : String) :
    (TokenStream.ofSource d file).significant = [⟨⟨.int, d⟩, ⟨file, 1⟩⟩] := by
  unfold TokenStream.significant
  rw [h.tokens_ofSource]
  rfl

end Numeral

/-! ## A number out of range -/

namespace Reader

theorem current_bind {α : Type} (f : Lexeme → Reader Cursor α) (c : Cursor) :
    (current >>= f) c = f c.current c := rfl

/-- A statement without a result leaves nothing in the program, and reading goes on one lexeme behind
the place where it stopped. -/
theorem statements_dropped {n : Nat} {around : Enclosure} {c d : Cursor}
    (hends : around.ends c.current.kind = false) (h : statement n c = (none, d)) :
    statements (n + 1) around c = statements n around d.advance := by
  rw [statements, current_bind, if_neg (Bool.eq_false_iff.mp hends), bind_apply, attempt, h]
  show (statements n around >>= fun rest => pure ([] ++ rest)) d.advance = _
  rw [bind_apply]
  rcases statements n around d.advance with ⟨_ | rest, e⟩ <;> rfl

section Refused

variable {c : Cursor} (hkind : c.current.kind = .int)
  (h : Decimal.toInt64? c.current.literal = none)
include h

theorem integer_refused :
    integer c = (none, c.record (.invalidInteger c.current.literal) c.index) := by
  unfold integer
  rw [current_bind]
  simp only [h]
  rfl

include hkind

theorem operand_refused (n : Nat) :
    operand (n + 1) c = (none, c.record (.invalidInteger c.current.literal) c.index) := by
  unfold operand
  rw [current_bind]
  simp only [hkind]
  exact integer_refused h

/-- A statement that starts with a number out of range ends there. -/
theorem statement_refused (n : Nat) :
    statement (n + 3) c = (none, c.record (.invalidInteger c.current.literal) c.index) := by
  have hexpression : expression (n + 2) .lowest c =
      (none, c.record (.invalidInteger c.current.literal) c.index) := by
    unfold expression
    rw [bind_apply, operand_refused hkind h]
  unfold statement
  rw [current_bind]
  simp only [hkind]
  rw [bind_apply, hexpression]

/-- **A number out of range at the start of a statement** costs one error and one token, and reading
goes on behind it. -/
theorem statements_refused (n : Nat) (around : Enclosure) :
    statements (n + 4) around c =
      statements (n + 3) around (c.record (.invalidInteger c.current.literal) c.index).advance := by
  have hends : around.ends c.current.kind = false := by
    rw [hkind]
    cases around <;> rfl
  exact statements_dropped hends (statement_refused hkind h n)

end Refused

end Reader

namespace Numeral

variable {d : String} (h : Numeral d)
include h

theorem ofSource_of_fits {n : Int64} (hn : Decimal.toInt64? d = some n) (file : String) :
    Program.ofSource d file = ([.expr (.int n)], []) := by
  have hliteral : Derives (.expr .primary (.int n)) [⟨.int, d⟩] :=
    .int rfl (Decimal.toInt64?_eq_some_iff.mp hn)
  have hprogram : Derives (.statements [.expr (.int n)]) ([⟨.int, d⟩] ++ []) :=
    .bare (.expr (hliteral.loosen (by decide))) nofun .noStatements
  rw [List.append_nil, ← h.sentence_ofSource file] at hprogram
  exact ofTokens_eq_iff.mpr hprogram

theorem ofSource_of_refused (hn : Decimal.toInt64? d = none) (file : String) :
    Program.ofSource d file = ([], [⟨.invalidInteger d, ⟨file, 1⟩⟩]) := by
  -- one lexeme is read with the bound 16, and behind it stands the end of the input
  have hread : Program.read [⟨.int, d⟩] = (some [], ⟨[], 1, [⟨.invalidInteger d, 0⟩], false⟩) :=
    Reader.statements_refused (c := .start [⟨.int, d⟩]) rfl hn 12 .source
  have hlexemes : Program.ofLexemes [⟨.int, d⟩] = ([], [⟨.invalidInteger d, 0⟩]) := by
    unfold Program.ofLexemes
    rw [hread]
    rfl
  have hplace : (TokenStream.ofSource d file).positionAt 0 = ⟨file, 1⟩ := by
    unfold TokenStream.positionAt
    rw [h.significant_ofSource]
    rfl
  rw [Program.ofSource, Program.ofTokens_eq, h.significant_ofSource, List.map_singleton, hlexemes]
  simp only [List.map_singleton, Fault.locate, hplace]

end Numeral

/-! ## Main result -/

theorem toList_text_int {k : Int64} {n : Nat} (h : k.toInt = n) :
    (Expr.int k).text.toList = Decimal.digits n := by
  rw [Expr.text, Decimal.ofInt64, h]
  exact String.toList_ofList

theorem numeral_text_int {k : Int64} {n : Nat} (h : k.toInt = n) : Numeral (Expr.int k).text := by
  have htext := toList_text_int h
  refine ⟨fun hempty => Decimal.digits_ne_nil n ?_, fun c hc => ?_⟩
  · rw [← htext, hempty]
    rfl
  · rw [htext] at hc
    exact isDigit_iff.mp (Decimal.isDigit_of_mem_digits hc)

/-- **Integer literals are read exactly up to the bound of 64-bit integers.** Let `d` be a text of one
or more digits. If its decimal value is at most `2 ^ 63 - 1`, the source `d` is the literal with this
value and has no errors. Otherwise the program is empty and there is one error, which names `d` on the
first line. A running total of 64 bits tells these cases apart. The canonical text of an integer that
is not negative is such a text with this value, and all others have zeros before this one. -/
theorem integer_literals_exact (file : String) :
    (∀ d : String, Numeral d →
      (Decimal.positional d.toList ≤ 2 ^ 63 - 1 →
        ∃ n : Int64, n.toInt = Decimal.positional d.toList ∧
          Decimal.total? d.toList = some n ∧
          Program.ofSource d file = ([.expr (.int n)], [])) ∧
      (2 ^ 63 - 1 < Decimal.positional d.toList →
        Decimal.total? d.toList = none ∧
          Program.ofSource d file = ([], [⟨.invalidInteger d, ⟨file, 1⟩⟩]))) ∧
    ∀ n : Int64, 0 ≤ n →
      Numeral (Expr.int n).text ∧ Decimal.positional (Expr.int n).text.toList = n.toInt ∧
      ∀ d : String, Numeral d → Decimal.positional d.toList = n.toInt →
        ∃ zeros, d.toList = List.replicate zeros '0' ++ (Expr.int n).text.toList := by
  refine ⟨fun d hd => ⟨fun hsmall => ?_, fun hlarge => ?_⟩, fun n hn => ?_⟩
  · have hfits : Decimal.total? d.toList ≠ none := fun hnone =>
      Nat.not_lt.mpr hsmall (Decimal.total?_eq_none_iff.mp hnone)
    obtain ⟨n, hn⟩ := Option.ne_none_iff_exists'.mp hfits
    have hread := hd.ofSource_of_fits (hd.toInt64?_eq_total?.trans hn) file
    exact ⟨n, Decimal.total?_eq_some_iff.mp hn, hn, hread⟩
  · have hnone := Decimal.total?_eq_none_iff.mpr hlarge
    exact ⟨hnone, hd.ofSource_of_refused (hd.toInt64?_eq_total?.trans hnone) file⟩
  · have hnonneg : 0 ≤ n.toInt := Int64.le_iff_toInt_le.mp hn
    obtain ⟨k, hk⟩ := Int.eq_ofNat_of_zero_le hnonneg
    have htext := toList_text_int hk
    refine ⟨numeral_text_int hk, ?_, fun d hd hvalue => ?_⟩
    · rw [htext, ← Decimal.value_eq_positional, Decimal.value_digits, hk]
    · have hdigits := Decimal.exists_zeros_digits hd.toList_ne_nil hd.2
      have hpositional : Decimal.positional d.toList = k := by omega
      rwa [hpositional, ← htext] at hdigits

/-- The greatest integer behind two zeros is read, the number after it is not, and zero is written by
one digit. -/
theorem greatest_literal_and_next :
    (Numeral "009223372036854775807" ∧ ∃ n : Int64, n.toInt = 9223372036854775807 ∧
      Program.ofSource "009223372036854775807" "f" = ([.expr (.int n)], [])) ∧
    (Numeral "9223372036854775808" ∧ Program.ofSource "9223372036854775808" "f" =
      ([], [⟨.invalidInteger "9223372036854775808", ⟨"f", 1⟩⟩])) ∧
    Numeral (Expr.int 0).text ∧ Decimal.positional (Expr.int 0).text.toList = (0 : Int64).toInt := by
  obtain ⟨hnumerals, htexts⟩ := integer_literals_exact "f"
  have hzeros : Numeral "009223372036854775807" := by decide +kernel
  have hgreatest : Decimal.positional "009223372036854775807".toList = 9223372036854775807 := by
    decide +kernel
  have hnext : Numeral "9223372036854775808" := by decide +kernel
  obtain ⟨n, hn, -, hread⟩ := (hnumerals _ hzeros).1 (by omega)
  obtain ⟨-, hrefused⟩ := (hnumerals _ hnext).2 (by decide +kernel)
  obtain ⟨hzero, hvalue, -⟩ := htexts 0 (by decide)
  rw [hgreatest] at hn
  exact ⟨⟨hzeros, n, hn, hread⟩, ⟨hnext, hrefused⟩, hzero, hvalue⟩

end CurryLang
