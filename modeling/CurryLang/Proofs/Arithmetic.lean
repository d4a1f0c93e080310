import Mathlib.Data.Int.ModEq
import CurryLang.Proofs.ReadBack
import CurryLang.Session

/-!
# Integer arithmetic is exact modulo 2 ^ 64

An arithmetic tree has two values: the one that a session computes with 64-bit integers, which wraps
around in every subtree, and the one over the unbounded integers. Taking an integer modulo `2 ^ 64` is a
homomorphism for sums, differences, products and signs, so the first is the second modulo `2 ^ 64`
(`Arithmetic.eval_expr`), however often it wraps on the way. The canonical text of a tree is a source of
the same tree (`Arithmetic.reads`), since every operator stands in parentheses.
-/

namespace CurryLang

open Eval

/-- Trees of integer literals, signs, sums, differences and products. -/
inductive Arithmetic where
  | literal (n : Nat) (h : n < 2 ^ 63)
  | negate (operand : Arithmetic)
  | plus (operand : Arithmetic)
  | add (left right : Arithmetic)
  | sub (left right : Arithmetic)
  | mul (left right : Arithmetic)

namespace Arithmetic

def expr : Arithmetic → Expr
  | literal n _ => .int (Int64.ofInt n)
  | negate e => .unary .negate e.expr
  | plus e => .unary .plus e.expr
  | add l r => .binary .add l.expr r.expr
  | sub l r => .binary .sub l.expr r.expr
  | mul l r => .binary .mul l.expr r.expr

/-- The value of the tree over the unbounded integers. -/
def value : Arithmetic → Int
  | literal n _ => n
  | negate e => -e.value
  | plus e => e.value
  | add l r => l.value + r.value
  | sub l r => l.value - r.value
  | mul l r => l.value * r.value

/-! ## Reading -/

theorem reads : (t : Arithmetic) → t.expr.Reads .primary
  | literal n h => by
    refine reads_int ?_
    rw [Int64.toInt_ofInt_of_le (by omega) (by omega)]
    exact Int.natCast_nonneg n
  | negate e => reads_unary .negate (e.reads.of_primary _)
  | plus e => reads_unary .plus (e.reads.of_primary _)
  | add l r => reads_binary .add (l.reads.of_primary _) (r.reads.of_primary _)
  | sub l r => reads_binary .sub (l.reads.of_primary _) (r.reads.of_primary _)
  | mul l r => reads_binary .mul (l.reads.of_primary _) (r.reads.of_primary _)

theorem ofSource_text (t : Arithmetic) (file : String) :
    Program.ofSource t.expr.text file = ([.expr t.expr], []) := by
  obtain ⟨w, hw, hspells⟩ := readsAll_last t.reads.expression
  have htext : Statement.textAll [.expr t.expr] = t.expr.text := by
    rw [Statement.textAll, Statement.text, Statement.textAll, String.append_empty]
  rw [htext] at hspells
  have hsentence : (TokenStream.ofSource t.expr.text file).sentence = w :=
    sentence_of_spells file hspells hw.inPhrases
  exact ofTokens_eq_iff.mpr (hsentence ▸ hw)

/-! ## Evaluating -/

/-- **A tree evaluates to its value modulo `2 ^ 64`**, and changes nothing. -/
theorem eval_expr (run : BodyRunner) (c : ScopeId) (t : Arithmetic) :
    t.expr.eval run c = pure (.int (Int64.ofInt t.value)) := by
  induction t with
  | literal n h => rfl
  | negate e ih =>
    rw [expr, Expr.eval, ih, value, Int64.ofInt_neg]
    rfl
  | plus e ih =>
    rw [expr, Expr.eval, ih, value]
    rfl
  | add l r hl hr =>
    rw [expr, Expr.eval, hl, hr, value, Int64.ofInt_add]
    rfl
  | sub l r hl hr =>
    rw [expr, Expr.eval, hl, hr, value, Int64.ofInt_sub]
    rfl
  | mul l r hl hr =>
    rw [expr, Expr.eval, hl, hr, value, Int64.ofInt_mul]
    rfl

end Arithmetic

/-- There is one 64-bit integer in every residue class. -/
theorem toInt_modEq_iff {m : Int64} {z : Int} :
    m.toInt ≡ z [ZMOD 2 ^ 64] ↔ m = Int64.ofInt z := by
  constructor
  · intro h
    have hz : z.bmod (2 ^ 64) = m.toInt := by
      calc z.bmod (2 ^ 64) = (z % (2 ^ 64 : Nat)).bmod (2 ^ 64) := (Int.emod_bmod ..).symm
        _ = (m.toInt % (2 ^ 64 : Nat)).bmod (2 ^ 64) := congrArg (Int.bmod · _) h.symm
        _ = m.toInt.bmod (2 ^ 64) := Int.emod_bmod ..
        _ = m.toInt := Int64.toInt_bmod_size m
    exact ((Int64.ofInt_eq_iff_bmod_eq_toInt z m).mpr hz).symm
  · rintro rfl
    rw [Int64.toInt_ofInt]
    exact Int.bmod_emod

theorem Program.run_expr {depth : Nat} {e : Expr} {c : ScopeId} {σ τ : State} {v : Value}
    (h : e.eval (bodies depth) c σ = .ok v τ) :
    Program.run depth [.expr e] c σ = (.finished v.unwrap, τ) := by
  have heval : Program.eval (bodies depth) c [.expr e] σ = .ok v τ := by
    unfold Program.eval Block.eval catchReturn
    rw [Statement.evalFrom, Statement.eval, bind_apply, h]
    rfl
  unfold Program.run Eval.conclude
  rw [heval]

/-- **Integer arithmetic is exact modulo `2 ^ 64`, from the text to the result.** The canonical text of
an arithmetic tree has no errors, and running it anywhere shows the only 64-bit integer that is
congruent to the value of the tree over the unbounded integers. Nothing of the state is changed. -/
theorem arithmetic_exact_modulo (t : Arithmetic) (depth : Nat) (file : String) (c : ScopeId)
    (σ : State) :
    Program.ofSource t.expr.text file = ([.expr t.expr], []) ∧
    ∃ n : Int64, run depth t.expr.text file c σ = (.finished (.int n), σ) ∧
      ∀ m : Int64, m.toInt ≡ t.value [ZMOD 2 ^ 64] ↔ m = n := by
  have hsource := t.ofSource_text file
  refine ⟨hsource, Int64.ofInt t.value, ?_, fun m => toInt_modEq_iff⟩
  unfold run
  rw [hsource]
  exact Program.run_expr (congrFun (t.eval_expr (bodies depth) c) σ)

/-- The least integer does not change when its sign does: `-(-9223372036854775807 - 1)`. -/
example : (Arithmetic.negate (.sub (.negate (.literal 9223372036854775807 (by decide)))
      (.literal 1 (by decide)))).expr.eval (bodies 0) 0 State.empty =
    .ok (.int Int64.minValue) State.empty := rfl

end CurryLang
