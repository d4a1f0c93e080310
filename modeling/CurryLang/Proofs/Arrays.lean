import Mathlib.Algebra.Group.Nat.Defs
import CurryLang.Proofs.Application
import CurryLang.Proofs.Grammar

/-!
# Array operations agree with each other

The built-in functions on arrays and the index operator are views of one list: `len` its length,
indexing its elements, `head` and `rest` its decomposition, and `push` the list with one more
element.
Each operation has its lemma, which says what it comes to in terms of the list and that it does not
fail; `rest` applied again and again drops one element after the other (`succeeds_restTimes`).

A new array has a number of its own, so results are compared by their elements (`Value.Lists`).
-/

namespace CurryLang

open Eval

variable {α β : Type}

/-! ## Evaluations that do not fail -/

/-- From every state, the evaluation ends with a result that has the property. -/
def Eval.Succeeds (x : Eval α) (P : α → Prop) : Prop := ∀ σ, ∃ a τ, x σ = .ok a τ ∧ P a

section Succeeds

variable {P : α → Prop} {Q : β → Prop} {a : α} {x : Eval α} {f : α → Eval β}

theorem succeeds_pure (h : P a) : (pure a : Eval α).Succeeds P := fun σ => ⟨a, σ, rfl, h⟩

theorem Eval.Succeeds.bind (hx : x.Succeeds P) (hf : ∀ a, P a → (f a).Succeeds Q) :
    (x >>= f).Succeeds Q := by
  intro σ
  obtain ⟨a, τ, hx, ha⟩ := hx σ
  rw [bind_of_ok f hx]
  exact hf a ha τ

end Succeeds

/-! ## One operation -/

/-- The value is an array of these elements. -/
def Value.Lists (elements : List Value) (v : Value) : Prop := ∃ id, v = .array id elements

theorem succeeds_newArray (elements : List Value) :
    (newArray elements).Succeeds (Value.Lists elements) :=
  fun σ => ⟨_, _, rfl, σ.nextObject, rfl⟩

namespace Decimal

theorem toInt_saturate {n : Nat} (h : n < 2 ^ 63) : (saturate n).toInt = n := by
  obtain ⟨m, hm⟩ : ∃ m : Int64, m.toInt = n :=
    ⟨Int64.ofInt n, Int64.toInt_ofInt_of_le (by omega) (by omega)⟩
  rw [saturate, fit?_eq_some_iff.mpr hm, Option.getD_some, hm]

theorem within?_of_toInt_eq {i : Int64} {k : Nat} (h : i.toInt = k) (size : Nat) :
    within? i size = if k < size then some k else none := by
  simp [within?, h]

theorem within?_of_neg {i : Int64} (h : i.toInt < 0) (size : Nat) : within? i size = none :=
  if_neg fun hi => absurd hi.1 (by omega)

end Decimal

section Operations

variable (run : BodyRunner) {elements : List Value} {a : Value}

theorem succeeds_call {b : Builtin} {arguments : List Value} {P : Value → Prop}
    (h : (b.call arguments).Succeeds P) :
    ((Value.builtin b).apply run arguments).Succeeds P :=
  fun σ => h (σ.note (.calling b arguments.length))

theorem succeeds_len (ha : a.Lists elements) (h : elements.length < 2 ^ 63) :
    ((Value.builtin .len).apply run [a]).Succeeds fun r =>
      ∃ m : Int64, r = .int m ∧ m.toInt = elements.length := by
  obtain ⟨id, rfl⟩ := ha
  exact succeeds_call run (succeeds_pure ⟨_, rfl, Decimal.toInt_saturate h⟩)

theorem succeeds_push (ha : a.Lists elements) (v : Value) :
    ((Value.builtin .push).apply run [a, v]).Succeeds (Value.Lists (elements ++ [v])) := by
  obtain ⟨id, rfl⟩ := ha
  exact succeeds_call run (succeeds_newArray _)

theorem succeeds_head (ha : a.Lists elements) :
    ((Value.builtin .head).apply run [a]).Succeeds (· = elements.headD .nil) := by
  obtain ⟨id, rfl⟩ := ha
  exact succeeds_call run (succeeds_pure rfl)

theorem succeeds_rest_cons {e : Value} (ha : a.Lists (e :: elements)) :
    ((Value.builtin .rest).apply run [a]).Succeeds (Value.Lists elements) := by
  obtain ⟨id, rfl⟩ := ha
  exact succeeds_call run (succeeds_newArray _)

theorem succeeds_rest_nil (ha : a.Lists []) :
    ((Value.builtin .rest).apply run [a]).Succeeds (· = .nil) := by
  obtain ⟨id, rfl⟩ := ha
  exact succeeds_call run (succeeds_pure rfl)

theorem succeeds_index (ha : a.Lists elements) {i : Int64} {k : Nat} (hi : i.toInt = k) :
    (a.index (.int i)).Succeeds (· = elements[k]?.getD .nil) := by
  obtain ⟨id, rfl⟩ := ha
  rw [Value.index, Decimal.within?_of_toInt_eq hi]
  by_cases hk : k < elements.length
  · rw [if_pos hk]
    exact succeeds_pure rfl
  · rw [if_neg hk, List.getElem?_eq_none (Nat.le_of_not_lt hk)]
    exact succeeds_pure rfl

theorem succeeds_index_neg (ha : a.Lists elements) {i : Int64} (hi : i.toInt < 0) :
    (a.index (.int i)).Succeeds (· = .nil) := by
  obtain ⟨id, rfl⟩ := ha
  rw [Value.index, Decimal.within?_of_neg hi]
  exact succeeds_pure rfl

end Operations

/-! ## Walking along an array -/

def restTimes (run : BodyRunner) (a : Value) : Nat → Eval Value
  | 0 => pure a
  | k + 1 => do
    let r ← restTimes run a k
    (Value.builtin .rest).apply run [r]

section Walk

variable (run : BodyRunner) {elements : List Value} {a : Value} (ha : a.Lists elements)
include ha

/-- **`rest` drops one element after the other**, as long as there is one. -/
theorem succeeds_restTimes {k : Nat} (hk : k ≤ elements.length) :
    (restTimes run a k).Succeeds (Value.Lists (elements.drop k)) := by
  induction k with
  | zero => exact succeeds_pure ha
  | succ k ih =>
    refine (ih (Nat.le_of_succ_le hk)).bind fun r hr => ?_
    rw [List.drop_eq_getElem_cons hk] at hr
    exact succeeds_rest_cons run hr

theorem succeeds_restTimes_length :
    (restTimes run a elements.length).Succeeds (Value.Lists []) := by
  have h := succeeds_restTimes run ha (Nat.le_refl _)
  rwa [List.drop_length] at h

theorem succeeds_head_restTimes {k : Nat} (hk : k < elements.length) :
    (restTimes run a k >>= fun r => (Value.builtin .head).apply run [r]).Succeeds
      (· = elements[k]) := by
  refine (succeeds_restTimes run ha (Nat.le_of_lt hk)).bind fun r hr => ?_
  rw [List.drop_eq_getElem_cons hk] at hr
  exact succeeds_head run hr

end Walk

/-! ## Main result -/

/-- **Array operations agree with each other**, and none of them fails on an array `a` with fewer than
`2 ^ 63 - 1` elements. For an index inside the array, indexing gives the element there, just as the
head of as many rests does, and so does indexing the array with one more element; outside the array,
indexing gives `nil`. As many rests as there are elements come to arrays, the last of them without
elements, and one more comes to `nil`. The length is the number of elements, and one more with one
more element, which stands at the index that was the length. -/
theorem array_operations_agree (run : BodyRunner) (id : ObjectId) (elements : List Value) (v : Value)
    (hsize : elements.length < 2 ^ 63 - 1) :
    let a := Value.array id elements
    let len (a : Value) := (Value.builtin .len).apply run [a]
    let push (a v : Value) := (Value.builtin .push).apply run [a, v]
    let head (a : Value) := (Value.builtin .head).apply run [a]
    (∀ (i : Int64) (k : Nat) (hk : k < elements.length), i.toInt = k →
      (a.index (.int i)).Succeeds (· = elements[k]) ∧
      (restTimes run a k >>= head).Succeeds (· = elements[k]) ∧
      (push a v >>= fun b => b.index (.int i)).Succeeds (· = elements[k])) ∧
    (∀ i : Int64, i.toInt < 0 ∨ elements.length ≤ i.toInt → (a.index (.int i)).Succeeds (· = .nil)) ∧
    (∀ k ≤ elements.length, (restTimes run a k).Succeeds (Value.Lists (elements.drop k))) ∧
    (restTimes run a elements.length).Succeeds (Value.Lists []) ∧
    (restTimes run a (elements.length + 1)).Succeeds (· = .nil) ∧
    (len a).Succeeds (fun r => ∃ m : Int64, r = .int m ∧ m.toInt = elements.length) ∧
    (push a v >>= len).Succeeds (fun r => ∃ m : Int64, r = .int m ∧ m.toInt = elements.length + 1) ∧
    ∀ i : Int64, i.toInt = elements.length →
      (push a v >>= fun b => b.index (.int i)).Succeeds (· = v) := by
  intro a len push head
  have ha : a.Lists elements := ⟨id, rfl⟩
  have hpush := succeeds_push run ha v
  have hempty := succeeds_restTimes_length run ha
  refine ⟨fun i k hk hi => ⟨?_, succeeds_head_restTimes run ha hk, ?_⟩, fun i hi => ?_,
    fun k hk => succeeds_restTimes run ha hk, hempty, ?_, ?_, ?_, fun i hi => ?_⟩
  · have h := succeeds_index ha hi
    rwa [List.getElem?_eq_getElem hk] at h
  · refine hpush.bind fun b hb => ?_
    have h := succeeds_index hb hi
    rwa [List.getElem?_append_left hk, List.getElem?_eq_getElem hk] at h
  · rcases hi with hi | hi
    · exact succeeds_index_neg ha hi
    · obtain ⟨k, hk⟩ := Int.eq_ofNat_of_zero_le (a := i.toInt) (by omega)
      have h := succeeds_index ha hk
      rwa [List.getElem?_eq_none (by omega)] at h
  · exact hempty.bind fun r hr => succeeds_rest_nil run hr
  · exact succeeds_len run ha (by omega)
  · refine hpush.bind fun b hb => ?_
    have h := succeeds_len run hb (by rw [List.length_append, List.length_singleton]; omega)
    simpa using h
  · refine hpush.bind fun b hb => ?_
    have h := succeeds_index hb hi
    rwa [List.getElem?_append_right (Nat.le_refl _), Nat.sub_self] at h

/-- The second of two elements, what lies behind them, and one more at the end. -/
theorem array_of_two_elements :
    let a := Value.array 0 [.int 7, .bool false]
    [Value.int 7, .bool false].length < 2 ^ 63 - 1 ∧
    (restTimes (bodies 0) a 1 >>= fun r => (Value.builtin .head).apply (bodies 0) [r]).Succeeds
      (· = .bool false) ∧
    (restTimes (bodies 0) a 3).Succeeds (· = .nil) ∧
    (a.index (.int (-1))).Succeeds (· = .nil) ∧
    ((Value.builtin .push).apply (bodies 0) [a, .nil] >>= fun b => b.index (.int 2)).Succeeds
      (· = .nil) := by
  intro a
  have hsize : [Value.int 7, .bool false].length < 2 ^ 63 - 1 := by decide
  obtain ⟨hinside, houtside, -, -, hnil, -, -, hlast⟩ :=
    array_operations_agree (bodies 0) 0 [.int 7, .bool false] .nil hsize
  exact ⟨hsize, (hinside 1 1 (by decide) rfl).2.1, hnil, houtside (-1) (.inl (by decide)),
    hlast 2 rfl⟩

end CurryLang
