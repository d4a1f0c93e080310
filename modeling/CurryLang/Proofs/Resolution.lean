import CurryLang.Proofs.Course

/-!
# Names keep the scope they resolve to

A name resolves to the nearest scope of a chain that holds it. An edit cannot change this for a name
that resolves: a new scope stands on no old chain, an assignment adds no name, and a binding in a
scope of the chain is refused when a scope further out holds the name (`holder?_edit`). So a name
keeps its scope through all edits, hence through everything that can happen in a session.

1. One edit keeps the scope of every name that resolves, and so do many.
2. A session is a list of actions: scopes made, left, bound or assigned in from outside, and
   programs evaluated. `edits` lists what they do to the store, in order, also inside evaluations.
3. The stores after the first `k` edits are the moments of the session.
-/

namespace CurryLang

open Eval

/-! ## Edits -/

namespace Store

variable {s : Store} {h i : ScopeId} {x : String}

theorem holder?_eq_some_iff : s.holder? h x = some i ↔
    s.holds i x = true ∧ ∃ inner outer, s.chain h = inner ++ i :: outer ∧
      ∀ j ∈ inner, s.holds j x = false := by
  unfold holder?
  simp only [List.find?_eq_some_iff_append, Bool.not_eq_true']

/-- A scope inside the one a name resolves to cannot be given that name. -/
theorem visible_of_holder? {c : ScopeId} {inner outer : List ScopeId}
    (hchain : s.chain h = inner ++ i :: outer) (hi : s.holds i x = true) (hc : c ∈ inner) :
    s.visible c x = true := by
  obtain ⟨front, back, rfl⟩ := List.append_of_mem hc
  have hsplit : s.chain h = front ++ c :: (back ++ i :: outer) := by
    rw [hchain, List.append_assoc, List.cons_append]
  rw [visible_iff, s.chain_of_append hsplit]
  exact ⟨i, by simp, hi⟩

/-- **An edit keeps the scope of every name that resolves.** -/
theorem holder?_edit (e : Edit) (hs : s.holder? h x = some i) :
    (s.edit e).holder? h x = some i := by
  obtain ⟨hi, inner, outer, hchain, hinner⟩ := holder?_eq_some_iff.mp hs
  have hh : h < s.scopes.size := lt_of_mem_chain (i := i) (by simp [hchain])
  cases e with
  | push c =>
    refine holder?_eq_some_iff.mpr ⟨?_, inner, outer, ?_, fun j hj => ?_⟩
    · exact (s.holds_push c i x).trans hi
    · show (s.push c).2.chain h = _
      rw [chain_push, if_neg (Nat.ne_of_lt hh), hchain]
    · exact (s.holds_push c j x).trans (hinner j hj)
  | bind c y v =>
    rw [edit]
    split
    · exact hs
    · next hy =>
      refine holder?_eq_some_iff.mpr ⟨holds_insert.mpr (Or.inl hi), inner, outer, ?_, ?_⟩
      · rw [chain_insert, hchain]
      · intro j hj
        rw [Bool.eq_false_iff, ne_eq, holds_insert]
        rintro (hold | ⟨rfl, rfl, -⟩)
        · rw [hinner j hj] at hold
          cases hold
        · exact hy (visible_of_holder? hchain hi hj)
  | rebind c y v =>
    rw [edit]
    split
    · next k hk =>
      refine holder?_eq_some_iff.mpr ⟨?_, inner, outer, ?_, fun j hj => ?_⟩
      · rw [holds_replace, hi]
      · rw [chain_replace, hchain]
      · rw [holds_replace, hinner j hj]
    · exact hs

theorem holder?_replay (es : List Edit) (hs : s.holder? h x = some i) :
    (s.replay es).holder? h x = some i := by
  induction es generalizing s with
  | nil => exact hs
  | cons e es ih => exact ih (holder?_edit e hs)

end Store

/-! ## Sessions -/

/-- What can happen in a session. The numbers are the scopes through which it happens. -/
inductive Action where
  | push (c : ScopeId)
  | pop (c : ScopeId)
  | bind (c : ScopeId) (x : String) (v : Value)
  | rebind (c : ScopeId) (x : String) (v : Value)
  | evaluate (depth : Nat) (p : Program) (c : ScopeId)

namespace Action

/-- Performs an action. Going from a scope to the one around it is reading. -/
def eval : Action → Eval Unit
  | push c => do
    let _ ← pushScope c
  | pop _ => pure ()
  | bind c x v => define c x v
  | rebind c x v => assign c x v
  | evaluate depth p c => do
    let _ ← p.eval (bodies depth) c

/-- Performs an action and records its edits. -/
def course : Action → Course Unit
  | push c => do
    let _ ← Course.pushScope c
  | pop _ => pure ()
  | bind c x v => .making (.bind c x v) (define c x v)
  | rebind c x v => .making (.rebind c x v) (assign c x v)
  | evaluate depth p c => do
    let _ ← p.course depth c

theorem follows (a : Action) : Follows a.course a.eval := by
  cases a with
  | push c => exact Follows.pushScope.bind fun _ => Follows.pure ()
  | pop c => exact Follows.pure ()
  | bind c x v => exact Follows.define x v
  | rebind c x v => exact Follows.assign x v
  | evaluate depth p c => exact (Follows.program depth c p).bind fun _ => Follows.pure ()

end Action

/-- Performs actions one after the other, whether they fail or not, unless one does not end. -/
def perform : List Action → State → Option State
  | [], σ => some σ
  | a :: rest, σ => (a.eval σ).state?.bind (perform rest)

/-- The edits of actions one after the other, up to the last one that was begun. -/
def edits : List Action → State → List Edit
  | [], _ => []
  | a :: rest, σ => (a.course σ).edits ++ (((a.eval σ).state?.map (edits rest)).getD [])

theorem store_perform {actions : List Action} {σ τ : State} (h : perform actions σ = some τ) :
    τ.store = σ.store.replay (edits actions σ) := by
  induction actions generalizing σ with
  | nil =>
    rw [← Option.some.inj h]
    rfl
  | cons a rest ih =>
    obtain ⟨υ, hυ, hrest⟩ := Option.bind_eq_some_iff.mp h
    rw [edits, hυ, Store.replay_append, ← (a.follows σ).2 υ hυ]
    exact ih hrest

/-- The store after the first `k` edits of a session. -/
def moment (actions : List Action) (σ : State) (k : Nat) : Store :=
  σ.store.replay ((edits actions σ).take k)

/-! ## Main result -/

/-- **A name that resolves at some moment resolves to the same scope at every later one**, whatever
the actions are, inside evaluations as well as between them, and in the end. -/
theorem resolution_stable (actions : List Action) (σ : State) :
    (∀ h x i j k, j ≤ k → (moment actions σ j).holder? h x = some i →
      (moment actions σ k).holder? h x = some i) ∧
    (∀ τ, perform actions σ = some τ → ∀ h x i j, (moment actions σ j).holder? h x = some i →
      τ.store.holder? h x = some i) := by
  refine ⟨fun h x i j k hjk hj => ?_, fun τ hτ h x i j hj => ?_⟩
  · unfold moment
    rw [← Nat.add_sub_cancel' hjk, List.take_add, Store.replay_append]
    exact Store.holder?_replay _ hj
  · rw [store_perform hτ, ← List.take_append_drop j (edits actions σ), Store.replay_append]
    exact Store.holder?_replay _ hj

/-- From an inner scope that holds `x`, binding `x` further out changes nothing. -/
theorem resolution_stable_inside :
    (moment [.push 0, .bind 1 "x" .nil, .bind 0 "x" .nil] State.initial.2 2).holder? 1 "x" =
      some 1 ∧
    (moment [.push 0, .bind 1 "x" .nil, .bind 0 "x" .nil] State.initial.2 3).holder? 1 "x" =
      some 1 :=
  have h : (moment [.push 0, .bind 1 "x" .nil, .bind 0 "x" .nil] State.initial.2 2).holder? 1 "x" =
      some 1 := by decide
  ⟨h, (resolution_stable _ _).1 1 "x" 1 2 3 (by decide) h⟩

end CurryLang
