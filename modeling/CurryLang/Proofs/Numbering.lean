import CurryLang.Proofs.Discipline

/-!
# Numbers in use

Scopes and objects are numbered in the order in which they are made. So the numbers that values
carry belong to scopes and objects that were made before: a state is well numbered when this holds
for every slot, and a value when it holds for the value. A fresh session is well numbered, and
being well numbered is a discipline (`numbering`), so every state of every session is.
-/

namespace CurryLang

open Eval

/-- The numbers that the value carries are below `scopes` and `objects`. -/
inductive Value.Numbered (scopes objects : Nat) : Value → Prop where
  | int (n : Int64) : Numbered scopes objects (.int n)
  | str {id : ObjectId} (h : id < objects) (text : String) : Numbered scopes objects (.str id text)
  | bool (b : Bool) : Numbered scopes objects (.bool b)
  | nil : Numbered scopes objects .nil
  | array {id : ObjectId} {elements : List Value} (h : id < objects)
    (hs : ∀ v ∈ elements, Numbered scopes objects v) : Numbered scopes objects (.array id elements)
  | function {f : Closure} (h : f.id < objects) (henv : f.env < scopes) :
    Numbered scopes objects (.function f)
  | curried {f : Curried} (h : f.id < objects) (henv : f.env < scopes) :
    Numbered scopes objects (.curried f)
  | builtin (b : Builtin) : Numbered scopes objects (.builtin b)
  | returning {v : Value} (h : Numbered scopes objects v) : Numbered scopes objects (.returning v)
  | error (e : RuntimeError) : Numbered scopes objects (.error e)

/-- Every slot holds a value that was made from what is there. -/
def State.Numbered (σ : State) : Prop :=
  ∀ c x v, σ.store.get? c x = some v → v.Numbered σ.store.scopes.size σ.nextObject

/-- A value that may be used in a state. -/
abbrev State.Has (σ : State) (v : Value) : Prop := v.Numbered σ.store.scopes.size σ.nextObject

theorem Value.Numbered.mono {n m a b : Nat} {v : Value} (h : v.Numbered n a) (hnm : n ≤ m)
    (hab : a ≤ b) : v.Numbered m b := by
  induction h with
  | int n => exact .int n
  | str h text => exact .str (Nat.lt_of_lt_of_le h hab) text
  | bool b => exact .bool b
  | nil => exact .nil
  | array h _ ih => exact .array (Nat.lt_of_lt_of_le h hab) ih
  | function h henv => exact .function (Nat.lt_of_lt_of_le h hab) (Nat.lt_of_lt_of_le henv hnm)
  | curried h henv => exact .curried (Nat.lt_of_lt_of_le h hab) (Nat.lt_of_lt_of_le henv hnm)
  | builtin b => exact .builtin b
  | returning _ ih => exact .returning ih
  | error e => exact .error e

theorem State.get?_initial (c : ScopeId) (x : String) : State.initial.2.store.get? c x = none := by
  rw [State.initial, Store.pushRoot, Store.get?_push]
  rfl

namespace State.Numbered

variable {σ τ : State}

theorem initial : State.initial.2.Numbered := by
  intro c x v h
  rw [State.get?_initial] at h
  cases h

/-- A state with the slots of another one and no fewer scopes and objects is well numbered. -/
theorem of_slots (h : σ.Numbered) (hslots : ∀ c x, τ.store.get? c x = σ.store.get? c x)
    (hsize : σ.store.scopes.size ≤ τ.store.scopes.size) (hobject : σ.nextObject ≤ τ.nextObject) :
    τ.Numbered := by
  intro c x v hv
  rw [hslots] at hv
  exact (h c x v hv).mono hsize hobject

theorem insert (h : σ.Numbered) (c : ScopeId) (x : String) {v : Value} (hv : σ.Has v) :
    State.Numbered { σ with store := σ.store.insert c x v } := by
  intro i y w hw
  rw [Store.size_insert]
  rcases Store.eq_or_of_get?_insert hw with rfl | hw
  · exact hv
  · exact h i y w hw

theorem replace (h : σ.Numbered) (c : ScopeId) (x : String) {v : Value} (hv : σ.Has v) :
    State.Numbered { σ with store := σ.store.replace c x v } := by
  intro i y w hw
  rw [Store.size_replace]
  rcases Store.eq_or_of_get?_replace hw with rfl | hw
  · exact hv
  · exact h i y w hw

end State.Numbered

/-- Every evaluation keeps the state well numbered and uses well-numbered values only. -/
def numbering : Discipline where
  toFragment := .full
  inv := State.Numbered
  good := State.Has
  place σ c := c < σ.store.scopes.size
  rel _ σ τ := σ.store.scopes.size ≤ τ.store.scopes.size ∧ σ.nextObject ≤ τ.nextObject
  rel_trans h k := ⟨Nat.le_trans h.1 k.1, Nat.le_trans h.2 k.2⟩
  rel_of_none h := h
  good_mono h hv := hv.mono h.1 h.2
  place_mono h hc := Nat.lt_of_lt_of_le hc h.1
  quiet h hστ hobject _ :=
    have hsize := Nat.le_of_eq (congrArg (fun s : Store => s.scopes.size) hστ.symm)
    ⟨h.of_slots (fun c x => by rw [hστ]) hsize hobject, hsize, hobject⟩
  nest {σ c} h hc := by
    have hsize : (σ.nest c).store.scopes.size = σ.store.scopes.size + 1 := Store.size_push ..
    refine ⟨h.of_slots (fun i x => Store.get?_push ..) (by omega) (Nat.le_refl _), ?_⟩
    show σ.store.scopes.size < (σ.nest c).store.scopes.size
    omega
  leave {σ c τ} h := by
    have hsize : (σ.nest c).store.scopes.size = σ.store.scopes.size + 1 := Store.size_push ..
    exact ⟨by omega, h.2⟩
  define h _ hv _ := ⟨h.insert _ _ hv, Nat.le_of_eq (Store.size_insert ..).symm, Nat.le_refl _⟩
  assign h _ _ hv _ := ⟨h.replace _ _ hv, Nat.le_of_eq (Store.size_replace ..).symm, Nat.le_refl _⟩
  lookup h _ hv := by
    obtain ⟨i, -, hi⟩ := Option.bind_eq_some_iff.mp hv
    exact h i _ _ hi
  good_int := .int _
  good_bool := .bool _
  good_nil := .nil
  good_builtin := .builtin _
  good_text _ := trivial
  new_str _ _ := .str (Nat.lt_succ_self _) _
  new_array _ h := .array (Nat.lt_succ_self _) fun v hv =>
    (h v hv).mono (Nat.le_refl _) (Nat.le_succ _)
  new_function _ _ hc := .function (Nat.lt_succ_self _) hc
  new_curried _ _ hc := .curried (Nat.lt_succ_self _) hc
  element h hv := by
    cases h with
    | array _ hs => exact hs _ hv
  function _ h := by
    cases h with
    | function _ henv => exact ⟨henv, fun _ _ => trivial⟩
  curried _ h := by
    cases h with
    | curried _ henv => exact ⟨henv, fun _ _ => trivial⟩
  returning h := by
    cases h with
    | returning h => exact h

end CurryLang
