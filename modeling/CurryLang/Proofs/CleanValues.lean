import CurryLang.Proofs.Discipline

/-!
# Markers stay out of programs

A `returning` value and an `error` value are markers: the first is on its way out of a function, the
second reports to the outside that a run failed. A value is clean if it is no marker and holds none
at any depth of arrays.

Clean values in all slots are a discipline (`cleanness`). So whatever is evaluated in a clean state
leaves a clean state behind, also when it fails half-way, and gives or returns a clean value.
Programs and applications catch what is returned inside them (`Node.catches`), so they give their
value.
-/

namespace CurryLang

open Eval

/-! ## Clean values and stores -/

/-- No marker, and no marker among the elements of an array, at any depth. -/
inductive Value.Clean : Value → Prop where
  | int (n : Int64) : Clean (.int n)
  | str (id : ObjectId) (text : String) : Clean (.str id text)
  | bool (b : Bool) : Clean (.bool b)
  | nil : Clean .nil
  | array (id : ObjectId) {elements : List Value} (h : ∀ v ∈ elements, Clean v) :
    Clean (.array id elements)
  | function (f : Closure) : Clean (.function f)
  | curried (f : Curried) : Clean (.curried f)
  | builtin (b : Builtin) : Clean (.builtin b)

namespace Value.Clean

theorem element {id : ObjectId} {elements : List Value} {v : Value}
    (h : (Value.array id elements).Clean) (hv : v ∈ elements) : v.Clean := by
  cases h with
  | array _ h => exact h v hv

theorem not_returning (v : Value) : ¬ (Value.returning v).Clean := nofun

theorem unwrap {v : Value} (h : v.Clean) : v.unwrap = v := by
  cases h <;> rfl

end Value.Clean

namespace Store

/-- Every slot of every scope holds a clean value. -/
def Clean (s : Store) : Prop := ∀ c x v, s.get? c x = some v → v.Clean

theorem clean_empty : Store.empty.Clean := by
  intro c x v h
  simp [Store.get?, Store.empty] at h

theorem Clean.push {s : Store} (h : s.Clean) (c : ScopeId) : (s.push c).2.Clean := by
  intro i x v hv
  rw [get?_push] at hv
  exact h i x v hv

theorem Clean.insert {s : Store} (h : s.Clean) (c : ScopeId) (x : String) {v : Value}
    (hv : v.Clean) : (s.insert c x v).Clean := by
  intro i y w hw
  rcases Store.eq_or_of_get?_insert hw with rfl | hw
  · exact hv
  · exact h i y w hw

theorem Clean.replace {s : Store} (h : s.Clean) (c : ScopeId) (x : String) {v : Value}
    (hv : v.Clean) : (s.replace c x v).Clean := by
  intro i y w hw
  rcases Store.eq_or_of_get?_replace hw with rfl | hw
  · exact hv
  · exact h i y w hw

theorem Clean.lookup {s : Store} (h : s.Clean) {c : ScopeId} {x : String} {v : Value}
    (hv : s.lookup c x = some v) : v.Clean := by
  obtain ⟨i, -, hi⟩ := Option.bind_eq_some_iff.mp hv
  exact h i x v hi

end Store

/-- Every evaluation keeps the store clean and uses clean values only. -/
def cleanness : Discipline where
  toFragment := .full
  inv σ := σ.store.Clean
  good _ v := v.Clean
  place _ _ := True
  rel _ _ _ := True
  rel_trans _ _ := trivial
  rel_of_none _ := trivial
  good_mono _ h := h
  place_mono _ h := h
  quiet h hστ _ _ := ⟨hστ ▸ h, trivial⟩
  nest h _ := ⟨h.push _, trivial⟩
  leave _ := trivial
  define h _ hv _ := ⟨h.insert _ _ hv, trivial⟩
  assign h _ _ hv _ := ⟨h.replace _ _ hv, trivial⟩
  lookup h _ hv := h.lookup hv
  good_int := .int _
  good_bool := .bool _
  good_nil := .nil
  good_builtin := .builtin _
  good_text _ := trivial
  new_str _ _ := .str _ _
  new_array _ h := .array _ h
  new_function _ _ _ := .function _
  new_curried _ _ _ := .curried _
  element h hv := h.element hv
  function _ _ := ⟨trivial, fun _ _ => trivial⟩
  curried _ _ := ⟨trivial, fun _ _ => trivial⟩
  returning h := absurd h (Value.Clean.not_returning _)

/-! ## Main result -/

/-- A clean way to end: nothing but clean values in the slots, and as the result. -/
def Outcome.Clean : Outcome Value → Prop
  | .ok v τ => v.Clean ∧ τ.store.Clean
  | .returned v τ => v.Clean ∧ τ.store.Clean
  | .failed _ τ => τ.store.Clean
  | .exhausted => True

/-- **Whatever is evaluated in a clean state ends cleanly.** A program or an application has a
result or fails, so that no value returned inside leaves it; and the value shown to the outside is
clean unless it reports the failure of the evaluation. -/
theorem evaluation_ends_cleanly (depth : Nat) (n : Node) (c : ScopeId) (σ : State)
    (hσ : σ.store.Clean) (hn : ∀ v ∈ n.values, v.Clean) :
    (n.eval depth c σ).Clean ∧
    (n.catches = true → ∀ v τ, n.eval depth c σ ≠ .returned v τ) ∧
    (∀ v τ, (n.eval depth c).conclude σ = some (v, τ) →
      τ.store.Clean ∧ (v.Clean ∨ ∃ e, v = .error e ∧ n.eval depth c σ = .failed e τ)) := by
  have h := cleanness.ends_eval (c := c) trivial (fun _ => trivial) depth n hσ trivial hn
  unfold Eval.conclude
  cases hr : n.eval depth c σ with
  | ok v τ =>
    rw [hr] at h
    obtain ⟨hτ, -, hv⟩ := h
    refine ⟨⟨hv, hτ⟩, fun _ _ _ => nofun, fun w υ hw => ?_⟩
    obtain ⟨rfl, rfl⟩ := Prod.mk.inj (Option.some.inj hw)
    rw [hv.unwrap]
    exact ⟨hτ, Or.inl hv⟩
  | returned v τ =>
    rw [hr] at h
    obtain ⟨hτ, -, hcatch, hv⟩ := h
    refine ⟨⟨hv, hτ⟩, fun hn => ?_, fun w υ hw => ?_⟩
    · rw [hcatch] at hn
      cases hn
    · obtain ⟨rfl, rfl⟩ := Prod.mk.inj (Option.some.inj hw)
      exact ⟨hτ, Or.inl hv⟩
  | failed e τ =>
    rw [hr] at h
    refine ⟨h.1, fun _ _ _ => nofun, fun w υ hw => ?_⟩
    obtain ⟨rfl, rfl⟩ := Prod.mk.inj (Option.some.inj hw)
    exact ⟨h.1, Or.inr ⟨e, rfl, rfl⟩⟩
  | exhausted => exact ⟨trivial, fun _ _ _ => nofun, fun _ _ => nofun⟩

/-- A function that returns from inside the element of an array, applied in a fresh session. -/
theorem application_ends_cleanly :
    State.initial.2.store.Clean ∧
    ((Node.application (.function ⟨0, ["a"], [.expr (.array [.ifThen (.ident "a")
      [.ret (.ident "a")]])], State.initial.1⟩) [.bool true]).eval 1 State.initial.1
      State.initial.2).Clean :=
  have hσ : State.initial.2.store.Clean := Store.clean_empty.push _
  ⟨hσ, (evaluation_ends_cleanly 1 _ _ _ hσ (by
    intro v hv
    rcases List.mem_cons.mp hv with rfl | hv
    · exact .function _
    · rw [List.mem_singleton.mp hv]
      exact .bool true)).1⟩

end CurryLang
