import CurryLang.Value

/-!
# Scopes and their store

A scope holds names with their values and knows the scopes around it. All scopes of a session live
in one store and refer to each other by number; a scope is never removed, and the scopes around it
never change. Names are looked up from the innermost scope outwards. A name can be bound only
while no scope of the chain holds it, and assigned only while one does.

The order of scopes is part of the type: the chain of scopes around a scope is the chain of the
scope next to it, which was made before.
-/

namespace CurryLang

/-- Names with values, and the numbers of the scopes around, the nearest first. -/
structure Scope where
  outer : List ScopeId
  slots : List (String × Value)

namespace Scope

/-- The value of a name in this scope alone. -/
def get? (s : Scope) (x : String) : Option Value := s.slots.lookup x

/-- This scope itself has a slot for the name. -/
def holds (s : Scope) (x : String) : Bool := s.slots.any fun slot => slot.1 == x

def names (s : Scope) : List String := s.slots.map Prod.fst

def insert (s : Scope) (x : String) (v : Value) : Scope := { s with slots := (x, v) :: s.slots }

/-- The scope with another value in the slot of a name. -/
def replace (s : Scope) (x : String) (v : Value) : Scope :=
  { s with slots := s.slots.map fun slot => if slot.1 == x then (x, v) else slot }

end Scope

/-- The scopes around scope number `i`, when there is such a scope. -/
def outerOf (scopes : Array Scope) (i : ScopeId) : Option (List ScopeId) := scopes[i]?.map Scope.outer

/-- Every chain goes from newer scopes to older ones and continues as the next scope's chain. -/
def Coherent (scopes : Array Scope) : Prop :=
  ∀ i j rest, outerOf scopes i = some (j :: rest) → j < i ∧ outerOf scopes j = some rest

/-- All scopes of a session, by number. -/
structure Store where
  scopes : Array Scope
  coherent : Coherent scopes

namespace Store

/-! ## Making scopes -/

theorem coherent_empty : Coherent #[] := by
  intro i j rest h
  simp [outerOf] at h

def empty : Store := ⟨#[], coherent_empty⟩

/-- A scope and the scopes around it, from the inside out. -/
def chain (s : Store) (c : ScopeId) : List ScopeId :=
  match s.scopes[c]? with
  | some scope => c :: scope.outer
  | none => []

theorem outerOf_push (scopes : Array Scope) (scope : Scope) (i : ScopeId) :
    outerOf (scopes.push scope) i =
      if i = scopes.size then some scope.outer else outerOf scopes i := by
  simp only [outerOf, Array.getElem?_push]
  split <;> simp_all

theorem outerOf_lt {scopes : Array Scope} {i : ScopeId} {chain : List ScopeId}
    (h : outerOf scopes i = some chain) : i < scopes.size := by
  simp only [outerOf, Option.map_eq_some_iff] at h
  obtain ⟨scope, h, -⟩ := h
  exact (Array.getElem?_eq_some_iff.mp h).1

theorem coherent_push (s : Store) (c : ScopeId) (slots : List (String × Value)) :
    Coherent (s.scopes.push ⟨s.chain c, slots⟩) := by
  intro i j rest h
  rw [outerOf_push] at h
  split at h
  · subst i
    simp only [chain, Option.some.injEq] at h
    split at h
    · next scope hc =>
      obtain ⟨rfl, rfl⟩ := List.cons.inj h
      have hlt := (Array.getElem?_eq_some_iff.mp hc).1
      refine ⟨hlt, ?_⟩
      rw [outerOf_push, if_neg (Nat.ne_of_lt hlt)]
      simp [outerOf, hc]
    · cases h
  · obtain ⟨hlt, hj⟩ := s.coherent i j rest h
    refine ⟨hlt, ?_⟩
    rw [outerOf_push, if_neg (Nat.ne_of_lt (outerOf_lt hj))]
    exact hj

/-- A new scope without names inside scope `c`. -/
def push (s : Store) (c : ScopeId) : ScopeId × Store :=
  (s.scopes.size, ⟨s.scopes.push ⟨s.chain c, []⟩, s.coherent_push c []⟩)

/-- A new scope with nothing around it. -/
def pushRoot (s : Store) : ScopeId × Store := s.push s.scopes.size

/-- The scope next around a scope. -/
def pop? (s : Store) (c : ScopeId) : Option ScopeId := (s.chain c).tail.head?

/-! ## Reading -/

/-- Scope number `c` has a slot for the name. -/
def holds (s : Store) (c : ScopeId) (x : String) : Bool := s.scopes[c]?.any (·.holds x)

/-- The value of a name in scope number `c` alone. -/
def get? (s : Store) (c : ScopeId) (x : String) : Option Value := s.scopes[c]?.bind (·.get? x)

/-- The nearest scope that has a slot for the name. -/
def holder? (s : Store) (c : ScopeId) (x : String) : Option ScopeId :=
  (s.chain c).find? fun i => s.holds i x

/-- The value of a name as scope `c` sees it: that of the nearest scope that holds it. -/
def lookup (s : Store) (c : ScopeId) (x : String) : Option Value :=
  (s.holder? c x).bind fun i => s.get? i x

/-- Some scope of the chain holds the name. -/
def visible (s : Store) (c : ScopeId) (x : String) : Bool := (s.holder? c x).isSome

/-! ## Writing -/

theorem outerOf_modify (scopes : Array Scope) (c i : ScopeId) (f : Scope → Scope)
    (hf : ∀ scope, (f scope).outer = scope.outer) :
    outerOf (scopes.modify c f) i = outerOf scopes i := by
  simp only [outerOf, Array.getElem?_modify]
  split
  · cases scopes[i]? with
    | none => rfl
    | some scope => simp [hf]
  · rfl

theorem coherent_modify (s : Store) (c : ScopeId) (f : Scope → Scope)
    (hf : ∀ scope, (f scope).outer = scope.outer) : Coherent (s.scopes.modify c f) := by
  intro i j rest h
  rw [outerOf_modify _ _ _ _ hf] at h ⊢
  exact s.coherent i j rest h

/-- The store with a new slot in scope number `c`. -/
def insert (s : Store) (c : ScopeId) (x : String) (v : Value) : Store :=
  ⟨s.scopes.modify c (·.insert x v), s.coherent_modify c _ fun _ => rfl⟩

/-- The store with another value in a slot of scope number `c`. -/
def replace (s : Store) (c : ScopeId) (x : String) (v : Value) : Store :=
  ⟨s.scopes.modify c (·.replace x v), s.coherent_modify c _ fun _ => rfl⟩

end Store

end CurryLang
