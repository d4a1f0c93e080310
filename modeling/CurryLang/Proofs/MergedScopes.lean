import CurryLang.Proofs.FirstOrder
import CurryLang.Proofs.Numbering

/-!
# Two scopes for one

Two sessions that differ in one place: where the second one has the scope `n`, the first one has two
scopes, one directly inside the other, and one more object. What is evaluated inside finds the same
names in both, whichever of the two scopes holds them, and new names go to the inner one.

1. The scope `j` of the second session stands for the scopes `parts n j` of the first one, which are
   the inner scope `n + 1` and the outer scope `n` for `j = n`, and one scope for every other `j`.
2. `Merged n a σ τ`: chains are chains of parts, and the value of a name in a scope is the value of
   the name in the first of its parts that holds it.
3. This is a correspondence (`merging`), so every evaluation respects it.
-/

namespace CurryLang

open Eval

/-! ## Numbers and parts -/

/-- The numbers from `k` on are moved up by one, so that `k` itself is free. -/
def lift (k i : Nat) : Nat := if i < k then i else i + 1

theorem lift_of_lt {k i : Nat} (h : i < k) : lift k i = i := if_pos h

theorem lift_of_le {k i : Nat} (h : k ≤ i) : lift k i = i + 1 := if_neg (Nat.not_lt.mpr h)

theorem lift_inj {k i j : Nat} : lift k i = lift k j ↔ i = j := by
  unfold lift
  split <;> split <;> omega

theorem lift_lt {k i j : Nat} : lift k i < lift k j ↔ i < j := by
  unfold lift
  split <;> split <;> omega

/-- The scopes that the scope `j` stands for, from the inside out. -/
def parts (n : ScopeId) (j : ScopeId) : List ScopeId := if j = n then [n + 1, n] else [lift n j]

theorem parts_self (n : ScopeId) : parts n n = [n + 1, n] := if_pos rfl

theorem parts_of_ne {n j : ScopeId} (h : j ≠ n) : parts n j = [lift n j] := if_neg h

theorem parts_eq_cons (n j : ScopeId) : ∃ rest, parts n j = lift n j :: rest := by
  by_cases h : j = n
  · subst h
    exact ⟨[j], by rw [parts_self, lift_of_le (Nat.le_refl j)]⟩
  · exact ⟨[], parts_of_ne h⟩

/-- A scope is a part of one scope only. -/
theorem eq_of_mem_parts {n i j k : ScopeId} (hj : i ∈ parts n j) (hk : i ∈ parts n k) : j = k := by
  unfold parts lift at hj hk
  grind

theorem mem_parts_lift {n d j : ScopeId} : lift n d ∈ parts n j ↔ j = d := by
  have hself (d : ScopeId) : lift n d ∈ parts n d := by
    obtain ⟨rest, hrest⟩ := parts_eq_cons n d
    rw [hrest]
    exact List.mem_cons_self
  exact ⟨fun h => eq_of_mem_parts h (hself d), fun h => h ▸ hself d⟩

theorem flatMap_parts {n : ScopeId} {l : List ScopeId} (h : ∀ i ∈ l, i < n) :
    l.flatMap (parts n) = l := by
  induction l with
  | nil => rfl
  | cons i l ih =>
    have hi := h i List.mem_cons_self
    rw [List.flatMap_cons, parts_of_ne (Nat.ne_of_lt hi), lift_of_lt hi,
      ih fun j hj => h j (List.mem_cons_of_mem i hj)]
    rfl

/-! ## Searching through parts -/

section Search

variable {R : Value → Value → Prop} {p : ScopeId → List ScopeId} {f g : ScopeId → Option Value}

/-- A search through the parts of scopes finds what corresponds to what a search through the scopes
finds. -/
theorem rel_findSome?_flatMap (h : ∀ j, Option.Rel R ((p j).findSome? f) (g j))
    (l : List ScopeId) : Option.Rel R ((l.flatMap p).findSome? f) (l.findSome? g) := by
  induction l with
  | nil => exact .none
  | cons j l ih =>
    rw [List.flatMap_cons, List.findSome?_append, List.findSome?_cons]
    have hj := h j
    generalize (p j).findSome? f = a, g j = b at hj
    cases hj with
    | some hv => exact .some hv
    | none => exact ih

/-- Where the first scope that is found stands, there is the first part that is found. -/
theorem find?_of_flatMap {q r : ScopeId → Bool} (h : ∀ j, ((p j).find? q).isSome = r j)
    {l : List ScopeId} {i j : ScopeId} (hi : (l.flatMap p).find? q = some i)
    (hj : l.find? r = some j) : (p j).find? q = some i := by
  induction l with
  | nil => cases hj
  | cons k l ih =>
    rw [List.flatMap_cons, List.find?_append] at hi
    rw [List.find?_cons, ← h k] at hj
    cases hk : (p k).find? q with
    | some i' =>
      rw [hk] at hi hj
      cases hi
      cases hj
      exact hk
    | none =>
      rw [hk] at hi hj
      exact ih hi hj

theorem findSome?_congr {l : List ScopeId} (h : ∀ i ∈ l, f i = g i) :
    l.findSome? f = l.findSome? g := by
  induction l with
  | nil => rfl
  | cons i l ih =>
    rw [List.findSome?_cons, List.findSome?_cons, h i List.mem_cons_self,
      ih fun k hk => h k (List.mem_cons_of_mem i hk)]

/-- Changing the value at the first scope that has one changes what a search finds. -/
theorem findSome?_update {l : List ScopeId} {i : ScopeId} (v : Value)
    (hi : l.find? (fun k => (f k).isSome) = some i)
    (hf : ∀ k, g k = if k = i then some v else f k) : l.findSome? g = some v := by
  induction l with
  | nil => cases hi
  | cons k l ih =>
    rw [List.find?_cons] at hi
    rw [List.findSome?_cons, hf k]
    cases hk : f k with
    | some w =>
      rw [hk] at hi
      cases hi
      rw [if_pos rfl]
    | none =>
      rw [hk] at hi
      have hne : k ≠ i := by
        rintro rfl
        have hsome := List.find?_some hi
        rw [hk] at hsome
        cases hsome
      rw [if_neg hne]
      exact ih hi

end Search

/-! ## States with two scopes for one -/

/-- What stands for what: numbers from the merged scope and from the extra object on are moved up. -/
def merged (n : ScopeId) (a : ObjectId) : Pairing where
  scope i j := i = lift n j
  object i j := i = lift a j
  legal _ := True

/-- The state `σ` has the scopes `n + 1` and `n` where `τ` has the scope `n`, and one object more. -/
structure Merged (n : ScopeId) (a : ObjectId) (σ τ : State) : Prop where
  size : σ.store.scopes.size = τ.store.scopes.size + 1
  lt_size : n < τ.store.scopes.size
  objects : σ.nextObject = τ.nextObject + 1
  le_objects : a ≤ τ.nextObject
  printed : σ.printed = τ.printed
  chain : ∀ j, σ.store.chain (lift n j) = (τ.store.chain j).flatMap (parts n)
  slots : ∀ j x, Option.Rel (Value.Like (merged n a))
    ((parts n j).findSome? fun i => σ.store.get? i x) (τ.store.get? j x)

/-- A value from before the two scopes and the extra object stands for itself. -/
theorem Value.Numbered.like {n : ScopeId} {a : ObjectId} {v : Value} (h : v.Numbered n a) :
    v.Like (merged n a) v := by
  have names (b : Block) : Statement.NamesAll (merged n a).legal b :=
    Statement.namesAll_of_forall (fun _ => trivial) b
  induction h with
  | int n => exact .int n
  | str h text => exact .str (lift_of_lt h).symm text
  | bool b => exact .bool b
  | nil => exact .nil
  | @array _ vs h _ ih =>
    exact .of_likes (lift_of_lt h).symm (List.forall₂_same.mpr ih)
  | function h henv =>
    exact .function ⟨(lift_of_lt h).symm, rfl, rfl, (lift_of_lt henv).symm, fun _ _ => trivial,
      names _⟩
  | curried h henv =>
    exact .curried ⟨(lift_of_lt h).symm, rfl, rfl, (lift_of_lt henv).symm, fun _ _ => trivial,
      names _⟩
  | builtin b => exact .builtin b
  | returning _ ih => exact .returning ih
  | error e => exact .error e

namespace Merged

variable {n : ScopeId} {a : ObjectId} {σ τ : State} {d : ScopeId} {x : String} {v w : Value}

/-- A new scope and a new object in one of two sessions that hold the same values: the new scope lies
inside the last one, and the values are from before that. -/
theorem of_nest (hlast : σ.store.scopes.size = n + 1) (hobject : σ.nextObject = a)
    (hslots : ∀ i x v, σ.store.get? i x = some v → v.Numbered n a) (hstore : τ.store = σ.store)
    (hτ : τ.nextObject = a) (hprinted : τ.printed = σ.printed) :
    Merged n a (σ.allot.nest n) τ where
  size := by rw [State.nest, Store.size_push, hstore]; rfl
  lt_size := by rw [hstore, hlast]; exact Nat.lt_succ_self n
  objects := by rw [hτ, ← hobject]; rfl
  le_objects := Nat.le_of_eq hτ.symm
  printed := hprinted.symm
  chain j := by
    show (σ.store.push n).2.chain (lift n j) = _
    rw [Store.chain_push, hstore, hlast]
    rcases Nat.lt_trichotomy j n with hj | rfl | hj
    · have hne : lift n j ≠ n + 1 := by rw [lift_of_lt hj]; omega
      rw [if_neg hne, lift_of_lt hj, flatMap_parts fun i hi =>
        Nat.lt_of_le_of_lt (Store.le_of_mem_chain hi) hj]
    · have hthere : j < σ.store.scopes.size := hlast ▸ Nat.lt_succ_self j
      obtain ⟨outer, hchain, houter⟩ := Store.chain_eq_cons hthere
      rw [if_pos (lift_of_le (Nat.le_refl j)), hchain, List.flatMap_cons, parts_self,
        flatMap_parts houter, lift_of_le (Nat.le_refl j)]
      rfl
    · have hne : lift n j ≠ n + 1 := by rw [lift_of_le (Nat.le_of_lt hj)]; omega
      have hsize : σ.store.scopes.size ≤ j := hlast ▸ hj
      rw [if_neg hne, lift_of_le (Nat.le_of_lt hj), Store.chain_eq_nil hsize,
        Store.chain_eq_nil (Nat.le_succ_of_le hsize)]
      rfl
  slots j x := by
    have hsame (i : ScopeId) :
        Option.Rel (Value.Like (merged n a)) (σ.store.get? i x) (σ.store.get? i x) := by
      cases hi : σ.store.get? i x with
      | none => exact .none
      | some v => exact .some (hslots i x v hi).like
    simp only [State.nest, Store.get?_push, hstore]
    show Option.Rel _ ((parts n j).findSome? fun i => σ.store.get? i x) (σ.store.get? j x)
    rcases Nat.lt_trichotomy j n with hj | rfl | hj
    · rw [parts_of_ne (Nat.ne_of_lt hj), lift_of_lt hj, List.findSome?_singleton]
      exact hsame j
    · rw [parts_self, List.findSome?_cons, Store.get?_eq_none (Nat.le_of_eq hlast),
        List.findSome?_singleton]
      exact hsame j
    · have hsize : σ.store.scopes.size ≤ j := hlast ▸ hj
      rw [parts_of_ne (Nat.ne_of_gt hj), lift_of_le (Nat.le_of_lt hj), List.findSome?_singleton,
        Store.get?_eq_none hsize, Store.get?_eq_none (Nat.le_succ_of_le hsize)]
      exact .none

theorem alike (h : Merged n a σ τ) : σ.Alike n τ := by
  refine .of_slots (P := merged n a) h.printed fun i hi x => ?_
  have hslot := h.slots i x
  rw [parts_of_ne (Nat.ne_of_lt hi), lift_of_lt hi] at hslot
  simpa using hslot

theorem lookup (h : Merged n a σ τ) (d : ScopeId) (x : String) :
    Option.Rel (Value.Like (merged n a)) (σ.store.lookup (lift n d) x) (τ.store.lookup d x) := by
  rw [Store.lookup_eq_findSome?, Store.lookup_eq_findSome?, h.chain]
  exact rel_findSome?_flatMap (fun j => h.slots j x) _

theorem holds (h : Merged n a σ τ) (j : ScopeId) (x : String) :
    ((parts n j).find? fun i => σ.store.holds i x).isSome = τ.store.holds j x := by
  have hslot := h.slots j x
  have hrel : ((parts n j).findSome? fun i => σ.store.get? i x).isSome =
      (τ.store.get? j x).isSome := by
    generalize (parts n j).findSome? (fun i => σ.store.get? i x) = r, τ.store.get? j x = s at hslot
    cases hslot <;> rfl
  rw [Store.holds_eq_isSome_get?, ← hrel, Bool.eq_iff_iff, List.find?_isSome,
    List.findSome?_isSome_iff]
  simp only [Store.holds_eq_isSome_get?]

theorem nest (h : Merged n a σ τ) (d : ScopeId) :
    Merged n a (σ.nest (lift n d)) (τ.nest d) where
  size := by
    rw [State.nest, State.nest, Store.size_push, Store.size_push, h.size]
  lt_size := by
    rw [State.nest, Store.size_push]
    exact Nat.lt_succ_of_lt h.lt_size
  objects := h.objects
  le_objects := h.le_objects
  printed := h.printed
  chain j := by
    have hnew : lift n j = σ.store.scopes.size ↔ j = τ.store.scopes.size := by
      rw [h.size, ← lift_of_le (Nat.le_of_lt h.lt_size), lift_inj]
    rw [State.nest, State.nest, Store.chain_push, Store.chain_push]
    by_cases hj : j = τ.store.scopes.size
    · have hne : j ≠ n := hj ▸ Nat.ne_of_gt h.lt_size
      rw [if_pos (hnew.mpr hj), if_pos hj, List.flatMap_cons, h.chain, parts_of_ne hne]
      rfl
    · rw [if_neg (mt hnew.mp hj), if_neg hj, h.chain]
  slots j x := by
    simp only [State.nest, Store.get?_push]
    exact h.slots j x

theorem insert (h : Merged n a σ τ) (d : ScopeId) (x : String) (hv : v.Like (merged n a) w) :
    Merged n a { σ with store := σ.store.insert (lift n d) x v }
      { τ with store := τ.store.insert d x w } where
  size := by rw [Store.size_insert, Store.size_insert, h.size]
  lt_size := by rw [Store.size_insert]; exact h.lt_size
  objects := h.objects
  le_objects := h.le_objects
  printed := h.printed
  chain j := by rw [Store.chain_insert, Store.chain_insert, h.chain]
  slots j y := by
    have hsize : lift n d < σ.store.scopes.size ↔ d < τ.store.scopes.size := by
      rw [h.size, ← lift_of_le (Nat.le_of_lt h.lt_size), lift_lt]
    simp only [Store.get?_insert, hsize]
    by_cases hhit : j = d ∧ y = x ∧ d < τ.store.scopes.size
    · -- the innermost part of the scope has got the name
      obtain ⟨rfl, rfl, hj⟩ := hhit
      obtain ⟨rest, hrest⟩ := parts_eq_cons n j
      rw [hrest, List.findSome?_cons, if_pos ⟨rfl, rfl, hj⟩, if_pos ⟨rfl, rfl, hj⟩]
      exact .some hv
    · have hparts : ∀ i ∈ parts n j, ¬ (i = lift n d ∧ y = x ∧ d < τ.store.scopes.size) := by
        rintro i hi ⟨rfl, hx⟩
        exact hhit ⟨mem_parts_lift.mp hi, hx⟩
      rw [if_neg hhit, findSome?_congr fun i hi => if_neg (hparts i hi)]
      exact h.slots j y

theorem replace (h : Merged n a σ τ) {i j : ScopeId} (hv : v.Like (merged n a) w)
    (hi : σ.store.holder? (lift n d) x = some i) (hj : τ.store.holder? d x = some j) :
    Merged n a { σ with store := σ.store.replace i x v }
      { τ with store := τ.store.replace j x w } where
  size := by rw [Store.size_replace, Store.size_replace, h.size]
  lt_size := by rw [Store.size_replace]; exact h.lt_size
  objects := h.objects
  le_objects := h.le_objects
  printed := h.printed
  chain k := by rw [Store.chain_replace, Store.chain_replace, h.chain]
  slots k y := by
    unfold Store.holder? at hi hj
    rw [h.chain] at hi
    have hpart := find?_of_flatMap (fun k => h.holds k x) hi hj
    have hmem : i ∈ parts n j := List.mem_of_find?_eq_some hpart
    simp only [Store.get?_replace]
    by_cases hhit : k = j ∧ y = x
    · obtain ⟨rfl, rfl⟩ := hhit
      have hσ : (σ.store.get? i y).isSome = true := by
        have hheld := List.find?_some hpart
        rwa [Store.holds_eq_isSome_get?] at hheld
      have hτ : (τ.store.get? k y).isSome = true := by
        have hheld := List.find?_some hj
        rwa [Store.holds_eq_isSome_get?] at hheld
      obtain ⟨_, hvσ⟩ := Option.isSome_iff_exists.mp hσ
      obtain ⟨_, hvτ⟩ := Option.isSome_iff_exists.mp hτ
      simp only [Store.holds_eq_isSome_get?] at hpart
      rw [if_pos ⟨rfl, rfl⟩, hvτ, findSome?_update v hpart fun k => by simp [hvσ]]
      exact .some hv
    · have hparts : ∀ i' ∈ parts n k, ¬ (i' = i ∧ y = x) := by
        rintro i' hi' ⟨rfl, rfl⟩
        exact hhit ⟨eq_of_mem_parts hi' hmem, rfl⟩
      rw [if_neg hhit, findSome?_congr fun i' hi' => if_neg (hparts i' hi')]
      exact h.slots k y

end Merged

/-- Evaluations run in step with two scopes for one. -/
def merging (n : ScopeId) (a : ObjectId) : Correspondence where
  toPairing := merged n a
  state := Merged n a
  object_iff := by
    rintro i j k l rfl rfl
    exact lift_inj
  note e h := { h with }
  print line h := { h with printed := congrArg (line :: ·) h.printed }
  allot h := by
    refine ⟨{ h with
      objects := congrArg (· + 1) h.objects
      le_objects := Nat.le_succ_of_le h.le_objects }, ?_⟩
    show _ = lift a _
    rw [lift_of_le h.le_objects, h.objects]
  nest := by
    rintro σ τ _ d h rfl
    refine ⟨h.nest d, ?_⟩
    show _ = lift n _
    rw [lift_of_le (Nat.le_of_lt h.lt_size), h.size]
  lookup := by
    rintro σ τ _ d x h rfl -
    exact h.lookup d x
  define := by
    rintro σ τ _ d x v w h rfl - hv - -
    exact h.insert d x hv
  assign := by
    rintro σ τ _ d x v w i j h rfl - hv hi hj
    exact h.replace hv hi hj

end CurryLang
