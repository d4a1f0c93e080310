import CurryLang.Store

/-!
# What the operations of a store do

Each operation is described by what `chain`, `holds` and `get?` say afterwards. A new scope changes
nothing for the old ones, a write touches one slot, and no write changes a chain. The chain of any
scope on a chain is the rest of that chain (`chain_isSuffix`).
-/

namespace CurryLang

namespace Scope

/-- The first slot decides for its own name only. -/
theorem lookup_cons (x y : String) (v : Value) (slots : List (String × Value)) :
    ((x, v) :: slots).lookup y = if y = x then some v else slots.lookup y := by
  by_cases h : y = x
  · subst h
    rw [List.lookup_cons, beq_self_eq_true, if_pos rfl]
  · have hb : (y == x) = false := by simpa using h
    rw [List.lookup_cons, hb, if_neg h]

theorem holds_eq_isSome_get? (s : Scope) (x : String) : s.holds x = (s.get? x).isSome := by
  obtain ⟨outer, slots⟩ := s
  induction slots with
  | nil => rfl
  | cons slot slots ih =>
    obtain ⟨z, w⟩ := slot
    simp only [holds, get?, List.any_cons] at ih ⊢
    rw [ih, lookup_cons]
    by_cases h : x = z
    · subst h
      simp
    · simp [h, Ne.symm h]

theorem get?_insert (s : Scope) (x y : String) (v : Value) :
    (s.insert x v).get? y = if y = x then some v else s.get? y := lookup_cons x y v s.slots

theorem get?_replace (s : Scope) (x y : String) (v : Value) :
    (s.replace x v).get? y = if y = x then (s.get? x).map fun _ => v else s.get? y := by
  obtain ⟨outer, slots⟩ := s
  induction slots with
  | nil => simp [get?, replace]
  | cons slot slots ih =>
    obtain ⟨z, w⟩ := slot
    simp only [get?, replace, List.map_cons] at ih ⊢
    by_cases hz : z = x
    · subst hz
      by_cases hy : y = z
      · simp [hy]
      · simpa [hy, lookup_cons] using ih
    · have hb : (z == x) = false := by simpa using hz
      rw [hb, if_neg (by simp), lookup_cons, lookup_cons, lookup_cons, ih, if_neg (Ne.symm hz)]
      by_cases hy : y = z
      · subst hy
        simp [hz]
      · simp [hy]

end Scope

namespace Store

/-! ## Sizes -/

@[simp] theorem size_push (s : Store) (c : ScopeId) :
    (s.push c).2.scopes.size = s.scopes.size + 1 := by simp [push]

@[simp] theorem size_insert (s : Store) (c : ScopeId) (x : String) (v : Value) :
    (s.insert c x v).scopes.size = s.scopes.size := by simp [insert]

@[simp] theorem size_replace (s : Store) (c : ScopeId) (x : String) (v : Value) :
    (s.replace c x v).scopes.size = s.scopes.size := by simp [replace]

/-! ## Chains -/

theorem chain_eq (s : Store) (c : ScopeId) :
    s.chain c = ((outerOf s.scopes c).map (c :: ·)).getD [] := by
  simp only [chain, outerOf]
  cases s.scopes[c]? <;> rfl

theorem chain_push (s : Store) (c i : ScopeId) :
    (s.push c).2.chain i = if i = s.scopes.size then i :: s.chain c else s.chain i := by
  simp only [chain_eq, push, outerOf_push]
  split <;> rfl

@[simp] theorem chain_insert (s : Store) (c i : ScopeId) (x : String) (v : Value) :
    (s.insert c x v).chain i = s.chain i := by
  rw [chain_eq, chain_eq, insert, outerOf_modify _ _ _ (·.insert x v) fun _ => rfl]

@[simp] theorem chain_replace (s : Store) (c i : ScopeId) (x : String) (v : Value) :
    (s.replace c x v).chain i = s.chain i := by
  rw [chain_eq, chain_eq, replace, outerOf_modify _ _ _ (·.replace x v) fun _ => rfl]

/-- The chain of a scope on a chain starts where the scope stands. -/
theorem chain_of_append (s : Store) {c j : ScopeId} {inner outer : List ScopeId}
    (h : s.chain c = inner ++ j :: outer) : s.chain j = j :: outer := by
  induction inner generalizing c with
  | nil =>
    cases hc : outerOf s.scopes c with
    | none => simp [chain_eq, hc] at h
    | some around =>
      have hcons : c :: around = j :: outer := by simpa [chain_eq, hc] using h
      obtain ⟨rfl, rfl⟩ := List.cons.inj hcons
      exact h
  | cons k inner ih =>
    cases hc : outerOf s.scopes c with
    | none => simp [chain_eq, hc] at h
    | some around =>
      have hcons : c :: around = k :: (inner ++ j :: outer) := by simpa [chain_eq, hc] using h
      obtain ⟨-, rfl⟩ := List.cons.inj hcons
      cases hin : inner ++ j :: outer with
      | nil => simp at hin
      | cons next rest =>
        obtain ⟨-, hnext⟩ := s.coherent c next rest (hin ▸ hc)
        refine ih (c := next) ?_
        rw [chain_eq, hnext, hin]
        rfl

/-- The chain of a scope on a chain is the rest of that chain. -/
theorem chain_isSuffix (s : Store) {c j : ScopeId} (h : j ∈ s.chain c) :
    s.chain j <:+ s.chain c := by
  obtain ⟨inner, outer, hsplit⟩ := List.append_of_mem h
  rw [s.chain_of_append hsplit, hsplit]
  exact List.suffix_append inner (j :: outer)

/-- The scopes around a scope were made before it. -/
theorem lt_of_mem_outer {s : Store} {c i : ScopeId} {outer : List ScopeId}
    (h : outerOf s.scopes c = some outer) (hi : i ∈ outer) : i < c := by
  induction outer generalizing c with
  | nil => cases hi
  | cons j outer ih =>
    obtain ⟨hlt, hj⟩ := s.coherent c j outer h
    rcases List.mem_cons.mp hi with rfl | hi
    · exact hlt
    · exact Nat.lt_trans (ih hj hi) hlt

theorem chain_eq_cons {s : Store} {c : ScopeId} (h : c < s.scopes.size) :
    ∃ outer, s.chain c = c :: outer ∧ ∀ i ∈ outer, i < c := by
  have hc : outerOf s.scopes c = some (s.scopes[c]).outer := by
    rw [outerOf, Array.getElem?_eq_getElem h]
    rfl
  refine ⟨_, ?_, fun i hi => lt_of_mem_outer hc hi⟩
  rw [chain_eq, hc]
  rfl

/-- Only a scope that is there has a chain. -/
theorem lt_of_mem_chain {s : Store} {c i : ScopeId} (h : i ∈ s.chain c) : c < s.scopes.size := by
  unfold chain at h
  split at h
  · next scope hc => exact (Array.getElem?_eq_some_iff.mp hc).1
  · cases h

theorem le_of_mem_chain {s : Store} {c i : ScopeId} (h : i ∈ s.chain c) : i ≤ c := by
  obtain ⟨outer, hchain, houter⟩ := chain_eq_cons (lt_of_mem_chain h)
  rw [hchain] at h
  rcases List.mem_cons.mp h with rfl | hi
  · exact Nat.le_refl i
  · exact Nat.le_of_lt (houter i hi)

theorem mem_chain_self {s : Store} {c : ScopeId} : c ∈ s.chain c ↔ c < s.scopes.size := by
  refine ⟨lt_of_mem_chain, fun h => ?_⟩
  unfold chain
  rw [Array.getElem?_eq_getElem h]
  exact List.mem_cons_self

theorem mem_chain_of_mem {s : Store} {c i : ScopeId} (h : i ∈ s.chain c) : i ∈ s.chain i := by
  obtain ⟨inner, outer, hsplit⟩ := List.append_of_mem h
  rw [s.chain_of_append hsplit]
  exact List.mem_cons_self

theorem mem_chain_trans {s : Store} {h i j : ScopeId} (hi : i ∈ s.chain h) (hj : j ∈ s.chain i) :
    j ∈ s.chain h :=
  (s.chain_isSuffix hi).subset hj

/-- Of two scopes on a chain, one is on the chain of the other. -/
theorem mem_chain_or {s : Store} {h i j : ScopeId} (hi : i ∈ s.chain h) (hj : j ∈ s.chain h) :
    i ∈ s.chain j ∨ j ∈ s.chain i := by
  rcases List.suffix_or_suffix_of_suffix (s.chain_isSuffix hi) (s.chain_isSuffix hj) with hs | hs
  · exact Or.inl (hs.subset (mem_chain_of_mem hi))
  · exact Or.inr (hs.subset (mem_chain_of_mem hj))

theorem chain_eq_nil {s : Store} {c : ScopeId} (h : s.scopes.size ≤ c) : s.chain c = [] :=
  List.eq_nil_iff_forall_not_mem.mpr fun _ hi => Nat.not_lt.mpr h (lt_of_mem_chain hi)

/-! ## Slots -/

theorem get?_eq_none {s : Store} {c : ScopeId} (h : s.scopes.size ≤ c) (x : String) :
    s.get? c x = none := by
  unfold get?
  rw [Array.getElem?_eq_none h]
  rfl

theorem holds_eq_isSome_get? (s : Store) (c : ScopeId) (x : String) :
    s.holds c x = (s.get? c x).isSome := by
  simp only [holds, get?]
  cases s.scopes[c]? with
  | none => rfl
  | some scope => exact scope.holds_eq_isSome_get? x

theorem get?_push (s : Store) (c i : ScopeId) (x : String) :
    (s.push c).2.get? i x = s.get? i x := by
  simp only [get?, push, Array.getElem?_push]
  by_cases hi : i = s.scopes.size
  · subst hi
    rw [if_pos rfl, Array.getElem?_eq_none (Nat.le_refl _)]
    rfl
  · rw [if_neg hi]

theorem get?_insert (s : Store) (c i : ScopeId) (x y : String) (v : Value) :
    (s.insert c x v).get? i y =
      if i = c ∧ y = x ∧ c < s.scopes.size then some v else s.get? i y := by
  simp only [get?, insert, Array.getElem?_modify]
  by_cases hi : c = i
  · subst hi
    by_cases hc : c < s.scopes.size
    · rw [Array.getElem?_eq_getElem hc]
      simp [Scope.get?_insert, hc]
    · rw [Array.getElem?_eq_none (Nat.le_of_not_lt hc)]
      simp [hc]
  · simp [hi, Ne.symm hi]

theorem get?_replace (s : Store) (c i : ScopeId) (x y : String) (v : Value) :
    (s.replace c x v).get? i y =
      if i = c ∧ y = x then (s.get? c x).map fun _ => v else s.get? i y := by
  simp only [get?, replace, Array.getElem?_modify]
  by_cases hi : c = i
  · subst hi
    cases h : s.scopes[c]? with
    | none => simp
    | some scope => simp [Scope.get?_replace]
  · simp [hi, Ne.symm hi]

theorem eq_or_of_get?_insert {s : Store} {c i : ScopeId} {x y : String} {v w : Value}
    (h : (s.insert c x v).get? i y = some w) : w = v ∨ s.get? i y = some w := by
  rw [get?_insert] at h
  split at h
  · exact .inl (Option.some.inj h).symm
  · exact .inr h

theorem eq_or_of_get?_replace {s : Store} {c i : ScopeId} {x y : String} {v w : Value}
    (h : (s.replace c x v).get? i y = some w) : w = v ∨ s.get? i y = some w := by
  rw [get?_replace] at h
  split at h
  · obtain ⟨_, -, rfl⟩ := Option.map_eq_some_iff.mp h
    exact .inl rfl
  · exact .inr h

/-! ## Whole scopes -/

/-- A new scope leaves the old ones as they are. -/
theorem scope_push (s : Store) (c : ScopeId) {i : ScopeId} (h : i < s.scopes.size) :
    (s.push c).2.scopes[i]? = s.scopes[i]? := by
  simp only [push, Array.getElem?_push, if_neg (Nat.ne_of_lt h)]

theorem scope_insert {c i : ScopeId} (s : Store) (x : String) (v : Value) (h : i ≠ c) :
    (s.insert c x v).scopes[i]? = s.scopes[i]? := by
  simp only [insert, Array.getElem?_modify, if_neg (Ne.symm h)]

theorem scope_replace {c i : ScopeId} (s : Store) (x : String) (v : Value) (h : i ≠ c) :
    (s.replace c x v).scopes[i]? = s.scopes[i]? := by
  simp only [replace, Array.getElem?_modify, if_neg (Ne.symm h)]

/-! ## Names of scopes -/

@[simp] theorem holds_push (s : Store) (c i : ScopeId) (x : String) :
    (s.push c).2.holds i x = s.holds i x := by
  rw [holds_eq_isSome_get?, holds_eq_isSome_get?, get?_push]

@[simp] theorem holds_replace (s : Store) (c i : ScopeId) (x y : String) (v : Value) :
    (s.replace c x v).holds i y = s.holds i y := by
  rw [holds_eq_isSome_get?, holds_eq_isSome_get?, get?_replace]
  split
  · next h =>
    obtain ⟨rfl, rfl⟩ := h
    exact Option.isSome_map
  · rfl

theorem holds_insert {s : Store} {c i : ScopeId} {x y : String} {v : Value} :
    (s.insert c x v).holds i y = true ↔
      s.holds i y = true ∨ (i = c ∧ y = x ∧ c < s.scopes.size) := by
  rw [holds_eq_isSome_get?, holds_eq_isSome_get?, get?_insert]
  split
  · next h => simp [h]
  · next h => simp [h]

theorem lt_of_holds {s : Store} {c : ScopeId} {x : String} (h : s.holds c x = true) :
    c < s.scopes.size := by
  unfold holds at h
  cases hc : s.scopes[c]? with
  | none => simp [hc] at h
  | some scope => exact (Array.getElem?_eq_some_iff.mp hc).1

/-- What a scope sees of a name is the value in the first scope of the chain that has one. -/
theorem lookup_eq_findSome? (s : Store) (c : ScopeId) (x : String) :
    s.lookup c x = (s.chain c).findSome? fun i => s.get? i x := by
  unfold lookup holder?
  induction s.chain c with
  | nil => rfl
  | cons i rest ih =>
    rw [List.find?_cons, List.findSome?_cons, holds_eq_isSome_get?]
    cases hi : s.get? i x with
    | none => exact ih
    | some v => exact hi

theorem visible_eq_isSome_lookup (s : Store) (c : ScopeId) (x : String) :
    s.visible c x = (s.lookup c x).isSome := by
  unfold visible lookup
  cases hi : s.holder? c x with
  | none => rfl
  | some i =>
    unfold holder? at hi
    have hx := List.find?_some hi
    rw [holds_eq_isSome_get?] at hx
    exact hx.symm

theorem visible_iff {s : Store} {c : ScopeId} {x : String} :
    s.visible c x = true ↔ ∃ i ∈ s.chain c, s.holds i x = true := by
  unfold visible holder?
  rw [List.find?_isSome]

end Store

end CurryLang
