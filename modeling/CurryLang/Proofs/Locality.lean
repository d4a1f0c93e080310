import CurryLang.Proofs.SharedScopes

/-!
# Evaluation is local

What is evaluated in a scope can come to other scopes in two ways only: outwards along a chain, and
through a function or a partial application that it finds. The scopes that can be reached in this
way are all that matters for an evaluation and all that it changes.

1. `State.Reaches σ c i`: scope `i` can be reached from scope `c`.
2. Staying inside a closed set of old scopes and the new ones is a discipline (`isolation`). So a
   program leaves the old scopes that it cannot reach as they are.
3. Two states with the same reachable scopes share these scopes (`State.sharing`), so a program runs
   in step in both.
-/

namespace CurryLang

open Eval

/-! ## Reachable scopes -/

/-- Scope `i` can be reached from scope `c`, outwards along chains and through what values of
reachable scopes capture. -/
inductive State.Reaches (σ : State) (c : ScopeId) : ScopeId → Prop where
  | start : Reaches σ c c
  | outer {i j : ScopeId} (hi : Reaches σ c i) (hj : j ∈ σ.store.chain i) : Reaches σ c j
  | captured {i j : ScopeId} {x : String} {v : Value} (hi : Reaches σ c i)
    (hv : σ.store.get? i x = some v) (hj : v.Captures j) : Reaches σ c j

/-- In a well-numbered state, the scopes that can be reached are there. -/
theorem State.Reaches.lt {σ : State} {c i : ScopeId} (h : σ.Reaches c i) (hσ : σ.Numbered)
    (hc : c < σ.store.scopes.size) : i < σ.store.scopes.size := by
  induction h with
  | start => exact hc
  | outer _ hj ih => exact Nat.lt_of_le_of_lt (Store.le_of_mem_chain hj) ih
  | captured _ hv hj _ => exact hj.lt (hσ _ _ _ hv)

/-! ## Nothing else is changed -/

/-- Chains of the scopes inside stay inside, and their values capture scopes inside only. -/
structure State.Encloses (σ : State) (inside : ScopeId → Prop) : Prop where
  chain : ∀ i, inside i → ∀ j ∈ σ.store.chain i, inside j
  slots : ∀ i, inside i → ∀ x v, σ.store.get? i x = some v → ∀ j, v.Captures j → inside j

namespace State.Encloses

variable {σ : State} {inside : ScopeId → Prop} {c : ScopeId}

theorem nest (h : σ.Encloses inside) (hc : inside c) (hnew : inside σ.store.scopes.size) :
    (σ.nest c).Encloses inside where
  chain i hi j hj := by
    rw [State.nest, Store.chain_push] at hj
    split at hj
    · next hsize =>
      rcases List.mem_cons.mp hj with rfl | hj
      · exact hsize ▸ hnew
      · exact h.chain c hc j hj
    · exact h.chain i hi j hj
  slots i hi x v hv := h.slots i hi x v (by rwa [State.nest, Store.get?_push] at hv)

theorem insert (h : σ.Encloses inside) (c : ScopeId) (x : String) {v : Value}
    (hv : ∀ j, v.Captures j → inside j) :
    State.Encloses { σ with store := σ.store.insert c x v } inside where
  chain i hi j hj := h.chain i hi j (by rwa [Store.chain_insert] at hj)
  slots i hi y w hw := by
    rcases Store.eq_or_of_get?_insert hw with rfl | hw
    · exact hv
    · exact h.slots i hi y w hw

theorem replace (h : σ.Encloses inside) (c : ScopeId) (x : String) {v : Value}
    (hv : ∀ j, v.Captures j → inside j) :
    State.Encloses { σ with store := σ.store.replace c x v } inside where
  chain i hi j hj := h.chain i hi j (by rwa [Store.chain_replace] at hj)
  slots i hi y w hw := by
    rcases Store.eq_or_of_get?_replace hw with rfl | hw
    · exact hv
    · exact h.slots i hi y w hw

theorem lookup (h : σ.Encloses inside) (hc : inside c) {x : String} {v : Value}
    (hv : σ.store.lookup c x = some v) (j : ScopeId) (hj : v.Captures j) : inside j := by
  obtain ⟨i, hi, hslot⟩ := Option.bind_eq_some_iff.mp hv
  have hmem : i ∈ σ.store.chain c := List.mem_of_find?_eq_some hi
  exact h.slots i (h.chain c hc i hmem) x v hslot j hj

end State.Encloses

/-- The scopes outside that are there in `σ` are there unchanged in `τ`. -/
structure State.Spares (inside : ScopeId → Prop) (σ τ : State) : Prop where
  grows : σ.store.scopes.size ≤ τ.store.scopes.size
  same : ∀ i < σ.store.scopes.size, ¬ inside i → τ.store.scopes[i]? = σ.store.scopes[i]?

theorem State.Spares.of_nest {inside : ScopeId → Prop} {σ τ : State} {c : ScopeId}
    (h : (σ.nest c).Spares inside τ) : σ.Spares inside τ := by
  have hsize : (σ.nest c).store.scopes.size = σ.store.scopes.size + 1 := Store.size_push ..
  have hgrows := h.grows
  refine ⟨by omega, fun i hi hout => ?_⟩
  rw [h.same i (by omega) hout]
  exact σ.store.scope_push c hi

/-- Evaluations that start in one of the scopes inside stay there, if all scopes from `n` on are
inside too: they use no other scope and change no other scope. -/
def isolation (inside : ScopeId → Prop) (n : Nat) (hn : ∀ i, n ≤ i → inside i) : Discipline where
  toFragment := .full
  inv σ := n ≤ σ.store.scopes.size ∧ σ.Encloses inside
  good _ v := ∀ j, v.Captures j → inside j
  place _ := inside
  rel _ := State.Spares inside
  rel_trans h k := ⟨Nat.le_trans h.grows k.grows, fun i hi hout =>
    (k.same i (Nat.lt_of_lt_of_le hi h.grows) hout).trans (h.same i hi hout)⟩
  rel_of_none h := h
  good_mono _ h := h
  place_mono _ h := h
  quiet {σ τ} h hστ _ _ := by
    have hsize : τ.store.scopes.size = σ.store.scopes.size := by rw [hστ]
    have hencloses : τ.Encloses inside :=
      ⟨fun i hi j hj => h.2.chain i hi j (hστ ▸ hj), fun i hi x v hv => h.2.slots i hi x v (hστ ▸ hv)⟩
    exact ⟨⟨hsize ▸ h.1, hencloses⟩, Nat.le_of_eq hsize.symm, fun i _ _ => by rw [hστ]⟩
  nest {σ c} h hc := by
    have hnew : inside σ.store.scopes.size := hn _ h.1
    refine ⟨⟨?_, h.2.nest hc hnew⟩, hnew⟩
    rw [State.nest, Store.size_push]
    exact Nat.le_succ_of_le h.1
  leave h := h.of_nest
  define {σ c x v} h hc hv _ := by
    have hsize := σ.store.size_insert c x v
    refine ⟨⟨hsize ▸ h.1, h.2.insert c x hv⟩, Nat.le_of_eq hsize.symm, fun i _ hout => ?_⟩
    exact Store.scope_insert _ x v fun heq => hout (heq ▸ hc)
  assign {σ c x _ v i} h _ hc hv hi := by
    have hinside := h.2.chain c hc i (List.mem_of_find?_eq_some hi)
    have hsize := σ.store.size_replace i x v
    refine ⟨⟨hsize ▸ h.1, h.2.replace i x hv⟩, Nat.le_of_eq hsize.symm, fun j _ hout => ?_⟩
    exact Store.scope_replace _ x v fun heq => hout (heq ▸ hinside)
  lookup h hc hv := h.2.lookup hc hv
  good_int := nofun
  good_bool := nofun
  good_nil := nofun
  good_builtin := nofun
  good_text _ := trivial
  new_str _ _ := nofun
  new_array _ h := by
    rintro j (_ | _ | ⟨hv, hj⟩)
    exact h _ hv j hj
  new_function _ _ hc := by
    rintro j ⟨⟩
    exact hc
  new_curried _ _ hc := by
    rintro j ⟨⟩
    exact hc
  element h hv j hj := h j (.element hv hj)
  function _ h := ⟨h _ (.function _), fun _ _ => trivial⟩
  curried _ h := ⟨h _ (.curried _), fun _ _ => trivial⟩
  returning h j hj := h j (.returning hj)

theorem State.encloses_reaches (σ : State) (c : ScopeId) :
    σ.Encloses fun i => σ.Reaches c i ∨ σ.store.scopes.size ≤ i where
  chain i hi j hj := by
    rcases hi with hi | hi
    · exact .inl (hi.outer hj)
    · rw [Store.chain_eq_nil hi] at hj
      cases hj
  slots i hi x v hv j hj := by
    rcases hi with hi | hi
    · exact .inl (hi.captured hv hj)
    · rw [Store.get?_eq_none hi] at hv
      cases hv

/-- **Whatever its outcome, a program leaves the scopes that it cannot reach as they are.** -/
theorem unreached_unchanged {depth : Nat} {p : Program} {c : ScopeId} {σ τ : State}
    (h : (p.eval (bodies depth) c σ).state? = some τ) {i : ScopeId} (hi : i < σ.store.scopes.size)
    (hout : ¬ σ.Reaches c i) : τ.store.scopes[i]? = σ.store.scopes[i]? := by
  let D := isolation (fun i => σ.Reaches c i ∨ σ.store.scopes.size ≤ i) σ.store.scopes.size
    fun _ => .inr
  have hplace : D.place σ c := .inl .start
  have hends := D.ends_eval trivial (fun _ => trivial) depth (.program p)
    ⟨Nat.le_refl _, σ.encloses_reaches c⟩ hplace nofun
  have hspares : σ.Spares _ τ := (hends.of_state? h).2
  exact hspares.same i hi (not_or_intro hout (Nat.not_le.mpr hi))

/-! ## Nothing else matters -/

/-- Two sessions, with the scopes in common that can be reached from `c`. -/
def State.sharing (σ : State) (c : ScopeId) (τ : State) : Overlap where
  left := σ
  right := τ
  shared := σ.Reaches c
  legal _ := True

section SameReach

variable {σ τ : State} {c : ScopeId}

theorem State.sharing_sound (hσ : σ.Numbered) (hc : c < σ.store.scopes.size)
    (hsame : ∀ i, σ.Reaches c i → τ.store.scopes[i]? = σ.store.scopes[i]?) :
    (σ.sharing c τ).Sound := by
  intro i hi
  have hlt : i < σ.store.scopes.size := State.Reaches.lt hi hσ hc
  have hscope := (hsame i hi).trans (Array.getElem?_eq_getElem hlt)
  exact ⟨hlt, (Array.getElem?_eq_some_iff.mp hscope).1⟩

theorem State.sharing_matches (hσ : σ.Numbered) (hτ : τ.Numbered)
    (hsame : ∀ i, σ.Reaches c i → τ.store.scopes[i]? = σ.store.scopes[i]?) :
    (σ.sharing c τ).Matches σ τ := by
  refine Overlap.Matches.of_shared (O := σ.sharing c τ) (fun i hi => ⟨?_, fun j hj => hi.outer hj⟩)
    fun i hi x _ => ?_
  · show τ.store.chain i = σ.store.chain i
    unfold Store.chain
    rw [hsame i hi]
  · have hslot : τ.store.get? i x = σ.store.get? i x := by
      unfold Store.get?
      rw [hsame i hi]
    show Option.Rel _ (σ.store.get? i x) (τ.store.get? i x)
    cases hv : σ.store.get? i x with
    | none =>
      rw [hslot, hv]
      exact .none
    | some v =>
      rw [hslot, hv]
      exact .some (Overlap.like_self (O := σ.sharing c τ) (v.names_of_forall fun _ => trivial)
        (hσ i x v hv) (hτ i x v (hslot.trans hv)) fun j hj => hi.captured hv hj)

end SameReach

/-! ## Main result -/

/-- **Evaluation is local to the scopes that can be reached.** Whatever the outcome, a program leaves
the other old scopes as they are. And in two well-numbered states with the same reachable scopes and
the same contents of them, it ends in corresponding ways, whatever else is different: with the same
failure or corresponding values, the same lines printed, and corresponding contents of the reachable
scopes and of the new ones. -/
theorem evaluation_is_local (depth : Nat) (p : Program) (c : ScopeId) (σ : State) :
    (∀ τ, (p.eval (bodies depth) c σ).state? = some τ →
      ∀ i < σ.store.scopes.size, ¬ σ.Reaches c i → τ.store.scopes[i]? = σ.store.scopes[i]?) ∧
    (∀ τ, σ.Numbered → τ.Numbered → c < σ.store.scopes.size →
      (∀ i, σ.Reaches c i → τ.store.scopes[i]? = σ.store.scopes[i]?) →
      (σ.sharing c τ).SameEnd (p.eval (bodies depth) c σ) (p.eval (bodies depth) c τ)) := by
  refine ⟨fun τ h i hi hout => unreached_unchanged h hi hout, fun τ hσ hτ hc hsame => ?_⟩
  have hsound : (σ.sharing c τ).Sound := State.sharing_sound hσ hc hsame
  exact Overlap.sameEnd_program hsound depth (Statement.namesAll_of_forall (fun _ => trivial) p)
    (Overlap.scope_shared .start) (State.sharing_matches hσ hτ hsame)

/-- A session with `x` in scope 0, and with `n` as the value of `y` in a scope apart from it. -/
def State.apart (n : Int64) : State :=
  { State.initial.2 with
    store := ((State.initial.2.store.insert 0 "x" (.int 1)).pushRoot.2).insert 1 "y" (.int n) }

theorem State.apart_numbered (n : Int64) : (State.apart n).Numbered := by
  have hx : State.Numbered { State.initial.2 with
      store := State.initial.2.store.insert 0 "x" (.int 1) } :=
    State.Numbered.initial.insert 0 "x" (.int 1)
  have hpush : State.Numbered { State.initial.2 with
      store := (State.initial.2.store.insert 0 "x" (.int 1)).pushRoot.2 } :=
    hx.of_slots (fun _ _ => Store.get?_push ..) (Nat.le_succ _) (Nat.le_refl _)
  exact hpush.insert 1 "y" (.int n)

theorem State.apart_slot {n : Int64} {i : ScopeId} {x : String} {v : Value}
    (h : (State.apart n).store.get? i x = some v) : ∃ m, v = .int m := by
  rw [State.apart, Store.get?_insert, Store.pushRoot, Store.get?_push, Store.get?_insert] at h
  split at h
  · exact ⟨n, (Option.some.inj h).symm⟩
  · split at h
    · exact ⟨1, (Option.some.inj h).symm⟩
    · rw [State.get?_initial] at h
      cases h

theorem State.apart_reaches {n : Int64} {i : ScopeId} (h : (State.apart n).Reaches 0 i) : i = 0 := by
  induction h with
  | start => rfl
  | outer _ hj ih =>
    subst ih
    exact Nat.le_zero.mp (Store.le_of_mem_chain hj)
  | captured _ hv hj _ =>
    obtain ⟨m, rfl⟩ := State.apart_slot hv
    cases hj

/-- The value of a name in a scope apart has no influence, and stays as it is. -/
theorem scope_apart_is_local : ∃ p : Program,
    p = [.expr (.assign "x" (.binary .add (.ident "x") (.int 41)))] ∧
    ((State.apart 1).sharing 0 (State.apart 2)).SameEnd (p.eval (bodies 0) 0 (State.apart 1))
      (p.eval (bodies 0) 0 (State.apart 2)) ∧
    ∃ τ, (p.eval (bodies 0) 0 (State.apart 1)).state? = some τ ∧
      τ.store.scopes[1]? = (State.apart 1).store.scopes[1]? := by
  refine ⟨_, rfl, ?_, _, rfl, ?_⟩
  · refine (evaluation_is_local 0 _ 0 (State.apart 1)).2 (State.apart 2) (State.apart_numbered 1)
      (State.apart_numbered 2) (by decide) fun i hi => ?_
    rw [State.apart_reaches hi]
    rfl
  · refine (evaluation_is_local 0 [.expr (.assign "x" (.binary .add (.ident "x") (.int 41)))] 0
      (State.apart 1)).1 _ rfl 1 (by decide) fun h => ?_
    exact absurd (State.apart_reaches h) (by decide)

end CurryLang
