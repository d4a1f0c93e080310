import CurryLang.Proofs.Application
import CurryLang.Proofs.Discipline

/-!
# Binding parameters

An application makes one scope inside the scope the function remembers and binds the parameters that
have an argument there. A parameter is refused if it is visible already, which says two things about
the scope from before: the name is seen from there, or an earlier parameter of this application has
it (`Store.Refuses`). If none is refused, all of them are bound, and only then the body runs or the
partial application is made. In both cases the store is the one from before with one scope more
(`State.Entered`).
-/

namespace CurryLang

open Eval

/-! ## Names that can be bound together -/

namespace Store

variable {s : Store} {c : ScopeId} {xs before : List String} {x y : String} {v : Value}

/-- These names can be bound in scope `c`, one after the other. -/
structure Admits (s : Store) (c : ScopeId) (xs : List String) : Prop where
  distinct : xs.Nodup
  unseen : ∀ x ∈ xs, s.visible c x = false

/-- Of the names `xs`, those of `before` can be bound in scope `c`, and the next one is `x`, which
cannot. -/
structure Refuses (s : Store) (c : ScopeId) (xs before : List String) (x : String) : Prop where
  first : before ++ [x] <+: xs
  admits : s.Admits c before
  taken : s.visible c x = true ∨ x ∈ before

instance (s : Store) (c : ScopeId) (xs : List String) : Decidable (s.Admits c xs) :=
  decidable_of_iff (xs.Nodup ∧ ∀ x ∈ xs, s.visible c x = false)
    ⟨fun h => ⟨h.1, h.2⟩, fun h => ⟨h.1, h.2⟩⟩

theorem Refuses.not_admits (h : s.Refuses c xs before x) : ¬ s.Admits c xs := by
  intro hall
  obtain ⟨after, rfl⟩ := h.first
  have hx : x ∈ before ++ [x] ++ after := by simp
  rcases h.taken with hseen | hbefore
  · exact Bool.false_ne_true ((hall.unseen x hx).symm.trans hseen)
  · have hdistinct : (before ++ [x]).Nodup := (List.nodup_append.mp hall.distinct).1
    exact (List.nodup_append.mp hdistinct).2.2 x hbefore x (List.mem_singleton_self x) rfl

/-! ## One name after the other -/

theorem visible_insert_self (hc : c < s.scopes.size) :
    (s.insert c x v).visible c y = true ↔ s.visible c y = true ∨ y = x := by
  simp only [visible_iff, chain_insert, holds_insert]
  constructor
  · rintro ⟨i, hi, hy | ⟨-, rfl, -⟩⟩
    · exact .inl ⟨i, hi, hy⟩
    · exact .inr rfl
  · rintro (⟨i, hi, hy⟩ | rfl)
    · exact ⟨i, hi, .inl hy⟩
    · exact ⟨c, mem_chain_self.mpr hc, .inr ⟨rfl, rfl, hc⟩⟩

theorem admits_nil : s.Admits c [] := ⟨List.nodup_nil, nofun⟩

/-- Binding the first name makes it one that the others have to differ from. -/
theorem admits_cons (hc : c < s.scopes.size) :
    s.Admits c (x :: xs) ↔ s.visible c x = false ∧ (s.insert c x v).Admits c xs := by
  have hunseen (y : String) :
      (s.insert c x v).visible c y = false ↔ s.visible c y = false ∧ y ≠ x := by
    simp only [← Bool.not_eq_true, visible_insert_self hc, not_or, ne_eq]
  constructor
  · intro h
    obtain ⟨hx, hdistinct⟩ := List.nodup_cons.mp h.distinct
    refine ⟨h.unseen x List.mem_cons_self, hdistinct, fun y hy => (hunseen y).mpr ⟨?_, ?_⟩⟩
    · exact h.unseen y (List.mem_cons_of_mem _ hy)
    · rintro rfl
      exact hx hy
  · rintro ⟨hx, h⟩
    refine ⟨List.nodup_cons.mpr ⟨fun hmem => ?_, h.distinct⟩, List.forall_mem_cons.mpr ⟨hx, ?_⟩⟩
    · exact ((hunseen x).mp (h.unseen x hmem)).2 rfl
    · exact fun y hy => ((hunseen y).mp (h.unseen y hy)).1

theorem Refuses.cons (hc : c < s.scopes.size) (hx : s.visible c x = false)
    (h : (s.insert c x v).Refuses c xs before y) : s.Refuses c (x :: xs) (x :: before) y where
  first := List.cons_prefix_cons.mpr ⟨rfl, h.first⟩
  admits := (admits_cons hc).mpr ⟨hx, h.admits⟩
  taken := by
    rcases h.taken with hseen | hbefore
    · rcases (visible_insert_self hc).mp hseen with hseen | rfl
      · exact .inl hseen
      · exact .inr List.mem_cons_self
    · exact .inr (List.mem_cons_of_mem _ hbefore)

/-! ## All names, in the newest scope -/

theorem scopes_insert_last {old : Array Scope} {outer : List ScopeId}
    {slots : List (String × Value)} (hs : s.scopes = old.push ⟨outer, slots⟩) :
    (s.insert old.size x v).scopes = old.push ⟨outer, (x, v) :: slots⟩ := by
  apply Array.ext_getElem?
  intro i
  simp only [insert, hs, Array.getElem?_modify, Array.getElem?_push]
  by_cases hi : i = old.size
  · subst hi
    simp [Scope.insert]
  · simp [hi, Ne.symm hi]

/-- **Either all names that have a value are bound, or those before the first one that cannot be.** -/
theorem bindAll_cases {old : Array Scope} {outer : List ScopeId} {slots : List (String × Value)}
    (hs : s.scopes = old.push ⟨outer, slots⟩) (xs : List String) (vs : List Value) :
    (∃ t, s.bindAll old.size xs vs = (t, none) ∧ s.Admits old.size (xs.take vs.length) ∧
      t.scopes = old.push ⟨outer, (xs.zip vs).reverse ++ slots⟩) ∨
    ∃ t before x, s.bindAll old.size xs vs = (t, some x) ∧
      s.Refuses old.size (xs.take vs.length) before x ∧
      t.scopes = old.push ⟨outer, (before.zip vs).reverse ++ slots⟩ := by
  induction xs, vs using defineAll.induct generalizing s slots with
  | case1 x xs v vs ih =>
    have hsize : old.size < s.scopes.size := by
      rw [hs, Array.size_push]
      exact Nat.lt_succ_self _
    rw [bindAll]
    by_cases hx : s.visible old.size x = true
    · rw [if_pos hx]
      refine .inr ⟨s, [], x, rfl, ⟨?_, admits_nil, .inl hx⟩, hs⟩
      exact List.cons_prefix_cons.mpr ⟨rfl, List.nil_prefix⟩
    · rw [if_neg hx]
      replace hx := Bool.eq_false_iff.mpr hx
      rcases ih (scopes_insert_last (x := x) (v := v) hs) with
        ⟨t, hbind, hadmits, ht⟩ | ⟨t, before, y, hbind, hrefuses, ht⟩
      · refine .inl ⟨t, hbind, (admits_cons hsize).mpr ⟨hx, hadmits⟩, ?_⟩
        rw [ht, List.zip_cons_cons, List.reverse_cons, List.append_assoc]
        rfl
      · refine .inr ⟨t, x :: before, y, hbind, hrefuses.cons hsize hx, ?_⟩
        rw [ht, List.zip_cons_cons, List.reverse_cons, List.append_assoc]
        rfl
  | case2 xs vs h =>
    obtain rfl | rfl : xs = [] ∨ vs = [] := by
      cases xs with
      | nil => exact .inl rfl
      | cons x xs =>
        cases vs with
        | nil => exact .inr rfl
        | cons v vs => exact (h x xs v vs rfl rfl).elim
    · exact .inl ⟨s, by rw [bindAll]; exact h, by rw [List.take_nil]; exact admits_nil, hs⟩
    · refine .inl ⟨s, by rw [bindAll]; exact h, admits_nil, ?_⟩
      rw [List.zip_nil_right]
      exact hs

/-- From a new scope the same names are visible as from the scope around it. -/
theorem visible_push_self (s : Store) (env : ScopeId) (x : String) :
    (s.push env).2.visible s.scopes.size x = s.visible env x := by
  rw [visible_eq_isSome_lookup, visible_eq_isSome_lookup, lookup_eq_findSome?,
    lookup_eq_findSome?, chain_push, if_pos rfl, List.findSome?_cons]
  simp only [get?_push, get?_eq_none (Nat.le_refl s.scopes.size)]

theorem admits_push {env : ScopeId} :
    (s.push env).2.Admits s.scopes.size xs ↔ s.Admits env xs :=
  ⟨fun h => ⟨h.distinct, fun x hx => visible_push_self s env x ▸ h.unseen x hx⟩,
    fun h => ⟨h.distinct, fun x hx => (visible_push_self s env x).trans (h.unseen x hx)⟩⟩

theorem Refuses.of_push {env : ScopeId} (h : (s.push env).2.Refuses s.scopes.size xs before x) :
    s.Refuses env xs before x :=
  ⟨h.first, admits_push.mp h.admits, visible_push_self s env x ▸ h.taken⟩

section NewScope

variable {t : Store} {env : ScopeId} {parameters : List String} {vs : List Value}

/-- The store after all parameters with an argument were bound in a new scope. -/
theorem scopes_of_bound
    (h : (s.push env).2.bindAll s.scopes.size parameters vs = (t, none)) :
    s.Admits env (parameters.take vs.length) ∧
      t.scopes = s.scopes.push ⟨s.chain env, (parameters.zip vs).reverse⟩ := by
  have hpush : (s.push env).2.scopes = s.scopes.push ⟨s.chain env, []⟩ := rfl
  rcases bindAll_cases hpush parameters vs with
    ⟨u, hbound, hadmits, hu⟩ | ⟨u, before, x, hrefused, -, -⟩
  · cases hbound.symm.trans h
    exact ⟨admits_push.mp hadmits, by rwa [List.append_nil] at hu⟩
  · cases hrefused.symm.trans h

/-- The store after a parameter was refused: those before it are bound in a new scope. -/
theorem scopes_of_refused
    (h : (s.push env).2.bindAll s.scopes.size parameters vs = (t, some x)) :
    ∃ before, s.Refuses env (parameters.take vs.length) before x ∧
      t.scopes = s.scopes.push ⟨s.chain env, (before.zip vs).reverse⟩ := by
  have hpush : (s.push env).2.scopes = s.scopes.push ⟨s.chain env, []⟩ := rfl
  rcases bindAll_cases hpush parameters vs with
    ⟨u, hbound, -, -⟩ | ⟨u, before, y, hrefused, hrefuses, hu⟩
  · cases hbound.symm.trans h
  · cases hrefused.symm.trans h
    exact ⟨before, hrefuses.of_push, by rwa [List.append_nil] at hu⟩

end NewScope

end Store

/-! ## Applications -/

/-- The state after making a scope inside `env` with these slots, and nothing else that concerns
scopes or the output. -/
structure State.Entered (σ : State) (env : ScopeId) (slots : List (String × Value)) (τ : State) :
    Prop where
  scopes : τ.store.scopes = σ.store.scopes.push ⟨σ.store.chain env, slots.reverse⟩
  printed : τ.printed = σ.printed

section Applications

variable (f : Closure) (env : ScopeId) (parameters : List String)
  (vs : List Value) (σ : State)

theorem Closure.apply_of_admits (h : σ.store.Admits env (parameters.take vs.length)) :
    ∃ τ, σ.Entered env (parameters.zip vs) τ ∧ τ.nextObject = σ.nextObject ∧
      ∀ run, f.apply run env parameters vs σ =
        f.finish run σ.store.scopes.size (parameters.drop vs.length) τ := by
  rcases hbind : (σ.store.push env).2.bindAll σ.store.scopes.size parameters vs with ⟨s, _ | x⟩
  · refine ⟨{ σ.note (.applying parameters.length vs.length) with store := s },
      ⟨(Store.scopes_of_bound hbind).2, rfl⟩, rfl, fun run => ?_⟩
    rw [Closure.apply_bindAll, hbind]
  · obtain ⟨before, hrefuses, -⟩ := Store.scopes_of_refused hbind
    exact absurd h hrefuses.not_admits

theorem Closure.apply_of_not_admits (h : ¬ σ.store.Admits env (parameters.take vs.length)) :
    ∃ before x τ, σ.store.Refuses env (parameters.take vs.length) before x ∧
      σ.Entered env (before.zip vs) τ ∧
      ∀ run, f.apply run env parameters vs σ = .failed (.alreadyBound x) τ := by
  rcases hbind : (σ.store.push env).2.bindAll σ.store.scopes.size parameters vs with ⟨s, _ | x⟩
  · exact absurd (Store.scopes_of_bound hbind).1 h
  · obtain ⟨before, hrefuses, hs⟩ := Store.scopes_of_refused hbind
    let τ : State := { σ.note (.applying parameters.length vs.length) with store := s }
    refine ⟨before, x, τ.note (.refusedBinding x), hrefuses, ⟨hs, rfl⟩, fun run => ?_⟩
    rw [Closure.apply_bindAll, hbind]

end Applications

/-- **Parameters are bound all together or the first bad one is refused.** A function or a partial
application that waits for `parameters` inside `env` is applied to `vs`; the parameters that have an
argument are the first `vs.length`.

* If these are different and none is visible from `env`, one scope inside `env` is made that has
  them with their arguments and nothing else. With parameters left over the result waits for those;
  otherwise the body runs in the new scope.
* If not, the first of them that is visible from `env` or repeats an earlier one is reported, with
  the same state whatever the bodies of functions do.

What `Entered` says includes that all scopes from before are as they were. -/
theorem parameters_bound_or_refused {callee : Value} {f : Closure} {env : ScopeId}
    {parameters : List String} (htarget : callee.target? = some (f, env, parameters))
    (vs : List Value) (σ : State) :
    (σ.store.Admits env (parameters.take vs.length) →
      (vs.length < parameters.length → ∃ τ, σ.Entered env (parameters.zip vs) τ ∧
        ∀ run, callee.apply run vs σ =
          .ok (.curried ⟨σ.nextObject, f, σ.store.scopes.size, parameters.drop vs.length⟩) τ) ∧
      (parameters.length ≤ vs.length → ∃ τ, σ.Entered env (parameters.zip vs) τ ∧
        ∀ run, callee.apply run vs σ = catchReturn (run f.body σ.store.scopes.size) τ)) ∧
    (¬ σ.store.Admits env (parameters.take vs.length) →
      ∃ before x τ, σ.store.Refuses env (parameters.take vs.length) before x ∧
        σ.Entered env (before.zip vs) τ ∧
        ∀ run, callee.apply run vs σ = .failed (.alreadyBound x) τ) := by
  simp only [Value.apply_of_target htarget]
  refine ⟨fun hadmits => ⟨fun hlt => ?_, fun hle => ?_⟩, f.apply_of_not_admits env parameters vs σ⟩
  · obtain ⟨τ, hentered, hnext, happly⟩ := f.apply_of_admits env parameters vs σ hadmits
    refine ⟨(τ.note (.currying (parameters.drop vs.length).length)).allot,
      ⟨hentered.scopes, hentered.printed⟩, fun run => ?_⟩
    rw [happly, List.drop_eq_getElem_cons hlt, ← hnext]
    rfl
  · obtain ⟨τ, hentered, -, happly⟩ := f.apply_of_admits env parameters vs σ hadmits
    refine ⟨τ, hentered, fun run => ?_⟩
    rw [happly, List.drop_eq_nil_of_le hle]
    rfl

/-- Where `b` has a value, a function of `a`, `b` and `c` can get its first argument, since only its
first parameter is looked at, and cannot get two. -/
theorem second_parameter_refused :
    let σ : State := { State.initial.2 with store := State.initial.2.store.insert 0 "b" .nil }
    let f : Closure := ⟨0, ["a", "b", "c"], [], 0⟩
    (∃ τ, σ.Entered 0 [("a", .int 1)] τ ∧ ∀ run, (Value.function f).apply run [.int 1] σ =
      .ok (.curried ⟨0, f, 1, ["b", "c"]⟩) τ) ∧
    ∃ before x τ, σ.store.Refuses 0 ["a", "b"] before x ∧
      σ.Entered 0 (before.zip [.int 1, .int 2]) τ ∧
      ∀ run, (Value.function f).apply run [.int 1, .int 2] σ = .failed (.alreadyBound x) τ := by
  intro σ f
  have htarget : (Value.function f).target? = some (f, 0, ["a", "b", "c"]) := rfl
  have hone := parameters_bound_or_refused htarget [.int 1] σ
  have htwo := parameters_bound_or_refused htarget [.int 1, .int 2] σ
  exact ⟨(hone.1 (by decide)).1 (by decide), htwo.2 (by decide)⟩

end CurryLang
