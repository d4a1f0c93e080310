import CurryLang.Proofs.MergedScopes

/-!
# Arguments in groups

A function can get its arguments at once or in groups, where each application but the last gives a
partial application. What happens is the same: the failure, what is printed, the data of the result,
the parameters that are still missing, and what the scopes from before hold (`Outcome.Alike`).

1. Two groups: the first one is bound in the same way on both sides. Then one side makes a partial
   application and enters it, so it has two scopes where the other has one, and the rest runs in
   step with two scopes for one (`Closure.alike_two_groups`).
2. Any number of groups: by induction, joining the first group to the others (`Value.alike_groups`).
-/

namespace CurryLang

open Eval

/-! ## What is seen of an application -/

/-- The parameters that a partial application waits for. -/
def Value.remaining? : Value → Option (List String)
  | .curried f => some f.remaining
  | _ => none

theorem Value.Like.remaining?_eq {P : Pairing} {v w : Value} (h : v.Like P w) :
    v.remaining? = w.remaining? := by
  cases h with
  | curried h => exact congrArg some h.remaining
  | _ => rfl

/-- Neither ends, or both fail in the same way, or both have results with the same data that wait for
the same parameters. Both have printed the same, and the first `n` scopes hold the same names and
the same data. -/
inductive Outcome.Alike (n : Nat) : Outcome Value → Outcome Value → Prop where
  | ok {v w : Value} {σ τ : State} (hdata : v.data? = w.data?)
    (hremaining : v.remaining? = w.remaining?) (h : σ.Alike n τ) : Alike n (.ok v σ) (.ok w τ)
  | failed (e : RuntimeError) {σ τ : State} (h : σ.Alike n τ) : Alike n (.failed e σ) (.failed e τ)
  | exhausted : Alike n .exhausted .exhausted

namespace Outcome.Alike

variable {n m : Nat} {r s t : Outcome Value}

theorem trans (h : r.Alike n s) (k : s.Alike n t) : r.Alike n t := by
  cases h with
  | ok hdata hremaining h =>
    cases k with
    | ok kdata kremaining k =>
      exact .ok (hdata.trans kdata) (hremaining.trans kremaining) (h.trans k)
  | failed e h =>
    cases k with
    | failed _ k => exact .failed e (h.trans k)
  | exhausted =>
    cases k with
    | exhausted => exact .exhausted

theorem refl (h : ∀ v τ, r ≠ .returned v τ) : r.Alike n r := by
  cases r with
  | ok v τ => exact .ok rfl rfl (.of_eq rfl rfl)
  | returned v τ => exact absurd rfl (h v τ)
  | failed e τ => exact .failed e (.of_eq rfl rfl)
  | exhausted => exact .exhausted

theorem mono (h : r.Alike m s) (hnm : n ≤ m) : r.Alike n s := by
  cases h with
  | ok hdata hremaining h => exact .ok hdata hremaining (h.mono hnm)
  | failed e h => exact .failed e (h.mono hnm)
  | exhausted => exact .exhausted

end Outcome.Alike

/-- What ends alike with two scopes for one is alike below them, if nothing is returned. -/
theorem Correspondence.Ends.alike {n : ScopeId} {a : ObjectId} {r s : Outcome Value}
    (h : (merging n a).Ends (Value.Like (merged n a)) r s) (hs : ∀ v τ, s ≠ .returned v τ) :
    r.Alike n s := by
  cases h with
  | ok hvw hστ => exact .ok hvw.data?_eq hvw.remaining?_eq (Merged.alike hστ)
  | returned _ _ => exact absurd rfl (hs _ _)
  | failed e hστ => exact .failed e (Merged.alike hστ)
  | exhausted => exact .exhausted

/-! ## Two groups -/

section Groups

variable {run : BodyRunner} (f : Closure) (env : ScopeId) {parameters : List String}
  {first : List Value} (others : List Value)

/-- All arguments at once: the first ones are bound, and then the others in the same scope. -/
theorem Closure.apply_append (h : first.length ≤ parameters.length) :
    f.apply run env parameters (first ++ others) = (do
      note (.applying parameters.length (first ++ others).length)
      let scope ← pushScope env
      defineAll scope parameters first
      defineAll scope (parameters.drop first.length) others
      f.finish run scope ((parameters.drop first.length).drop others.length)) := by
  rw [Closure.apply_eq, enter]
  simp only [bind_assoc, pure_bind, defineAll_append _ _ _ _ h, List.length_append, List.drop_drop]

/-- Some of the arguments: they are bound, and the result waits for the others. -/
theorem Closure.apply_short (h : first.length < parameters.length) :
    f.apply run env parameters first = (do
      note (.applying parameters.length first.length)
      let scope ← pushScope env
      defineAll scope parameters first
      note (.currying (parameters.drop first.length).length)
      newCurried f scope (parameters.drop first.length)) := by
  rw [Closure.apply_eq, enter, List.drop_eq_getElem_cons h]
  simp only [bind_assoc, pure_bind, Closure.finish]

/-- Some of the arguments and then the others: those are bound in a scope inside. -/
theorem Closure.apply_apply (h : first.length < parameters.length) :
    (f.apply run env parameters first >>= fun c => c.apply run others) = (do
      note (.applying parameters.length first.length)
      let scope ← pushScope env
      defineAll scope parameters first
      note (.currying (parameters.drop first.length).length)
      let _ ← newObject
      note (.applying (parameters.drop first.length).length others.length)
      let inner ← pushScope scope
      defineAll inner (parameters.drop first.length) others
      f.finish run inner ((parameters.drop first.length).drop others.length)) := by
  have hcurried (id : ObjectId) (scope : ScopeId) (remaining : List String) :
      (Value.curried ⟨id, f, scope, remaining⟩).apply run others =
        f.apply run scope remaining others := rfl
  rw [Closure.apply_short f env h]
  simp only [bind_assoc, pure_bind, newCurried, hcurried, Closure.apply_eq, enter]

theorem entering_of_bound {σ : State} {s : Store}
    (h : (σ.store.push env).2.bindAll σ.store.scopes.size parameters first = (s, none))
    (e : Event) (k : ScopeId → Eval Value) :
    (do
      note e
      let scope ← pushScope env
      defineAll scope parameters first
      k scope) σ = k σ.store.scopes.size { σ.note e with store := s } := by
  have hbind : defineAll σ.store.scopes.size parameters first ((σ.note e).nest env) =
      .ok () { σ.note e with store := s } := by
    rw [defineAll_apply, State.nest, State.note, h]
  exact bind_of_ok (fun _ => k σ.store.scopes.size) hbind

/-- Entering a function fails when a parameter of the first group is refused. -/
theorem entering_of_refused {σ : State} {s : Store} {x : String}
    (h : (σ.store.push env).2.bindAll σ.store.scopes.size parameters first = (s, some x))
    (e : Event) (k : ScopeId → Eval Value) :
    (do
      note e
      let scope ← pushScope env
      defineAll scope parameters first
      k scope) σ =
      .failed (.alreadyBound x) (State.note { σ.note e with store := s } (.refusedBinding x)) := by
  show (defineAll σ.store.scopes.size parameters first >>= fun _ => k σ.store.scopes.size)
    ((σ.note e).nest env) = _
  rw [bind_apply, defineAll_apply, State.nest, State.note, h]

/-- After the first group, entering a partial application runs in step with going on. -/
theorem Closure.ends_enter_again (σ τ : State) {n : ScopeId} {a : ObjectId}
    (hrun : (merging n a).Runs run) (hlast : σ.store.scopes.size = n + 1)
    (hslots : ∀ i x v, σ.store.get? i x = some v → v.Numbered n a)
    (hothers : ∀ v ∈ others, v.Numbered n a) (hstore : τ.store = σ.store)
    (hobject : σ.nextObject = a) (hobject' : τ.nextObject = a) (hprinted : τ.printed = σ.printed)
    (e₁ e₂ : Event) (expected remaining : List String) :
    (merging n a).Ends (Value.Like (merged n a))
      ((do
        note e₁
        let _ ← newObject
        note e₂
        let inner ← pushScope n
        defineAll inner expected others
        f.finish run inner remaining) σ)
      ((do
        defineAll n expected others
        f.finish run n remaining) τ) := by
  have hscope : (merging n a).scope σ.store.scopes.size n := by
    show σ.store.scopes.size = lift n n
    rw [hlast, lift_of_le (Nat.le_refl n)]
  have hlikes : Likes (merged n a) others others :=
    List.forall₂_same.mpr fun v hv => (hothers v hv).like
  -- the partial application takes one object, and entering it makes the inner scope
  have hmerged : Merged n a (((σ.note e₁).note e₂).allot.nest n) τ :=
    .of_nest hlast hobject hslots hstore hobject' hprinted
  have hdefine : (merging n a).Agree (fun _ _ => True)
      (defineAll σ.store.scopes.size expected others) (defineAll n expected others) :=
    Correspondence.agree_defineAll hscope (fun _ _ => trivial) hlikes
  refine (hdefine.bind fun _ _ _ => ?_) _ _ hmerged
  exact Correspondence.agree_finish hrun rfl (Statement.namesAll_of_forall (fun _ => trivial) _)
    hscope fun _ _ => trivial

theorem Closure.alike_two_groups {σ : State} (hrun : ∀ C : Correspondence, C.Runs run)
    (hσ : σ.Numbered) (hfirst : ∀ v ∈ first, σ.Has v) (hothers : ∀ v ∈ others, σ.Has v)
    (h : first.length < parameters.length)
    (hreturn : ∀ v τ, f.apply run env parameters (first ++ others) σ ≠ .returned v τ) :
    Outcome.Alike σ.store.scopes.size
      ((f.apply run env parameters first >>= fun c => c.apply run others) σ)
      (f.apply run env parameters (first ++ others) σ) := by
  rw [Closure.apply_append f env others (Nat.le_of_lt h)] at hreturn ⊢
  rw [Closure.apply_apply f env others h]
  have hsize := Store.size_bindAll (σ.store.push env).2 σ.store.scopes.size parameters first
  have hslots := Store.get?_bindAll σ.store.scopes.size parameters
    (fun i x v hv => hσ i x v (Store.get?_push σ.store env i x ▸ hv)) hfirst
  rcases hbind : (σ.store.push env).2.bindAll σ.store.scopes.size parameters first with ⟨s, refused⟩
  rw [hbind] at hsize hslots
  cases refused with
  | none =>
    rw [entering_of_bound env hbind] at hreturn ⊢
    rw [entering_of_bound env hbind]
    refine Correspondence.Ends.alike (a := σ.nextObject) ?_ hreturn
    apply Closure.ends_enter_again f others _ _ (hrun _)
    · exact hsize.trans (Store.size_push ..)
    · exact hslots
    · exact hothers
    all_goals rfl
  | some x =>
    rw [entering_of_refused env hbind, entering_of_refused env hbind]
    exact .failed _ (.of_eq rfl rfl)

/-- Some of the arguments: a parameter is refused, or the result waits for the others. -/
theorem Closure.short_cases {σ : State} (h : first.length < parameters.length) :
    (∃ e τ, f.apply run env parameters first σ = .failed e τ) ∨
    ∃ id τ, f.apply run env parameters first σ =
      .ok (.curried ⟨id, f, σ.store.scopes.size, parameters.drop first.length⟩) τ := by
  rw [Closure.apply_short f env h]
  rcases hbind : (σ.store.push env).2.bindAll σ.store.scopes.size parameters first with ⟨s, refused⟩
  cases refused with
  | none => exact .inr ⟨_, _, entering_of_bound env hbind _ _⟩
  | some x => exact .inl ⟨_, _, entering_of_refused env hbind _ _⟩

end Groups

/-! ## Any number of groups -/

/-- Applies a value to the first group of arguments, the result to the next group, and so on. -/
def Value.applyAll (run : BodyRunner) : Value → List (List Value) → Eval Value
  | f, [] => pure f
  | f, group :: groups => do
    let g ← f.apply run group
    g.applyAll run groups

section Runs

variable {run : BodyRunner} {callee : Value} {σ : State}

/-- Applications return nothing to the function around. -/
theorem Value.apply_ne_returned (hrun : numbering.account.Runs run) (hσ : σ.Numbered)
    (hcallee : σ.Has callee) {vs : List Value} (hvs : ∀ v ∈ vs, σ.Has v) (v : Value) (τ : State) :
    callee.apply run vs σ ≠ .returned v τ := by
  intro h
  have hkeep : numbering.Ends none σ numbering.good (fun _ _ => False) (callee.apply run vs σ) :=
    Discipline.ends_apply hrun trivial hσ hcallee hvs
  rw [h] at hkeep
  exact hkeep.2.2

theorem Value.alike_groups (hnumbers : numbering.account.Runs run) (hrun : ∀ C : Correspondence, C.Runs run)
    (init : List (List Value)) (last : List Value) {f : Closure} {env : ScopeId}
    {parameters : List String} (htarget : callee.target? = some (f, env, parameters))
    (hσ : σ.Numbered) (hcallee : σ.Has callee)
    (hargs : ∀ group ∈ init ++ [last], ∀ v ∈ group, σ.Has v)
    (hinit : init.flatten.length < parameters.length) :
    Outcome.Alike σ.store.scopes.size (callee.applyAll run (init ++ [last]) σ)
      (callee.apply run (init ++ [last]).flatten σ) := by
  induction init generalizing callee σ env parameters with
  | nil =>
    have hone : callee.applyAll run [last] = callee.apply run last := bind_pure _
    have hlast : ∀ v ∈ last, σ.Has v := hargs last List.mem_cons_self
    rw [List.nil_append, hone, List.flatten_singleton]
    exact .refl (Value.apply_ne_returned hnumbers hσ hcallee hlast)
  | cons group init ih =>
    have hgroup : ∀ v ∈ group, σ.Has v := hargs group List.mem_cons_self
    have hgroups : ∀ g ∈ init ++ [last], ∀ v ∈ g, σ.Has v :=
      fun g hg => hargs g (List.mem_cons_of_mem _ hg)
    have hothers : ∀ v ∈ (init ++ [last]).flatten, σ.Has v := by
      intro v hv
      obtain ⟨g, hg, hv⟩ := List.mem_flatten.mp hv
      exact hgroups g hg v hv
    have hall : ∀ v ∈ group ++ (init ++ [last]).flatten, σ.Has v := by
      intro v hv
      exact (List.mem_append.mp hv).elim (hgroup v) (hothers v)
    rw [List.flatten_cons, List.length_append] at hinit
    have hshort : group.length < parameters.length := by omega
    -- the first group and then all others at once
    have htwo : Outcome.Alike σ.store.scopes.size
        ((callee.apply run group >>= fun c => c.apply run (init ++ [last]).flatten) σ)
        (callee.apply run (group ++ (init ++ [last]).flatten) σ) := by
      have hreturn := Value.apply_ne_returned hnumbers hσ hcallee hall
      rw [Value.apply_of_target htarget] at hreturn ⊢
      rw [Value.apply_of_target htarget]
      exact f.alike_two_groups env _ hrun hσ hgroup hothers hshort hreturn
    refine Outcome.Alike.trans ?_ htwo
    show Outcome.Alike _ ((callee.apply run group >>= fun c => c.applyAll run (init ++ [last])) σ) _
    have hkeep : numbering.Ends none σ numbering.good (fun _ _ => False)
        (callee.apply run group σ) :=
      Discipline.ends_apply hnumbers trivial hσ hcallee hgroup
    rw [bind_apply, bind_apply]
    rcases f.short_cases env hshort with ⟨e, τ, he⟩ | ⟨id, τ, hc⟩
    · rw [Value.apply_of_target htarget, he]
      exact .failed e (.of_eq rfl rfl)
    · rw [Value.apply_of_target htarget, hc] at hkeep ⊢
      obtain ⟨hτ, hrel, hhas⟩ := hkeep
      have hlater : ∀ g ∈ init ++ [last], ∀ v ∈ g, τ.Has v :=
        fun g hg v hv => (hgroups g hg v hv).mono hrel.1 hrel.2
      refine (ih rfl hτ hhas hlater ?_).mono hrel.1
      rw [List.length_drop]
      omega

end Runs

/-! ## Main result -/

/-- **Currying does not depend on how the arguments are grouped.** A function of a well-numbered
state is applied to groups of arguments, one after the other, of which those before the last leave
some parameter open: this ends like the application to all the arguments at once. -/
theorem currying_ignores_grouping (depth : Nat) (f : Closure) (init : List (List Value))
    (last : List Value) (σ : State) (hσ : σ.Numbered) (hf : σ.Has (.function f))
    (hargs : ∀ group ∈ init ++ [last], ∀ v ∈ group, σ.Has v)
    (hinit : init.flatten.length < f.parameters.length) :
    Outcome.Alike σ.store.scopes.size
      ((Value.function f).applyAll (bodies depth) (init ++ [last]) σ)
      ((Value.function f).apply (bodies depth) (init ++ [last]).flatten σ) :=
  Value.alike_groups (numbering.account.runs_bodies depth) (fun C => C.runs_bodies depth) init last rfl hσ
    hf hargs hinit

/-- `fun(x, y) { puts(x + y) }` applied to `1`, to nothing and to `2`, and applied to both at once. -/
theorem sum_in_three_groups :
    let f : Closure := ⟨0, ["x", "y"],
      [.expr (.call (.ident "puts") [.binary .add (.ident "x") (.ident "y")])], State.initial.1⟩
    let σ : State := { State.initial.2 with nextObject := 1 }
    σ.Numbered ∧ σ.Has (.function f) ∧
    Outcome.Alike 1 ((Value.function f).applyAll (bodies 1) [[.int 1], [], [.int 2]] σ)
      ((Value.function f).apply (bodies 1) [.int 1, .int 2] σ) ∧
    ((Value.function f).apply (bodies 1) [.int 1, .int 2] σ).state?.map State.printed =
      some ["3"] := by
  intro f σ
  have hσ : σ.Numbered :=
    State.Numbered.initial.of_slots (fun _ _ => rfl) (Nat.le_refl _) (Nat.zero_le _)
  have hf : σ.Has (.function f) := .function (by decide) (by decide)
  refine ⟨hσ, hf, currying_ignores_grouping 1 f [[.int 1], []] [.int 2] σ hσ hf ?_ (by decide),
    by decide +kernel⟩
  intro group hgroup v hv
  obtain rfl | rfl | rfl : group = [.int 1] ∨ group = [] ∨ group = [.int 2] := by simpa using hgroup
  · exact List.mem_singleton.mp hv ▸ .int 1
  · cases hv
  · exact List.mem_singleton.mp hv ▸ .int 2

end CurryLang
