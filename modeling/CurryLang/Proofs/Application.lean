import CurryLang.Eval.Evaluator
import CurryLang.Store.Lemmas

/-!
# Applications in two steps

Applying a function means entering it, which makes a new scope and binds parameters to arguments,
and then finishing: the body runs if no parameter is left, and otherwise the result is a partial
application. Functions and partial applications are applied alike; they differ in the scope that is
entered from and in the parameters that are still expected (`Value.target?`).
-/

namespace CurryLang

open Eval

variable {α β : Type} {σ τ : State}

/-! ## Laws of evaluations -/

instance : LawfulMonad Eval := LawfulMonad.mk' Eval
  (by
    intro α x
    funext σ
    show (match x σ with
      | .ok a τ => Outcome.ok a τ
      | .returned v τ => .returned v τ
      | .failed e τ => .failed e τ
      | .exhausted => .exhausted) = x σ
    cases x σ <;> rfl)
  (fun _ _ => rfl)
  (by
    intro α β γ x f g
    funext σ
    rw [bind_apply, bind_apply, bind_apply]
    cases x σ <;> rfl)

theorem bind_of_ok {x : Eval α} (f : α → Eval β) {a : α} (h : x σ = .ok a τ) :
    (x >>= f) σ = f a τ := by
  rw [bind_apply, h]

theorem Statement.evalFrom_append (run : BodyRunner) (c : ScopeId) (last : Value)
    (ss ts : List Statement) : Statement.evalFrom run c last (ss ++ ts) = (do
      let v ← Statement.evalFrom run c last ss
      Statement.evalFrom run c v ts) := by
  induction ss generalizing last with
  | nil => rfl
  | cons s ss ih =>
    rw [List.cons_append, Statement.evalFrom, Statement.evalFrom, bind_assoc]
    exact congrArg (s.eval run c >>= ·) (funext ih)

/-! ## Entering and finishing -/

/-- A new scope inside `env` with the parameters bound to the arguments. -/
def Eval.enter (env : ScopeId) (parameters : List String) (arguments : List Value) :
    Eval ScopeId := do
  note (.applying parameters.length arguments.length)
  let scope ← pushScope env
  defineAll scope parameters arguments
  return scope

/-- What a function does in the scope it was entered in, when `remaining` are the parameters without
an argument. -/
def Closure.finish (run : BodyRunner) (f : Closure) (scope : ScopeId) :
    List String → Eval Value
  | [] => catchReturn (run f.body scope)
  | x :: remaining => do
    note (.currying (x :: remaining).length)
    newCurried f scope (x :: remaining)

theorem Closure.apply_eq (run : BodyRunner) (f : Closure) (env : ScopeId)
    (parameters : List String) (arguments : List Value) :
    f.apply run env parameters arguments = (do
      let scope ← enter env parameters arguments
      f.finish run scope (parameters.drop arguments.length)) := by
  unfold Closure.apply Eval.enter
  simp only [bind_assoc, pure_bind]
  cases parameters.drop arguments.length <;> rfl

/-- The function that applying a value runs, the scope it is entered from, and the parameters that
are still expected. -/
def Value.target? : Value → Option (Closure × ScopeId × List String)
  | .function f => some (f, f.env, f.parameters)
  | .curried f => some (f.function, f.env, f.remaining)
  | _ => none

theorem Value.apply_of_target {run : BodyRunner} {callee : Value} {f : Closure} {env : ScopeId}
    {parameters : List String} (h : callee.target? = some (f, env, parameters))
    (arguments : List Value) :
    callee.apply run arguments = f.apply run env parameters arguments := by
  cases callee with
  | function g => cases h; rfl
  | curried g => cases h; rfl
  | _ => cases h

/-! ## Binding parameters -/

/-- The store with parameters bound to arguments in scope `c`, in order, up to the first parameter
that is refused. -/
def Store.bindAll (s : Store) (c : ScopeId) : List String → List Value → Store × Option String
  | x :: xs, v :: vs => if s.visible c x then (s, some x) else (s.insert c x v).bindAll c xs vs
  | _, _ => (s, none)

theorem Store.size_bindAll (s : Store) (c : ScopeId) (xs : List String) (vs : List Value) :
    (s.bindAll c xs vs).1.scopes.size = s.scopes.size := by
  induction xs, vs using defineAll.induct generalizing s with
  | case1 x xs v vs ih =>
    rw [Store.bindAll]
    split
    · rfl
    · rw [ih, Store.size_insert]
  | case2 xs vs h =>
    rw [Store.bindAll]
    exact h

/-- What holds of all values in the slots and of the arguments holds of the values in the slots
afterwards. -/
theorem Store.get?_bindAll {P : Value → Prop} {s : Store} (c : ScopeId) (xs : List String)
    {vs : List Value} (hs : ∀ i x v, s.get? i x = some v → P v) (hvs : ∀ v ∈ vs, P v) :
    ∀ i x v, (s.bindAll c xs vs).1.get? i x = some v → P v := by
  induction xs, vs using defineAll.induct generalizing s with
  | case1 x xs v vs ih =>
    rw [Store.bindAll]
    split
    · exact hs
    · refine ih (fun i y w hw => ?_) fun w hw => hvs w (List.mem_cons_of_mem _ hw)
      rcases Store.eq_or_of_get?_insert hw with rfl | hw
      · exact hvs _ List.mem_cons_self
      · exact hs i y w hw
  | case2 xs vs h =>
    rw [Store.bindAll]
    · exact hs
    · exact h

/-- Binding parameters changes the store and nothing else, except that it reports a refusal. -/
theorem defineAll_apply (c : ScopeId) (xs : List String) (vs : List Value) (σ : State) :
    defineAll c xs vs σ =
      match σ.store.bindAll c xs vs with
      | (s, none) => .ok () { σ with store := s }
      | (s, some x) =>
        .failed (.alreadyBound x) (State.note { σ with store := s } (.refusedBinding x)) := by
  induction xs, vs using defineAll.induct generalizing σ with
  | case1 x xs v vs ih =>
    rw [defineAll, Store.bindAll, bind_apply, define]
    by_cases hx : σ.store.visible c x = true
    · rw [if_pos hx, if_pos hx]
    · rw [if_neg hx, if_neg hx]
      exact ih _
  | case2 xs vs h =>
    rw [defineAll, Store.bindAll]
    · rfl
    · exact h
    · exact h

/-- Entering a function comes to what binding its parameters in the new scope comes to. -/
theorem enter_apply (env : ScopeId) (parameters : List String) (arguments : List Value)
    (σ : State) :
    enter env parameters arguments σ =
      match (σ.store.push env).2.bindAll σ.store.scopes.size parameters arguments with
      | (s, none) =>
        .ok σ.store.scopes.size
          { σ.note (.applying parameters.length arguments.length) with store := s }
      | (s, some x) =>
        .failed (.alreadyBound x)
          (State.note { σ.note (.applying parameters.length arguments.length) with store := s }
            (.refusedBinding x)) := by
  show (defineAll σ.store.scopes.size parameters arguments >>= fun _ => pure σ.store.scopes.size)
    { σ.note (.applying parameters.length arguments.length) with
      store := (σ.store.push env).2 } = _
  rw [bind_apply, defineAll_apply]
  rcases (σ.store.push env).2.bindAll σ.store.scopes.size parameters arguments with ⟨s, _ | x⟩
  · rfl
  · rfl

/-- A function finishes when its parameters can be bound in the new scope. -/
theorem Closure.apply_bindAll (run : BodyRunner) (f : Closure) (env : ScopeId)
    (parameters : List String) (arguments : List Value) (σ : State) :
    f.apply run env parameters arguments σ =
      match (σ.store.push env).2.bindAll σ.store.scopes.size parameters arguments with
      | (s, none) =>
        f.finish run σ.store.scopes.size (parameters.drop arguments.length)
          { σ.note (.applying parameters.length arguments.length) with store := s }
      | (s, some x) =>
        .failed (.alreadyBound x)
          (State.note { σ.note (.applying parameters.length arguments.length) with store := s }
            (.refusedBinding x)) := by
  rw [Closure.apply_eq, bind_apply, enter_apply]
  rcases (σ.store.push env).2.bindAll σ.store.scopes.size parameters arguments with ⟨s, _ | x⟩
  · rfl
  · rfl

theorem defineAll_append (c : ScopeId) (parameters : List String) (vs ws : List Value)
    (h : vs.length ≤ parameters.length) :
    defineAll c parameters (vs ++ ws) = (do
      defineAll c parameters vs
      defineAll c (parameters.drop vs.length) ws) := by
  induction vs generalizing parameters with
  | nil => cases parameters <;> rfl
  | cons v vs ih =>
    cases parameters with
    | nil => cases h
    | cons x parameters =>
      simp only [List.cons_append, defineAll, bind_assoc, ih parameters (Nat.le_of_succ_le_succ h)]
      rfl

end CurryLang
