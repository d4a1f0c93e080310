import CurryLang.Proofs.Application

/-!
# Failures and returns stop everything at once

An evaluation that fails or returns is interrupted, and so is everything around it up to the program
or the call that it stands in. Nothing that comes later is done on the way out.

1. A context is an expression, a statement or a block with one place left open for an expression
   (`fill`). `approach` evaluates what stands before that place and gives the scope and the state in
   which it is reached, if everything before it has an ordinary value.
2. An interruption in the open place is the outcome of the whole, with the same state
   (`ExprContext.eval_fill` and its companions, one case for each position).
3. A program and a call end there: a failure stays a failure, and what is returned is their value.
-/

namespace CurryLang

open Eval

variable {α β : Type}

/-! ## Interruptions -/

/-- Why an evaluation stops before its end. -/
inductive Interruption where
  | failure (cause : RuntimeError)
  | giving (value : Value)

namespace Interruption

/-- The outcome of what is interrupted. -/
def outcome (s : Interruption) (σ : State) : Outcome α :=
  match s with
  | failure e => .failed e σ
  | giving v => .returned v σ

/-- The outcome of a program or an application that is interrupted inside. -/
def caught (s : Interruption) (σ : State) : Outcome Value :=
  match s with
  | failure e => .failed e σ
  | giving v => .ok v σ

end Interruption

variable {s : Interruption} {σ τ υ : State}

theorem bind_of_interrupted {x : Eval α} (f : α → Eval β) (h : x σ = s.outcome υ) :
    (x >>= f) σ = s.outcome υ := by
  rw [bind_apply, h]
  cases s <;> rfl

theorem catchReturn_of_interrupted {x : Eval Value} (h : x σ = s.outcome υ) :
    catchReturn x σ = s.caught υ := by
  rw [catchReturn, h]
  cases s <;> rfl

/-- The result of an evaluation and the state after it, if it has one. -/
def Outcome.result? : Outcome α → Option (α × State)
  | .ok a τ => some (a, τ)
  | _ => none

theorem Outcome.eq_ok_of_result? {r : Outcome α} {a : α} (h : r.result? = some (a, τ)) :
    r = .ok a τ := by
  cases r with
  | ok b υ =>
    obtain ⟨rfl, rfl⟩ := Prod.mk.inj (Option.some.inj h)
    rfl
  | returned | failed | exhausted => cases h

/-! ## Contexts -/

mutual

/-- An expression with an open place. -/
inductive ExprContext where
  | hole
  | element (before : List Expr) (inner : ExprContext) (after : List Expr)
  | operand (op : UnaryOp) (inner : ExprContext)
  | left (op : BinaryOp) (inner : ExprContext) (right : Expr)
  | right (op : BinaryOp) (left : Expr) (inner : ExprContext)
  | conditionThen (inner : ExprContext) (consequence : Block)
  | conditionElse (inner : ExprContext) (consequence alternative : Block)
  | branchThen (condition : Expr) (inner : BlockContext)
  | consequence (condition : Expr) (inner : BlockContext) (alternative : Block)
  | alternative (condition : Expr) (consequence : Block) (inner : BlockContext)
  | callee (inner : ExprContext) (arguments : List Expr)
  | argument (callee : Expr) (before : List Expr) (inner : ExprContext) (after : List Expr)
  | collection (inner : ExprContext) (position : Expr)
  | position (collection : Expr) (inner : ExprContext)
  | assigned (name : String) (inner : ExprContext)

/-- A statement with an open place. -/
inductive StatementContext where
  | bound (name : String) (inner : ExprContext)
  | given (inner : ExprContext)
  | expr (inner : ExprContext)

/-- A row of statements with an open place in one of them. -/
inductive BlockContext where
  | among (before : Block) (inner : StatementContext) (after : Block)

end

mutual

/-- The expression with `e` in the open place. -/
def ExprContext.fill (e : Expr) : ExprContext → Expr
  | .hole => e
  | .element before inner after => .array (before ++ inner.fill e :: after)
  | .operand op inner => .unary op (inner.fill e)
  | .left op inner right => .binary op (inner.fill e) right
  | .right op left inner => .binary op left (inner.fill e)
  | .conditionThen inner consequence => .ifThen (inner.fill e) consequence
  | .conditionElse inner consequence alternative => .ifElse (inner.fill e) consequence alternative
  | .branchThen condition inner => .ifThen condition (inner.fill e)
  | .consequence condition inner alternative => .ifElse condition (inner.fill e) alternative
  | .alternative condition consequence inner => .ifElse condition consequence (inner.fill e)
  | .callee inner arguments => .call (inner.fill e) arguments
  | .argument callee before inner after => .call callee (before ++ inner.fill e :: after)
  | .collection inner position => .index (inner.fill e) position
  | .position collection inner => .index collection (inner.fill e)
  | .assigned name inner => .assign name (inner.fill e)

def StatementContext.fill (e : Expr) : StatementContext → Statement
  | .bound name inner => .bind name (inner.fill e)
  | .given inner => .ret (inner.fill e)
  | .expr inner => .expr (inner.fill e)

def BlockContext.fill (e : Expr) : BlockContext → Block
  | .among before inner after => before ++ inner.fill e :: after

end

/-! ## The way to the open place -/

mutual

/-- The scope and the state in which the open place is reached, if everything before it has an
ordinary value and every branch on the way is taken. -/
def ExprContext.approach (run : BodyRunner) (c : ScopeId) :
    ExprContext → State → Option (ScopeId × State)
  | .hole, σ => some (c, σ)
  | .element before inner _, σ => do
    let (_, τ) ← (Expr.evalEach run c before σ).result?
    inner.approach run c τ
  | .operand _ inner, σ => inner.approach run c σ
  | .left _ inner _, σ => inner.approach run c σ
  | .right _ left inner, σ => do
    let (_, τ) ← (left.eval run c σ).result?
    inner.approach run c τ
  | .conditionThen inner _, σ => inner.approach run c σ
  | .conditionElse inner _ _, σ => inner.approach run c σ
  | .branchThen condition inner, σ => do
    let (v, τ) ← (condition.eval run c σ).result?
    let (i, υ) ← (pushScope c τ).result?
    if v.isTruthy then inner.approach run i υ else none
  | .consequence condition inner _, σ => do
    let (v, τ) ← (condition.eval run c σ).result?
    let (i, υ) ← (pushScope c τ).result?
    if v.isTruthy then inner.approach run i υ else none
  | .alternative condition _ inner, σ => do
    let (v, τ) ← (condition.eval run c σ).result?
    let (i, υ) ← (pushScope c τ).result?
    if v.isTruthy then none else inner.approach run i υ
  | .callee inner _, σ => inner.approach run c σ
  | .argument callee before inner _, σ => do
    let (_, τ) ← (callee.eval run c σ).result?
    let (_, υ) ← (Expr.evalEach run c before τ).result?
    inner.approach run c υ
  | .collection inner _, σ => inner.approach run c σ
  | .position collection inner, σ => do
    let (_, τ) ← (collection.eval run c σ).result?
    inner.approach run c τ
  | .assigned _ inner, σ => inner.approach run c σ

/-- The way to the open place of a statement starts with the statement. -/
def StatementContext.approach (run : BodyRunner) (c : ScopeId) :
    StatementContext → State → Option (ScopeId × State)
  | .bound _ inner, σ => inner.approach run c σ
  | .given inner, σ => inner.approach run c σ
  | .expr inner, σ => inner.approach run c σ

/-- The way to the open place of a block goes through the statements before it. -/
def BlockContext.approach (run : BodyRunner) (c : ScopeId) :
    BlockContext → State → Option (ScopeId × State)
  | .among before inner _, σ => do
    let (_, τ) ← (Block.eval run c before σ).result?
    inner.approach run c τ

end

/-! ## The way out of the open place -/

section Evaluator

variable {run : BodyRunner} {c d : ScopeId} {e : Expr}

theorem evalEach_interrupted {before : List Expr} {vs : List Value} {x : Expr} (after : List Expr)
    (hbefore : Expr.evalEach run c before σ = .ok vs τ) (hx : x.eval run c τ = s.outcome υ) :
    Expr.evalEach run c (before ++ x :: after) σ = s.outcome υ := by
  induction before generalizing σ vs with
  | nil =>
    obtain ⟨-, rfl⟩ := Outcome.ok.inj hbefore
    rw [List.nil_append, Expr.evalEach]
    exact bind_of_interrupted _ hx
  | cons y before ih =>
    rw [Expr.evalEach, bind_apply] at hbefore
    rw [List.cons_append, Expr.evalEach, bind_apply]
    cases hy : y.eval run c σ with
    | ok w ρ =>
      rw [hy] at hbefore
      simp only [bind_apply] at hbefore ⊢
      cases hrest : Expr.evalEach run c before ρ with
      | ok ws π =>
        rw [hrest] at hbefore
        obtain ⟨-, rfl⟩ := Outcome.ok.inj hbefore
        exact bind_of_interrupted _ (ih hrest)
      | returned | failed | exhausted => rw [hrest] at hbefore; cases hbefore
    | returned | failed | exhausted => rw [hy] at hbefore; cases hbefore

theorem evalFrom_interrupted {before : Block} {last v : Value} {t : Statement} (after : Block)
    (hbefore : Statement.evalFrom run c last before σ = .ok v τ)
    (ht : t.eval run c τ = s.outcome υ) :
    Statement.evalFrom run c last (before ++ t :: after) σ = s.outcome υ := by
  rw [Statement.evalFrom_append, bind_of_ok _ hbefore, Statement.evalFrom]
  exact bind_of_interrupted _ ht

mutual

theorem ExprContext.eval_fill : (C : ExprContext) → (c : ScopeId) → (σ : State) →
    C.approach run c σ = some (d, τ) → e.eval run d τ = s.outcome υ →
    (C.fill e).eval run c σ = s.outcome υ
  | .hole, c, σ, h, he => by
    obtain ⟨rfl, rfl⟩ := Prod.mk.inj (Option.some.inj h)
    exact he
  | .element before inner after, c, σ, h, he => by
    obtain ⟨⟨vs, ρ⟩, hbefore, hinner⟩ := Option.bind_eq_some_iff.mp h
    rw [ExprContext.fill, Expr.eval]
    apply bind_of_interrupted
    exact evalEach_interrupted after (Outcome.eq_ok_of_result? hbefore)
      (inner.eval_fill c ρ hinner he)
  | .operand op inner, c, σ, h, he => by
    rw [ExprContext.fill, Expr.eval]
    exact bind_of_interrupted _ (inner.eval_fill c σ h he)
  | .left op inner right, c, σ, h, he => by
    rw [ExprContext.fill, Expr.eval]
    exact bind_of_interrupted _ (inner.eval_fill c σ h he)
  | .right op left inner, c, σ, h, he => by
    obtain ⟨⟨v, ρ⟩, hleft, hinner⟩ := Option.bind_eq_some_iff.mp h
    rw [ExprContext.fill, Expr.eval, bind_of_ok _ (Outcome.eq_ok_of_result? hleft)]
    exact bind_of_interrupted _ (inner.eval_fill c ρ hinner he)
  | .conditionThen inner consequence, c, σ, h, he => by
    rw [ExprContext.fill, Expr.eval]
    exact bind_of_interrupted _ (inner.eval_fill c σ h he)
  | .conditionElse inner consequence alternative, c, σ, h, he => by
    rw [ExprContext.fill, Expr.eval]
    exact bind_of_interrupted _ (inner.eval_fill c σ h he)
  | .branchThen condition inner, c, σ, h, he => by
    obtain ⟨⟨v, ρ⟩, hcondition, h⟩ := Option.bind_eq_some_iff.mp h
    obtain ⟨⟨i, π⟩, hpush, h⟩ := Option.bind_eq_some_iff.mp h
    obtain ⟨hv, hinner⟩ := Option.ite_none_right_eq_some.mp h
    rw [ExprContext.fill, Expr.eval, bind_of_ok _ (Outcome.eq_ok_of_result? hcondition), if_pos hv,
      bind_of_ok _ (Outcome.eq_ok_of_result? hpush)]
    exact inner.eval_fill i π hinner he
  | .consequence condition inner alternative, c, σ, h, he => by
    obtain ⟨⟨v, ρ⟩, hcondition, h⟩ := Option.bind_eq_some_iff.mp h
    obtain ⟨⟨i, π⟩, hpush, h⟩ := Option.bind_eq_some_iff.mp h
    obtain ⟨hv, hinner⟩ := Option.ite_none_right_eq_some.mp h
    rw [ExprContext.fill, Expr.eval, bind_of_ok _ (Outcome.eq_ok_of_result? hcondition),
      bind_of_ok _ (Outcome.eq_ok_of_result? hpush), if_pos hv]
    exact inner.eval_fill i π hinner he
  | .alternative condition consequence inner, c, σ, h, he => by
    obtain ⟨⟨v, ρ⟩, hcondition, h⟩ := Option.bind_eq_some_iff.mp h
    obtain ⟨⟨i, π⟩, hpush, h⟩ := Option.bind_eq_some_iff.mp h
    obtain ⟨hv, hinner⟩ := Option.ite_none_left_eq_some.mp h
    rw [ExprContext.fill, Expr.eval, bind_of_ok _ (Outcome.eq_ok_of_result? hcondition),
      bind_of_ok _ (Outcome.eq_ok_of_result? hpush), if_neg hv]
    exact inner.eval_fill i π hinner he
  | .callee inner arguments, c, σ, h, he => by
    rw [ExprContext.fill, Expr.eval]
    exact bind_of_interrupted _ (inner.eval_fill c σ h he)
  | .argument callee before inner after, c, σ, h, he => by
    obtain ⟨⟨f, ρ⟩, hcallee, h⟩ := Option.bind_eq_some_iff.mp h
    obtain ⟨⟨vs, π⟩, hbefore, hinner⟩ := Option.bind_eq_some_iff.mp h
    rw [ExprContext.fill, Expr.eval, bind_of_ok _ (Outcome.eq_ok_of_result? hcallee)]
    apply bind_of_interrupted
    exact evalEach_interrupted after (Outcome.eq_ok_of_result? hbefore)
      (inner.eval_fill c π hinner he)
  | .collection inner position, c, σ, h, he => by
    rw [ExprContext.fill, Expr.eval]
    exact bind_of_interrupted _ (inner.eval_fill c σ h he)
  | .position collection inner, c, σ, h, he => by
    obtain ⟨⟨a, ρ⟩, hcollection, hinner⟩ := Option.bind_eq_some_iff.mp h
    rw [ExprContext.fill, Expr.eval, bind_of_ok _ (Outcome.eq_ok_of_result? hcollection)]
    exact bind_of_interrupted _ (inner.eval_fill c ρ hinner he)
  | .assigned name inner, c, σ, h, he => by
    rw [ExprContext.fill, Expr.eval]
    exact bind_of_interrupted _ (inner.eval_fill c σ h he)

theorem StatementContext.eval_fill : (C : StatementContext) → (c : ScopeId) → (σ : State) →
    C.approach run c σ = some (d, τ) → e.eval run d τ = s.outcome υ →
    (C.fill e).eval run c σ = s.outcome υ
  | .bound name inner, c, σ, h, he => by
    rw [StatementContext.fill, Statement.eval]
    exact bind_of_interrupted _ (inner.eval_fill c σ h he)
  | .given inner, c, σ, h, he => by
    rw [StatementContext.fill, Statement.eval]
    exact bind_of_interrupted _ (inner.eval_fill c σ h he)
  | .expr inner, c, σ, h, he => by
    rw [StatementContext.fill, Statement.eval]
    exact inner.eval_fill c σ h he

theorem BlockContext.eval_fill : (C : BlockContext) → (c : ScopeId) → (σ : State) →
    C.approach run c σ = some (d, τ) → e.eval run d τ = s.outcome υ →
    Block.eval run c (C.fill e) σ = s.outcome υ
  | .among before inner after, c, σ, h, he => by
    obtain ⟨⟨v, ρ⟩, hbefore, hinner⟩ := Option.bind_eq_some_iff.mp h
    rw [BlockContext.fill]
    exact evalFrom_interrupted after (Outcome.eq_ok_of_result? hbefore)
      (inner.eval_fill c ρ hinner he)

end

end Evaluator

/-! ## Where the way out ends -/

/-- Applying the value to the arguments in `σ` binds all parameters and comes to the body `b`, in the
scope `c` and the state `τ`. -/
def Value.Enters (callee : Value) (arguments : List Value) (σ : State) (b : Block) (c : ScopeId)
    (τ : State) : Prop :=
  ∃ f env parameters, callee.target? = some (f, env, parameters) ∧ f.body = b ∧
    parameters.length ≤ arguments.length ∧ enter env parameters arguments σ = .ok c τ

theorem Value.apply_of_enters {run : BodyRunner} {callee : Value} {arguments : List Value}
    {b : Block} {c : ScopeId} (h : callee.Enters arguments σ b c τ) :
    callee.apply run arguments σ = catchReturn (run b c) τ := by
  obtain ⟨f, env, parameters, htarget, rfl, hlength, henter⟩ := h
  rw [Value.apply_of_target htarget, Closure.apply_eq, bind_of_ok _ henter,
    List.drop_eq_nil_of_le hlength, Closure.finish]

/-- What a call gives when its body is interrupted: the failure, or the returned value. -/
def Interruption.called : Interruption → Eval Value
  | failure e => fail e
  | giving v => settle v

/-! ## Main result -/

/-- **A failure or a return stops everything around it at once.** If the open place of a context is
reached in the scope `d` and the state `τ`, and the expression there fails or returns and leaves the
state `υ`, then the whole does the same and leaves the same state. A program and a call whose body
is such a block fail or have the returned value. -/
theorem interruption_stops_everything (depth : Nat) (e : Expr) (s : Interruption)
    (c d : ScopeId) (σ τ υ : State) (he : e.eval (bodies depth) d τ = s.outcome υ) :
    (∀ C : ExprContext, C.approach (bodies depth) c σ = some (d, τ) →
      (C.fill e).eval (bodies depth) c σ = s.outcome υ) ∧
    (∀ C : StatementContext, C.approach (bodies depth) c σ = some (d, τ) →
      (C.fill e).eval (bodies depth) c σ = s.outcome υ) ∧
    (∀ C : BlockContext, C.approach (bodies depth) c σ = some (d, τ) →
      Block.eval (bodies depth) c (C.fill e) σ = s.outcome υ ∧
      Program.eval (bodies depth) c (C.fill e) σ = s.caught υ ∧
      ∀ callee arguments ρ, callee.Enters arguments ρ (C.fill e) c σ →
        callee.apply (bodies (depth + 1)) arguments ρ = s.caught υ ∧
        ∀ f es b π₁ π₂, Expr.eval (bodies (depth + 1)) b f π₁ = .ok callee π₂ →
          Expr.evalEach (bodies (depth + 1)) b es π₂ = .ok arguments ρ →
            (Expr.call f es).eval (bodies (depth + 1)) b π₁ = s.called υ) := by
  refine ⟨fun C hC => C.eval_fill c σ hC he, fun C hC => C.eval_fill c σ hC he, fun C hC => ?_⟩
  have hblock := C.eval_fill c σ hC he
  refine ⟨hblock, catchReturn_of_interrupted hblock, fun callee arguments ρ henters => ?_⟩
  have happly : callee.apply (bodies (depth + 1)) arguments ρ = s.caught υ := by
    rw [Value.apply_of_enters henters]
    exact catchReturn_of_interrupted hblock
  refine ⟨happly, fun f es b π₁ π₂ hf hes => ?_⟩
  rw [Expr.eval, bind_of_ok _ hf, bind_of_ok _ hes, bind_apply, happly]
  cases s <;> rfl

/-- `let x = 1; x = [2, missing]; x = 3` fails in the element of the array, and `x` stays as it was. -/
theorem missing_element_stops_program : ∃ d τ υ,
    (BlockContext.among [.bind "x" (.int 1)]
      (.expr (.assigned "x" (.element [.int 2] .hole []))) [.expr (.assign "x" (.int 3))]).approach
        (bodies 0) State.initial.1 State.initial.2 = some (d, τ) ∧
    (Expr.ident "missing").eval (bodies 0) d τ =
      (Interruption.failure (.identifierNotFound "missing")).outcome υ ∧
    Program.eval (bodies 0) State.initial.1 [.bind "x" (.int 1),
      .expr (.assign "x" (.array [.int 2, .ident "missing"])), .expr (.assign "x" (.int 3))]
        State.initial.2 = .failed (.identifierNotFound "missing") υ ∧
    (υ.store.lookup State.initial.1 "x").map Value.inspect = some "1" := by
  refine ⟨_, _, _, rfl, rfl, ?_, by decide +kernel⟩
  exact ((interruption_stops_everything 0 (.ident "missing")
    (.failure (.identifierNotFound "missing")) State.initial.1 _ State.initial.2 _ _ rfl).2.2
      (.among [.bind "x" (.int 1)] (.expr (.assigned "x" (.element [.int 2] .hole [])))
        [.expr (.assign "x" (.int 3))]) rfl).2.1

end CurryLang
