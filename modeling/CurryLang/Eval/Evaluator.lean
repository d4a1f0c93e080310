import CurryLang.Eval.Operators
import CurryLang.Eval.Builtins

/-!
# The evaluator

Operands are evaluated from left to right. A function applied to fewer arguments than it has
parameters becomes a partial application that waits for the others; arguments beyond the last
parameter are ignored.

The evaluator follows the structure of programs. Only the body of a called function is no part of
the calling expression, so how bodies run is a parameter of it: `bodies depth` runs them while at
most `depth` calls are inside each other.
-/

namespace CurryLang

open Eval

/-- A way to run the body of a function in a scope. -/
abbrev BodyRunner := Block → ScopeId → Eval Value

/-! ## Names and calls -/

/-- The value of a name: that of the nearest scope holding it, or else the built-in function. -/
def Eval.resolve (c : ScopeId) (x : String) : Eval Value := do
  match ← lookup c x with
  | some v => settle v
  | none =>
    match Builtin.ofName? x with
    | some b => pure (.builtin b)
    | none => fail (.identifierNotFound x)

/-- Binds parameters to arguments, in order, as long as there are both. -/
def Eval.defineAll (c : ScopeId) : List String → List Value → Eval Unit
  | x :: xs, v :: vs => do
    define c x v
    defineAll c xs vs
  | _, _ => pure ()

/-- Applies a function that waits for `parameters` inside the scope `env`. -/
def Closure.apply (run : BodyRunner) (f : Closure) (env : ScopeId) (parameters : List String)
    (arguments : List Value) : Eval Value := do
  note (.applying parameters.length arguments.length)
  let scope ← pushScope env
  defineAll scope parameters arguments
  match parameters.drop arguments.length with
  | [] => catchReturn (run f.body scope)
  | remaining =>
    note (.currying remaining.length)
    newCurried f scope remaining

/-- Applies a value to arguments. -/
def Value.apply (run : BodyRunner) (callee : Value) (arguments : List Value) : Eval Value :=
  match callee with
  | .function f => f.apply run f.env f.parameters arguments
  | .curried f => f.function.apply run f.env f.remaining arguments
  | .builtin b => do
    note (.calling b arguments.length)
    b.call arguments
  | v => fail (.notAFunction v.inspect v.type)

/-! ## Expressions and statements -/

mutual

/-- Evaluates an expression in scope `c`. -/
def Expr.eval (run : BodyRunner) (c : ScopeId) : Expr → Eval Value
  | .ident x => resolve c x
  | .int n => pure (.int n)
  | .str text => newString text
  | .bool b => pure (.bool b)
  | .nil => pure .nil
  | .array elements => do
    let values ← Expr.evalEach run c elements
    newArray values
  | .unary op operand => do
    let v ← operand.eval run c
    op.apply v
  | .binary op left right => do
    let l ← left.eval run c
    let r ← right.eval run c
    op.apply l r
  | .ifThen condition consequence => do
    let v ← condition.eval run c
    if v.isTruthy then
      let inner ← pushScope c
      Statement.evalFrom run inner .nil consequence
    else pure .nil
  | .ifElse condition consequence alternative => do
    let v ← condition.eval run c
    let inner ← pushScope c
    if v.isTruthy then Statement.evalFrom run inner .nil consequence
    else Statement.evalFrom run inner .nil alternative
  | .function parameters body => newFunction parameters body c
  | .call callee arguments => do
    let f ← callee.eval run c
    let values ← Expr.evalEach run c arguments
    let v ← f.apply run values
    settle v
  | .index collection position => do
    let a ← collection.eval run c
    let i ← position.eval run c
    let v ← a.index i
    settle v
  | .assign x value => do
    let v ← value.eval run c
    assign c x v
    return v

def Expr.evalEach (run : BodyRunner) (c : ScopeId) : List Expr → Eval (List Value)
  | [] => pure []
  | e :: es => do
    let v ← e.eval run c
    let vs ← Expr.evalEach run c es
    return v :: vs

def Statement.eval (run : BodyRunner) (c : ScopeId) : Statement → Eval Value
  | .bind x value => do
    let v ← value.eval run c
    define c x v
    return v
  | .ret value => do
    let v ← value.eval run c
    give v
  | .expr value => value.eval run c

/-- Evaluates statements one after the other. The result is that of the last one, or `last` if
there is none. -/
def Statement.evalFrom (run : BodyRunner) (c : ScopeId) (last : Value) : List Statement → Eval Value
  | [] => pure last
  | s :: rest => do
    let v ← s.eval run c
    Statement.evalFrom run c v rest

end

/-- Evaluates a block in scope `c`; an empty one is `nil`. -/
def Block.eval (run : BodyRunner) (c : ScopeId) (b : Block) : Eval Value :=
  Statement.evalFrom run c .nil b

/-- Evaluates a program in scope `c`; a statement that returns ends it. -/
def Program.eval (run : BodyRunner) (c : ScopeId) (p : Program) : Eval Value :=
  catchReturn (Block.eval run c p)

/-- Runs bodies of functions while at most `depth` calls are inside each other. -/
def bodies : Nat → BodyRunner
  | 0 => fun _ _ => exhaust
  | depth + 1 => fun b c => b.eval (bodies depth) c

end CurryLang
