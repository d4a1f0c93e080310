import CurryLang.Program.Parser
import CurryLang.Eval.Evaluator

/-!
# Running source texts

A source text runs in a scope of a session if it has no errors. The value of the run is that of the
last statement or the returned one, and a failure becomes a value too.
-/

namespace CurryLang

/-- What running a source text came to. -/
inductive RunResult where
  /-- The source has errors, so nothing was evaluated. -/
  | rejected (errors : List ParseError)
  /-- The evaluation ended with this value; a failure is an `error` value. -/
  | finished (value : Value)
  /-- The evaluation needs more calls inside each other than allowed. -/
  | exhausted

/-- How deep calls may be inside each other, unless a session says otherwise. -/
def callLimit : Nat := 5000

/-- The value that an evaluation shows to the outside: a returned value, one more layer of a
returning one removed, or a failure as a value. -/
def Eval.conclude (x : Eval Value) (σ : State) : Option (Value × State) :=
  match x σ with
  | .ok v τ => some (v.unwrap, τ)
  | .returned v τ => some (v, τ)
  | .failed e τ => some (.error e, τ)
  | .exhausted => none

/-- Runs a program without errors in scope `c`. -/
def Program.run (depth : Nat) (p : Program) (c : ScopeId) (σ : State) : RunResult × State :=
  match (p.eval (bodies depth) c).conclude σ with
  | some (v, τ) => (.finished v, τ)
  | none => (.exhausted, σ)

/-- Runs a source text in scope `c`. -/
def run (depth : Nat) (source file : String) (c : ScopeId) (σ : State) : RunResult × State :=
  match Program.ofSource source file with
  | (p, []) => p.run depth c σ
  | (_, errors) => (.rejected errors, σ)

/-- Runs source texts one after the other in scope `c`, with the result of each. -/
def runAll (depth : Nat) (file : String) (c : ScopeId) : List String → State → List RunResult × State
  | [], σ => ([], σ)
  | source :: rest, σ =>
    let (result, τ) := run depth source file c σ
    let (results, υ) := runAll depth file c rest τ
    (result :: results, υ)

end CurryLang
