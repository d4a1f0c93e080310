import CurryLang.Store
import CurryLang.Value.Inspect

/-!
# Evaluations

An evaluation changes the state of a session and ends in one of four ways: with a result, with a
value that is being returned from a function, with a failure, or not at all within the allowed
depth of calls. After the second and the third nothing more is evaluated up to the call or program
around. In every case but the last the changes made so far stay.
-/

namespace CurryLang

/-- What a session can report about its work, besides what programs print. -/
inductive Event where
  | applying (parameters arguments : Nat)
  | currying (remaining : Nat)
  | calling (function : Builtin) (arguments : Nat)
  | refusedBinding (name : String)
  | refusedAssignment (name : String)
  deriving DecidableEq, Repr

/-- The state of a session: its scopes, the number for the next object, the lines printed and the
events reported, both with the latest first. -/
structure State where
  store : Store
  nextObject : ObjectId
  printed : List String
  events : List Event

namespace State

def empty : State := ⟨.empty, 0, [], []⟩

/-- A state with one scope that holds no name, and the number of that scope. -/
def initial : ScopeId × State :=
  let (c, store) := Store.empty.pushRoot
  (c, { empty with store })

def note (σ : State) (e : Event) : State := { σ with events := e :: σ.events }

/-- The state with nothing printed and no event reported. -/
def flush (σ : State) : State := { σ with printed := [], events := [] }

/-- What was printed, each line with its end. -/
def output (σ : State) : String := String.join (σ.printed.reverse.map (· ++ "\n"))

end State

/-- How an evaluation ends. -/
inductive Outcome (α : Type) where
  /-- With a result. -/
  | ok (result : α) (state : State)
  /-- With a value on its way out of the function that returns it. -/
  | returned (value : Value) (state : State)
  /-- With a failure. -/
  | failed (cause : RuntimeError) (state : State)
  /-- Not within the allowed depth of calls. -/
  | exhausted

/-- A computation on the state of a session. -/
def Eval (α : Type) : Type := State → Outcome α

namespace Eval

variable {α β : Type}

/-- The evaluation that gives `a` and changes nothing. -/
@[inline] protected def pure (a : α) : Eval α := fun σ => .ok a σ

/-- One evaluation after another; the second starts only if the first has a result. -/
@[inline] protected def bind (x : Eval α) (f : α → Eval β) : Eval β := fun σ =>
  match x σ with
  | .ok a τ => f a τ
  | .returned v τ => .returned v τ
  | .failed e τ => .failed e τ
  | .exhausted => .exhausted

instance : Monad Eval where
  pure := Eval.pure
  bind := Eval.bind

theorem bind_apply (x : Eval α) (f : α → Eval β) (σ : State) :
    (x >>= f) σ = match x σ with
      | .ok a τ => f a τ
      | .returned v τ => .returned v τ
      | .failed e τ => .failed e τ
      | .exhausted => .exhausted := rfl

/-! ## Ways to end -/

def fail (e : RuntimeError) : Eval α := fun σ => .failed e σ

/-- Returns a value from the function around. -/
def give (v : Value) : Eval α := fun σ => .returned v σ

/-- Gives up. -/
def exhaust : Eval α := fun _ => .exhausted

/-- A value as the result of an expression: a returning value returns. -/
def settle : Value → Eval Value
  | .returning v => give v
  | v => pure v

/-- The value of an evaluation that has a result or returns. -/
def catchReturn (x : Eval Value) : Eval Value := fun σ =>
  match x σ with
  | .returned v τ => .ok v τ
  | other => other

/-! ## Objects and reports -/

/-- A number for a new object. -/
def newObject : Eval ObjectId := fun σ =>
  .ok σ.nextObject { σ with nextObject := σ.nextObject + 1 }

def newString (text : String) : Eval Value := do
  return .str (← newObject) text

def newArray (elements : List Value) : Eval Value := do
  return .array (← newObject) elements

/-- A new function, written in scope `c`. -/
def newFunction (parameters : List String) (body : Block) (c : ScopeId) : Eval Value := do
  return .function ⟨← newObject, parameters, body, c⟩

def newCurried (f : Closure) (env : ScopeId) (remaining : List String) : Eval Value := do
  return .curried ⟨← newObject, f, env, remaining⟩

def note (e : Event) : Eval Unit := fun σ => .ok () (σ.note e)

def print (line : String) : Eval Unit := fun σ =>
  .ok () { σ with printed := line :: σ.printed }

/-! ## Scopes -/

/-- A new scope inside scope `c`. -/
def pushScope (c : ScopeId) : Eval ScopeId := fun σ =>
  .ok σ.store.scopes.size { σ with store := (σ.store.push c).2 }

/-- The value of a name, if it is visible from scope `c`. -/
def lookup (c : ScopeId) (x : String) : Eval (Option Value) := fun σ =>
  .ok (σ.store.lookup c x) σ

/-- Binds a name in scope `c`. A name that is visible there already is refused. -/
def define (c : ScopeId) (x : String) (v : Value) : Eval Unit := fun σ =>
  if σ.store.visible c x then .failed (.alreadyBound x) (σ.note (.refusedBinding x))
  else .ok () { σ with store := σ.store.insert c x v }

/-- Assigns a name in the nearest scope that holds it. A name that is not visible is refused. -/
def assign (c : ScopeId) (x : String) (v : Value) : Eval Unit := fun σ =>
  match σ.store.holder? c x with
  | some i => .ok () { σ with store := σ.store.replace i x v }
  | none => .failed (.notBound x v.inspect) (σ.note (.refusedAssignment x))

end Eval

end CurryLang
