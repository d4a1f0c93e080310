import CurryLang.Proofs.Usage
import CurryLang.Session

/-!
# The course of an evaluation

An evaluation changes the store step by step: it makes scopes, and it binds and assigns names where
this is not refused. `Expr.course` and its companions evaluate just as `Expr.eval` and its
companions do and record these edits in order, also those of an evaluation that is given up in the
end.

The recorded evaluations follow the others (`Follows`): they end the same way, and where they end,
replaying the edits leads to the store they leave behind. So the stores in which the first edits
have been replayed are the stores an evaluation goes through.
-/

namespace CurryLang

open Eval

variable {α β : Type}

/-! ## Edits -/

/-- What happens to a store: a new scope inside scope `c`, or an attempt to bind or to assign a name
from there. -/
inductive Edit where
  | push (c : ScopeId)
  | bind (c : ScopeId) (x : String) (v : Value)
  | rebind (c : ScopeId) (x : String) (v : Value)

namespace Store

/-- The store after an edit. A refused one changes nothing. -/
def edit (s : Store) : Edit → Store
  | .push c => (s.push c).2
  | .bind c x v => if s.visible c x then s else s.insert c x v
  | .rebind c x v =>
    match s.holder? c x with
    | some i => s.replace i x v
    | none => s

/-- The store after edits, one after the other. -/
def replay (s : Store) (edits : List Edit) : Store := edits.foldl edit s

theorem replay_append (s : Store) (es fs : List Edit) :
    s.replay (es ++ fs) = (s.replay es).replay fs := List.foldl_append

end Store

/-! ## Recorded evaluations -/

/-- The end of an evaluation, and the edits made on the way. -/
structure Recorded (α : Type) where
  edits : List Edit
  outcome : Outcome α

/-- A computation on the state of a session that records its edits. -/
def Course (α : Type) : Type := State → Recorded α

namespace Course

@[inline] protected def pure (a : α) : Course α := fun σ => ⟨[], .ok a σ⟩

@[inline] protected def bind (x : Course α) (f : α → Course β) : Course β := fun σ =>
  match (x σ).outcome with
  | .ok a τ => ⟨(x σ).edits ++ (f a τ).edits, (f a τ).outcome⟩
  | .returned v τ => ⟨(x σ).edits, .returned v τ⟩
  | .failed e τ => ⟨(x σ).edits, .failed e τ⟩
  | .exhausted => ⟨(x σ).edits, .exhausted⟩

instance : Monad Course where
  pure := Course.pure
  bind := Course.bind

/-- An evaluation without edits. -/
def silent (x : Eval α) : Course α := fun σ => ⟨[], x σ⟩

/-- An evaluation that is one edit. -/
def making (e : Edit) (x : Eval α) : Course α := fun σ => ⟨[e], x σ⟩

def catchReturn (x : Course Value) : Course Value := fun σ =>
  match (x σ).outcome with
  | .returned v τ => ⟨(x σ).edits, .ok v τ⟩
  | other => ⟨(x σ).edits, other⟩

def defineAll (c : ScopeId) : List String → List Value → Course Unit
  | x :: xs, v :: vs => do
    making (.bind c x v) (define c x v)
    defineAll c xs vs
  | _, _ => pure ()

def pushScope (c : ScopeId) : Course ScopeId := making (.push c) (Eval.pushScope c)

end Course

/-! ## The recorded evaluator -/

open Course (silent making)

/-- A recorded way to run the body of a function in a scope. -/
abbrev BodyCourse := Block → ScopeId → Course Value

def Closure.course (run : BodyCourse) (f : Closure) (env : ScopeId) (parameters : List String)
    (arguments : List Value) : Course Value := do
  silent (note (.applying parameters.length arguments.length))
  let scope ← Course.pushScope env
  Course.defineAll scope parameters arguments
  match parameters.drop arguments.length with
  | [] => (run f.body scope).catchReturn
  | remaining =>
    silent (note (.currying remaining.length))
    silent (newCurried f scope remaining)

def Value.course (run : BodyCourse) (callee : Value) (arguments : List Value) : Course Value :=
  match callee with
  | .function f => f.course run f.env f.parameters arguments
  | .curried f => f.function.course run f.env f.remaining arguments
  | .builtin b => do
    silent (note (.calling b arguments.length))
    silent (b.call arguments)
  | v => silent (fail (.notAFunction v.inspect v.type))

mutual

/-- Evaluates an expression in scope `c`. -/
def Expr.course (run : BodyCourse) (c : ScopeId) : Expr → Course Value
  | .ident x => silent (resolve c x)
  | .int n => pure (.int n)
  | .str text => silent (newString text)
  | .bool b => pure (.bool b)
  | .nil => pure .nil
  | .array elements => do
    let values ← Expr.courseEach run c elements
    silent (newArray values)
  | .unary op operand => do
    let v ← operand.course run c
    silent (op.apply v)
  | .binary op left right => do
    let l ← left.course run c
    let r ← right.course run c
    silent (op.apply l r)
  | .ifThen condition consequence => do
    let v ← condition.course run c
    if v.isTruthy then
      let inner ← Course.pushScope c
      Statement.courseFrom run inner .nil consequence
    else pure .nil
  | .ifElse condition consequence alternative => do
    let v ← condition.course run c
    let inner ← Course.pushScope c
    if v.isTruthy then Statement.courseFrom run inner .nil consequence
    else Statement.courseFrom run inner .nil alternative
  | .function parameters body => silent (newFunction parameters body c)
  | .call callee arguments => do
    let f ← callee.course run c
    let values ← Expr.courseEach run c arguments
    let v ← f.course run values
    silent (settle v)
  | .index collection position => do
    let a ← collection.course run c
    let i ← position.course run c
    let v ← silent (a.index i)
    silent (settle v)
  | .assign x value => do
    let v ← value.course run c
    making (.rebind c x v) (assign c x v)
    return v

def Expr.courseEach (run : BodyCourse) (c : ScopeId) : List Expr → Course (List Value)
  | [] => pure []
  | e :: es => do
    let v ← e.course run c
    let vs ← Expr.courseEach run c es
    return v :: vs

def Statement.course (run : BodyCourse) (c : ScopeId) : Statement → Course Value
  | .bind x value => do
    let v ← value.course run c
    making (.bind c x v) (define c x v)
    return v
  | .ret value => do
    let v ← value.course run c
    silent (give v)
  | .expr value => value.course run c

def Statement.courseFrom (run : BodyCourse) (c : ScopeId) (last : Value) :
    List Statement → Course Value
  | [] => pure last
  | s :: rest => do
    let v ← s.course run c
    Statement.courseFrom run c v rest

end

/-- Runs bodies of functions while at most `depth` calls are inside each other. -/
def bodyCourses : Nat → BodyCourse
  | 0 => fun _ _ => silent exhaust
  | depth + 1 => fun b c => Statement.courseFrom (bodyCourses depth) c .nil b

/-- Evaluates a program in scope `c`; a statement that returns ends it. -/
def Program.course (depth : Nat) (c : ScopeId) (p : Program) : Course Value :=
  (Statement.courseFrom (bodyCourses depth) c .nil p).catchReturn

/-! ## Recorded evaluations follow the others -/

/-- The recorded evaluation ends as the other does, and its edits lead to the store left behind. -/
def Follows (y : Course α) (x : Eval α) : Prop :=
  ∀ σ, (y σ).outcome = x σ ∧ ∀ τ, (x σ).state? = some τ → τ.store = σ.store.replay (y σ).edits

/-- States with the store `s`. -/
def standingStill (s : Store) : Ledger where
  World := { σ : State // σ.store = s }
  state σ := σ.1
  leads _ _ _ := True
  leads_refl := trivial
  leads_trans _ _ := trivial
  leads_of_none _ := trivial

theorem standingStill_reaches {s : Store} {w : (standingStill s).World} {τ : State}
    {Q : (standingStill s).World → Prop} (h : τ.store = w.1.store) (hQ : ∀ w', Q w') :
    (standingStill s).Reaches none w τ Q :=
  ⟨⟨τ, h.trans w.2⟩, rfl, trivial, hQ _⟩

/-- Nothing happens to the store `s`. -/
def standstill (s : Store) : Usage where
  toLedger := standingStill s
  toFragment := .full
  good _ _ := True
  good_mono _ _ := trivial
  good_int := trivial
  good_bool := trivial
  good_nil := trivial
  good_builtin := trivial
  good_text _ := trivial
  element _ _ := trivial
  returning _ := trivial
  report _ := standingStill_reaches rfl fun _ => trivial
  emit _ _ := standingStill_reaches rfl fun _ => trivial
  new_str _ := standingStill_reaches rfl fun _ => trivial
  new_array _ := standingStill_reaches rfl fun _ => trivial

namespace Follows

open Usage

variable {c : ScopeId}

/-- An evaluation that respects every usage has no edits. -/
theorem silent {x : Eval α}
    (h : ∀ s w, (standstill s).Keeps none w x (fun _ _ => True) fun _ _ => True) :
    Follows (silent x) x := by
  intro σ
  refine ⟨rfl, fun τ hτ => ?_⟩
  obtain ⟨⟨_, hstore⟩, rfl, -⟩ := Ends.of_state? (h σ.store ⟨σ, rfl⟩) hτ
  exact hstore

theorem new (make : ObjectId → Value) :
    Follows (Course.silent (newObject >>= fun id => Pure.pure (make id)))
      (newObject >>= fun id => Pure.pure (make id)) :=
  silent fun _ _ => keeps_new (standingStill_reaches rfl fun _ => trivial)

theorem pure (a : α) : Follows (pure a) (pure a) :=
  fun _ => ⟨rfl, fun _ hτ => by rw [← Option.some.inj hτ]; rfl⟩

theorem bind {y : Course α} {x : Eval α} {g : α → Course β} {f : α → Eval β} (hx : Follows y x)
    (hf : ∀ a, Follows (g a) (f a)) : Follows (y >>= g) (x >>= f) := by
  intro σ
  obtain ⟨hy, hedits⟩ := hx σ
  show (Course.bind y g σ).outcome = Eval.bind x f σ ∧
    ∀ τ, (Eval.bind x f σ).state? = some τ → τ.store = σ.store.replay (Course.bind y g σ).edits
  unfold Course.bind Eval.bind
  rw [hy]
  cases hr : x σ with
  | ok a τ =>
    obtain ⟨hg, hgedits⟩ := hf a τ
    refine ⟨hg, fun υ hυ => ?_⟩
    rw [Store.replay_append, ← hedits τ (by rw [hr]; rfl)]
    exact hgedits υ hυ
  | returned v τ => exact ⟨rfl, fun υ hυ => hedits υ (by rw [hr]; exact hυ)⟩
  | failed e τ => exact ⟨rfl, fun υ hυ => hedits υ (by rw [hr]; exact hυ)⟩
  | exhausted => exact ⟨rfl, fun _ => nofun⟩

theorem catchReturn {y : Course Value} {x : Eval Value} (h : Follows y x) :
    Follows y.catchReturn (catchReturn x) := by
  intro σ
  obtain ⟨hy, hedits⟩ := h σ
  unfold Course.catchReturn Eval.catchReturn
  rw [hy]
  cases hr : x σ with
  | ok v υ => exact ⟨rfl, fun τ hτ => hedits τ (by rw [hr]; exact hτ)⟩
  | returned v υ => exact ⟨rfl, fun τ hτ => hedits τ (by rw [hr]; exact hτ)⟩
  | failed e υ => exact ⟨rfl, fun τ hτ => hedits τ (by rw [hr]; exact hτ)⟩
  | exhausted => exact ⟨rfl, fun _ => nofun⟩

theorem pushScope : Follows (Course.pushScope c) (pushScope c) :=
  fun _ => ⟨rfl, fun _ hτ => by rw [← Option.some.inj hτ]; rfl⟩

theorem define (x : String) (v : Value) :
    Follows (making (.bind c x v) (define c x v)) (define c x v) := by
  intro σ
  refine ⟨rfl, fun τ hτ => ?_⟩
  show τ.store = if σ.store.visible c x then σ.store else σ.store.insert c x v
  unfold Eval.define at hτ
  split at hτ
  · next h =>
    rw [if_pos h, ← Option.some.inj hτ]
    rfl
  · next h => rw [if_neg h, ← Option.some.inj hτ]

theorem assign (x : String) (v : Value) :
    Follows (making (.rebind c x v) (assign c x v)) (assign c x v) := by
  intro σ
  refine ⟨rfl, fun τ hτ => ?_⟩
  show τ.store = σ.store.edit (.rebind c x v)
  unfold Eval.assign at hτ
  cases hi : σ.store.holder? c x with
  | some i =>
    rw [hi] at hτ
    rw [Store.edit, hi, ← Option.some.inj hτ]
  | none =>
    rw [hi] at hτ
    rw [Store.edit, hi, ← Option.some.inj hτ]
    rfl

theorem defineAll (xs : List String) (vs : List Value) :
    Follows (Course.defineAll c xs vs) (defineAll c xs vs) := by
  induction xs, vs using defineAll.induct with
  | case1 x xs v vs ih =>
    rw [Course.defineAll, Eval.defineAll]
    exact (define x v).bind fun _ => ih
  | case2 xs vs h =>
    rw [Course.defineAll, Eval.defineAll]
    · exact pure ()
    · exact h
    · exact h

theorem note (e : Event) : Follows (Course.silent (note e)) (note e) :=
  silent fun _ _ => keeps_note e

theorem settle (v : Value) : Follows (Course.silent (settle v)) (settle v) :=
  silent fun _ _ => keeps_settle trivial

theorem closure {runs : BodyCourse} {run : BodyRunner} (hrun : ∀ b c, Follows (runs b c) (run b c))
    (f : Closure) (env : ScopeId) (parameters : List String) (vs : List Value) :
    Follows (f.course runs env parameters vs) (f.apply run env parameters vs) := by
  unfold Closure.course Closure.apply
  apply (note _).bind
  intro _
  apply pushScope.bind
  intro i
  apply (defineAll parameters vs).bind
  intro _
  cases parameters.drop vs.length with
  | nil => exact (hrun f.body i).catchReturn
  | cons x remaining =>
    apply (note _).bind
    intro _
    exact new _

theorem apply {runs : BodyCourse} {run : BodyRunner} (hrun : ∀ b c, Follows (runs b c) (run b c))
    (f : Value) (vs : List Value) : Follows (f.course runs vs) (f.apply run vs) := by
  cases f with
  | function f => exact closure hrun _ _ _ _
  | curried f => exact closure hrun _ _ _ _
  | builtin b =>
    apply (note _).bind
    intro _
    exact silent fun _ _ => keeps_builtin trivial _ fun _ _ => trivial
  | _ => exact silent fun _ _ => keeps_fail _

section Evaluator

variable {runs : BodyCourse} {run : BodyRunner}

mutual

theorem expr (hrun : ∀ b c, Follows (runs b c) (run b c)) :
    (e : Expr) → (c : ScopeId) → Follows (e.course runs c) (e.eval run c)
  | .ident x, c => silent fun _ _ => keeps_resolve fun _ _ => trivial
  | .int n, c => pure _
  | .str text, c => new _
  | .bool b, c => pure _
  | .nil, c => pure _
  | .array es, c => by
    rw [Expr.course, Expr.eval]
    apply (each hrun es c).bind
    intro vs
    exact new _
  | .unary op e, c => by
    rw [Expr.course, Expr.eval]
    apply (expr hrun e c).bind
    intro v
    exact silent fun _ _ => keeps_unary op v
  | .binary op l r, c => by
    rw [Expr.course, Expr.eval]
    apply (expr hrun l c).bind
    intro v
    apply (expr hrun r c).bind
    intro w
    exact silent fun _ _ => keeps_binary op trivial trivial
  | .ifThen e yes, c => by
    rw [Expr.course, Expr.eval]
    apply (expr hrun e c).bind
    intro v
    split
    · exact pushScope.bind fun i => statements hrun yes i .nil
    · exact pure _
  | .ifElse e yes no, c => by
    rw [Expr.course, Expr.eval]
    apply (expr hrun e c).bind
    intro v
    apply pushScope.bind
    intro i
    split
    · exact statements hrun yes i .nil
    · exact statements hrun no i .nil
  | .function parameters body, c => new _
  | .call e es, c => by
    rw [Expr.course, Expr.eval]
    apply (expr hrun e c).bind
    intro f
    apply (each hrun es c).bind
    intro vs
    exact (apply hrun f vs).bind fun v => settle v
  | .index e i, c => by
    rw [Expr.course, Expr.eval]
    apply (expr hrun e c).bind
    intro a
    apply (expr hrun i c).bind
    intro n
    refine Follows.bind ?_ fun v => settle v
    exact silent fun _ _ => keeps_index n trivial
  | .assign x e, c => by
    rw [Expr.course, Expr.eval]
    apply (expr hrun e c).bind
    intro v
    exact (assign x v).bind fun _ => pure v

theorem each (hrun : ∀ b c, Follows (runs b c) (run b c)) :
    (es : List Expr) → (c : ScopeId) →
    Follows (Expr.courseEach runs c es) (Expr.evalEach run c es)
  | [], c => pure _
  | e :: es, c => by
    rw [Expr.courseEach, Expr.evalEach]
    exact (expr hrun e c).bind fun v => (each hrun es c).bind fun vs => pure _

theorem statement (hrun : ∀ b c, Follows (runs b c) (run b c)) :
    (s : Statement) → (c : ScopeId) → Follows (s.course runs c) (s.eval run c)
  | .bind x e, c => by
    rw [Statement.course, Statement.eval]
    apply (expr hrun e c).bind
    intro v
    exact (define x v).bind fun _ => pure v
  | .ret e, c => by
    rw [Statement.course, Statement.eval]
    apply (expr hrun e c).bind
    intro v
    exact silent fun _ _ => keeps_give trivial
  | .expr e, c => expr hrun e c

theorem statements (hrun : ∀ b c, Follows (runs b c) (run b c)) :
    (ss : List Statement) → (c : ScopeId) → (last : Value) →
    Follows (Statement.courseFrom runs c last ss) (Statement.evalFrom run c last ss)
  | [], c, last => pure last
  | s :: ss, c, last => by
    rw [Statement.courseFrom, Statement.evalFrom]
    exact (statement hrun s c).bind fun v => statements hrun ss c v

end

end Evaluator

theorem bodies (depth : Nat) (b : Block) (c : ScopeId) :
    Follows (bodyCourses depth b c) (bodies depth b c) := by
  induction depth generalizing b c with
  | zero => exact fun _ => ⟨rfl, fun _ => nofun⟩
  | succ depth ih => exact statements ih b c .nil

/-- **The course of a program ends as the program does and leads to the store it leaves behind.** -/
theorem program (depth : Nat) (c : ScopeId) (p : Program) :
    Follows (p.course depth c) (p.eval (CurryLang.bodies depth) c) :=
  (statements (bodies depth) p c .nil).catchReturn

end Follows

end CurryLang
