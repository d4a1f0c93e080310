import CurryLang.Proofs.Application
import CurryLang.Proofs.Discipline
import CurryLang.Proofs.Subterms
import Mathlib.Data.List.Forall2

/-!
# Two sessions side by side

Evaluations in two sessions run in step when their states correspond: scopes and objects may have
other numbers there, and scopes may be laid out differently, as long as every name that programs use
leads to values that correspond.

1. A `Pairing` says which scopes and which objects stand for each other, and which names programs
   may use. `Value.Like` extends it to values: the same data, and functions with the same code.
2. A `Correspondence` adds which states correspond, and that the few actions on states respect this.
3. `Agree` relates two evaluations and goes through the monad (`Agree.bind`). Operators, indexing and
   built-in functions agree on corresponding values.
4. So do calls, expressions and statements, by induction on them, and bodies, by induction on the
   depth: every evaluation respects every correspondence (`runs_bodies`).
-/

namespace CurryLang

open Eval

/-! ## Values that correspond -/

/-- What stands for what in two sessions, and the names that programs may use in both. -/
structure Pairing where
  scope : ScopeId → ScopeId → Prop
  object : ObjectId → ObjectId → Prop
  legal : String → Prop

/-- Functions with the same code, written in corresponding scopes. -/
structure Closure.Like (P : Pairing) (f g : Closure) : Prop where
  id : P.object f.id g.id
  parameters : f.parameters = g.parameters
  body : f.body = g.body
  env : P.scope f.env g.env
  legal : ∀ x ∈ f.parameters, P.legal x
  names : Statement.NamesAll P.legal f.body

/-- Partial applications with the same code that wait for the same parameters. Nothing else of the
function that was applied matters any more. -/
structure Curried.Like (P : Pairing) (f g : Curried) : Prop where
  id : P.object f.id g.id
  remaining : f.remaining = g.remaining
  body : f.function.body = g.function.body
  env : P.scope f.env g.env
  legal : ∀ x ∈ f.remaining, P.legal x
  names : Statement.NamesAll P.legal f.function.body

/-- Values with the same data, whose objects and functions correspond. -/
inductive Value.Like (P : Pairing) : Value → Value → Prop where
  | int (n : Int64) : Like P (.int n) (.int n)
  | str {i j : ObjectId} (h : P.object i j) (text : String) : Like P (.str i text) (.str j text)
  | bool (b : Bool) : Like P (.bool b) (.bool b)
  | nil : Like P .nil .nil
  | array {i j : ObjectId} {vs ws : List Value} (h : P.object i j) (hlength : vs.length = ws.length)
    (hzip : ∀ v w, (v, w) ∈ vs.zip ws → Like P v w) : Like P (.array i vs) (.array j ws)
  | function {f g : Closure} (h : f.Like P g) : Like P (.function f) (.function g)
  | curried {f g : Curried} (h : f.Like P g) : Like P (.curried f) (.curried g)
  | builtin (b : Builtin) : Like P (.builtin b) (.builtin b)
  | returning {v w : Value} (h : Like P v w) : Like P (.returning v) (.returning w)
  | error (e : RuntimeError) : Like P (.error e) (.error e)

/-- Lists of values that correspond one by one. -/
abbrev Likes (P : Pairing) : List Value → List Value → Prop := List.Forall₂ (Value.Like P)

namespace Value.Like

variable {P : Pairing} {v w : Value}

theorem of_likes {i j : ObjectId} {vs ws : List Value} (h : P.object i j) (hs : Likes P vs ws) :
    (Value.array i vs).Like P (.array j ws) :=
  have hzip := List.forall₂_iff_zip.mp hs
  .array h hzip.1 fun _ _ => hzip.2

theorem elements {i j : ObjectId} {vs ws : List Value}
    (h : (Value.array i vs).Like P (.array j ws)) : Likes P vs ws := by
  cases h with
  | array _ hlength hzip => exact List.forall₂_iff_zip.mpr ⟨hlength, fun h => hzip _ _ h⟩

theorem type_eq (h : v.Like P w) : v.type = w.type := by
  cases h <;> rfl

theorem isTruthy_eq (h : v.Like P w) : v.isTruthy = w.isTruthy := by
  cases h <;> rfl

theorem inspectEach_eq {vs ws : List Value} (hlength : vs.length = ws.length)
    (h : ∀ v w, (v, w) ∈ vs.zip ws → v.inspect = w.inspect) :
    inspectEach vs = inspectEach ws := by
  induction vs generalizing ws with
  | nil =>
    cases ws with
    | nil => rfl
    | cons w ws => cases hlength
  | cons v vs ih =>
    cases ws with
    | nil => cases hlength
    | cons w ws =>
      have hrest := ih (Nat.succ.inj hlength) fun a b hab => h a b (List.mem_cons_of_mem _ hab)
      exact congrArg₂ List.cons (h v w List.mem_cons_self) hrest

theorem inspect_eq (h : v.Like P w) : v.inspect = w.inspect := by
  induction h with
  | int | str | bool | nil | builtin | error => rfl
  | array _ hlength _ ih => exact congrArg Text.bracketed (inspectEach_eq hlength ih)
  | @function f g h =>
    show f.inspect = g.inspect
    rw [Closure.inspect, Closure.inspect, h.parameters, h.body]
  | @curried f g h =>
    show f.inspect = g.inspect
    rw [Curried.inspect, Curried.inspect, h.remaining, h.body]
  | returning _ ih => exact ih

end Value.Like

/-! ## States that correspond -/

/-- Which states correspond, and why the actions on states respect this. -/
structure Correspondence extends Pairing where
  state : State → State → Prop
  object_iff : ∀ {i j k l}, object i j → object k l → (i = k ↔ j = l)
  note : ∀ {σ τ} (e : Event), state σ τ → state (σ.note e) (τ.note e)
  print : ∀ {σ τ} (line : String), state σ τ →
    state { σ with printed := line :: σ.printed } { τ with printed := line :: τ.printed }
  allot : ∀ {σ τ}, state σ τ → state σ.allot τ.allot ∧ object σ.nextObject τ.nextObject
  nest : ∀ {σ τ c d}, state σ τ → scope c d →
    state (σ.nest c) (τ.nest d) ∧ scope σ.store.scopes.size τ.store.scopes.size
  lookup : ∀ {σ τ c d x}, state σ τ → scope c d → legal x →
    Option.Rel (Value.Like toPairing) (σ.store.lookup c x) (τ.store.lookup d x)
  define : ∀ {σ τ c d x v w}, state σ τ → scope c d → legal x → v.Like toPairing w →
    σ.store.visible c x = false → τ.store.visible d x = false →
      state { σ with store := σ.store.insert c x v } { τ with store := τ.store.insert d x w }
  assign : ∀ {σ τ c d x v w i j}, state σ τ → scope c d → legal x → v.Like toPairing w →
    σ.store.holder? c x = some i → τ.store.holder? d x = some j →
      state { σ with store := σ.store.replace i x v } { τ with store := τ.store.replace j x w }

variable {α β γ δ : Type}

namespace Correspondence

variable {C : Correspondence}

/-- Two evaluations end in corresponding ways, with results related by `Q`. -/
inductive Ends (C : Correspondence) (Q : α → β → Prop) : Outcome α → Outcome β → Prop where
  | ok {a : α} {b : β} {σ τ : State} (hab : Q a b) (hστ : C.state σ τ) :
    Ends C Q (.ok a σ) (.ok b τ)
  | returned {v w : Value} {σ τ : State} (hvw : v.Like C.toPairing w) (hστ : C.state σ τ) :
    Ends C Q (.returned v σ) (.returned w τ)
  | failed (e : RuntimeError) {σ τ : State} (hστ : C.state σ τ) :
    Ends C Q (.failed e σ) (.failed e τ)
  | exhausted : Ends C Q .exhausted .exhausted

/-- From corresponding states, the evaluations end in corresponding ways. -/
def Agree (C : Correspondence) (Q : α → β → Prop) (x : Eval α) (y : Eval β) : Prop :=
  ∀ σ τ, C.state σ τ → C.Ends Q (x σ) (y τ)

/-! ## Through the monad -/

variable {Q : α → β → Prop} {R : γ → δ → Prop}

theorem agree_pure {a : α} {b : β} (h : Q a b) : C.Agree Q (pure a) (pure b) :=
  fun _ _ hστ => .ok h hστ

theorem agree_fail (e : RuntimeError) : C.Agree Q (fail e) (fail e) := fun _ _ hστ => .failed e hστ

theorem agree_give {v w : Value} (h : v.Like C.toPairing w) : C.Agree Q (give v) (give w) :=
  fun _ _ hστ => .returned h hστ

theorem Agree.bind {x : Eval α} {y : Eval β} {f : α → Eval γ} {g : β → Eval δ}
    (hx : C.Agree Q x y) (hf : ∀ a b, Q a b → C.Agree R (f a) (g b)) :
    C.Agree R (x >>= f) (y >>= g) := by
  intro σ τ hστ
  have h := hx σ τ hστ
  rw [bind_apply, bind_apply]
  generalize x σ = r, y τ = s at h
  cases h with
  | ok hab h => exact hf _ _ hab _ _ h
  | returned hvw h => exact .returned hvw h
  | failed e h => exact .failed e h
  | exhausted => exact .exhausted

theorem Agree.catchReturn {x y : Eval Value} (h : C.Agree (Value.Like C.toPairing) x y) :
    C.Agree (Value.Like C.toPairing) (catchReturn x) (catchReturn y) := by
  intro σ τ hστ
  have h := h σ τ hστ
  unfold Eval.catchReturn
  generalize x σ = r, y τ = s at h
  cases h with
  | ok hab h => exact .ok hab h
  | returned hvw h => exact .ok hvw h
  | failed e h => exact .failed e h
  | exhausted => exact .exhausted

theorem agree_settle {v w : Value} (h : v.Like C.toPairing w) :
    C.Agree (Value.Like C.toPairing) (settle v) (settle w) := by
  cases h with
  | returning h => exact agree_give h
  | int n => exact agree_pure (.int n)
  | str h text => exact agree_pure (.str h text)
  | bool b => exact agree_pure (.bool b)
  | nil => exact agree_pure .nil
  | array h hlength hzip => exact agree_pure (.array h hlength hzip)
  | function h => exact agree_pure (.function h)
  | curried h => exact agree_pure (.curried h)
  | builtin b => exact agree_pure (.builtin b)
  | error e => exact agree_pure (.error e)

/-! ## Actions on states -/

theorem agree_note (e : Event) : C.Agree (fun _ _ => True) (Eval.note e) (Eval.note e) :=
  fun _ _ hστ => .ok trivial (C.note e hστ)

theorem agree_print (line : String) :
    C.Agree (fun _ _ => True) (Eval.print line) (Eval.print line) :=
  fun _ _ hστ => .ok trivial (C.print line hστ)

theorem agree_newObject : C.Agree C.object newObject newObject := fun _ _ hστ =>
  have h := C.allot hστ
  .ok h.2 h.1

theorem agree_newString (text : String) :
    C.Agree (Value.Like C.toPairing) (newString text) (newString text) :=
  agree_newObject.bind fun _ _ h => agree_pure (.str h text)

theorem agree_newArray {vs ws : List Value} (h : Likes C.toPairing vs ws) :
    C.Agree (Value.Like C.toPairing) (newArray vs) (newArray ws) :=
  agree_newObject.bind fun _ _ hid => agree_pure (.of_likes hid h)

theorem agree_pushScope {c d : ScopeId} (h : C.scope c d) :
    C.Agree C.scope (pushScope c) (pushScope d) := fun _ _ hστ =>
  have h := C.nest hστ h
  .ok h.2 h.1

theorem agree_resolve {c d : ScopeId} {x : String} (h : C.scope c d) (hx : C.legal x) :
    C.Agree (Value.Like C.toPairing) (resolve c x) (resolve d x) := by
  have hlookup : C.Agree (Option.Rel (Value.Like C.toPairing)) (Eval.lookup c x)
      (Eval.lookup d x) := fun _ _ hστ => .ok (C.lookup hστ h hx) hστ
  apply hlookup.bind
  rintro _ _ (⟨hv⟩ | _)
  · exact agree_settle hv
  · dsimp only
    cases Builtin.ofName? x with
    | some b => exact agree_pure (.builtin b)
    | none => exact agree_fail _

theorem visible_eq {σ τ : State} {c d : ScopeId} {x : String} (hστ : C.state σ τ)
    (h : C.scope c d) (hx : C.legal x) : σ.store.visible c x = τ.store.visible d x := by
  have hlookup := C.lookup hστ h hx
  rw [Store.visible_eq_isSome_lookup, Store.visible_eq_isSome_lookup]
  generalize σ.store.lookup c x = a, τ.store.lookup d x = b at hlookup
  cases hlookup <;> rfl

theorem agree_define {c d : ScopeId} {x : String} {v w : Value} (h : C.scope c d)
    (hx : C.legal x) (hv : v.Like C.toPairing w) :
    C.Agree (fun _ _ => True) (Eval.define c x v) (Eval.define d x w) := by
  intro σ τ hστ
  have hvisible := visible_eq hστ h hx
  unfold Eval.define
  by_cases hσ : σ.store.visible c x = true
  · rw [if_pos hσ, if_pos (hvisible ▸ hσ)]
    exact .failed _ (C.note _ hστ)
  · have hτ : ¬ τ.store.visible d x = true := hvisible ▸ hσ
    rw [if_neg hσ, if_neg hτ]
    exact .ok trivial
      (C.define hστ h hx hv (Bool.eq_false_iff.mpr hσ) (Bool.eq_false_iff.mpr hτ))

theorem agree_assign {c d : ScopeId} {x : String} {v w : Value} (h : C.scope c d)
    (hx : C.legal x) (hv : v.Like C.toPairing w) :
    C.Agree (fun _ _ => True) (Eval.assign c x v) (Eval.assign d x w) := by
  intro σ τ hστ
  have hvisible := visible_eq hστ h hx
  unfold Store.visible at hvisible
  unfold Eval.assign
  cases hi : σ.store.holder? c x with
  | some i =>
    rw [hi] at hvisible
    obtain ⟨j, hj⟩ := Option.isSome_iff_exists.mp hvisible.symm
    rw [hj]
    exact .ok trivial (C.assign hστ h hx hv hi hj)
  | none =>
    rw [hi] at hvisible
    have hj : τ.store.holder? d x = none := by simpa using hvisible.symm
    rw [hj, hv.inspect_eq]
    exact .failed _ (C.note _ hστ)

/-! ## Operators, indexing and built-in functions -/

theorem agree_unary (op : UnaryOp) {v w : Value} (h : v.Like C.toPairing w) :
    C.Agree (Value.Like C.toPairing) (op.apply v) (op.apply w) := by
  cases op with
  | not =>
    rw [UnaryOp.apply, UnaryOp.apply, h.isTruthy_eq]
    exact agree_pure (.bool _)
  | negate | plus =>
    cases h with
    | int n => exact agree_pure (.int _)
    | _ => exact agree_fail _

theorem agree_onIntegers (op : BinaryOp) (a b : Int64) :
    C.Agree (Value.Like C.toPairing) (op.onIntegers a b) (op.onIntegers a b) := by
  cases op with
  | div =>
    unfold BinaryOp.onIntegers
    simp only
    split
    · exact agree_fail _
    · exact agree_pure (.int _)
  | add | sub | mul => exact agree_pure (.int _)
  | less | greater | equal | notEqual => exact agree_pure (.bool _)

theorem agree_onTexts (op : BinaryOp) (a b : String) :
    C.Agree (Value.Like C.toPairing) (op.onTexts a b) (op.onTexts a b) := by
  cases op with
  | add => exact agree_newString _
  | equal | notEqual => exact agree_pure (.bool _)
  | sub | mul | div | less | greater => exact agree_fail _

/-- Corresponding objects are the same in both sessions or in none. -/
theorem identical_eq {v w v' w' : Value} (h : v.Like C.toPairing v') (k : w.Like C.toPairing w') :
    v.identical w = v'.identical w' := by
  have ids {i j i' j' : ObjectId} (hi : C.object i i') (hj : C.object j j') :
      (i == j) = (i' == j') := by
    rw [Bool.eq_iff_iff, beq_iff_eq, beq_iff_eq]
    exact C.object_iff hi hj
  cases h with
  | int n | bool b | nil | builtin b | returning h | error e => cases k <;> rfl
  | str hi text =>
    cases k with
    | str hj => exact ids hi hj
    | _ => rfl
  | array hi =>
    cases k with
    | array hj => exact ids hi hj
    | _ => rfl
  | function hf =>
    cases k with
    | function hg => exact ids hf.id hg.id
    | _ => rfl
  | curried hf =>
    cases k with
    | curried hg => exact ids hf.id hg.id
    | _ => rfl

theorem agree_onOthers (op : BinaryOp) {v w v' w' : Value} (h : v.Like C.toPairing v')
    (k : w.Like C.toPairing w') :
    C.Agree (Value.Like C.toPairing) (op.onOthers v w) (op.onOthers v' w') := by
  unfold BinaryOp.onOthers
  rw [identical_eq h k, h.type_eq, k.type_eq]
  split
  · exact agree_pure (.bool _)
  · exact agree_pure (.bool _)
  · split
    · exact agree_fail _
    · exact agree_fail _

theorem agree_binary (op : BinaryOp) {v w v' w' : Value} (h : v.Like C.toPairing v')
    (k : w.Like C.toPairing w') :
    C.Agree (Value.Like C.toPairing) (op.apply v w) (op.apply v' w') := by
  have others := agree_onOthers op h k
  cases h with
  | int a =>
    cases k with
    | int b => exact agree_onIntegers op a b
    | _ => exact others
  | str _ a =>
    cases k with
    | str _ b => exact agree_onTexts op a b
    | _ => exact others
  | _ => exact others

theorem like_getElem? {vs ws : List Value} (h : Likes C.toPairing vs ws) (k : Nat) :
    (vs[k]?.getD .nil).Like C.toPairing (ws[k]?.getD .nil) := by
  induction h generalizing k with
  | nil => exact .nil
  | cons hv _ ih =>
    cases k with
    | zero => exact hv
    | succ k => exact ih k

theorem agree_index {a b i j : Value} (h : a.Like C.toPairing b) (k : i.Like C.toPairing j) :
    C.Agree (Value.Like C.toPairing) (a.index i) (b.index j) := by
  cases h with
  | array hid hlength hzip =>
    cases k with
    | int n =>
      unfold Value.index
      simp only [hlength]
      split
      · exact agree_pure (like_getElem? (Value.Like.array hid hlength hzip).elements _)
      · exact agree_pure .nil
    | _ => exact agree_fail _
  | _ => exact agree_fail _

theorem agree_echo (line : String) {v w : Value} (h : v.Like C.toPairing w) :
    C.Agree (Value.Like C.toPairing) (Eval.print line >>= fun _ => pure v)
      (Eval.print line >>= fun _ => pure w) :=
  (agree_print line).bind fun _ _ _ => agree_pure h

theorem agree_callOne (b : Builtin) {v w : Value} (h : v.Like C.toPairing w) :
    C.Agree (Value.Like C.toPairing) (b.callOne v) (b.callOne w) := by
  cases h with
  | int n =>
    cases b with
    | toString => exact agree_newString _
    | puts => exact agree_echo _ (.int n)
    | _ => exact agree_fail _
  | str hid text =>
    cases b with
    | len => exact agree_pure (.int _)
    | toString => exact agree_pure (.str hid text)
    | puts => exact agree_echo _ (.str hid text)
    | _ => exact agree_fail _
  | bool x =>
    cases b with
    | puts => exact agree_echo _ (.bool x)
    | _ => exact agree_fail _
  | nil =>
    cases b with
    | puts => exact agree_echo _ .nil
    | _ => exact agree_fail _
  | array hid hlength hzip =>
    have helements := (Value.Like.array hid hlength hzip).elements
    cases b with
    | len =>
      unfold Builtin.callOne
      simp only [hlength]
      exact agree_pure (.int _)
    | head =>
      cases helements with
      | nil => exact agree_pure .nil
      | cons hv _ => exact agree_pure hv
    | rest =>
      cases helements with
      | nil => exact agree_pure .nil
      | cons _ hvs => exact agree_newArray hvs
    | _ => exact agree_fail _
  | _ => cases b <;> exact agree_fail _

theorem agree_pushOnto {a b v w : Value} (h : a.Like C.toPairing b) (k : v.Like C.toPairing w) :
    C.Agree (Value.Like C.toPairing) (Builtin.pushOnto a v) (Builtin.pushOnto b w) := by
  cases h with
  | array hid hlength hzip =>
    exact agree_newArray (List.rel_append (Value.Like.array hid hlength hzip).elements (.cons k .nil))
  | _ => exact agree_fail _

theorem agree_builtin (b : Builtin) {vs ws : List Value} (h : Likes C.toPairing vs ws) :
    C.Agree (Value.Like C.toPairing) (b.call vs) (b.call ws) := by
  have wrong (n : Nat) : C.Agree (Value.Like C.toPairing)
      (fail (.wrongArgumentCount vs.length n)) (fail (.wrongArgumentCount ws.length n)) := by
    rw [h.length_eq]
    exact agree_fail _
  cases h with
  | nil => cases b <;> exact wrong _
  | cons hv hvs =>
    cases hvs with
    | nil =>
      cases b with
      | push => exact wrong _
      | _ => exact agree_callOne _ hv
    | cons hw hws =>
      cases hws with
      | nil =>
        cases b with
        | push => exact agree_pushOnto hv hw
        | _ => exact wrong _
      | cons _ _ => cases b <;> exact wrong _

/-! ## Calls -/

/-- Bodies of functions agree in corresponding scopes. -/
def Runs (C : Correspondence) (run : BodyRunner) : Prop :=
  ∀ b c d, Statement.NamesAll C.legal b → C.scope c d →
    C.Agree (Value.Like C.toPairing) (run b c) (run b d)

theorem agree_defineAll {c d : ScopeId} (h : C.scope c d) {xs : List String}
    (hxs : ∀ x ∈ xs, C.legal x) {vs ws : List Value} (hvs : Likes C.toPairing vs ws) :
    C.Agree (fun _ _ => True) (defineAll c xs vs) (defineAll d xs ws) := by
  induction xs generalizing vs ws with
  | nil => exact agree_pure trivial
  | cons x xs ih =>
    cases hvs with
    | nil => exact agree_pure trivial
    | cons hv hvs =>
      rw [defineAll, defineAll]
      apply (agree_define h (hxs x List.mem_cons_self) hv).bind
      intro _ _ _
      exact ih (fun y hy => hxs y (List.mem_cons_of_mem _ hy)) hvs

theorem agree_enter {c d : ScopeId} (h : C.scope c d) {xs : List String}
    (hxs : ∀ x ∈ xs, C.legal x) {vs ws : List Value} (hvs : Likes C.toPairing vs ws) :
    C.Agree C.scope (enter c xs vs) (enter d xs ws) := by
  unfold enter
  rw [hvs.length_eq]
  apply (agree_note _).bind
  intro _ _ _
  apply (agree_pushScope h).bind
  intro i j hij
  exact (agree_defineAll hij hxs hvs).bind fun _ _ _ => agree_pure hij

theorem agree_finish {run : BodyRunner} (hrun : C.Runs run) {f g : Closure}
    (hbody : f.body = g.body) (hnames : Statement.NamesAll C.legal f.body) {c d : ScopeId}
    (h : C.scope c d) {remaining : List String} (hxs : ∀ x ∈ remaining, C.legal x) :
    C.Agree (Value.Like C.toPairing) (f.finish run c remaining) (g.finish run d remaining) := by
  cases remaining with
  | nil =>
    rw [Closure.finish, Closure.finish, ← hbody]
    exact (hrun f.body c d hnames h).catchReturn
  | cons x remaining =>
    rw [Closure.finish, Closure.finish]
    apply (agree_note _).bind
    intro _ _ _
    apply agree_newObject.bind
    intro i j hij
    exact agree_pure (.curried ⟨hij, rfl, hbody, h, hxs, hnames⟩)

theorem agree_closure {run : BodyRunner} (hrun : C.Runs run) {f g : Closure}
    (hbody : f.body = g.body) (hnames : Statement.NamesAll C.legal f.body) {c d : ScopeId}
    (h : C.scope c d) {xs : List String} (hxs : ∀ x ∈ xs, C.legal x) {vs ws : List Value}
    (hvs : Likes C.toPairing vs ws) :
    C.Agree (Value.Like C.toPairing) (f.apply run c xs vs) (g.apply run d xs ws) := by
  rw [Closure.apply_eq, Closure.apply_eq, hvs.length_eq]
  apply (agree_enter h hxs hvs).bind
  intro i j hij
  exact agree_finish hrun hbody hnames hij fun x hx => hxs x (List.mem_of_mem_drop hx)

theorem agree_apply {run : BodyRunner} (hrun : C.Runs run) {f g : Value}
    (hf : f.Like C.toPairing g) {vs ws : List Value} (hvs : Likes C.toPairing vs ws) :
    C.Agree (Value.Like C.toPairing) (f.apply run vs) (g.apply run ws) := by
  have failing : C.Agree (Value.Like C.toPairing) (fail (.notAFunction f.inspect f.type))
      (fail (.notAFunction g.inspect g.type)) := by
    rw [hf.inspect_eq, hf.type_eq]
    exact agree_fail _
  cases hf with
  | @function f g h =>
    show C.Agree _ (f.apply run f.env f.parameters vs) (g.apply run g.env g.parameters ws)
    rw [← h.parameters]
    exact agree_closure hrun h.body h.names h.env h.legal hvs
  | @curried f g h =>
    show C.Agree _ (f.function.apply run f.env f.remaining vs)
      (g.function.apply run g.env g.remaining ws)
    rw [← h.remaining]
    exact agree_closure hrun h.body h.names h.env h.legal hvs
  | builtin b =>
    rw [Value.apply, Value.apply, hvs.length_eq]
    exact (agree_note _).bind fun _ _ _ => agree_builtin b hvs
  | _ => exact failing

/-! ## Expressions and statements -/

section Evaluator

variable {run : BodyRunner}

mutual

theorem agree_expr (hrun : C.Runs run) : (e : Expr) → (c d : ScopeId) → e.Names C.legal →
    C.scope c d → C.Agree (Value.Like C.toPairing) (e.eval run c) (e.eval run d)
  | .ident x, c, d, hx, h => agree_resolve h hx
  | .int n, c, d, _, h => agree_pure (.int n)
  | .str text, c, d, _, h => agree_newString text
  | .bool b, c, d, _, h => agree_pure (.bool b)
  | .nil, c, d, _, h => agree_pure .nil
  | .array es, c, d, hes, h => by
    rw [Expr.eval, Expr.eval]
    exact (agree_each hrun es c d hes h).bind fun vs ws hvs => agree_newArray hvs
  | .unary op e, c, d, he, h => by
    rw [Expr.eval, Expr.eval]
    exact (agree_expr hrun e c d he h).bind fun v w hv => agree_unary op hv
  | .binary op l r, c, d, ⟨hl, hr⟩, h => by
    rw [Expr.eval, Expr.eval]
    apply (agree_expr hrun l c d hl h).bind
    intro v w hv
    exact (agree_expr hrun r c d hr h).bind fun v' w' hv' => agree_binary op hv hv'
  | .ifThen e yes, c, d, ⟨he, hyes⟩, h => by
    rw [Expr.eval, Expr.eval]
    apply (agree_expr hrun e c d he h).bind
    intro v w hv
    rw [hv.isTruthy_eq]
    split
    · apply (agree_pushScope h).bind
      intro i j hij
      exact agree_from hrun yes i j hyes hij .nil
    · exact agree_pure .nil
  | .ifElse e yes no, c, d, ⟨he, hyes, hno⟩, h => by
    rw [Expr.eval, Expr.eval]
    apply (agree_expr hrun e c d he h).bind
    intro v w hv
    rw [hv.isTruthy_eq]
    apply (agree_pushScope h).bind
    intro i j hij
    split
    · exact agree_from hrun yes i j hyes hij .nil
    · exact agree_from hrun no i j hno hij .nil
  | .function parameters body, c, d, ⟨hparameters, hbody⟩, h => by
    rw [Expr.eval, Expr.eval]
    apply agree_newObject.bind
    intro i j hij
    exact agree_pure (.function ⟨hij, rfl, rfl, h, hparameters, hbody⟩)
  | .call e es, c, d, ⟨he, hes⟩, h => by
    rw [Expr.eval, Expr.eval]
    apply (agree_expr hrun e c d he h).bind
    intro f g hf
    apply (agree_each hrun es c d hes h).bind
    intro vs ws hvs
    exact (agree_apply hrun hf hvs).bind fun v w hv => agree_settle hv
  | .index e i, c, d, ⟨he, hi⟩, h => by
    rw [Expr.eval, Expr.eval]
    apply (agree_expr hrun e c d he h).bind
    intro a b ha
    apply (agree_expr hrun i c d hi h).bind
    intro n m hn
    exact (agree_index ha hn).bind fun v w hv => agree_settle hv
  | .assign x e, c, d, ⟨hx, he⟩, h => by
    rw [Expr.eval, Expr.eval]
    apply (agree_expr hrun e c d he h).bind
    intro v w hv
    exact (agree_assign h hx hv).bind fun _ _ _ => agree_pure hv

theorem agree_each (hrun : C.Runs run) : (es : List Expr) → (c d : ScopeId) →
    Expr.NamesEach C.legal es → C.scope c d →
    C.Agree (Likes C.toPairing) (Expr.evalEach run c es) (Expr.evalEach run d es)
  | [], c, d, _, h => agree_pure .nil
  | e :: es, c, d, ⟨he, hes⟩, h => by
    rw [Expr.evalEach, Expr.evalEach]
    apply (agree_expr hrun e c d he h).bind
    intro v w hv
    exact (agree_each hrun es c d hes h).bind fun vs ws hvs => agree_pure (.cons hv hvs)

theorem agree_statement (hrun : C.Runs run) : (s : Statement) → (c d : ScopeId) →
    s.Names C.legal → C.scope c d →
    C.Agree (Value.Like C.toPairing) (s.eval run c) (s.eval run d)
  | .bind x e, c, d, ⟨hx, he⟩, h => by
    rw [Statement.eval, Statement.eval]
    apply (agree_expr hrun e c d he h).bind
    intro v w hv
    exact (agree_define h hx hv).bind fun _ _ _ => agree_pure hv
  | .ret e, c, d, he, h => by
    rw [Statement.eval, Statement.eval]
    exact (agree_expr hrun e c d he h).bind fun v w hv => agree_give hv
  | .expr e, c, d, he, h => agree_expr hrun e c d he h

theorem agree_from (hrun : C.Runs run) : (ss : List Statement) → (c d : ScopeId) →
    {last last' : Value} → Statement.NamesAll C.legal ss → C.scope c d →
    last.Like C.toPairing last' →
    C.Agree (Value.Like C.toPairing) (Statement.evalFrom run c last ss)
      (Statement.evalFrom run d last' ss)
  | [], c, d, _, _, _, h, hlast => agree_pure hlast
  | s :: ss, c, d, _, _, ⟨hs, hss⟩, h, hlast => by
    rw [Statement.evalFrom, Statement.evalFrom]
    apply (agree_statement hrun s c d hs h).bind
    intro v w hv
    exact agree_from hrun ss c d hss h hv

end

end Evaluator

/-- **Bodies respect every correspondence, however deep calls may be inside each other.** -/
theorem runs_bodies (C : Correspondence) (depth : Nat) : C.Runs (bodies depth) := by
  induction depth with
  | zero => exact fun _ _ _ _ _ _ _ _ => .exhausted
  | succ depth ih => exact fun b c d hb h => agree_from ih b c d hb h .nil

end Correspondence

end CurryLang
