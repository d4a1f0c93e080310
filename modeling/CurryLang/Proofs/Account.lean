import CurryLang.Proofs.Usage
import CurryLang.Session

/-!
# Every evaluation keeps every account

An account is a usage that says in addition in which scopes something may be evaluated, and why the
world can be carried on when a scope is made, a name is bound or assigned, or a function is called.
These few actions are all that an evaluation consists of, so this is the only place where a property
of single evaluations is taken through every form of the language.

1. Calls keep every account, if the bodies of functions do. A call is one action, as what is recorded
   of the new scope may depend on whether the body will run in it.
2. So do expressions and statements, by induction on them, and bodies, by induction on the depth
   (`keeps_eval`).
3. So do sessions (`reaches_runAll`).

An expression binds names in the scopes it makes only, a statement also in the scope it stands in:
this is the index of `Keeps`.
-/

namespace CurryLang

open Eval

/-- A call that may be made in a world, of a value that stands for the function `f`, entered from
`env`, with the parameters that it still expects. -/
structure Usage.Call (U : Usage) (w : U.World) (callee : Value) (f : Closure) (env : ScopeId)
    (parameters : List String) (vs : List Value) : Prop where
  calls : U.calls
  good_callee : U.good w callee
  good_arguments : ∀ v ∈ vs, U.good w v
  target : callee.target? = some (f, env, parameters)

theorem Usage.Call.mono {U : Usage} {w w' : U.World} {callee : Value} {f : Closure} {env : ScopeId}
    {parameters : List String} {vs : List Value} {o : Option ScopeId}
    (h : U.Call w callee f env parameters vs) (hlead : U.leads o w w') :
    U.Call w' callee f env parameters vs :=
  ⟨h.calls, U.good_mono hlead h.good_callee,
    fun v hv => U.good_mono hlead (h.good_arguments v hv), h.target⟩

/-- A usage that is respected by everything that an evaluation does to scopes. -/
structure Account extends Usage where
  /-- The scopes in which something may be evaluated in a world. -/
  place : World → ScopeId → Prop
  place_mono : ∀ {o w w' c}, leads o w w' → place w c → place w' c
  lookup : ∀ {w c x v}, place w c → (state w).store.lookup c x = some v → good w v
  new_function : ∀ {w c parameters body}, code (.function parameters body) → place w c →
    toLedger.Reaches none w (state w).allot
      fun w' => good w' (.function ⟨(state w).nextObject, parameters, body, c⟩)
  nest : ∀ {w c}, place w c → toLedger.Opens w ((state w).nest c)
    fun w' => place w' (state w).store.scopes.size
  define : ∀ {w c x v}, place w c → good w v → (state w).store.visible c x = false →
    toLedger.Reaches (some c) w { state w with store := (state w).store.insert c x v } fun _ => True
  assign : ∀ {w c x e v i}, code (.assign x e) → place w c → good w v →
    (state w).store.holder? c x = some i →
    toLedger.Reaches none w { state w with store := (state w).store.replace i x v } fun _ => True
  body : ∀ {w callee f env parameters vs}, toUsage.Call w callee f env parameters vs →
    ∀ s ∈ f.body, code s.value
  /-- A call whose parameters cannot all be bound. -/
  refuse : ∀ {w callee f env parameters vs s x}, toUsage.Call w callee f env parameters vs →
    ((state w).store.push env).2.bindAll (state w).store.scopes.size parameters vs = (s, some x) →
    toLedger.Reaches none w { state w with store := s } fun _ => True
  /-- A call that goes on with the body of the function. -/
  enter : ∀ {w callee f env parameters vs s}, toUsage.Call w callee f env parameters vs →
    ((state w).store.push env).2.bindAll (state w).store.scopes.size parameters vs = (s, none) →
    parameters.length ≤ vs.length →
    toLedger.Opens w { state w with store := s } fun w' => place w' (state w).store.scopes.size
  /-- A call that makes a partial application. -/
  curry : ∀ {w callee f env parameters vs s}, toUsage.Call w callee f env parameters vs →
    ((state w).store.push env).2.bindAll (state w).store.scopes.size parameters vs = (s, none) →
    vs.length < parameters.length →
    toLedger.Reaches none w (State.allot { state w with store := s }) fun w' =>
      good w' (.curried ⟨(state w).nextObject, f, (state w).store.scopes.size,
        parameters.drop vs.length⟩)

namespace Account

open Usage

variable {A : Account} {o : Option ScopeId} {w w' : A.World} {c : ScopeId} {v : Value}
variable {vs : List Value} {α : Type} {Q : A.World → α → Prop} {R : A.World → Value → Prop}

/-! ## Scopes -/

theorem keeps_newFunction {parameters : List String} {body : Block}
    (hcode : A.code (.function parameters body)) (hc : A.place w c) :
    A.Keeps o w (newFunction parameters body c) A.good R :=
  keeps_new (A.new_function hcode hc)

theorem keeps_define (x : String) (hc : A.place w c) (hv : A.good w v) :
    A.Keeps (some c) w (Eval.define c x v) (fun _ _ => True) R := by
  show A.Ends (some c) w _ R (Eval.define c x v (A.state w))
  unfold Eval.define
  split
  · exact (A.report _).loosen
  · next hx => exact A.define hc hv (Bool.eq_false_iff.mpr hx)

theorem keeps_assign {x : String} {e : Expr} (hcode : A.code (.assign x e)) (hc : A.place w c)
    (hv : A.good w v) : A.Keeps o w (Eval.assign c x v) (fun _ _ => True) R := by
  show A.Ends o w _ R (Eval.assign c x v (A.state w))
  unfold Eval.assign
  split
  · next i hi => exact (A.assign hcode hc hv hi).loosen
  · exact (A.report _).loosen

/-- What is done inside a new scope binds names in no scope that was there before. -/
theorem keeps_pushScope {f : ScopeId → Eval α} (hc : A.place w c)
    (hf : ∀ i w', A.place w' i → A.Keeps (some i) w' (f i) Q R) :
    A.Keeps o w (pushScope c >>= f) Q R := by
  obtain ⟨w', hstate, hplace, hleave⟩ := A.nest hc
  have h := hf _ w' hplace
  rw [Keeps, hstate] at h
  exact h.imp (fun w'' hlead => A.leads_of_none (hleave w'' hlead)) (fun _ _ => id) fun _ _ => id

/-! ## Calls -/

/-- Bodies of functions keep the account, wherever they may run. -/
def Runs (A : Account) (run : BodyRunner) : Prop :=
  A.calls → ∀ (b : Block) c w, (∀ s ∈ b, A.code s.value) → A.place w c →
    A.Keeps (some c) w (run b c) A.good A.good

section Calls

variable {run : BodyRunner} {callee : Value} {f : Closure} {env : ScopeId} {parameters : List String}

theorem keeps_target (hrun : A.Runs run) (hcall : A.Call w callee f env parameters vs) :
    A.Keeps o w (f.apply run env parameters vs) A.good R := by
  show A.Ends o w A.good R (f.apply run env parameters vs (A.state w))
  rw [Closure.apply_bindAll]
  -- reports change nothing that binding depends on, so all of them can come first
  have hreport (events : List Event) : ∃ w', A.state w' = { A.state w with events } ∧
      A.leads o w w' ∧ A.Call w' callee f env parameters vs := by
    obtain ⟨w', hstate, hlead, -⟩ := A.report (w := w) events
    exact ⟨w', hstate, A.leads_of_none hlead, hcall.mono hlead⟩
  let noted : List Event := .applying parameters.length vs.length :: (A.state w).events
  rcases hbind : ((A.state w).store.push env).2.bindAll (A.state w).store.scopes.size parameters vs
    with ⟨s, _ | x⟩
  · show A.Ends o w A.good R (f.finish run _ (parameters.drop vs.length)
      { A.state w with store := s, events := noted })
    rcases Nat.lt_or_ge vs.length parameters.length with hlt | hle
    · rw [List.drop_eq_getElem_cons hlt]
      obtain ⟨w', hstate, hlead, hcall⟩ := hreport (.currying _ :: noted)
      have hcurry := A.curry hcall (by rw [hstate]; exact hbind) hlt
      rw [hstate, List.drop_eq_getElem_cons hlt] at hcurry
      exact hcurry.imp (fun _ hlater => A.leads_trans hlead (A.leads_of_none hlater)) fun _ => id
    · rw [List.drop_eq_nil_of_le hle]
      obtain ⟨w', hstate, hlead, hcall⟩ := hreport noted
      have henter := A.enter hcall (by rw [hstate]; exact hbind) hle
      rw [hstate] at henter
      obtain ⟨w'', hstate', hplace, hleave⟩ := henter
      have hbody := (hrun hcall.calls f.body _ w'' (A.body hcall) hplace).catchReturn (R := R)
      rw [Keeps, hstate'] at hbody
      rw [hstate] at hleave
      exact hbody.imp (fun u hu => A.leads_trans hlead (A.leads_of_none (hleave u hu)))
        (fun _ _ => id) fun _ _ => id
  · obtain ⟨w', hstate, hlead, hcall⟩ := hreport (.refusedBinding x :: noted)
    have hrefuse := A.refuse hcall (by rw [hstate]; exact hbind)
    rw [hstate] at hrefuse
    exact hrefuse.imp (fun _ hlater => A.leads_trans hlead (A.leads_of_none hlater)) fun _ => id

theorem keeps_apply (hrun : A.Runs run) (hcalls : A.calls) (hcallee : A.good w callee)
    (hvs : ∀ v ∈ vs, A.good w v) : A.Keeps o w (callee.apply run vs) A.good R := by
  unfold Value.apply
  split
  · exact keeps_target hrun ⟨hcalls, hcallee, hvs, rfl⟩
  · exact keeps_target hrun ⟨hcalls, hcallee, hvs, rfl⟩
  · apply (keeps_note _).bind
    intro _ w' hlead _
    exact keeps_builtin hcalls _ fun v hv => A.good_mono hlead (hvs v hv)
  · exact keeps_fail _

end Calls

/-! ## Expressions and statements -/

section Evaluator

variable {run : BodyRunner}

mutual

theorem keeps_expr (hrun : A.Runs run) : (e : Expr) → (c : ScopeId) → (w : A.World) →
    A.code e → A.place w c → A.Keeps none w (e.eval run c) A.good A.good
  | .ident x, c, w, _, hc => keeps_resolve fun _ => A.lookup hc
  | .int n, c, w, _, hc => keeps_pure A.good_int
  | .str text, c, w, he, hc => keeps_newString (A.literal he)
  | .bool b, c, w, _, hc => keeps_pure A.good_bool
  | .nil, c, w, _, hc => keeps_pure A.good_nil
  | .array es, c, w, he, hc => by
    rw [Expr.eval]
    exact (keeps_each hrun es c w (A.part he) hc).bind fun vs w' _ hvs => keeps_newArray hvs
  | .unary op e, c, w, he, hc => by
    have he := List.forall_mem_singleton.mp (A.part he)
    rw [Expr.eval]
    exact (keeps_expr hrun e c w he hc).bind fun v w' _ _ => keeps_unary op v
  | .binary op l r, c, w, he, hc => by
    obtain ⟨hl, hr⟩ := List.forall_mem_cons.mp (A.part he)
    rw [Expr.eval]
    apply (keeps_expr hrun l c w hl hc).bind
    intro v w₁ h₁ hv
    apply (keeps_expr hrun r c w₁ (List.forall_mem_singleton.mp hr) (A.place_mono h₁ hc)).bind
    intro u w₂ h₂ hu
    exact keeps_binary op (A.good_mono h₂ hv) hu
  | .ifThen e yes, c, w, he, hc => by
    obtain ⟨he, hyes⟩ := List.forall_mem_cons.mp (A.part he)
    rw [Expr.eval]
    apply (keeps_expr hrun e c w he hc).bind
    intro v w₁ h₁ _
    split
    · apply keeps_pushScope (A.place_mono h₁ hc)
      intro i w₂ hi
      exact keeps_from hrun yes i w₂ (List.forall_mem_map.mp hyes) hi A.good_nil
    · exact keeps_pure A.good_nil
  | .ifElse e yes no, c, w, he, hc => by
    obtain ⟨he, hbranches⟩ := List.forall_mem_cons.mp (A.part he)
    obtain ⟨hyes, hno⟩ := List.forall_mem_append.mp hbranches
    rw [Expr.eval]
    apply (keeps_expr hrun e c w he hc).bind
    intro v w₁ h₁ _
    -- the scope is made before the branch is chosen
    apply keeps_pushScope (A.place_mono h₁ hc)
    intro i w₂ hi
    split
    · exact keeps_from hrun yes i w₂ (List.forall_mem_map.mp hyes) hi A.good_nil
    · exact keeps_from hrun no i w₂ (List.forall_mem_map.mp hno) hi A.good_nil
  | .function parameters body, c, w, he, hc => keeps_newFunction he hc
  | .call e es, c, w, he, hc => by
    -- without calls in the fragment there is nothing to show here
    have hcalls := A.call he
    obtain ⟨he, hes⟩ := List.forall_mem_cons.mp (A.part he)
    rw [Expr.eval]
    apply (keeps_expr hrun e c w he hc).bind
    intro f w₁ h₁ hf
    apply (keeps_each hrun es c w₁ hes (A.place_mono h₁ hc)).bind
    intro vs w₂ h₂ hvs
    apply (keeps_apply hrun hcalls (A.good_mono h₂ hf) hvs).bind
    intro v w₃ _ hv
    exact keeps_settle hv
  | .index e i, c, w, he, hc => by
    obtain ⟨he, hi⟩ := List.forall_mem_cons.mp (A.part he)
    rw [Expr.eval]
    apply (keeps_expr hrun e c w he hc).bind
    intro a w₁ h₁ ha
    apply (keeps_expr hrun i c w₁ (List.forall_mem_singleton.mp hi) (A.place_mono h₁ hc)).bind
    intro n w₂ h₂ _
    apply (keeps_index n (A.good_mono h₂ ha)).bind
    intro v w₃ _ hv
    exact keeps_settle hv
  | .assign x e, c, w, hassign, hc => by
    have he := List.forall_mem_singleton.mp (A.part hassign)
    rw [Expr.eval]
    apply (keeps_expr hrun e c w he hc).bind
    intro v w₁ h₁ hv
    apply (keeps_assign hassign (A.place_mono h₁ hc) hv).bind
    intro _ w₂ h₂ _
    exact keeps_pure (A.good_mono h₂ hv)

theorem keeps_each (hrun : A.Runs run) : (es : List Expr) → (c : ScopeId) → (w : A.World) →
    (∀ e ∈ es, A.code e) → A.place w c →
    A.Keeps none w (Expr.evalEach run c es) (fun w' vs => ∀ v ∈ vs, A.good w' v) A.good
  | [], c, w, _, hc => keeps_pure nofun
  | e :: es, c, w, hes, hc => by
    obtain ⟨he, hes⟩ := List.forall_mem_cons.mp hes
    rw [Expr.evalEach]
    apply (keeps_expr hrun e c w he hc).bind
    intro v w₁ h₁ hv
    apply (keeps_each hrun es c w₁ hes (A.place_mono h₁ hc)).bind
    intro vs w₂ h₂ hvs
    exact keeps_pure (List.forall_mem_cons.mpr ⟨A.good_mono h₂ hv, hvs⟩)

theorem keeps_statement (hrun : A.Runs run) : (s : Statement) → (c : ScopeId) → (w : A.World) →
    A.code s.value → A.place w c → A.Keeps (some c) w (s.eval run c) A.good A.good
  | .bind x e, c, w, he, hc => by
    rw [Statement.eval]
    apply (keeps_expr hrun e c w he hc).loosen.bind
    intro v w₁ h₁ hv
    apply (keeps_define x (A.place_mono h₁ hc) hv).bind
    intro _ w₂ h₂ _
    exact keeps_pure (A.good_mono h₂ hv)
  | .ret e, c, w, he, hc => by
    rw [Statement.eval]
    exact (keeps_expr hrun e c w he hc).loosen.bind fun v w' _ hv => keeps_give hv
  | .expr e, c, w, he, hc => (keeps_expr hrun e c w he hc).loosen

theorem keeps_from (hrun : A.Runs run) : (ss : List Statement) → (c : ScopeId) → (w : A.World) →
    {last : Value} → (∀ s ∈ ss, A.code s.value) → A.place w c → A.good w last →
    A.Keeps (some c) w (Statement.evalFrom run c last ss) A.good A.good
  | [], c, w, last, _, hc, hlast => keeps_pure hlast
  | s :: ss, c, w, last, hss, hc, _ => by
    obtain ⟨hs, hss⟩ := List.forall_mem_cons.mp hss
    rw [Statement.evalFrom]
    apply (keeps_statement hrun s c w hs hc).bind
    intro v w₁ h₁ hv
    exact keeps_from hrun ss c w₁ hss (A.place_mono h₁ hc) hv

end

theorem keeps_program (hrun : A.Runs run) (p : Program) (hcode : ∀ s ∈ p, A.code s.value)
    (hc : A.place w c) : A.Keeps (some c) w (p.eval run c) A.good R :=
  (keeps_from hrun p c w hcode hc A.good_nil).catchReturn

end Evaluator

/-- **Bodies keep every account, however deep calls may be inside each other.** -/
theorem runs_bodies (A : Account) (depth : Nat) : A.Runs (bodies depth) := by
  induction depth with
  -- the only place where an evaluation is given up
  | zero => exact fun hcalls _ _ _ _ _ => hcalls
  | succ depth ih => exact fun _ b c w hcode hc => keeps_from ih b c w hcode hc A.good_nil

end Account

/-! ## What can be evaluated -/

/-- An expression, a statement, a block, a program, or the application of a value to arguments. -/
inductive Node where
  | expr (e : Expr)
  | statement (s : Statement)
  | block (b : Block)
  | program (p : Program)
  | application (callee : Value) (arguments : List Value)

namespace Node

/-- Evaluates a node in scope `c`, with at most `depth` calls inside each other. -/
def eval (depth : Nat) (c : ScopeId) : Node → Eval Value
  | expr e => e.eval (bodies depth) c
  | statement s => s.eval (bodies depth) c
  | block b => b.eval (bodies depth) c
  | program p => p.eval (bodies depth) c
  | application f arguments => f.apply (bodies depth) arguments

/-- The values a node starts from, besides those of the store. -/
def values : Node → List Value
  | application f arguments => f :: arguments
  | _ => []

/-- The nodes that end what is returned inside them. -/
def catches : Node → Bool
  | program _ => true
  | application _ _ => true
  | _ => false

end Node

namespace Account

open Usage

variable {A : Account} {w w' : A.World} {c : ScopeId}

/-- **Every evaluation keeps every account** of the whole language. -/
theorem keeps_eval (hcalls : A.calls) (hcode : ∀ e, A.code e) (depth : Nat) (node : Node)
    (hc : A.place w c) (hvalues : ∀ v ∈ node.values, A.good w v) :
    A.Keeps (some c) w (node.eval depth c) A.good
      fun w' v => node.catches = false ∧ A.good w' v := by
  have hrun := A.runs_bodies depth
  have returns {x : Eval Value} (hx : A.Keeps (some c) w x A.good A.good) :
      A.Keeps (some c) w x A.good fun w' v => false = false ∧ A.good w' v :=
    Ends.imp hx (fun _ => id) (fun _ _ => id) fun _ _ hv => ⟨rfl, hv⟩
  cases node with
  | expr e => exact returns (keeps_expr hrun e c w (hcode e) hc).loosen
  | statement s => exact returns (keeps_statement hrun s c w (hcode _) hc)
  | block b => exact returns (keeps_from hrun b c w (fun _ _ => hcode _) hc A.good_nil)
  | program p => exact keeps_program hrun p (fun _ _ => hcode _) hc
  | application f vs =>
    obtain ⟨hf, hvs⟩ := List.forall_mem_cons.mp hvalues
    exact keeps_apply hrun hcalls hf hvs

/-! ## Sessions -/

/-- What a run shows to the outside: something that may be used, or the report of a failure. -/
def Shows (A : Account) (w : A.World) (r : RunResult) : Prop :=
  ∀ v, r = .finished v → A.good w v ∨ ∃ e, v = .error e

theorem Shows.mono {o : Option ScopeId} {r : RunResult} (h : A.Shows w r) (hlead : A.leads o w w') :
    A.Shows w' r :=
  fun v hv => (h v hv).imp_left (A.good_mono hlead)

theorem good_unwrap {v : Value} (hv : A.good w v) : A.good w v.unwrap := by
  cases v with
  | returning u => exact A.returning hv
  | _ => exact hv

theorem reaches_program {p : Program} (hcode : ∀ s ∈ p, A.code s.value) (hc : A.place w c)
    (depth : Nat) :
    A.Reaches (some c) w (p.run depth c (A.state w)).2
      fun w' => A.Shows w' (p.run depth c (A.state w)).1 := by
  have h : A.Ends (some c) w A.good A.good (p.eval (bodies depth) c (A.state w)) :=
    keeps_program (A.runs_bodies depth) p hcode hc
  unfold Program.run Eval.conclude
  cases hr : p.eval (bodies depth) c (A.state w) with
  | ok v τ =>
    rw [hr] at h
    exact Ledger.Reaches.imp h (fun _ => id) fun w' hv u hu =>
      .inl (RunResult.finished.inj hu ▸ good_unwrap hv)
  | returned v τ =>
    rw [hr] at h
    exact Ledger.Reaches.imp h (fun _ => id) fun w' hv u hu => .inl (RunResult.finished.inj hu ▸ hv)
  | failed e τ =>
    rw [hr] at h
    exact Ledger.Reaches.imp h (fun _ => id) fun w' _ u hu =>
      .inr ⟨e, (RunResult.finished.inj hu).symm⟩
  | exhausted => exact Ledger.reaches_self nofun

theorem runAll_cons (depth : Nat) (file : String) (c : ScopeId) (source : String)
    (rest : List String) (σ : State) :
    runAll depth file c (source :: rest) σ =
      ((run depth source file c σ).1 :: (runAll depth file c rest (run depth source file c σ).2).1,
        (runAll depth file c rest (run depth source file c σ).2).2) := by
  rw [runAll]

/-- **A session carries the record on**, and what its runs have shown may be used at its end, if
every source text without errors is read as a program of the fragment. -/
theorem reaches_runAll
    (hcode : ∀ source file p, Program.ofSource source file = (p, []) → ∀ s ∈ p, A.code s.value)
    (hc : A.place w c) (depth : Nat) (file : String) (sources : List String) :
    A.Reaches (some c) w (runAll depth file c sources (A.state w)).2
      fun w' => ∀ r ∈ (runAll depth file c sources (A.state w)).1, A.Shows w' r := by
  induction sources generalizing w with
  | nil => exact Ledger.reaches_self nofun
  | cons source sources ih =>
    have hfirst : A.Reaches (some c) w (run depth source file c (A.state w)).2
        fun w' => A.Shows w' (run depth source file c (A.state w)).1 := by
      unfold run
      split
      · next p hp => exact reaches_program (hcode source file p hp) hc depth
      · exact Ledger.reaches_self nofun
    obtain ⟨w₁, hstate₁, h₁, hfirst⟩ := hfirst
    obtain ⟨w₂, hstate₂, h₂, hrest⟩ := ih (A.place_mono h₁ hc)
    rw [hstate₁] at hstate₂ hrest
    rw [runAll_cons]
    exact ⟨w₂, hstate₂, A.leads_trans h₁ h₂, List.forall_mem_cons.mpr ⟨hfirst.mono h₂, hrest⟩⟩

end Account

end CurryLang
