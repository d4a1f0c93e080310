import CurryLang.Proofs.Account

/-!
# Disciplines that every evaluation keeps

A discipline is about states alone: it says which states are sound, which values and which scopes may
be used in a state, and how a later state is related to an earlier one. Entering a function is nothing
special for it, only a new scope in which names are bound one after the other.

1. Sound states are the worlds of an account (`Discipline.account`): what is left to show is that a
   call keeps the discipline, by induction on its arguments.
2. So every evaluation keeps every discipline, which `Discipline.Ends` says in terms of states.

The index of the relation is the scope in which statements may bind names. An expression binds names
in the scopes it makes only.
-/

namespace CurryLang

open Eval

/-- What may be used in which state, and why all actions of an evaluation respect it. -/
structure Discipline extends Fragment where
  /-- The sound states. -/
  inv : State → Prop
  /-- The values that may be used in a state. -/
  good : State → Value → Prop
  /-- The scopes in which something may be evaluated in a state. -/
  place : State → ScopeId → Prop
  /-- How a state is related to a later one, when names may be bound in one of the old scopes. -/
  rel : Option ScopeId → State → State → Prop
  rel_trans : ∀ {o σ τ υ}, rel o σ τ → rel o τ υ → rel o σ υ
  rel_of_none : ∀ {o σ τ}, rel none σ τ → rel o σ τ
  good_mono : ∀ {o σ τ v}, rel o σ τ → good σ v → good τ v
  place_mono : ∀ {o σ τ c}, rel o σ τ → place σ c → place τ c
  quiet : ∀ {σ τ}, inv σ → τ.store = σ.store → σ.nextObject ≤ τ.nextObject →
    (¬ calls → τ.printed = σ.printed) → inv τ ∧ rel none σ τ
  nest : ∀ {σ c}, inv σ → place σ c → inv (σ.nest c) ∧ place (σ.nest c) σ.store.scopes.size
  leave : ∀ {σ c τ}, rel (some σ.store.scopes.size) (σ.nest c) τ → rel none σ τ
  define : ∀ {σ c x v}, inv σ → place σ c → good σ v → σ.store.visible c x = false →
    inv { σ with store := σ.store.insert c x v } ∧
      rel (some c) σ { σ with store := σ.store.insert c x v }
  assign : ∀ {σ c x e v i}, inv σ → code (.assign x e) → place σ c → good σ v →
    σ.store.holder? c x = some i →
    inv { σ with store := σ.store.replace i x v } ∧
      rel none σ { σ with store := σ.store.replace i x v }
  lookup : ∀ {σ c x v}, inv σ → place σ c → σ.store.lookup c x = some v → good σ v
  good_int : ∀ {σ n}, good σ (.int n)
  good_bool : ∀ {σ b}, good σ (.bool b)
  good_nil : ∀ {σ}, good σ .nil
  good_builtin : ∀ {σ b}, good σ (.builtin b)
  good_text : ∀ {σ id t}, good σ (.str id t) → text t
  new_str : ∀ {σ t}, inv σ → text t → good σ.allot (.str σ.nextObject t)
  new_array : ∀ {σ vs}, inv σ → (∀ v ∈ vs, good σ v) → good σ.allot (.array σ.nextObject vs)
  new_function : ∀ {σ parameters body c}, inv σ → code (.function parameters body) → place σ c →
    good σ.allot (.function ⟨σ.nextObject, parameters, body, c⟩)
  new_curried : ∀ {σ f env remaining}, inv σ → (∀ s ∈ f.body, code s.value) → place σ env →
    good σ.allot (.curried ⟨σ.nextObject, f, env, remaining⟩)
  element : ∀ {σ id vs v}, good σ (.array id vs) → v ∈ vs → good σ v
  function : ∀ {σ f}, calls → good σ (.function f) →
    place σ f.env ∧ ∀ s ∈ f.body, code s.value
  curried : ∀ {σ f}, calls → good σ (.curried f) →
    place σ f.env ∧ ∀ s ∈ f.function.body, code s.value
  returning : ∀ {σ v}, good σ (.returning v) → good σ v

namespace Discipline

variable {D : Discipline} {o : Option ScopeId} {σ τ : State} {c : ScopeId} {α : Type}
variable {Q : State → α → Prop} {R : State → Value → Prop} {vs : List Value}

theorem rel_refl (hσ : D.inv σ) : D.rel o σ σ :=
  D.rel_of_none (D.quiet hσ rfl (Nat.le_refl _) fun _ => rfl).2

/-! ## Calls -/

theorem inv_bindAll (hσ : D.inv σ) (hc : D.place σ c) (xs : List String)
    (hvs : ∀ v ∈ vs, D.good σ v) :
    D.inv { σ with store := (σ.store.bindAll c xs vs).1 } ∧
      D.rel (some c) σ { σ with store := (σ.store.bindAll c xs vs).1 } := by
  induction xs, vs using defineAll.induct generalizing σ with
  | case1 x xs v vs ih =>
    rw [Store.bindAll]
    split
    · -- a parameter that is refused leaves those before it bound
      exact ⟨hσ, rel_refl hσ⟩
    · next hx =>
      obtain ⟨hv, hvs⟩ := List.forall_mem_cons.mp hvs
      obtain ⟨hinv, hrel⟩ := D.define hσ hc hv (Bool.eq_false_iff.mpr hx)
      obtain ⟨hinv', hrel'⟩ :=
        ih hinv (D.place_mono hrel hc) fun u hu => D.good_mono hrel (hvs u hu)
      exact ⟨hinv', D.rel_trans hrel hrel'⟩
  | case2 xs vs h =>
    rw [Store.bindAll]
    · exact ⟨hσ, rel_refl hσ⟩
    · exact h

/-- After its parameters were bound, a function may go on in the new scope, and names that are bound
there are bound in no old scope. -/
theorem enters {env : ScopeId} {parameters : List String} {s : Store} {refused : Option String}
    (hσ : D.inv σ) (henv : D.place σ env) (hvs : ∀ v ∈ vs, D.good σ v)
    (hbind : (σ.store.push env).2.bindAll σ.store.scopes.size parameters vs = (s, refused)) :
    D.inv { σ with store := s } ∧ D.place { σ with store := s } σ.store.scopes.size ∧
      ∀ τ, D.rel (some σ.store.scopes.size) { σ with store := s } τ → D.rel none σ τ := by
  obtain ⟨hnest, hplace⟩ := D.nest hσ henv
  have hrel : D.rel none σ (σ.nest env) := D.leave (rel_refl hnest)
  have hbound := inv_bindAll hnest hplace parameters fun v hv => D.good_mono hrel (hvs v hv)
  rw [State.nest, hbind] at hbound
  obtain ⟨hinv, hrel⟩ := hbound
  exact ⟨hinv, D.place_mono hrel hplace, fun τ hτ => D.leave (D.rel_trans hrel hτ)⟩

theorem enclosed {callee : Value} {f : Closure} {env : ScopeId} {parameters : List String}
    (hcalls : D.calls) (hcallee : D.good σ callee)
    (htarget : callee.target? = some (f, env, parameters)) :
    D.place σ env ∧ ∀ s ∈ f.body, D.code s.value := by
  cases callee with
  | function g =>
    cases htarget
    exact D.function hcalls hcallee
  | curried g =>
    cases htarget
    exact D.curried hcalls hcallee
  | _ => cases htarget

/-! ## The account of a discipline -/

def ledger (D : Discipline) : Ledger where
  World := { σ // D.inv σ }
  state σ := σ.1
  leads o σ τ := D.rel o σ.1 τ.1
  leads_refl {σ} := rel_refl σ.2
  leads_trans := D.rel_trans
  leads_of_none := D.rel_of_none

theorem ledger_reaches {σ : D.ledger.World} {Q : D.ledger.World → Prop}
    (h : D.inv τ ∧ D.rel o σ.1 τ) (hQ : Q ⟨τ, h.1⟩) : D.ledger.Reaches o σ τ Q :=
  ⟨⟨τ, h.1⟩, rfl, h.2, hQ⟩

theorem ledger_allots {σ : D.ledger.World} {v : Value} (hv : D.good σ.1.allot v) :
    D.ledger.Reaches none σ σ.1.allot fun τ => D.good τ.1 v :=
  ledger_reaches (D.quiet (τ := σ.1.allot) σ.2 rfl (Nat.le_succ _) fun _ => rfl) hv

/-- **Sound states can be carried on by every action.** -/
def account (D : Discipline) : Account where
  toLedger := D.ledger
  toFragment := D.toFragment
  good σ := D.good σ.1
  place σ := D.place σ.1
  good_mono := D.good_mono
  place_mono := D.place_mono
  good_int := D.good_int
  good_bool := D.good_bool
  good_nil := D.good_nil
  good_builtin := D.good_builtin
  good_text := D.good_text
  element := D.element
  returning := D.returning
  lookup {σ} _ _ _ hc h := D.lookup σ.2 hc h
  report {σ} _ := ledger_reaches (D.quiet σ.2 rfl (Nat.le_refl _) fun _ => rfl) trivial
  emit {σ} _ hcalls :=
    ledger_reaches (D.quiet σ.2 rfl (Nat.le_refl _) fun hno => absurd hcalls hno) trivial
  new_str {σ} _ h := ledger_allots (D.new_str σ.2 h)
  new_array {σ} _ h := ledger_allots (D.new_array σ.2 h)
  new_function {σ} _ _ _ hcode hc := ledger_allots (D.new_function σ.2 hcode hc)
  nest {σ} _ hc :=
    have h := D.nest σ.2 hc
    ⟨⟨_, h.1⟩, rfl, h.2, fun _ => D.leave⟩
  define {σ} _ _ _ hc hv hx := ledger_reaches (D.define σ.2 hc hv hx) trivial
  assign {σ} _ _ _ _ _ hcode hc hv hx := ledger_reaches (D.assign σ.2 hcode hc hv hx) trivial
  body h := (enclosed h.calls h.good_callee h.target).2
  refuse {σ} _ _ _ _ _ _ _ h hbind := by
    have henv := (enclosed h.calls h.good_callee h.target).1
    obtain ⟨hinv, -, hleave⟩ := enters σ.2 henv h.good_arguments hbind
    exact ledger_reaches ⟨hinv, hleave _ (rel_refl hinv)⟩ trivial
  enter {σ} _ _ _ _ _ _ h hbind _ := by
    have henv := (enclosed h.calls h.good_callee h.target).1
    obtain ⟨hinv, hplace, hleave⟩ := enters σ.2 henv h.good_arguments hbind
    exact ⟨⟨_, hinv⟩, rfl, hplace, fun τ => hleave τ.1⟩
  curry {σ} _ _ _ _ _ s h hbind _ := by
    obtain ⟨henv, hbody⟩ := enclosed h.calls h.good_callee h.target
    obtain ⟨hinv, hplace, hleave⟩ := enters σ.2 henv h.good_arguments hbind
    have hrel := hleave _ (rel_refl hinv)
    exact (ledger_allots (σ := ⟨_, hinv⟩) (D.new_curried hinv hbody hplace)).imp
      (fun _ => D.rel_trans hrel) fun _ => id

/-! ## Evaluations -/

/-- An evaluation from `σ` may end this way: a result has the property `Q`, and a returned value
the property `R`. -/
def Ends (D : Discipline) (o : Option ScopeId) (σ : State) (Q : State → α → Prop)
    (R : State → Value → Prop) : Outcome α → Prop
  | .ok a τ => D.inv τ ∧ D.rel o σ τ ∧ Q τ a
  | .returned v τ => D.inv τ ∧ D.rel o σ τ ∧ R τ v
  | .failed _ τ => D.inv τ ∧ D.rel o σ τ
  | .exhausted => D.calls

theorem Ends.of_account {σ : D.ledger.World} {r : Outcome α}
    (h : D.account.Ends o σ (fun τ => Q τ.1) (fun τ => R τ.1) r) : D.Ends o σ.1 Q R r := by
  cases r with
  | ok v τ | returned v τ =>
    obtain ⟨⟨_, hinv⟩, rfl, hrel, hv⟩ := h
    exact ⟨hinv, hrel, hv⟩
  | failed e τ =>
    obtain ⟨⟨_, hinv⟩, rfl, hrel, -⟩ := h
    exact ⟨hinv, hrel⟩
  | exhausted => exact h

theorem Ends.of_state? {r : Outcome α} (h : D.Ends o σ Q R r) (hr : r.state? = some τ) :
    D.inv τ ∧ D.rel o σ τ := by
  cases r with
  | ok a υ => exact Option.some.inj hr ▸ ⟨h.1, h.2.1⟩
  | returned v υ => exact Option.some.inj hr ▸ ⟨h.1, h.2.1⟩
  | failed e υ => exact Option.some.inj hr ▸ h
  | exhausted => cases hr

/-- Without calls, every evaluation ends. -/
theorem Ends.exists_state {r : Outcome α} (h : D.Ends o σ Q R r) (hcalls : ¬ D.calls) :
    ∃ τ, r.state? = some τ := by
  cases r with
  | exhausted => exact absurd h hcalls
  | _ => exact ⟨_, rfl⟩

variable {run : BodyRunner}

theorem ends_expr (hrun : D.account.Runs run) {e : Expr} (he : D.code e) (hσ : D.inv σ)
    (hc : D.place σ c) : D.Ends none σ D.good D.good (e.eval run c σ) :=
  .of_account (Account.keeps_expr hrun e c ⟨σ, hσ⟩ he hc)

theorem ends_from (hrun : D.account.Runs run) {ss : List Statement}
    (hss : ∀ s ∈ ss, D.code s.value) (hσ : D.inv σ) (hc : D.place σ c) {last : Value}
    (hlast : D.good σ last) :
    D.Ends (some c) σ D.good D.good (Statement.evalFrom run c last ss σ) :=
  .of_account (Account.keeps_from hrun ss c ⟨σ, hσ⟩ hss hc hlast)

theorem ends_apply (hrun : D.account.Runs run) (hcalls : D.calls) {callee : Value} (hσ : D.inv σ)
    (hcallee : D.good σ callee) (hvs : ∀ v ∈ vs, D.good σ v) :
    D.Ends o σ D.good R (callee.apply run vs σ) :=
  .of_account (σ := ⟨σ, hσ⟩) (Account.keeps_apply hrun hcalls hcallee hvs)

/-- **Every evaluation keeps every discipline** of the whole language. -/
theorem ends_eval (hcalls : D.calls) (hcode : ∀ e, D.code e) (depth : Nat) (node : Node)
    (hσ : D.inv σ) (hc : D.place σ c) (hvalues : ∀ v ∈ node.values, D.good σ v) :
    D.Ends (some c) σ D.good (fun τ v => node.catches = false ∧ D.good τ v)
      (node.eval depth c σ) :=
  .of_account (σ := ⟨σ, hσ⟩) (Account.keeps_eval hcalls hcode depth node hc hvalues)

end Discipline

end CurryLang
