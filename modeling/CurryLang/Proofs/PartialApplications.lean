import Mathlib.Data.List.Basic
import CurryLang.Proofs.Account
import CurryLang.Proofs.Parameters

/-!
# How partial applications are represented

A partial application has got its arguments in groups, one for each application that led to it. Each
group is in a scope of its own: the scopes lie inside each other, the outermost in the scope that the
function remembers, and read from there inwards they hold the parameters that have arguments in the
order of the function's head (`Store.Suspends`).

This stays so because nothing is ever bound in such a scope again. Which scopes these are cannot be
read off a state, since a block without names or the body of a function can have a scope that looks
the same. So they are on record from the application that makes them: they are sealed, and evaluation
takes place in scopes that are not (`SealedState.account`).
-/

namespace CurryLang

open Eval

/-! ## Names in the order of binding -/

namespace Store

variable {s t : Store} {i c env : ScopeId}

/-- The names of scope number `i`, the first one that was bound first. -/
def bound (s : Store) (i : ScopeId) : List String :=
  ((s.scopes[i]?.map Scope.names).getD []).reverse

theorem bound_congr (h : t.scopes[i]? = s.scopes[i]?) : t.bound i = s.bound i := by
  rw [bound, bound, h]

theorem chain_congr (h : t.scopes[i]? = s.scopes[i]?) : t.chain i = s.chain i := by
  rw [chain, chain, h]

theorem bound_replace (s : Store) (c i : ScopeId) (x : String) (v : Value) :
    (s.replace c x v).bound i = s.bound i := by
  have hnames (scope : Scope) : (scope.replace x v).names = scope.names := by
    rw [Scope.names, Scope.replace, Scope.names, List.map_map]
    apply List.map_congr_left
    intro slot _
    show (if slot.1 == x then (x, v) else slot).1 = slot.1
    by_cases hx : slot.1 = x
    · simp [hx]
    · simp [hx]
  rw [bound, bound, replace, Array.getElem?_modify]
  split
  · cases s.scopes[i]? with
    | none => rfl
    | some scope => simp [hnames]
  · rfl

theorem map_fst_zip_take (xs : List String) (vs : List Value) :
    (xs.zip vs).map Prod.fst = xs.take vs.length := by
  induction xs generalizing vs with
  | nil => simp
  | cons x xs ih => cases vs <;> simp [ih]

theorem mem_bound {x : String} : x ∈ s.bound i ↔ s.holds i x = true := by
  rw [bound, holds]
  cases s.scopes[i]? with
  | none => simp
  | some scope => simp [Scope.names, Scope.holds]

/-! ## Functions that wait for parameters -/

/-- A function that is entered from scope `env` and waits for the parameters `remaining`. The scopes
`inner`, from the inside out, lie between `env` and the scope that the function remembers, and hold
its other parameters. -/
structure Expects (s : Store) (f : Closure) (env : ScopeId) (remaining : List String)
    (inner : List ScopeId) : Prop where
  around : f.env < s.scopes.size
  chain : s.chain env = inner ++ s.chain f.env
  parameters : inner.reverse.flatMap s.bound ++ remaining = f.parameters
  distinct : (inner.reverse.flatMap s.bound).Nodup

/-- The scopes of a partial application, from the inside out. There is at least one of them, and
some parameter is missing. -/
structure Suspends (s : Store) (f : Curried) (inner : List ScopeId) : Prop where
  expects : s.Expects f.function f.env f.remaining inner
  scopes : inner ≠ []
  remaining : f.remaining ≠ []

variable {f : Closure} {remaining : List String} {inner : List ScopeId}

theorem Expects.lt (h : s.Expects f env remaining inner) : env < s.scopes.size := by
  apply lt_of_mem_chain (i := f.env)
  rw [h.chain]
  exact List.mem_append_right _ (mem_chain_self.mpr h.around)

/-- What a function waits for depends on its scopes only. -/
theorem Expects.mono (h : s.Expects f env remaining inner) (hsize : s.scopes.size ≤ t.scopes.size)
    (hchain : ∀ i < s.scopes.size, t.chain i = s.chain i)
    (hbound : ∀ i ∈ inner, t.bound i = s.bound i) : t.Expects f env remaining inner := by
  have hnames : inner.reverse.flatMap t.bound = inner.reverse.flatMap s.bound :=
    List.flatMap_congr fun i hi => hbound i (List.mem_reverse.mp hi)
  refine ⟨Nat.lt_of_lt_of_le h.around hsize, ?_, ?_, ?_⟩
  · rw [hchain env h.lt, hchain f.env h.around, h.chain]
  · rw [hnames, h.parameters]
  · rw [hnames]
    exact h.distinct

/-- A name in one of these scopes is visible from where the function is entered. -/
theorem Expects.visible (h : s.Expects f env remaining inner) {x : String}
    (hx : x ∈ inner.reverse.flatMap s.bound) : s.visible env x = true := by
  obtain ⟨i, hi, hx⟩ := List.mem_flatMap.mp hx
  refine visible_iff.mpr ⟨i, ?_, mem_bound.mp hx⟩
  rw [h.chain]
  exact List.mem_append_left _ (List.mem_reverse.mp hi)

/-- One more scope, with some of the parameters that were waited for. -/
theorem Expects.push (h : s.Expects f env remaining inner) {vs : List Value}
    (hadmits : s.Admits env (remaining.take vs.length))
    (ht : t.scopes = s.scopes.push ⟨s.chain env, (remaining.zip vs).reverse⟩) :
    t.Expects f s.scopes.size (remaining.drop vs.length) (s.scopes.size :: inner) := by
  have hold (i : ScopeId) (hi : i < s.scopes.size) : t.scopes[i]? = s.scopes[i]? := by
    rw [ht, Array.getElem?_push, if_neg (Nat.ne_of_lt hi)]
  have hnew : t.scopes[s.scopes.size]? = some ⟨s.chain env, (remaining.zip vs).reverse⟩ := by
    rw [ht, Array.getElem?_push, if_pos rfl]
  have hbound : t.bound s.scopes.size = remaining.take vs.length := by
    rw [bound, hnew]
    simp [Scope.names, map_fst_zip_take]
  have hinner : inner.reverse.flatMap t.bound = inner.reverse.flatMap s.bound := by
    refine List.flatMap_congr fun i hi => bound_congr (hold i ?_)
    have hmem : i ∈ s.chain env := by
      rw [h.chain]
      exact List.mem_append_left _ (List.mem_reverse.mp hi)
    exact Nat.lt_of_le_of_lt (le_of_mem_chain hmem) h.lt
  have hnames : (s.scopes.size :: inner).reverse.flatMap t.bound =
      inner.reverse.flatMap s.bound ++ remaining.take vs.length := by
    rw [List.reverse_cons, List.flatMap_append, hinner, List.flatMap_singleton, hbound]
  refine ⟨?_, ?_, ?_, ?_⟩
  · rw [ht, Array.size_push]
    exact Nat.lt_succ_of_lt h.around
  · rw [chain_congr (hold f.env h.around), List.cons_append, ← h.chain, Store.chain, hnew]
  · rw [hnames, List.append_assoc, List.take_append_drop, h.parameters]
  · rw [hnames]
    refine List.nodup_append.mpr ⟨h.distinct, hadmits.distinct, fun x hx y hy hxy => ?_⟩
    -- a parameter that is there already would have been refused
    have hseen := h.visible hx
    rw [hxy, hadmits.unseen y hy] at hseen
    cases hseen

end Store

/-! ## Sealed scopes -/

/-- A state, and the scopes in which partial applications hold arguments. -/
structure SealedState where
  state : State
  sealed : List ScopeId

namespace SealedState

variable {w w' w'' : SealedState} {v : Value}

/-- A value whose functions remember scopes that are there, and whose partial applications have
their arguments in sealed scopes. -/
inductive Fits (w : SealedState) : Value → Prop
  | int (n : Int64) : Fits w (.int n)
  | str (id : ObjectId) (text : String) : Fits w (.str id text)
  | bool (b : Bool) : Fits w (.bool b)
  | nil : Fits w .nil
  | builtin (b : Builtin) : Fits w (.builtin b)
  | array (id : ObjectId) {vs : List Value} (h : ∀ v ∈ vs, Fits w v) : Fits w (.array id vs)
  | function {f : Closure} (h : f.env < w.state.store.scopes.size) : Fits w (.function f)
  | curried {f : Curried} {inner : List ScopeId} (h : w.state.store.Suspends f inner)
    (hsealed : ∀ i ∈ inner, i ∈ w.sealed) : Fits w (.curried f)

/-- The slots hold such values, and the sealed scopes are there. -/
structure Sound (w : SealedState) : Prop where
  slots : ∀ i x v, w.state.store.get? i x = some v → w.Fits v
  sealed : ∀ i ∈ w.sealed, i < w.state.store.scopes.size

/-- From `w` to `w'`, old scopes keep what is around them, sealed ones also keep their names, and no
old scope was sealed. -/
structure Leads (w w' : SealedState) : Prop where
  size : w.state.store.scopes.size ≤ w'.state.store.scopes.size
  chain : ∀ i < w.state.store.scopes.size, w'.state.store.chain i = w.state.store.chain i
  bound : ∀ i ∈ w.sealed, w'.state.store.bound i = w.state.store.bound i
  kept : ∀ i ∈ w.sealed, i ∈ w'.sealed
  unsealed : ∀ i < w.state.store.scopes.size, i ∉ w.sealed → i ∉ w'.sealed

theorem Leads.refl : w.Leads w :=
  ⟨Nat.le_refl _, fun _ _ => rfl, fun _ _ => rfl, fun _ h => h, fun _ _ h => h⟩

theorem Leads.trans (h : w.Leads w') (h' : w'.Leads w'') : w.Leads w'' where
  size := Nat.le_trans h.size h'.size
  chain i hi := (h'.chain i (Nat.lt_of_lt_of_le hi h.size)).trans (h.chain i hi)
  bound i hi := (h'.bound i (h.kept i hi)).trans (h.bound i hi)
  kept i hi := h'.kept i (h.kept i hi)
  unsealed i hi hw := h'.unsealed i (Nat.lt_of_lt_of_le hi h.size) (h.unsealed i hi hw)

theorem Leads.suspends (h : w.Leads w') {f : Curried} {inner : List ScopeId}
    (hf : w.state.store.Suspends f inner) (hsealed : ∀ i ∈ inner, i ∈ w.sealed) :
    w'.state.store.Suspends f inner :=
  ⟨hf.expects.mono h.size h.chain fun i hi => h.bound i (hsealed i hi), hf.scopes, hf.remaining⟩

theorem Fits.mono (hv : w.Fits v) (h : w.Leads w') : w'.Fits v := by
  induction hv with
  | int n => exact .int n
  | str id text => exact .str id text
  | bool b => exact .bool b
  | nil => exact .nil
  | builtin b => exact .builtin b
  | array id _ ih => exact .array id ih
  | function hf => exact .function (Nat.lt_of_lt_of_le hf h.size)
  | curried hf hsealed =>
    exact .curried (h.suspends hf hsealed) fun i hi => h.kept i (hsealed i hi)

theorem Fits.element {id : ObjectId} {vs : List Value} (h : w.Fits (.array id vs)) (hv : v ∈ vs) :
    w.Fits v := by
  cases h with
  | array _ h => exact h v hv

theorem Fits.expects {callee : Value} {f : Closure} {env : ScopeId} {parameters : List String}
    (h : w.Fits callee) (htarget : callee.target? = some (f, env, parameters)) :
    ∃ inner, w.state.store.Expects f env parameters inner ∧ ∀ i ∈ inner, i ∈ w.sealed := by
  cases h with
  | function hf =>
    cases htarget
    exact ⟨[], ⟨hf, rfl, rfl, List.nodup_nil⟩, nofun⟩
  | @curried g inner hg hsealed =>
    cases htarget
    exact ⟨inner, hg.expects, hsealed⟩
  | _ => cases htarget

/-- Scopes are only added and none is sealed. -/
theorem Leads.of_scopes {τ : State} (hsize : w.state.store.scopes.size ≤ τ.store.scopes.size)
    (hscopes : ∀ i < w.state.store.scopes.size, τ.store.scopes[i]? = w.state.store.scopes[i]?)
    (hw : w.Sound) : w.Leads ⟨τ, w.sealed⟩ where
  size := hsize
  chain i hi := Store.chain_congr (hscopes i hi)
  bound i hi := Store.bound_congr (hscopes i (hw.sealed i hi))
  kept _ h := h
  unsealed _ _ h := h

theorem Leads.seal {τ : State} (h : w.Leads ⟨τ, w.sealed⟩) :
    w.Leads ⟨τ, w.state.store.scopes.size :: w.sealed⟩ where
  size := h.size
  chain := h.chain
  bound := h.bound
  kept i hi := List.mem_cons_of_mem _ hi
  unsealed i hi hw hmem := by
    rcases List.mem_cons.mp hmem with rfl | hmem
    · exact Nat.lt_irrefl _ hi
    · exact hw hmem

/-! ## Evaluations -/

/-- Sound states with sealed scopes, in the order of evaluation. -/
def ledger : Ledger where
  World := { w : SealedState // w.Sound }
  state w := w.1.state
  leads _ w w' := w.1.Leads w'.1
  leads_refl := .refl
  leads_trans := .trans
  leads_of_none h := h

section Worlds

variable {w : ledger.World} {τ : State} {Q : ledger.World → Prop}

/-- A later state is reached if its slots hold what could be used before. -/
theorem ledger_reaches {sealed : List ScopeId} (hlead : w.1.Leads ⟨τ, sealed⟩)
    (hslots : ∀ i x v, τ.store.get? i x = some v → w.1.Fits v)
    (hsealed : ∀ i ∈ sealed, i < τ.store.scopes.size) (hQ : ∀ hw', Q ⟨⟨τ, sealed⟩, hw'⟩) :
    ledger.Reaches none w τ Q :=
  ⟨⟨⟨τ, sealed⟩, fun i x v hv => (hslots i x v hv).mono hlead, hsealed⟩, rfl, hlead, hQ _⟩

theorem ledger_reaches_same (hlead : w.1.Leads ⟨τ, w.1.sealed⟩)
    (hslots : ∀ i x v, τ.store.get? i x = some v → w.1.Fits v)
    (hQ : ∀ hw', Q ⟨⟨τ, w.1.sealed⟩, hw'⟩) : ledger.Reaches none w τ Q :=
  ledger_reaches hlead hslots (fun i hi => Nat.lt_of_lt_of_le (w.2.sealed i hi) hlead.size) hQ

theorem ledger_reaches_quiet (hstore : τ.store = w.1.state.store)
    (hQ : w.1.Leads ⟨τ, w.1.sealed⟩ → ∀ hw', Q ⟨⟨τ, w.1.sealed⟩, hw'⟩) : ledger.Reaches none w τ Q := by
  have hlead : w.1.Leads ⟨τ, w.1.sealed⟩ :=
    .of_scopes (Nat.le_of_eq (by rw [hstore])) (fun i _ => by rw [hstore]) w.2
  refine ledger_reaches_same hlead (fun i x v hv => w.2.slots i x v ?_) (hQ hlead)
  rwa [hstore] at hv

theorem fits_slot {env : ScopeId} {parameters : List String} {vs : List Value} {s : Store}
    {refused : Option String} (hvs : ∀ v ∈ vs, w.1.Fits v)
    (hbind : (w.1.state.store.push env).2.bindAll w.1.state.store.scopes.size parameters vs =
      (s, refused)) :
    ∀ i x v, s.get? i x = some v → w.1.Fits v := by
  have h := Store.get?_bindAll (P := w.1.Fits) w.1.state.store.scopes.size parameters
    (fun i x v hv => w.2.slots i x v (Store.get?_push w.1.state.store env i x ▸ hv)) hvs
  rwa [hbind] at h

theorem leads_push {scope : Scope} (hs : τ.store.scopes = w.1.state.store.scopes.push scope) :
    w.1.Leads ⟨τ, w.1.sealed⟩ := by
  refine .of_scopes ?_ (fun i hi => ?_) w.2
  · rw [hs, Array.size_push]
    exact Nat.le_succ _
  · rw [hs, Array.getElem?_push, if_neg (Nat.ne_of_lt hi)]

theorem size_not_mem (w : ledger.World) : w.1.state.store.scopes.size ∉ w.1.sealed :=
  fun h => Nat.lt_irrefl _ (w.2.sealed _ h)

/-- A binding in a scope that is not sealed. -/
theorem reaches_define {c : ScopeId} {x : String} {v : Value} (hc : c ∉ w.1.sealed)
    (hv : w.1.Fits v) :
    ledger.Reaches none w { w.1.state with store := w.1.state.store.insert c x v } fun _ => True := by
  refine ledger_reaches_same ?_ (fun i y u hu => ?_) fun _ => trivial
  · refine ⟨Nat.le_of_eq (Store.size_insert ..).symm, fun i _ => Store.chain_insert ..,
      fun i hi => Store.bound_congr (Store.scope_insert _ x v ?_), fun _ h => h, fun _ _ h => h⟩
    rintro rfl
    exact hc hi
  · rcases Store.eq_or_of_get?_insert hu with rfl | hu
    · exact hv
    · exact w.2.slots i y u hu

theorem reaches_assign {i : ScopeId} {x : String} {v : Value} (hv : w.1.Fits v) :
    ledger.Reaches none w { w.1.state with store := w.1.state.store.replace i x v } fun _ => True := by
  refine ledger_reaches_same ?_ (fun j y u hu => ?_) fun _ => trivial
  · exact ⟨Nat.le_of_eq (Store.size_replace ..).symm, fun i _ => Store.chain_replace ..,
      fun i _ => Store.bound_replace .., fun _ h => h, fun _ _ h => h⟩
  · rcases Store.eq_or_of_get?_replace hu with rfl | hu
    · exact hv
    · exact w.2.slots j y u hu

section Calls

variable {callee : Value} {f : Closure} {env : ScopeId} {parameters : List String}
  {vs : List Value} {s : Store}

/-- A call whose body runs in the new scope, which stays open. -/
theorem reaches_enter (hvs : ∀ v ∈ vs, w.1.Fits v)
    (hbind : (w.1.state.store.push env).2.bindAll w.1.state.store.scopes.size parameters vs =
      (s, none)) :
    ledger.Reaches none w { w.1.state with store := s } fun w' =>
      w.1.state.store.scopes.size < w'.1.state.store.scopes.size ∧
        w.1.state.store.scopes.size ∉ w'.1.sealed := by
  have hs := (Store.scopes_of_bound hbind).2
  refine ledger_reaches_same (leads_push hs) (fits_slot hvs hbind) fun _ => ⟨?_, size_not_mem w⟩
  show w.1.state.store.scopes.size < s.scopes.size
  rw [hs, Array.size_push]
  exact Nat.lt_succ_self _

/-- A call that makes a partial application and seals the new scope. -/
theorem reaches_curry (hcallee : w.1.Fits callee) (hvs : ∀ v ∈ vs, w.1.Fits v)
    (htarget : callee.target? = some (f, env, parameters))
    (hbind : (w.1.state.store.push env).2.bindAll w.1.state.store.scopes.size parameters vs =
      (s, none))
    (hlt : vs.length < parameters.length) :
    ledger.Reaches none w (State.allot { w.1.state with store := s }) fun w' =>
      w'.1.Fits (.curried ⟨w.1.state.nextObject, f, w.1.state.store.scopes.size,
        parameters.drop vs.length⟩) := by
  obtain ⟨hadmits, hs⟩ := Store.scopes_of_bound hbind
  obtain ⟨inner, hexpects, hsealed⟩ := hcallee.expects htarget
  have hsize : w.1.state.store.scopes.size < s.scopes.size := by
    rw [hs, Array.size_push]
    exact Nat.lt_succ_self _
  refine ledger_reaches (leads_push hs).seal (fits_slot hvs hbind) ?_ fun _ => ?_
  · exact List.forall_mem_cons.mpr ⟨hsize, fun i hi => Nat.lt_trans (w.2.sealed i hi) hsize⟩
  · have hmissing : parameters.drop vs.length ≠ [] :=
      fun hnil => Nat.not_le_of_lt hlt (List.drop_eq_nil_iff.mp hnil)
    refine .curried ⟨hexpects.push hadmits hs, List.cons_ne_nil _ _, hmissing⟩ ?_
    exact List.forall_mem_cons.mpr ⟨List.mem_cons_self,
      fun i hi => List.mem_cons_of_mem _ (hsealed i hi)⟩

end Calls

end Worlds

/-- **Sealed scopes and the arguments in them can be kept on record.** -/
def account : Account where
  toLedger := ledger
  toFragment := .full
  good w := w.1.Fits
  place w c := c < w.1.state.store.scopes.size ∧ c ∉ w.1.sealed
  good_mono h hv := hv.mono h
  place_mono h hc := ⟨Nat.lt_of_lt_of_le hc.1 h.size, h.unsealed _ hc.1 hc.2⟩
  good_int := .int _
  good_bool := .bool _
  good_nil := .nil
  good_builtin := .builtin _
  good_text _ := trivial
  element h hv := h.element hv
  returning h := nomatch h
  lookup {w} _ _ _ _ h := by
    obtain ⟨i, -, hi⟩ := Option.bind_eq_some_iff.mp h
    exact w.2.slots i _ _ hi
  report _ := ledger_reaches_quiet rfl fun _ _ => trivial
  emit _ _ := ledger_reaches_quiet rfl fun _ _ => trivial
  new_str _ := ledger_reaches_quiet rfl fun _ _ => .str _ _
  new_array h := ledger_reaches_quiet rfl fun hlead _ => .array _ fun v hv => (h v hv).mono hlead
  new_function _ hc := ledger_reaches_quiet rfl fun _ _ => .function hc.1
  nest {w c} _ := by
    -- a block gets a scope like a call without parameters
    have hbind : (w.1.state.store.push c).2.bindAll w.1.state.store.scopes.size [] [] =
        ((w.1.state.store.push c).2, none) := rfl
    exact (reaches_enter (List.forall_mem_nil _) hbind).opens fun h => h
  define hc hv _ := reaches_define hc.2 hv
  assign _ _ hv _ := reaches_assign hv
  body _ _ _ := trivial
  refuse h hbind := by
    obtain ⟨before, -, hs⟩ := Store.scopes_of_refused hbind
    exact ledger_reaches_same (leads_push hs) (fits_slot h.good_arguments hbind) fun _ => trivial
  enter h hbind _ := (reaches_enter h.good_arguments hbind).opens fun h => h
  curry h hbind hlt := reaches_curry h.good_callee h.good_arguments h.target hbind hlt

end SealedState

/-! ## Sessions -/

/-- A value that is there after some runs: in a slot of any scope, shown by a run, or inside an array
that is there. -/
inductive Present (results : List RunResult) (σ : State) : Value → Prop
  | slot {i : ScopeId} {x : String} {v : Value} (h : σ.store.get? i x = some v) :
    Present results σ v
  | shown {v : Value} (h : .finished v ∈ results) : Present results σ v
  | element {id : ObjectId} {vs : List Value} {v : Value} (ha : Present results σ (.array id vs))
    (hv : v ∈ vs) : Present results σ v

theorem SealedState.Sound.fits_of_present {w : SealedState} (hw : w.Sound)
    {results : List RunResult}
    (hresults : ∀ v, .finished v ∈ results → w.Fits v ∨ ∃ e, v = .error e) {v : Value}
    (hv : Present results w.state v) : w.Fits v ∨ ∃ e, v = .error e := by
  induction hv with
  | slot h => exact .inl (hw.slots _ _ _ h)
  | shown h => exact hresults _ h
  | element _ hv ih =>
    rcases ih with h | ⟨e, h⟩
    · exact .inl (h.element hv)
    · cases h

/-- The beginning of a session, where nothing is sealed. -/
def SealedState.start : SealedState.ledger.World := ⟨⟨State.initial.2, []⟩, by
  refine ⟨fun i x v h => ?_, nofun⟩
  rw [State.initial, Store.pushRoot, Store.get?_push] at h
  cases h⟩

/-- **The representation of partial applications is an invariant of sessions.** After any sources
were run in a fresh session, every partial application that is there waits for some of its
function's parameters, at the end of its head. The other ones are in the scopes between the partial
application and the function, outermost first, each once. There is at least one such scope. Whatever
is run after that, this stays so with the same scopes, and these get no other names. -/
theorem partial_applications_represented (depth : Nat) (file : String) (sources : List String)
    (f : Curried) :
    let results := (runAll depth file State.initial.1 sources State.initial.2).1
    let σ := (runAll depth file State.initial.1 sources State.initial.2).2
    Present results σ (.curried f) → ∃ inner, σ.store.Suspends f inner ∧
      ∀ depth' file' later,
        let τ := (runAll depth' file' State.initial.1 later σ).2
        τ.store.Suspends f inner ∧ ∀ i ∈ inner, τ.store.bound i = σ.store.bound i := by
  intro results σ hpresent
  have hplace : SealedState.account.place SealedState.start State.initial.1 := ⟨by decide, nofun⟩
  obtain ⟨w, hstate, hlead, hshows⟩ := Account.reaches_runAll (fun _ _ _ _ _ _ => trivial) hplace depth
    file sources
  replace hstate : w.1.state = σ := hstate
  rw [← hstate] at hpresent ⊢
  rcases w.2.fits_of_present (fun v hv => hshows _ hv v rfl) hpresent with h | ⟨e, h⟩
  · cases h with
    | @curried _ inner hf hsealed =>
      refine ⟨inner, hf, fun depth' file' later => ?_⟩
      obtain ⟨w', hstate', hlead', -⟩ :=
        Account.reaches_runAll (fun _ _ _ _ _ _ => trivial)
          (SealedState.account.place_mono hlead hplace) depth' file' later
      replace hstate' : w'.1.state = (runAll depth' file' State.initial.1 later w.1.state).2 := hstate'
      rw [← hstate']
      exact ⟨hlead'.suspends hf hsealed, fun i hi => hlead'.bound i (hsealed i hi)⟩
  · cases h

/-- A function of three parameters that got one argument, and then none: its two scopes have one
name and no name. -/
theorem one_argument_then_none :
    let σ := (runAll 0 "f" State.initial.1
      ["let f = fun(a, b, c) { a };", "let g = f(1);", "let h = g();"] State.initial.2).2
    let f : Closure := ⟨0, ["a", "b", "c"], [.expr (.ident "a")], 0⟩
    let h : Curried := ⟨2, f, 2, ["b", "c"]⟩
    σ.store.get? 0 "h" = some (.curried h) ∧ σ.store.bound 1 = ["a"] ∧ σ.store.bound 2 = [] ∧
    ∃ inner, σ.store.Suspends h inner ∧ ∀ depth' file' later,
      let τ := (runAll depth' file' State.initial.1 later σ).2
      τ.store.Suspends h inner ∧ ∀ i ∈ inner, τ.store.bound i = σ.store.bound i := by
  intro σ f h
  have hslot : σ.store.get? 0 "h" = some (.curried h) := rfl
  exact ⟨hslot, rfl, rfl, partial_applications_represented 0 "f" _ h (.slot hslot)⟩

end CurryLang
