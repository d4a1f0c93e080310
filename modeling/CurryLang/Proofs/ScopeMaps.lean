import CurryLang.Store.Lemmas
import CurryLang.Eval

/-!
# Scopes are maps

Scopes are used through handles, and several handles may stand for one scope. What is asked through
them is a `Request`, and what comes back a `Reply`. There are two ways to answer:

* `storeScoping` works on the store. A handle is the number of a scope.
* `logScoping` has no scopes, only the list of all writes that were not refused, the latest first. A
  handle is a `Path`, the numbers of a scope and of those around it. A scope is a map from names to
  values: a name has the value that was written last.

1. `Store.Writes`: what a write changes and from where it is seen. `define` and `assign` are such
   writes, or they are refused and change nothing (`define_cases`, `assign_cases`).
2. `Depicts` relates the two ways. Every request keeps it and has the same reply in both
   (`Depicts.serve`), so all requests one after the other have (`Depicts.serveAll`).
-/

namespace CurryLang

open Eval

/-! ## Writes -/

/-- `t` is `s` with the value `v` in the slot `x` of scope `i`. The write is seen from the scopes from
which `i` is the nearest one that holds `x`, and from no others. -/
structure Store.Writes (s t : Store) (i : ScopeId) (x : String) (v : Value) : Prop where
  size : t.scopes.size = s.scopes.size
  chain : ∀ c, t.chain c = s.chain c
  slot : ∀ j y, t.get? j y = if j = i ∧ y = x then some v else s.get? j y
  seen : ∀ c, t.holder? c x = some i → t.lookup c x = some v
  unseen : ∀ c y, (y = x → t.holder? c x ≠ some i) → t.lookup c y = s.lookup c y

namespace Store

variable {s t : Store} {c i : ScopeId} {x : String} {v : Value}

/-- Along a chain, a slot that is not the first one of its name makes no difference. -/
theorem findSome?_of_slot (hslot : ∀ j y, t.get? j y = if j = i ∧ y = x then some v else s.get? j y)
    {chain : List ScopeId} (h : chain.find? (fun j => t.holds j x) ≠ some i) :
    chain.findSome? (fun j => t.get? j x) = chain.findSome? fun j => s.get? j x := by
  induction chain with
  | nil => rfl
  | cons j chain ih =>
    have hj := hslot j x
    rw [List.find?_cons, holds_eq_isSome_get?] at h
    rw [List.findSome?_cons, List.findSome?_cons]
    by_cases hi : j = i
    · rw [if_pos ⟨hi, rfl⟩] at hj
      rw [hj] at h
      exact absurd (congrArg some hi) h
    · rw [if_neg fun hboth => hi hboth.1] at hj
      rw [← hj]
      cases hget : t.get? j x with
      | some w => rfl
      | none =>
        rw [hget] at h
        exact ih h

/-- A change of one slot is a write. -/
theorem writes_of_slot (hsize : t.scopes.size = s.scopes.size) (hchain : ∀ c, t.chain c = s.chain c)
    (hslot : ∀ j y, t.get? j y = if j = i ∧ y = x then some v else s.get? j y) :
    s.Writes t i x v := by
  refine ⟨hsize, hchain, hslot, fun c hc => ?_, fun c y hy => ?_⟩
  · rw [lookup, hc, Option.bind_some, hslot, if_pos ⟨rfl, rfl⟩]
  · rw [lookup_eq_findSome?, lookup_eq_findSome?, ← hchain]
    by_cases hyx : y = x
    · subst hyx
      exact findSome?_of_slot hslot (hy rfl)
    · have hsame : (fun j => t.get? j y) = fun j => s.get? j y := by
        funext j
        rw [hslot, if_neg fun hboth => hyx hboth.2]
      rw [hsame]

theorem writes_insert (hc : c < s.scopes.size) (x : String) (v : Value) :
    s.Writes (s.insert c x v) c x v := by
  refine writes_of_slot (s.size_insert c x v) (fun j => s.chain_insert c j x v) fun j y => ?_
  rw [get?_insert]
  simp only [hc, and_true]

theorem writes_replace (h : s.holds i x = true) (v : Value) : s.Writes (s.replace i x v) i x v := by
  refine writes_of_slot (s.size_replace i x v) (fun j => s.chain_replace i j x v) fun j y => ?_
  rw [holds_eq_isSome_get?] at h
  obtain ⟨w, hw⟩ := Option.isSome_iff_exists.mp h
  rw [get?_replace, hw]
  rfl

theorem holder?_eq_none_iff : s.holder? c x = none ↔ ∀ i ∈ s.chain c, s.holds i x = false := by
  unfold holder?
  simp only [List.find?_eq_none, Bool.not_eq_true]

end Store

section Attempts

variable {c : ScopeId} (σ : State)

/-- **A binding is a write to the scope it is made in, or it is refused**, because a scope of the
chain holds the name, and changes nothing. -/
theorem define_cases (hc : c < σ.store.scopes.size) (x : String) (v : Value) :
    ((∀ i ∈ σ.store.chain c, σ.store.holds i x = false) ∧
      ∃ τ, define c x v σ = .ok () τ ∧ σ.store.Writes τ.store c x v) ∨
    ((∃ i ∈ σ.store.chain c, σ.store.holds i x = true) ∧
      ∃ τ, define c x v σ = .failed (.alreadyBound x) τ ∧ τ.store = σ.store) := by
  unfold define
  by_cases hx : σ.store.visible c x = true
  · rw [if_pos hx]
    exact .inr ⟨Store.visible_iff.mp hx, _, rfl, rfl⟩
  · rw [if_neg hx]
    have hnone : σ.store.holder? c x = none := by simpa [Store.visible] using hx
    exact .inl ⟨Store.holder?_eq_none_iff.mp hnone, _, rfl, Store.writes_insert hc x v⟩

/-- **An assignment is a write to the nearest scope that holds the name, or it is refused**, because
no scope of the chain holds it, and changes nothing. -/
theorem assign_cases (c : ScopeId) (x : String) (v : Value) :
    (∃ i, σ.store.holder? c x = some i ∧
      ∃ τ, assign c x v σ = .ok () τ ∧ σ.store.Writes τ.store i x v) ∨
    ((∀ i ∈ σ.store.chain c, σ.store.holds i x = false) ∧
      ∃ τ, assign c x v σ = .failed (.notBound x v.inspect) τ ∧ τ.store = σ.store) := by
  unfold assign
  cases hi : σ.store.holder? c x with
  | none => exact .inr ⟨Store.holder?_eq_none_iff.mp hi, _, rfl, rfl⟩
  | some i =>
    unfold Store.holder? at hi
    have hholds := List.find?_some hi
    exact .inl ⟨i, rfl, _, rfl, Store.writes_replace hholds v⟩

end Attempts

/-! ## Requests -/

/-- What is asked for, through the handle with a number: handles are numbered in the order in which
they were given out. -/
inductive Request where
  | root
  | push (handle : Nat)
  | pop (handle : Nat)
  | bind (handle : Nat) (x : String) (v : Value)
  | rebind (handle : Nat) (x : String) (v : Value)
  | lookup (handle : Nat) (x : String)
  | contains (handle : Nat) (x : String)

/-- What comes back: the number of a new handle, none where nothing is around a scope; why a write was
refused, if it was; a value; whether a name is visible; or that there is no such handle. -/
inductive Reply where
  | handle (number : Option Nat)
  | written (refusal : Option RuntimeError)
  | found (value : Option Value)
  | visible (answer : Bool)
  | unknown

/-- A way to keep scopes: `H` are its handles and `S` its states. -/
structure Scoping (H S : Type) where
  root : S → H × S
  push : S → H → H × S
  pop? : S → H → Option H
  bind : S → H → String → Value → Option RuntimeError × S
  rebind : S → H → String → Value → Option RuntimeError × S
  lookup : S → H → String → Option Value
  contains : S → H → String → Bool

/-- The handles given out so far, and a state. -/
structure Desk (H S : Type) where
  handles : List H
  state : S

namespace Desk

variable {H S : Type} (d : Desk H S)

def give (h : H) (s : S) : Reply × Desk H S :=
  (.handle (some d.handles.length), ⟨d.handles ++ [h], s⟩)

/-- Gives out a handle, if there is something to give one for. -/
def give? (h : Option H) : Reply × Desk H S :=
  match h with
  | some h => d.give h d.state
  | none => (.handle none, d)

/-- Does what is asked through a handle, if there is such a handle. -/
def through (handle : Nat) (f : H → Reply × Desk H S) : Reply × Desk H S :=
  match d.handles[handle]? with
  | some h => f h
  | none => (.unknown, d)

end Desk

namespace Scoping

variable {H S : Type} (scoping : Scoping H S)

/-- Answers a request. -/
def serve (d : Desk H S) : Request → Reply × Desk H S
  | .root =>
    let (h, s) := scoping.root d.state
    d.give h s
  | .push handle => d.through handle fun h =>
    let (inner, s) := scoping.push d.state h
    d.give inner s
  | .pop handle => d.through handle fun h => d.give? (scoping.pop? d.state h)
  | .bind handle x v => d.through handle fun h =>
    let (refusal, s) := scoping.bind d.state h x v
    (.written refusal, { d with state := s })
  | .rebind handle x v => d.through handle fun h =>
    let (refusal, s) := scoping.rebind d.state h x v
    (.written refusal, { d with state := s })
  | .lookup handle x => d.through handle fun h => (.found (scoping.lookup d.state h x), d)
  | .contains handle x => d.through handle fun h => (.visible (scoping.contains d.state h x), d)

def serveAll (d : Desk H S) : List Request → List Reply × Desk H S
  | [] => ([], d)
  | r :: rest =>
    let (reply, e) := scoping.serve d r
    let (replies, f) := serveAll e rest
    (reply :: replies, f)

end Scoping

/-! ## The store -/

/-- Why a write was refused, if it was, and the state after it. -/
def Eval.attempt (x : Eval Unit) (σ : State) : Option RuntimeError × State :=
  match x σ with
  | .ok _ τ => (none, τ)
  | .failed e τ => (some e, τ)
  | .returned _ τ => (none, τ)
  | .exhausted => (none, σ)

/-- Scopes are kept in the store. -/
def storeScoping : Scoping ScopeId State where
  root σ :=
    let (c, store) := σ.store.pushRoot
    (c, { σ with store })
  push σ c :=
    let (inner, store) := σ.store.push c
    (inner, { σ with store })
  pop? σ c := σ.store.pop? c
  bind σ c x v := attempt (define c x v) σ
  rebind σ c x v := attempt (assign c x v) σ
  lookup σ c x := σ.store.lookup c x
  contains σ c x := σ.store.visible c x

/-! ## The log of writes -/

/-- A write that was not refused. -/
structure Write where
  scope : ScopeId
  name : String
  value : Value

/-- How many scopes have been made, and the writes, the latest first. -/
structure WriteLog where
  scopes : Nat
  writes : List Write

/-- A scope and the scopes around it, the nearest first. -/
structure Path where
  scope : ScopeId
  around : List ScopeId

/-- All scopes of a path, from the inside out. -/
def Path.chain (p : Path) : List ScopeId := p.scope :: p.around

namespace WriteLog

variable (w : WriteLog)

/-- The value of the latest write to a slot. -/
def latest (i : ScopeId) (x : String) : Option Value :=
  (w.writes.find? fun e => decide (e.scope = i ∧ e.name = x)).map Write.value

/-- The first scope of a chain with a write to the name. -/
def nearest? (chain : List ScopeId) (x : String) : Option ScopeId :=
  chain.find? fun i => (w.latest i x).isSome

def write (i : ScopeId) (x : String) (v : Value) : WriteLog :=
  { w with writes := ⟨i, x, v⟩ :: w.writes }

theorem latest_write (i j : ScopeId) (x y : String) (v : Value) :
    (w.write i x v).latest j y = if j = i ∧ y = x then some v else w.latest j y := by
  unfold latest write
  rw [List.find?_cons]
  by_cases h : i = j ∧ x = y
  · rw [decide_eq_true h, if_pos ⟨h.1.symm, h.2.symm⟩]
    rfl
  · rw [decide_eq_false h, if_neg fun h' => h ⟨h'.1.symm, h'.2.symm⟩]

end WriteLog

/-- Scopes are maps, known by the writes made to them. -/
def logScoping : Scoping Path WriteLog where
  root w := (⟨w.scopes, []⟩, { w with scopes := w.scopes + 1 })
  push w p := (⟨w.scopes, p.chain⟩, { w with scopes := w.scopes + 1 })
  pop? _ p :=
    match p.around with
    | [] => none
    | outer :: rest => some ⟨outer, rest⟩
  bind w p x v :=
    match w.nearest? p.chain x with
    | none => (none, w.write p.scope x v)
    | some _ => (some (.alreadyBound x), w)
  rebind w p x v :=
    match w.nearest? p.chain x with
    | some i => (none, w.write i x v)
    | none => (some (.notBound x v.inspect), w)
  lookup w p x := (w.nearest? p.chain x).bind fun i => w.latest i x
  contains w p x := (w.nearest? p.chain x).isSome

/-! ## Both give the same answers -/

/-- The log depicts the store: the same handles stand for the same scopes, and every slot holds the
value that was written last. -/
structure Depicts (d : Desk ScopeId State) (m : Desk Path WriteLog) : Prop where
  handles : d.handles.map d.state.store.chain = m.handles.map Path.chain
  scopes : m.state.scopes = d.state.store.scopes.size
  slots : ∀ i x, d.state.store.get? i x = m.state.latest i x

/-- The same reply, and a log that depicts the store. -/
def SameAnswer (a : Reply × Desk ScopeId State) (b : Reply × Desk Path WriteLog) : Prop :=
  a.1 = b.1 ∧ Depicts a.2 b.2

/-- A scope with a path is there, and the path starts with it. -/
theorem Path.scope_eq {s : Store} {c : ScopeId} {p : Path} (hc : s.chain c = p.chain) :
    p.scope = c ∧ c < s.scopes.size := by
  have hlt : c < s.scopes.size := Store.lt_of_mem_chain (i := p.scope) (by simp [hc, Path.chain])
  obtain ⟨outer, houter, -⟩ := Store.chain_eq_cons hlt
  exact ⟨(List.cons.inj (hc.symm.trans houter)).1, hlt⟩

namespace Depicts

variable {d : Desk ScopeId State} {m : Desk Path WriteLog} {c : ScopeId} {p : Path} {τ : State}

theorem holder?_eq (h : Depicts d m) (hc : d.state.store.chain c = p.chain) (x : String) :
    d.state.store.holder? c x = m.state.nearest? p.chain x := by
  unfold Store.holder? WriteLog.nearest?
  rw [hc]
  simp only [Store.holds_eq_isSome_get?, h.slots]

theorem lt_of_mem_handles (h : Depicts d m) (hc : c ∈ d.handles) :
    c < d.state.store.scopes.size := by
  have hmem : d.state.store.chain c ∈ m.handles.map Path.chain := h.handles ▸ List.mem_map_of_mem hc
  obtain ⟨p, -, hp⟩ := List.mem_map.mp hmem
  exact (Path.scope_eq hp.symm).2

theorem give (h : Depicts d m) (hc : d.state.store.chain c = p.chain) :
    SameAnswer (d.give c d.state) (m.give p m.state) := by
  have hlength := congrArg List.length h.handles
  rw [List.length_map, List.length_map] at hlength
  refine ⟨by rw [Desk.give, Desk.give, hlength], ?_, h.scopes, h.slots⟩
  simp only [Desk.give, List.map_append, h.handles, List.map_cons, hc, List.map_nil]

/-- Through a handle, the same happens in both if it does so for every scope and its path. -/
theorem through (h : Depicts d m) {handle : Nat} {f : ScopeId → Reply × Desk ScopeId State}
    {g : Path → Reply × Desk Path WriteLog}
    (hfg : ∀ c p, d.state.store.chain c = p.chain → SameAnswer (f c) (g p)) :
    SameAnswer (d.through handle f) (m.through handle g) := by
  have hat := congrArg (·[handle]?) h.handles
  simp only [List.getElem?_map] at hat
  unfold Desk.through
  cases hd : d.handles[handle]? with
  | none =>
    rw [hd] at hat
    rw [Option.map_eq_none_iff.mp hat.symm]
    exact ⟨rfl, h⟩
  | some c =>
    rw [hd] at hat
    obtain ⟨p, hp, hc⟩ := Option.map_eq_some_iff.mp hat.symm
    rw [hp]
    exact hfg c p hc.symm

theorem push (h : Depicts d m) (i : ScopeId) (hp : p.around = d.state.store.chain i)
    (hscope : p.scope = m.state.scopes) :
    SameAnswer (d.give (d.state.store.push i).1 { d.state with store := (d.state.store.push i).2 })
      (m.give p { m.state with scopes := m.state.scopes + 1 }) := by
  have hdepicts : Depicts ⟨d.handles, { d.state with store := (d.state.store.push i).2 }⟩
      ⟨m.handles, { m.state with scopes := m.state.scopes + 1 }⟩ := by
    refine ⟨?_, ?_, fun j x => (d.state.store.get?_push i j x).trans (h.slots j x)⟩
    · rw [← h.handles]
      refine List.map_congr_left fun c hc => ?_
      exact (Store.chain_push ..).trans (if_neg (Nat.ne_of_lt (h.lt_of_mem_handles hc)))
    · rw [h.scopes]
      exact (d.state.store.size_push i).symm
  refine hdepicts.give ?_
  show (d.state.store.push i).2.chain d.state.store.scopes.size = p.scope :: p.around
  rw [Store.chain_push, if_pos rfl, hp, hscope, h.scopes]

theorem write (h : Depicts d m) {i : ScopeId} {x : String} {v : Value}
    (hw : d.state.store.Writes τ.store i x v) :
    Depicts { d with state := τ } { m with state := m.state.write i x v } := by
  refine ⟨?_, h.scopes.trans hw.size.symm, fun j y => ?_⟩
  · rw [← h.handles]
    exact List.map_congr_left fun c _ => hw.chain c
  · rw [hw.slot, m.state.latest_write, h.slots]

theorem refuse (h : Depicts d m) (hτ : τ.store = d.state.store) : Depicts { d with state := τ } m :=
  ⟨hτ ▸ h.handles, hτ ▸ h.scopes, hτ ▸ h.slots⟩

theorem bind (h : Depicts d m) (hc : d.state.store.chain c = p.chain) (x : String) (v : Value) :
    (storeScoping.bind d.state c x v).1 = (logScoping.bind m.state p x v).1 ∧
      Depicts { d with state := (storeScoping.bind d.state c x v).2 }
        { m with state := (logScoping.bind m.state p x v).2 } := by
  obtain ⟨hscope, hlt⟩ := Path.scope_eq hc
  simp only [storeScoping, logScoping, attempt, ← h.holder?_eq hc x, hscope]
  rcases define_cases d.state hlt x v with ⟨hnone, τ, hτ, hw⟩ | ⟨hsome, τ, hτ, hsame⟩
  · rw [hτ, Store.holder?_eq_none_iff.mpr hnone]
    exact ⟨rfl, h.write hw⟩
  · obtain ⟨i, hi⟩ := Option.isSome_iff_exists.mp (Store.visible_iff.mpr hsome)
    rw [hτ, hi]
    exact ⟨rfl, h.refuse hsame⟩

theorem rebind (h : Depicts d m) (hc : d.state.store.chain c = p.chain) (x : String) (v : Value) :
    (storeScoping.rebind d.state c x v).1 = (logScoping.rebind m.state p x v).1 ∧
      Depicts { d with state := (storeScoping.rebind d.state c x v).2 }
        { m with state := (logScoping.rebind m.state p x v).2 } := by
  simp only [storeScoping, logScoping, attempt, ← h.holder?_eq hc x]
  rcases assign_cases d.state c x v with ⟨i, hi, τ, hτ, hw⟩ | ⟨hnone, τ, hτ, hsame⟩
  · rw [hτ, hi]
    exact ⟨rfl, h.write hw⟩
  · rw [hτ, Store.holder?_eq_none_iff.mpr hnone]
    exact ⟨rfl, h.refuse hsame⟩

theorem pop (h : Depicts d m) (hc : d.state.store.chain c = p.chain) :
    SameAnswer (d.give? (storeScoping.pop? d.state c)) (m.give? (logScoping.pop? m.state p)) := by
  obtain ⟨scope, around⟩ := p
  have htail : (d.state.store.chain c).tail = around := by rw [hc]; rfl
  simp only [storeScoping, logScoping, Store.pop?, htail]
  cases around with
  | nil => exact ⟨rfl, h⟩
  | cons outer rest =>
    have hsplit : d.state.store.chain c = [scope] ++ outer :: rest := hc
    exact h.give (d.state.store.chain_of_append hsplit)

/-- **Every request has the same reply in both.** -/
theorem serve (h : Depicts d m) (r : Request) :
    SameAnswer (storeScoping.serve d r) (logScoping.serve m r) := by
  cases r with
  | root => exact h.push _ (Store.chain_eq_nil (Nat.le_refl _)).symm rfl
  | push handle => exact h.through fun c p hc => h.push c hc.symm rfl
  | pop handle => exact h.through fun c p hc => h.pop hc
  | bind handle x v =>
    refine h.through fun c p hc => ?_
    obtain ⟨hreply, hdepicts⟩ := h.bind hc x v
    exact ⟨congrArg Reply.written hreply, hdepicts⟩
  | rebind handle x v =>
    refine h.through fun c p hc => ?_
    obtain ⟨hreply, hdepicts⟩ := h.rebind hc x v
    exact ⟨congrArg Reply.written hreply, hdepicts⟩
  | lookup handle x =>
    refine h.through fun c p hc => ⟨congrArg Reply.found ?_, h⟩
    simp only [storeScoping, logScoping, Store.lookup, h.holder?_eq hc, h.slots]
  | contains handle x =>
    refine h.through fun c p hc => ⟨congrArg Reply.visible ?_, h⟩
    simp only [storeScoping, logScoping, Store.visible, h.holder?_eq hc]

/-- **Requests one after the other have the same replies in both.** -/
theorem serveAll (h : Depicts d m) (requests : List Request) :
    (storeScoping.serveAll d requests).1 = (logScoping.serveAll m requests).1 ∧
      Depicts (storeScoping.serveAll d requests).2 (logScoping.serveAll m requests).2 := by
  induction requests generalizing d m with
  | nil => exact ⟨rfl, h⟩
  | cons r rest ih =>
    obtain ⟨hreply, hnext⟩ := h.serve r
    obtain ⟨hreplies, hlast⟩ := ih hnext
    exact ⟨by simp only [Scoping.serveAll, hreply, hreplies], hlast⟩

end Depicts

/-! ## Main result -/

/-- What a scope allows for in a state: when names can be bound and assigned through it, what these
writes change, and that leaving a new scope inside it leads back to it. -/
structure ScopeLaws (σ : State) (c : ScopeId) : Prop where
  bind : ∀ x v, match define c x v σ with
    | .ok _ τ => (∀ i ∈ σ.store.chain c, σ.store.holds i x = false) ∧ σ.store.Writes τ.store c x v
    | .failed e τ => (∃ i ∈ σ.store.chain c, σ.store.holds i x = true) ∧ e = .alreadyBound x ∧
      τ.store = σ.store
    | _ => False
  rebind : ∀ x v, match assign c x v σ with
    | .ok _ τ => ∃ i, σ.store.holder? c x = some i ∧ σ.store.Writes τ.store i x v
    | .failed e τ => (∀ i ∈ σ.store.chain c, σ.store.holds i x = false) ∧
      e = .notBound x v.inspect ∧ τ.store = σ.store
    | _ => False
  pop_push : (σ.store.push c).2.pop? (σ.store.push c).1 = some c ∧
    (σ.store.push c).2.chain c = σ.store.chain c ∧
    ∀ i x, (σ.store.push c).2.get? i x = σ.store.get? i x

theorem scopeLaws {σ : State} {c : ScopeId} (hc : c < σ.store.scopes.size) : ScopeLaws σ c := by
  refine ⟨fun x v => ?_, fun x v => ?_, ?_, ?_, σ.store.get?_push c⟩
  · rcases define_cases σ hc x v with ⟨hnone, τ, hτ, hw⟩ | ⟨hsome, τ, hτ, hsame⟩
    · rw [hτ]
      exact ⟨hnone, hw⟩
    · rw [hτ]
      exact ⟨hsome, rfl, hsame⟩
  · rcases assign_cases σ c x v with ⟨i, hi, τ, hτ, hw⟩ | ⟨hnone, τ, hτ, hsame⟩
    · rw [hτ]
      exact ⟨i, hi, hw⟩
    · rw [hτ]
      exact ⟨hnone, rfl, hsame⟩
  · obtain ⟨outer, houter, -⟩ := Store.chain_eq_cons hc
    show ((σ.store.push c).2.chain σ.store.scopes.size).tail.head? = some c
    rw [Store.chain_push, if_pos rfl, houter]
    rfl
  · rw [Store.chain_push, if_neg (Nat.ne_of_lt hc)]

/-- **Environments refine a map per scope.** Requests of any kind, through any handles and in any
order, have the same replies from the store as from the log of the writes that were not refused.
Afterwards the handles stand for the same chains of scopes in both, and a slot holds the value that
was written to it last, so a look-up gives the last value written to the nearest scope that holds the
name. Through every handle, names are bound and assigned by the `ScopeLaws`. -/
theorem environments_refine_maps (requests : List Request) :
    let real := storeScoping.serveAll ⟨[], .empty⟩ requests
    let ideal := logScoping.serveAll ⟨[], ⟨0, []⟩⟩ requests
    let σ := real.2.state
    real.1 = ideal.1 ∧
    real.2.handles.map σ.store.chain = ideal.2.handles.map Path.chain ∧
    (∀ i x, σ.store.get? i x = ideal.2.state.latest i x) ∧
    (∀ c x, σ.store.lookup c x = (σ.store.holder? c x).bind fun i => ideal.2.state.latest i x) ∧
    ∀ c ∈ real.2.handles, ScopeLaws σ c := by
  intro real ideal σ
  have hstart : Depicts ⟨[], .empty⟩ ⟨[], ⟨0, []⟩⟩ := ⟨rfl, rfl, fun i x => rfl⟩
  obtain ⟨hreplies, hlast⟩ := hstart.serveAll requests
  refine ⟨hreplies, hlast.handles, hlast.slots, fun c x => ?_, fun c hc => ?_⟩
  · exact congrArg (Option.bind _) (funext fun i => hlast.slots i x)
  · exact scopeLaws (hlast.lt_of_mem_handles hc)

/-- A name is bound in a scope and then in the one around it: each handle sees its own, and an
assignment changes the nearer one only. -/
example : (storeScoping.serveAll ⟨[], .empty⟩ [.root, .push 0, .bind 1 "x" (.int 1),
    .bind 0 "x" (.int 2), .rebind 1 "x" (.int 3), .bind 1 "x" .nil, .lookup 1 "x", .lookup 0 "x"]).1 =
    [.handle (some 0), .handle (some 1), .written none, .written none, .written none,
      .written (some (.alreadyBound "x")), .found (some (.int 3)), .found (some (.int 2))] := by
  rfl

end CurryLang
