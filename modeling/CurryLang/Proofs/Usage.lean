import CurryLang.Proofs.Application
import CurryLang.Proofs.Subterms

/-!
# What an evaluation may use

Properties of evaluations are stated on worlds, which are states with a record beside them. The
record may be empty, or a proof that the state is sound, or a list of what was made so far. A usage
says which values may be used in a world, and why the world can be carried on when something is
reported or an object is made.

1. `Reaches` says that some later world has a given state, `Keeps` that an evaluation reaches the
   state it ends in, which goes from one action to the next (`Keeps.bind`).
2. A fragment of the language restricts the expressions, the texts of strings, and whether there are
   calls. Without calls every evaluation ends.
3. Operators, indexing and built-in functions keep every usage.
-/

namespace CurryLang

open Eval

/-- The state with the number of the next object given away. -/
def State.allot (σ : State) : State := { σ with nextObject := σ.nextObject + 1 }

/-- The state with a new scope inside scope `c`. -/
def State.nest (σ : State) (c : ScopeId) : State := { σ with store := (σ.store.push c).2 }

/-- The state an evaluation leaves behind, if it ends. -/
def Outcome.state? {α : Type} : Outcome α → Option State
  | .ok _ τ => some τ
  | .returned _ τ => some τ
  | .failed _ τ => some τ
  | .exhausted => none

/-! ## Worlds -/

/-- States with a record beside them, and which of them come later, when names may be bound in one of
the old scopes. -/
structure Ledger where
  World : Type
  state : World → State
  leads : Option ScopeId → World → World → Prop
  leads_refl : ∀ {w}, leads none w w
  leads_trans : ∀ {o u v w}, leads o u v → leads o v w → leads o u w
  leads_of_none : ∀ {o w w'}, leads none w w' → leads o w w'

namespace Ledger

variable {L : Ledger} {o p : Option ScopeId} {w w' : L.World} {τ : State} {P Q : L.World → Prop}

/-- A later world has the state `τ` and the property `Q`. -/
def Reaches (L : Ledger) (o : Option ScopeId) (w : L.World) (τ : State) (Q : L.World → Prop) : Prop :=
  ∃ w', L.state w' = τ ∧ L.leads o w w' ∧ Q w'

/-- A world has the state `τ` with a new scope, and the property `Q`. Names that are bound in the new
scope from then on are bound in no old one. -/
def Opens (L : Ledger) (w : L.World) (τ : State) (Q : L.World → Prop) : Prop :=
  ∃ w', L.state w' = τ ∧ Q w' ∧
    ∀ w'', L.leads (some (L.state w).store.scopes.size) w' w'' → L.leads none w w''

theorem reaches_self (h : Q w) : L.Reaches o w (L.state w) Q :=
  ⟨w, rfl, L.leads_of_none L.leads_refl, h⟩

theorem Reaches.imp (h : L.Reaches p w' τ P) (hlead : ∀ w'', L.leads p w' w'' → L.leads o w w'')
    (hPQ : ∀ w'', P w'' → Q w'') : L.Reaches o w τ Q := by
  obtain ⟨w'', hstate, hlater, hP⟩ := h
  exact ⟨w'', hstate, hlead w'' hlater, hPQ w'' hP⟩

theorem Reaches.loosen (h : L.Reaches none w τ Q) : L.Reaches o w τ Q :=
  h.imp (fun _ => L.leads_of_none) fun _ hQ => hQ

/-- Where it does not matter in which scope names are bound, it does not matter in a new one. -/
theorem Reaches.opens (h : L.Reaches none w τ Q)
    (hleads : ∀ {o u v}, L.leads o u v → L.leads none u v) : L.Opens w τ Q := by
  obtain ⟨w', hstate, hlead, hQ⟩ := h
  exact ⟨w', hstate, hQ, fun _ hlater => L.leads_trans hlead (hleads hlater)⟩

end Ledger

/-! ## Usages -/

/-- A class of expressions that holds the parts of what it holds, with the texts that strings may
have, and whether anything is called. -/
structure Fragment where
  code : Expr → Prop
  text : String → Prop
  calls : Prop
  part : ∀ {e}, code e → ∀ e' ∈ e.parts, code e'
  literal : ∀ {t}, code (.str t) → text t
  numeral : ∀ n : Int64, text (Decimal.ofInt64 n)
  join : ∀ {a b}, text a → text b → text (a ++ b)
  call : ∀ {f es}, code (.call f es) → calls

def Fragment.full : Fragment where
  code _ := True
  text _ := True
  calls := True
  part _ _ _ := trivial
  literal _ := trivial
  numeral _ := trivial
  join _ _ := trivial
  call _ := trivial

/-- What may be used in which world, and how reporting and making objects carries the record on. -/
structure Usage extends Ledger, Fragment where
  /-- The values that may be used in a world. -/
  good : World → Value → Prop
  good_mono : ∀ {o w w' v}, leads o w w' → good w v → good w' v
  good_int : ∀ {w n}, good w (.int n)
  good_bool : ∀ {w b}, good w (.bool b)
  good_nil : ∀ {w}, good w .nil
  good_builtin : ∀ {w b}, good w (.builtin b)
  good_text : ∀ {w id t}, good w (.str id t) → text t
  element : ∀ {w id vs v}, good w (.array id vs) → v ∈ vs → good w v
  returning : ∀ {w v}, good w (.returning v) → good w v
  report : ∀ {w} events, toLedger.Reaches none w { state w with events } fun _ => True
  emit : ∀ {w} line, calls → toLedger.Reaches none w
    { state w with printed := line :: (state w).printed } fun _ => True
  new_str : ∀ {w t}, text t → toLedger.Reaches none w (state w).allot
    fun w' => good w' (.str (state w).nextObject t)
  new_array : ∀ {w vs}, (∀ v ∈ vs, good w v) → toLedger.Reaches none w (state w).allot
    fun w' => good w' (.array (state w).nextObject vs)

namespace Usage

variable {U : Usage} {o p : Option ScopeId} {w w' : U.World} {c : ScopeId} {v : Value}
variable {vs : List Value} {α β : Type} {Q : U.World → α → Prop} {R : U.World → Value → Prop}

/-- An evaluation from `w` may end this way: the state that it leaves behind is reached, with the
property `Q` for a result and `R` for a returned value. -/
def Ends (U : Usage) (o : Option ScopeId) (w : U.World) (Q : U.World → α → Prop)
    (R : U.World → Value → Prop) : Outcome α → Prop
  | .ok a τ => U.Reaches o w τ fun w' => Q w' a
  | .returned v τ => U.Reaches o w τ fun w' => R w' v
  | .failed _ τ => U.Reaches o w τ fun _ => True
  | .exhausted => U.calls

/-- An evaluation that starts at `w` carries the record on to its end. -/
def Keeps (U : Usage) (o : Option ScopeId) (w : U.World) (x : Eval α) (Q : U.World → α → Prop)
    (R : U.World → Value → Prop) : Prop :=
  U.Ends o w Q R (x (U.state w))

/-! ## Through the monad -/

/-- Seen from an earlier world, an evaluation ends the same way. -/
theorem Ends.imp {P : U.World → α → Prop} {S : U.World → Value → Prop} {r : Outcome α}
    (h : U.Ends p w' P S r) (hlead : ∀ w'', U.leads p w' w'' → U.leads o w w'')
    (hPQ : ∀ w'' a, P w'' a → Q w'' a) (hSR : ∀ w'' v, S w'' v → R w'' v) : U.Ends o w Q R r := by
  cases r with
  | ok a τ => exact Ledger.Reaches.imp h hlead fun w'' => hPQ w'' a
  | returned v τ => exact Ledger.Reaches.imp h hlead fun w'' => hSR w'' v
  | failed e τ => exact Ledger.Reaches.imp h hlead fun _ => id
  | exhausted => exact h

theorem Ends.earlier {r : Outcome α} (h : U.Ends o w' Q R r) (hlead : U.leads o w w') :
    U.Ends o w Q R r :=
  h.imp (fun _ => U.leads_trans hlead) (fun _ _ => id) fun _ _ => id

theorem Ends.of_state? {r : Outcome α} {τ : State} (h : U.Ends o w Q R r)
    (hr : r.state? = some τ) : U.Reaches o w τ fun _ => True := by
  cases r with
  | ok a υ => exact Option.some.inj hr ▸ Ledger.Reaches.imp h (fun _ => id) fun _ _ => trivial
  | returned v υ => exact Option.some.inj hr ▸ Ledger.Reaches.imp h (fun _ => id) fun _ _ => trivial
  | failed e υ => exact Option.some.inj hr ▸ h
  | exhausted => cases hr

theorem keeps_pure {a : α} (h : Q w a) : U.Keeps o w (pure a) Q R := Ledger.reaches_self h

theorem keeps_fail (e : RuntimeError) : U.Keeps o w (fail e) Q R := Ledger.reaches_self trivial

theorem keeps_give (hv : R w v) : U.Keeps o w (give v) Q R := Ledger.reaches_self hv

theorem Keeps.bind {x : Eval α} {f : α → Eval β} {P : U.World → α → Prop} {Q : U.World → β → Prop}
    (hx : U.Keeps o w x P R) (hf : ∀ a w', U.leads o w w' → P w' a → U.Keeps o w' (f a) Q R) :
    U.Keeps o w (x >>= f) Q R := by
  have h : U.Ends o w P R (x (U.state w)) := hx
  show U.Ends o w Q R ((x >>= f) (U.state w))
  rw [bind_apply]
  cases hr : x (U.state w) with
  | ok a τ =>
    rw [hr] at h
    obtain ⟨w', rfl, hlead, ha⟩ := h
    exact (hf a w' hlead ha).earlier hlead
  | returned v τ => rwa [hr] at h
  | failed e τ => rwa [hr] at h
  | exhausted => rwa [hr] at h

theorem Keeps.loosen {x : Eval α} (h : U.Keeps none w x Q R) : U.Keeps o w x Q R :=
  Ends.imp h (fun _ => U.leads_of_none) (fun _ _ => id) fun _ _ => id

theorem Keeps.catchReturn {x : Eval Value} (hx : U.Keeps o w x U.good U.good) :
    U.Keeps o w (catchReturn x) U.good R := by
  have h : U.Ends o w U.good U.good (x (U.state w)) := hx
  show U.Ends o w U.good R (Eval.catchReturn x (U.state w))
  unfold Eval.catchReturn
  cases hr : x (U.state w) <;> rwa [hr] at h

theorem keeps_settle (hv : U.good w v) : U.Keeps o w (settle v) U.good U.good := by
  cases v with
  | returning u => exact keeps_give (U.returning hv)
  | _ => exact keeps_pure hv

/-! ## Reports and objects -/

theorem keeps_note (e : Event) : U.Keeps o w (note e) (fun _ _ => True) R :=
  (U.report _).loosen

theorem keeps_print (hcalls : U.calls) (line : String) :
    U.Keeps o w (print line) (fun _ _ => True) R :=
  (U.emit line hcalls).loosen

/-- A new object may be used if it may once its number is given away. -/
theorem keeps_new {make : ObjectId → Value}
    (h : U.Reaches none w (U.state w).allot fun w' => U.good w' (make (U.state w).nextObject)) :
    U.Keeps o w (newObject >>= fun id => pure (make id)) U.good R :=
  h.loosen

theorem keeps_newString {text : String} (h : U.text text) :
    U.Keeps o w (newString text) U.good R :=
  keeps_new (U.new_str h)

theorem keeps_newArray (h : ∀ v ∈ vs, U.good w v) : U.Keeps o w (newArray vs) U.good R :=
  keeps_new (U.new_array h)

theorem keeps_resolve {x : String}
    (h : ∀ v, (U.state w).store.lookup c x = some v → U.good w v) :
    U.Keeps o w (resolve c x) U.good U.good := by
  have hlookup : U.Keeps o w (Eval.lookup c x) (fun w' r => ∀ v, r = some v → U.good w' v) U.good :=
    Ledger.reaches_self h
  apply hlookup.bind
  intro r w' _ hr
  cases r with
  | some v => exact keeps_settle (hr v rfl)
  | none =>
    dsimp only
    cases Builtin.ofName? x with
    | some b => exact keeps_pure U.good_builtin
    | none => exact keeps_fail _

/-! ## Operators, indexing and built-in functions -/

theorem keeps_unary (op : UnaryOp) (v : Value) : U.Keeps o w (op.apply v) U.good R := by
  unfold UnaryOp.apply
  split
  · exact keeps_pure U.good_bool
  · exact keeps_pure U.good_int
  · exact keeps_pure U.good_int
  · exact keeps_fail _

theorem keeps_onIntegers (op : BinaryOp) (a b : Int64) :
    U.Keeps o w (op.onIntegers a b) U.good R := by
  cases op with
  | div =>
    unfold BinaryOp.onIntegers
    dsimp only
    split
    · exact keeps_fail _
    · exact keeps_pure U.good_int
  | add | sub | mul => exact keeps_pure U.good_int
  | less | greater | equal | notEqual => exact keeps_pure U.good_bool

theorem keeps_onTexts (op : BinaryOp) {a b : String} (ha : U.text a) (hb : U.text b) :
    U.Keeps o w (op.onTexts a b) U.good R := by
  cases op with
  | add => exact keeps_newString (U.join ha hb)
  | equal | notEqual => exact keeps_pure U.good_bool
  | sub | mul | div | less | greater => exact keeps_fail _

theorem keeps_onOthers (op : BinaryOp) (l r : Value) : U.Keeps o w (op.onOthers l r) U.good R := by
  unfold BinaryOp.onOthers
  split
  · exact keeps_pure U.good_bool
  · exact keeps_pure U.good_bool
  · split
    · exact keeps_fail _
    · exact keeps_fail _

theorem keeps_binary (op : BinaryOp) {l r : Value} (hl : U.good w l) (hr : U.good w r) :
    U.Keeps o w (op.apply l r) U.good R := by
  unfold BinaryOp.apply
  split
  · exact keeps_onIntegers op _ _
  · exact keeps_onTexts op (U.good_text hl) (U.good_text hr)
  · exact keeps_onOthers op _ _

theorem good_getD {id : ObjectId} {r : Option Value} (h : U.good w (.array id vs))
    (hr : ∀ v, r = some v → v ∈ vs) : U.good w (r.getD .nil) := by
  cases r with
  | none => exact U.good_nil
  | some v => exact U.element h (hr v rfl)

theorem keeps_index {a : Value} (i : Value) (ha : U.good w a) :
    U.Keeps o w (a.index i) U.good R := by
  unfold Value.index
  split
  · split
    · exact keeps_pure (good_getD ha fun _ => List.mem_of_getElem?)
    · exact keeps_pure U.good_nil
  · exact keeps_fail _
  · exact keeps_fail _

theorem keeps_callOne (hcalls : U.calls) (b : Builtin) (hv : U.good w v) :
    U.Keeps o w (b.callOne v) U.good R := by
  have echo (line : String) : U.Keeps o w (print line >>= fun _ => pure v) U.good R :=
    (keeps_print hcalls line).bind fun _ _ hlead _ => keeps_pure (U.good_mono hlead hv)
  unfold Builtin.callOne
  split
  · exact keeps_pure U.good_int
  · exact keeps_pure U.good_int
  · exact keeps_newString (U.numeral _)
  · exact keeps_pure hv
  · exact echo _
  · exact echo _
  · exact echo _
  · exact echo _
  · rw [List.headD_eq_head?_getD]
    exact keeps_pure (good_getD hv fun _ => List.mem_of_head?)
  · exact keeps_pure U.good_nil
  · exact keeps_newArray fun u hu => U.element hv (List.mem_cons_of_mem _ hu)
  · exact keeps_fail _
  · exact keeps_fail _
  · exact keeps_fail _

theorem keeps_pushOnto {a : Value} (ha : U.good w a) (hv : U.good w v) :
    U.Keeps o w (Builtin.pushOnto a v) U.good R := by
  unfold Builtin.pushOnto
  split
  · refine keeps_newArray fun u hu => ?_
    rcases List.mem_append.mp hu with hu | hu
    · exact U.element ha hu
    · exact List.mem_singleton.mp hu ▸ hv
  · exact keeps_fail _

theorem keeps_builtin (hcalls : U.calls) (b : Builtin) (hvs : ∀ v ∈ vs, U.good w v) :
    U.Keeps o w (b.call vs) U.good R := by
  unfold Builtin.call
  split
  · next a v => exact keeps_pushOnto (hvs a (by simp)) (hvs v (by simp))
  · exact keeps_fail _
  · next v _ => exact keeps_callOne hcalls _ (hvs v (by simp))
  · exact keeps_fail _

end Usage

end CurryLang
