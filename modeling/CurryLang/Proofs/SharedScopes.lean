import CurryLang.Proofs.FirstOrder
import CurryLang.Proofs.Numbering

/-!
# Two sessions that share scopes

Two sessions start from states that have some scopes in common, under the same numbers, and may
differ in everything else. What they make later is numbered from different numbers on, but in the
same order.

1. What a value refers to by its functions: the scopes that it captures and the names in its code.
2. `Overlap`: where the sessions start, the scopes in common, and the names that programs may use.
   A shared scope stands for itself, and so does an object from before; the `k`-th new scope or
   object of one session stands for the `k`-th one of the other.
3. `Overlap.Matches σ τ`: chains of corresponding scopes correspond, and so do the values of their
   names, if programs may use these. The slots of all other names are what they were at the start.
4. This is a correspondence (`Overlap.correspondence`), so every program ends in corresponding ways
   in both sessions (`Overlap.sameEnd_program`).
-/

namespace CurryLang

open Eval

/-! ## Searching along corresponding chains -/

section Search

variable {R : ScopeId → ScopeId → Prop} {S : Value → Value → Prop} {l m : List ScopeId}

theorem rel_findSome?_of_forall₂ {f g : ScopeId → Option Value} (h : List.Forall₂ R l m)
    (hfg : ∀ i j, R i j → Option.Rel S (f i) (g j)) :
    Option.Rel S (l.findSome? f) (m.findSome? g) := by
  induction h with
  | nil => exact .none
  | @cons i j l m hij _ ih =>
    have hfirst := hfg i j hij
    rw [List.findSome?_cons, List.findSome?_cons]
    generalize f i = a, g j = b at hfirst
    cases hfirst with
    | some hv => exact .some hv
    | none => exact ih

theorem rel_find?_of_forall₂ {p q : ScopeId → Bool} (h : List.Forall₂ R l m)
    (hpq : ∀ i j, R i j → p i = q j) : Option.Rel R (l.find? p) (m.find? q) := by
  induction h with
  | nil => exact .none
  | @cons i j l m hij _ ih =>
    rw [List.find?_cons, List.find?_cons, hpq i j hij]
    cases q j with
    | true => exact .some hij
    | false => exact ih

end Search

/-! ## What functions in values refer to -/

/-- The value has a function in it that was written in the scope, or a partial application whose
arguments are bound there. -/
inductive Value.Captures : Value → ScopeId → Prop where
  | function (f : Closure) : Captures (.function f) f.env
  | curried (f : Curried) : Captures (.curried f) f.env
  | element {id : ObjectId} {vs : List Value} {v : Value} {c : ScopeId} (hv : v ∈ vs)
    (h : Captures v c) : Captures (.array id vs) c
  | returning {v : Value} {c : ScopeId} (h : Captures v c) : Captures (.returning v) c

theorem Value.Captures.lt {v : Value} {c : ScopeId} (h : v.Captures c) {scopes objects : Nat}
    (hv : v.Numbered scopes objects) : c < scopes := by
  induction h with
  | function f =>
    cases hv with
    | function _ henv => exact henv
  | curried f =>
    cases hv with
    | curried _ henv => exact henv
  | element hmem _ ih =>
    cases hv with
    | array _ hs => exact ih (hs _ hmem)
  | returning _ ih =>
    cases hv with
    | returning hv => exact ih hv

/-- The names in the functions of the value have the property: their code and the parameters that they
still wait for. -/
inductive Value.Names (P : String → Prop) : Value → Prop where
  | int (n : Int64) : Names P (.int n)
  | str (id : ObjectId) (text : String) : Names P (.str id text)
  | bool (b : Bool) : Names P (.bool b)
  | nil : Names P .nil
  | array {id : ObjectId} {vs : List Value} (h : ∀ v ∈ vs, Names P v) : Names P (.array id vs)
  | function {f : Closure} (h : ∀ x ∈ f.parameters, P x) (hbody : Statement.NamesAll P f.body) :
    Names P (.function f)
  | curried {f : Curried} (h : ∀ x ∈ f.remaining, P x)
    (hbody : Statement.NamesAll P f.function.body) : Names P (.curried f)
  | builtin (b : Builtin) : Names P (.builtin b)
  | returning {v : Value} (h : Names P v) : Names P (.returning v)
  | error (e : RuntimeError) : Names P (.error e)

theorem Value.names_of_forall {P : String → Prop} (h : ∀ x, P x) : (v : Value) → v.Names P
  | .int n => .int n
  | .str id text => .str id text
  | .bool b => .bool b
  | .nil => .nil
  | .array _ vs => .array fun v _ => v.names_of_forall h
  | .function f => .function (fun x _ => h x) (Statement.namesAll_of_forall h f.body)
  | .curried f => .curried (fun x _ => h x) (Statement.namesAll_of_forall h f.function.body)
  | .builtin b => .builtin b
  | .returning v => .returning (v.names_of_forall h)
  | .error e => .error e

/-! ## What stands for what -/

/-- The number `i` comes as far behind `n` as `j` comes behind `m`. -/
def SameStep (n m i j : Nat) : Prop := n ≤ i ∧ m ≤ j ∧ i + m = j + n

theorem SameStep.lt_iff {n m i j k l : Nat} (h : SameStep n m i j) (h' : SameStep n m k l) :
    i < k ↔ j < l := by
  obtain ⟨hi, hj, hstep⟩ := h
  obtain ⟨hk, hl, hstep'⟩ := h'
  omega

/-- Old numbers that stand for themselves and new ones that stand for those of the same step: no
number stands for two. -/
theorem eq_iff_of_pairs {old : Nat → Prop} {n m i j k l : Nat} (hold : ∀ i, old i → i < n ∧ i < m)
    (hij : old i ∧ i = j ∨ SameStep n m i j) (hkl : old k ∧ k = l ∨ SameStep n m k l) :
    i = k ↔ j = l := by
  rcases hij with ⟨hi, rfl⟩ | ⟨hi, hj, hstep⟩ <;> rcases hkl with ⟨hk, rfl⟩ | ⟨hk, hl, hstep'⟩
  · exact Iff.rfl
  · have hlt := hold i hi
    omega
  · have hlt := hold k hk
    omega
  · omega

/-- Two sessions by the states they start from, the scopes that they have in common there, and the
names that programs may use. -/
structure Overlap where
  left : State
  right : State
  shared : ScopeId → Prop
  legal : String → Prop

namespace Overlap

/-- Shared scopes and old objects stand for themselves, new ones for those made in the same step. -/
def pairing (O : Overlap) : Pairing where
  scope i j := O.shared i ∧ i = j ∨
    SameStep O.left.store.scopes.size O.right.store.scopes.size i j
  object i j := (i < O.left.nextObject ∧ i < O.right.nextObject) ∧ i = j ∨
    SameStep O.left.nextObject O.right.nextObject i j
  legal := O.legal

/-- The scopes in common are there when the sessions start. -/
def Sound (O : Overlap) : Prop :=
  ∀ i, O.shared i → i < O.left.store.scopes.size ∧ i < O.right.store.scopes.size

variable {O : Overlap}

theorem scope_shared {i : ScopeId} (h : O.shared i) : O.pairing.scope i i := .inl ⟨h, rfl⟩

theorem object_old {i : ObjectId} (hleft : i < O.left.nextObject) (hright : i < O.right.nextObject) :
    O.pairing.object i i := .inl ⟨⟨hleft, hright⟩, rfl⟩

theorem Sound.scope_iff (hO : O.Sound) {i j k l : ScopeId} (hij : O.pairing.scope i j)
    (hkl : O.pairing.scope k l) : i = k ↔ j = l := eq_iff_of_pairs hO hij hkl

theorem object_iff {i j k l : ObjectId} (hij : O.pairing.object i j)
    (hkl : O.pairing.object k l) : i = k ↔ j = l := eq_iff_of_pairs (fun _ h => h) hij hkl

/-- A value that is there in both sessions stands for itself, if programs may use its names and the
scopes that it captures are shared. -/
theorem like_self {v : Value} (hnames : v.Names O.legal) (hleft : O.left.Has v)
    (hright : O.right.Has v) (hshared : ∀ i, v.Captures i → O.shared i) : v.Like O.pairing v := by
  induction hnames with
  | int n => exact .int n
  | str id text =>
    cases hleft with
    | str h =>
      cases hright with
      | str h' => exact .str (object_old h h') text
  | bool b => exact .bool b
  | nil => exact .nil
  | array _ ih =>
    cases hleft with
    | array h hs =>
      cases hright with
      | array h' hs' =>
        refine .of_likes (object_old h h') (List.forall₂_same.mpr fun w hw => ?_)
        exact ih w hw (hs w hw) (hs' w hw) fun i hi => hshared i (.element hw hi)
  | function hlegal hbody =>
    cases hleft with
    | function h =>
      cases hright with
      | function h' =>
        exact .function ⟨object_old h h', rfl, rfl, scope_shared (hshared _ (.function _)), hlegal,
          hbody⟩
  | curried hlegal hbody =>
    cases hleft with
    | curried h =>
      cases hright with
      | curried h' =>
        exact .curried ⟨object_old h h', rfl, rfl, scope_shared (hshared _ (.curried _)), hlegal,
          hbody⟩
  | builtin b => exact .builtin b
  | returning _ ih =>
    cases hleft with
    | returning hleft =>
      cases hright with
      | returning hright =>
        exact .returning (ih hleft hright fun i hi => hshared i (.returning hi))
  | error e => exact .error e

/-! ## States that match -/

/-- The sessions have come from their starts to `σ` and `τ` in the same steps. -/
structure Matches (O : Overlap) (σ τ : State) : Prop where
  scopes : SameStep O.left.store.scopes.size O.right.store.scopes.size
    σ.store.scopes.size τ.store.scopes.size
  objects : SameStep O.left.nextObject O.right.nextObject σ.nextObject τ.nextObject
  printed : ∃ lines, σ.printed = lines ++ O.left.printed ∧ τ.printed = lines ++ O.right.printed
  chain : ∀ i j, O.pairing.scope i j →
    List.Forall₂ O.pairing.scope (σ.store.chain i) (τ.store.chain j)
  slots : ∀ i j, O.pairing.scope i j → ∀ x, O.legal x →
    Option.Rel (Value.Like O.pairing) (σ.store.get? i x) (τ.store.get? j x)
  others : ∀ x, ¬ O.legal x → ∀ i, σ.store.get? i x = O.left.store.get? i x ∧
    τ.store.get? i x = O.right.store.get? i x

namespace Matches

variable {σ τ : State} {c d : ScopeId} {x : String} {v w : Value}

theorem size_pair (h : O.Matches σ τ) :
    O.pairing.scope σ.store.scopes.size τ.store.scopes.size := .inr h.scopes

/-- The starting states match, if the shared scopes have corresponding chains and values. -/
theorem of_shared
    (hchain : ∀ i, O.shared i → O.right.store.chain i = O.left.store.chain i ∧
      ∀ j ∈ O.left.store.chain i, O.shared j)
    (hslots : ∀ i, O.shared i → ∀ x, O.legal x → Option.Rel (Value.Like O.pairing)
      (O.left.store.get? i x) (O.right.store.get? i x)) : O.Matches O.left O.right where
  scopes := ⟨Nat.le_refl _, Nat.le_refl _, Nat.add_comm ..⟩
  objects := ⟨Nat.le_refl _, Nat.le_refl _, Nat.add_comm ..⟩
  printed := ⟨[], rfl, rfl⟩
  chain i j hij := by
    rcases hij with ⟨hi, rfl⟩ | ⟨hleft, hright, -⟩
    · obtain ⟨heq, hshared⟩ := hchain i hi
      rw [heq]
      exact List.forall₂_same.mpr fun j hj => scope_shared (hshared j hj)
    · rw [Store.chain_eq_nil hleft, Store.chain_eq_nil hright]
      exact .nil
  slots i j hij x hx := by
    rcases hij with ⟨hi, rfl⟩ | ⟨hleft, hright, -⟩
    · exact hslots i hi x hx
    · rw [Store.get?_eq_none hleft, Store.get?_eq_none hright]
      exact .none
  others x _ i := ⟨rfl, rfl⟩

theorem lookup (h : O.Matches σ τ) (hcd : O.pairing.scope c d) (hx : O.legal x) :
    Option.Rel (Value.Like O.pairing) (σ.store.lookup c x) (τ.store.lookup d x) := by
  rw [Store.lookup_eq_findSome?, Store.lookup_eq_findSome?]
  exact rel_findSome?_of_forall₂ (h.chain c d hcd) fun i j hij => h.slots i j hij x hx

theorem holds_eq (h : O.Matches σ τ) (hcd : O.pairing.scope c d) (hx : O.legal x) :
    σ.store.holds c x = τ.store.holds d x := by
  have hslot := h.slots c d hcd x hx
  rw [Store.holds_eq_isSome_get?, Store.holds_eq_isSome_get?]
  generalize σ.store.get? c x = a, τ.store.get? d x = b at hslot
  cases hslot <;> rfl

theorem holder_pair (h : O.Matches σ τ) (hcd : O.pairing.scope c d) (hx : O.legal x)
    {i j : ScopeId} (hi : σ.store.holder? c x = some i) (hj : τ.store.holder? d x = some j) :
    O.pairing.scope i j := by
  have hfound := rel_find?_of_forall₂ (h.chain c d hcd) fun i j hij => h.holds_eq hij hx
  unfold Store.holder? at hi hj
  rw [hi, hj] at hfound
  cases hfound with
  | some hij => exact hij

theorem nest (hO : O.Sound) (h : O.Matches σ τ) (hcd : O.pairing.scope c d) :
    O.Matches (σ.nest c) (τ.nest d) where
  scopes := by
    obtain ⟨hleft, hright, hstep⟩ := h.scopes
    rw [State.nest, State.nest, Store.size_push, Store.size_push]
    exact ⟨by omega, by omega, by omega⟩
  objects := h.objects
  printed := h.printed
  chain i j hij := by
    have hnew := hO.scope_iff hij h.size_pair
    rw [State.nest, State.nest, Store.chain_push, Store.chain_push]
    by_cases hi : i = σ.store.scopes.size
    · rw [if_pos hi, if_pos (hnew.mp hi)]
      exact .cons hij (h.chain c d hcd)
    · rw [if_neg hi, if_neg (mt hnew.mpr hi)]
      exact h.chain i j hij
  slots i j hij x hx := by
    rw [State.nest, State.nest, Store.get?_push, Store.get?_push]
    exact h.slots i j hij x hx
  others x hx i := by
    rw [State.nest, State.nest, Store.get?_push, Store.get?_push]
    exact h.others x hx i

theorem lt_iff (hO : O.Sound) (h : O.Matches σ τ) (hcd : O.pairing.scope c d) :
    c < σ.store.scopes.size ↔ d < τ.store.scopes.size := by
  rcases hcd with ⟨hshared, rfl⟩ | hstep
  · obtain ⟨hlt, hlt'⟩ := hO c hshared
    exact iff_of_true (Nat.lt_of_lt_of_le hlt h.scopes.1) (Nat.lt_of_lt_of_le hlt' h.scopes.2.1)
  · exact hstep.lt_iff h.scopes

theorem insert (hO : O.Sound) (h : O.Matches σ τ) (hcd : O.pairing.scope c d) (hx : O.legal x)
    (hv : v.Like O.pairing w) :
    O.Matches { σ with store := σ.store.insert c x v } { τ with store := τ.store.insert d x w } where
  scopes := by
    rw [Store.size_insert, Store.size_insert]
    exact h.scopes
  objects := h.objects
  printed := h.printed
  chain i j hij := by
    rw [Store.chain_insert, Store.chain_insert]
    exact h.chain i j hij
  slots i j hij y hy := by
    rw [Store.get?_insert, Store.get?_insert]
    by_cases hhit : i = c ∧ y = x ∧ c < σ.store.scopes.size
    · have hhit' : j = d ∧ y = x ∧ d < τ.store.scopes.size :=
        ⟨(hO.scope_iff hij hcd).mp hhit.1, hhit.2.1, (h.lt_iff hO hcd).mp hhit.2.2⟩
      rw [if_pos hhit, if_pos hhit']
      exact .some hv
    · have hmiss : ¬ (j = d ∧ y = x ∧ d < τ.store.scopes.size) := by
        rintro ⟨hj, hy, hd⟩
        exact hhit ⟨(hO.scope_iff hij hcd).mpr hj, hy, (h.lt_iff hO hcd).mpr hd⟩
      rw [if_neg hhit, if_neg hmiss]
      exact h.slots i j hij y hy
  others y hy i := by
    have hne : y ≠ x := fun heq => hy (heq ▸ hx)
    rw [Store.get?_insert, Store.get?_insert, if_neg fun hhit => hne hhit.2.1,
      if_neg fun hhit => hne hhit.2.1]
    exact h.others y hy i

theorem replace (hO : O.Sound) (h : O.Matches σ τ) (hcd : O.pairing.scope c d) (hx : O.legal x)
    (hv : v.Like O.pairing w) :
    O.Matches { σ with store := σ.store.replace c x v }
      { τ with store := τ.store.replace d x w } where
  scopes := by
    rw [Store.size_replace, Store.size_replace]
    exact h.scopes
  objects := h.objects
  printed := h.printed
  chain i j hij := by
    rw [Store.chain_replace, Store.chain_replace]
    exact h.chain i j hij
  slots i j hij y hy := by
    rw [Store.get?_replace, Store.get?_replace]
    by_cases hhit : i = c ∧ y = x
    · rw [if_pos hhit, if_pos ⟨(hO.scope_iff hij hcd).mp hhit.1, hhit.2⟩]
      have hslot := h.slots c d hcd x hx
      generalize σ.store.get? c x = a, τ.store.get? d x = b at hslot
      cases hslot with
      | some _ => exact .some hv
      | none => exact .none
    · have hmiss : ¬ (j = d ∧ y = x) := fun hj => hhit ⟨(hO.scope_iff hij hcd).mpr hj.1, hj.2⟩
      rw [if_neg hhit, if_neg hmiss]
      exact h.slots i j hij y hy
  others y hy i := by
    have hne : y ≠ x := fun heq => hy (heq ▸ hx)
    rw [Store.get?_replace, Store.get?_replace, if_neg fun hhit => hne hhit.2,
      if_neg fun hhit => hne hhit.2]
    exact h.others y hy i

end Matches

/-- Evaluations run in step in two sessions that share scopes. -/
def correspondence (O : Overlap) (hO : O.Sound) : Correspondence where
  toPairing := O.pairing
  state := O.Matches
  object_iff := object_iff
  note e h := { h with }
  print line h := by
    obtain ⟨lines, hleft, hright⟩ := h.printed
    exact { h with
      printed := ⟨line :: lines, congrArg (line :: ·) hleft, congrArg (line :: ·) hright⟩ }
  allot h := by
    obtain ⟨hleft, hright, hstep⟩ := h.objects
    refine ⟨{ h with objects := ⟨Nat.le_succ_of_le hleft, Nat.le_succ_of_le hright, ?_⟩ },
      .inr ⟨hleft, hright, hstep⟩⟩
    simp only [State.allot]
    omega
  nest h hcd := ⟨h.nest hO hcd, h.size_pair⟩
  lookup h hcd hx := h.lookup hcd hx
  define h hcd hx hv _ _ := h.insert hO hcd hx hv
  assign h hcd hx hv hi hj := h.replace hO (h.holder_pair hcd hx hi hj) hx hv

/-- Two programs end in corresponding ways: in matching states, with values that stand for each
other or with the same failure, or both not at all. -/
inductive SameEnd (O : Overlap) : Outcome Value → Outcome Value → Prop where
  | ok {v w : Value} {σ τ : State} (hvw : v.Like O.pairing w) (hστ : O.Matches σ τ) :
    SameEnd O (.ok v σ) (.ok w τ)
  | failed (e : RuntimeError) {σ τ : State} (hστ : O.Matches σ τ) :
    SameEnd O (.failed e σ) (.failed e τ)
  | exhausted : SameEnd O .exhausted .exhausted

/-- **A program runs in step in two sessions that match.** -/
theorem sameEnd_program (hO : O.Sound) (depth : Nat) {p : Program}
    (hp : Statement.NamesAll O.legal p) {c d : ScopeId} (hcd : O.pairing.scope c d) {σ τ : State}
    (h : O.Matches σ τ) : O.SameEnd (p.eval (bodies depth) c σ) (p.eval (bodies depth) d τ) := by
  have hblock : (O.correspondence hO).Agree (Value.Like O.pairing)
      (Statement.evalFrom (bodies depth) c .nil p) (Statement.evalFrom (bodies depth) d .nil p) :=
    Correspondence.agree_from ((O.correspondence hO).runs_bodies depth) p c d hp hcd .nil
  have hends := hblock σ τ h
  unfold Program.eval Block.eval catchReturn
  generalize Statement.evalFrom (bodies depth) c .nil p σ = r,
    Statement.evalFrom (bodies depth) d .nil p τ = s at hends
  cases hends with
  | ok hvw hστ => exact .ok hvw hστ
  | returned hvw hστ => exact .ok hvw hστ
  | failed e hστ => exact .failed e hστ
  | exhausted => exact .exhausted

end Overlap

end CurryLang
