import CurryLang.Proofs.Locality

/-!
# Expressions without calls and assignments

An expression that calls nothing and assigns nothing may still bind names in its branches, return out
of them, make objects and fail. None of this can be seen afterwards: its branches bind in scopes of
their own, and what it makes is new.

1. `Expr.effectFree`: there are no calls and assignments outside the bodies of functions.
2. `σ.Untouched o τ`: from `σ` to `τ` nothing was printed, and no old scope but `o` was changed. For
   such expressions this is a discipline (`purity`), and since nothing is called, they end.
3. So a second evaluation finds the scopes that the first one found. The two run in step
   (`State.sharing_matches`), and what they give holds the same data.
-/

namespace CurryLang

open Eval

/-! ## The fragment -/

mutual

/-- No call and no assignment stands in the expression, except in the body of a function. -/
def Expr.effectFree : Expr → Bool
  | .ident _ | .int _ | .str _ | .bool _ | .nil | .function _ _ => true
  | .array elements => Expr.effectFreeEach elements
  | .unary _ operand => operand.effectFree
  | .binary _ left right => left.effectFree && right.effectFree
  | .ifThen condition consequence =>
    condition.effectFree && Statement.effectFreeEach consequence
  | .ifElse condition consequence alternative =>
    condition.effectFree &&
      (Statement.effectFreeEach consequence && Statement.effectFreeEach alternative)
  | .index collection position => collection.effectFree && position.effectFree
  | .call _ _ | .assign _ _ => false

def Expr.effectFreeEach : List Expr → Bool
  | [] => true
  | e :: es => e.effectFree && Expr.effectFreeEach es

def Statement.effectFree : Statement → Bool
  | .bind _ value => value.effectFree
  | .ret value => value.effectFree
  | .expr value => value.effectFree

def Statement.effectFreeEach : List Statement → Bool
  | [] => true
  | s :: rest => s.effectFree && Statement.effectFreeEach rest

end

section Parts

theorem Expr.effectFreeEach_iff {es : List Expr} :
    Expr.effectFreeEach es = true ↔ ∀ e ∈ es, e.effectFree = true := by
  induction es with
  | nil => exact iff_of_true rfl nofun
  | cons e es ih => rw [Expr.effectFreeEach, Bool.and_eq_true, ih, List.forall_mem_cons]

theorem Statement.effectFree_eq (s : Statement) : s.effectFree = s.value.effectFree := by
  cases s <;> rfl

theorem Statement.effectFreeEach_iff {ss : List Statement} :
    Statement.effectFreeEach ss = true ↔ ∀ s ∈ ss, s.value.effectFree = true := by
  induction ss with
  | nil => exact iff_of_true rfl nofun
  | cons s ss ih =>
    rw [Statement.effectFreeEach, Bool.and_eq_true, ih, List.forall_mem_cons, s.effectFree_eq]

theorem Expr.effectFree_of_mem_parts {e : Expr} (h : e.effectFree = true) :
    ∀ e' ∈ e.parts, e'.effectFree = true := by
  cases e with
  | ident _ | int _ | str _ | bool _ | nil | function _ _ => exact nofun
  | array es => exact Expr.effectFreeEach_iff.mp h
  | unary _ e => exact List.forall_mem_singleton.mpr h
  | call _ _ | assign _ _ => cases h
  | _ =>
    simp only [Expr.effectFree, Bool.and_eq_true, Statement.effectFreeEach_iff] at h
    simpa only [Expr.parts, List.forall_mem_cons, List.forall_mem_append, List.forall_mem_map,
      List.not_mem_nil, false_implies, implies_true, and_true] using h

end Parts

def Fragment.effectFree : Fragment where
  code e := e.effectFree = true
  text _ := True
  calls := False
  part := Expr.effectFree_of_mem_parts
  literal _ := trivial
  numeral _ := trivial
  join _ _ := trivial
  call h := nomatch h

/-! ## Evaluations that cannot be seen -/

/-- From `σ` to `τ` nothing was printed, and the scopes that were there stayed as they were, except
for the scope `o`. -/
structure State.Untouched (o : Option ScopeId) (σ τ : State) : Prop where
  grows : σ.store.scopes.size ≤ τ.store.scopes.size
  printed : τ.printed = σ.printed
  same : ∀ i < σ.store.scopes.size, o ≠ some i → τ.store.scopes[i]? = σ.store.scopes[i]?

namespace State.Untouched

variable {o : Option ScopeId} {σ τ υ : State} {c : ScopeId}

theorem of_eq (hstore : τ.store = σ.store) (hprinted : τ.printed = σ.printed) :
    σ.Untouched o τ where
  grows := Nat.le_of_eq (by rw [hstore])
  printed := hprinted
  same _ _ _ := by rw [hstore]

theorem trans (h : σ.Untouched o τ) (k : τ.Untouched o υ) : σ.Untouched o υ where
  grows := Nat.le_trans h.grows k.grows
  printed := k.printed.trans h.printed
  same i hi ho := (k.same i (Nat.lt_of_lt_of_le hi h.grows) ho).trans (h.same i hi ho)

theorem of_none (h : σ.Untouched none τ) : σ.Untouched o τ where
  grows := h.grows
  printed := h.printed
  same i hi _ := h.same i hi nofun

/-- A new scope comes behind those that are there. -/
theorem leave (h : (σ.nest c).Untouched (some σ.store.scopes.size) τ) : σ.Untouched none τ := by
  have hsize : (σ.nest c).store.scopes.size = σ.store.scopes.size + 1 := Store.size_push ..
  have hgrows := h.grows
  refine ⟨by omega, h.printed, fun i hi _ => ?_⟩
  have hne : some σ.store.scopes.size ≠ some i := fun heq => Nat.ne_of_gt hi (Option.some.inj heq)
  rw [h.same i (by omega) hne]
  exact σ.store.scope_push c hi

theorem insert (x : String) (v : Value) :
    σ.Untouched (some c) { σ with store := σ.store.insert c x v } where
  grows := Nat.le_of_eq (Store.size_insert ..).symm
  printed := rfl
  same _ _ ho := Store.scope_insert _ x v fun heq => ho (congrArg some heq.symm)

end State.Untouched

/-- Without calls and assignments nothing is printed, and the only scope that is changed is the one
in which a statement stands. -/
def purity : Discipline where
  toFragment := .effectFree
  inv _ := True
  good _ _ := True
  place _ _ := True
  rel := State.Untouched
  rel_trans := .trans
  rel_of_none := .of_none
  good_mono _ _ := trivial
  place_mono _ _ := trivial
  quiet _ hstore _ hprinted := ⟨trivial, .of_eq hstore (hprinted id)⟩
  nest _ _ := ⟨trivial, trivial⟩
  leave := .leave
  define _ _ _ _ := ⟨trivial, .insert _ _⟩
  assign _ h := nomatch h
  lookup _ _ _ := trivial
  good_int := trivial
  good_bool := trivial
  good_nil := trivial
  good_builtin := trivial
  good_text _ := trivial
  new_str _ _ := trivial
  new_array _ _ := trivial
  new_function _ _ _ := trivial
  new_curried _ _ _ := trivial
  element _ _ := trivial
  function h := nomatch h
  curried h := nomatch h
  returning _ := trivial

/-- **An expression without calls and assignments ends and leaves all old scopes as they are.** -/
theorem Expr.exists_untouched {e : Expr} (he : e.effectFree = true) (run : BodyRunner) (c : ScopeId)
    (σ : State) : ∃ τ, (e.eval run c σ).state? = some τ ∧ σ.Untouched none τ := by
  -- nothing is called, so it does not matter how bodies run
  have hrun : purity.account.Runs run := nofun
  have hends := Discipline.ends_expr hrun he (c := c) (σ := σ) trivial trivial
  obtain ⟨τ, hτ⟩ := hends.exists_state id
  exact ⟨τ, hτ, (hends.of_state? hτ).2⟩

/-! ## Evaluating again -/

/-- The outcomes are failures with the same cause, or values, or returned values, with the same data. -/
inductive Outcome.SameData : Outcome Value → Outcome Value → Prop where
  | ok {v w : Value} {σ τ : State} (h : v.data? = w.data?) : SameData (.ok v σ) (.ok w τ)
  | returned {v w : Value} {σ τ : State} (h : v.data? = w.data?) :
    SameData (.returned v σ) (.returned w τ)
  | failed (e : RuntimeError) {σ τ : State} : SameData (.failed e σ) (.failed e τ)

/-- **Where the reachable scopes are the same, an expression comes to the same data.** -/
theorem sameData_of_same (depth : Nat) (e : Expr) {c : ScopeId} {σ τ : State} (hσ : σ.Numbered)
    (hτ : τ.Numbered) (hc : c < σ.store.scopes.size)
    (hsame : ∀ i, σ.Reaches c i → τ.store.scopes[i]? = σ.store.scopes[i]?)
    (hends : ∃ υ, (e.eval (bodies depth) c σ).state? = some υ) :
    (e.eval (bodies depth) c σ).SameData (e.eval (bodies depth) c τ) := by
  have hsound : (σ.sharing c τ).Sound := State.sharing_sound hσ hc hsame
  have hagree := Correspondence.agree_expr
    (((σ.sharing c τ).correspondence hsound).runs_bodies depth) e c c
    (e.names_of_forall fun _ => trivial) (Overlap.scope_shared .start) σ τ
    (State.sharing_matches hσ hτ hsame)
  generalize e.eval (bodies depth) c σ = r, e.eval (bodies depth) c τ = s at hagree hends
  cases hagree with
  | ok hvw _ => exact .ok hvw.data?_eq
  | returned hvw _ => exact .returned hvw.data?_eq
  | failed cause _ => exact .failed cause
  | exhausted =>
    obtain ⟨υ, hυ⟩ := hends
    cases hυ

/-! ## Main result -/

/-- **Expressions without calls and assignments are pure and always finish.** However deep calls may
be inside each other, the evaluation ends, prints nothing and leaves every old scope as it was, with
its names and their values. In a well-numbered state, evaluating it again from the state it leaves
behind ends with the same failure, or with the same data, returned or not. -/
theorem effectFree_is_pure (depth : Nat) (e : Expr) (c : ScopeId) (σ : State)
    (he : e.effectFree = true) :
    ∃ τ, (e.eval (bodies depth) c σ).state? = some τ ∧ τ.printed = σ.printed ∧
      (∀ i < σ.store.scopes.size, τ.store.scopes[i]? = σ.store.scopes[i]?) ∧
      (σ.Numbered → c < σ.store.scopes.size →
        (e.eval (bodies depth) c σ).SameData (e.eval (bodies depth) c τ)) := by
  obtain ⟨τ, hends, hτ⟩ := Expr.exists_untouched he (bodies depth) c σ
  have hsame : ∀ i < σ.store.scopes.size, τ.store.scopes[i]? = σ.store.scopes[i]? :=
    fun i hi => hτ.same i hi nofun
  refine ⟨τ, hends, hτ.printed, hsame, fun hσ hc => ?_⟩
  have hnumbered : τ.Numbered :=
    ((numbering.ends_eval trivial (fun _ => trivial) depth (.expr e) hσ hc nofun).of_state? hends).1
  exact sameData_of_same depth e hσ hnumbered hc (fun i hi => hsame i (hi.lt hσ hc)) ⟨τ, hends⟩

/-- An array whose second element is an `if` that binds a name to a new array, compares it with an
older one and returns a text with it: the return is met again, with the same data. -/
theorem returning_branch_is_pure :
    let e : Expr := .array [.ident "x", .ifElse (.binary .equal (.ident "x") (.int 1))
      [.bind "y" (.array [.ident "x", .str "a"]),
        .ret (.array [.ident "y", .binary .equal (.ident "y") (.array [])])] [], .ident "missing"]
    let σ : State := { State.initial.2 with store := State.initial.2.store.insert 0 "x" (.int 1) }
    e.effectFree = true ∧ σ.Numbered ∧ 0 < σ.store.scopes.size ∧
    ∃ τ, (e.eval (bodies 0) 0 σ).state? = some τ ∧ τ.printed = σ.printed ∧
      (∀ i < σ.store.scopes.size, τ.store.scopes[i]? = σ.store.scopes[i]?) ∧
      (e.eval (bodies 0) 0 σ).SameData (e.eval (bodies 0) 0 τ) := by
  intro e σ
  have hσ : σ.Numbered := State.Numbered.initial.insert 0 "x" (.int 1)
  obtain ⟨τ, hends, hprinted, hsame, hagain⟩ := effectFree_is_pure 0 e 0 σ rfl
  exact ⟨rfl, hσ, by decide, τ, hends, hprinted, hsame, hagain hσ (by decide)⟩

end CurryLang
