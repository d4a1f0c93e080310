import CurryLang.Proofs.Discipline

/-!
# Bindings stay in their block

The names of a scope are those it was given by `let` statements and parameters, and each of these
binds in the innermost scope of the place where it stands. An expression makes new scopes for its
blocks and calls, so it gives no name to a scope that was there before.

1. `Confined o σ τ`: from `σ` to `τ`, the old scopes kept their chains and their names, and none but
   the scope `o` gained one. This is a discipline (`confinement`), so every evaluation keeps it.
2. A statement gives its own scope a name exactly if it is a `let` statement that has a result
   (`gained_iff_statement`).
3. So a row of statements gives its scope the names of those `let` statements that were reached and
   not refused (`gained_iff_binds`), by induction on the row.
-/

namespace CurryLang

open Eval Discipline

/-! ## Names and chains of old scopes -/

/-- From `σ` to `τ`, the scopes that were there kept their chains and names, and those other than
`o` gained no name. -/
structure Confined (o : Option ScopeId) (σ τ : State) : Prop where
  grows : σ.store.scopes.size ≤ τ.store.scopes.size
  chain : ∀ i < σ.store.scopes.size, τ.store.chain i = σ.store.chain i
  kept : ∀ i x, σ.store.holds i x = true → τ.store.holds i x = true
  same : ∀ i < σ.store.scopes.size, o ≠ some i → ∀ x, τ.store.holds i x = σ.store.holds i x

namespace Confined

variable {o : Option ScopeId} {σ τ υ : State} {c : ScopeId}

theorem of_store_eq (h : τ.store = σ.store) : Confined o σ τ := by
  constructor
  all_goals simp [h]

theorem trans (h : Confined o σ τ) (k : Confined o τ υ) : Confined o σ υ where
  grows := Nat.le_trans h.grows k.grows
  chain i hi := (k.chain i (Nat.lt_of_lt_of_le hi h.grows)).trans (h.chain i hi)
  kept i x hx := k.kept i x (h.kept i x hx)
  same i hi ho x := (k.same i (Nat.lt_of_lt_of_le hi h.grows) ho x).trans (h.same i hi ho x)

theorem of_none (h : Confined none σ τ) : Confined o σ τ where
  grows := h.grows
  chain := h.chain
  kept := h.kept
  same i hi _ := h.same i hi nofun

/-- What a new scope gained is nothing that an old scope gained. -/
theorem leave (h : Confined (some σ.store.scopes.size) (σ.nest c) τ) : Confined none σ τ where
  grows := Nat.le_trans (Nat.le_of_lt (by simp [State.nest])) h.grows
  chain i hi := by
    have hlt : i < (σ.nest c).store.scopes.size := by simp [State.nest]; omega
    rw [h.chain i hlt]
    exact (Store.chain_push ..).trans (if_neg (Nat.ne_of_lt hi))
  kept i x hx := h.kept i x (by rwa [State.nest, Store.holds_push])
  same i hi _ x := by
    have hlt : i < (σ.nest c).store.scopes.size := by simp [State.nest]; omega
    have hne : some σ.store.scopes.size ≠ some i := fun he => Nat.ne_of_gt hi (Option.some.inj he)
    rw [h.same i hlt hne x]
    exact Store.holds_push ..

theorem define (x : String) (v : Value) :
    Confined (some c) σ { σ with store := σ.store.insert c x v } where
  grows := Nat.le_of_eq (Store.size_insert ..).symm
  chain i _ := Store.chain_insert ..
  kept i y hy := Store.holds_insert.mpr (Or.inl hy)
  same i _ ho y := by
    rw [Bool.eq_iff_iff, Store.holds_insert]
    refine or_iff_left ?_
    rintro ⟨rfl, -⟩
    exact ho rfl

theorem assign (i : ScopeId) (x : String) (v : Value) :
    Confined none σ { σ with store := σ.store.replace i x v } where
  grows := Nat.le_of_eq (Store.size_replace ..).symm
  chain j _ := Store.chain_replace ..
  kept j y hy := by rwa [Store.holds_replace]
  same j _ _ y := Store.holds_replace ..

end Confined

/-- Every evaluation leaves the names of old scopes alone, but for the scope it stands in. -/
def confinement : Discipline where
  toFragment := .full
  inv _ := True
  good _ _ := True
  place _ _ := True
  rel := Confined
  rel_trans := .trans
  rel_of_none := .of_none
  good_mono _ _ := trivial
  place_mono _ _ := trivial
  quiet _ h _ _ := ⟨trivial, .of_store_eq h⟩
  nest _ _ := ⟨trivial, trivial⟩
  leave := .leave
  define _ _ _ _ := ⟨trivial, .define _ _⟩
  assign _ _ _ _ _ := ⟨trivial, .assign _ _ _⟩
  lookup _ _ _ := trivial
  good_int := trivial
  good_bool := trivial
  good_nil := trivial
  good_builtin := trivial
  good_text _ := trivial
  new_str _ _ := trivial
  new_array _ _ := trivial
  new_function _ _ _ := trivial
  new_curried _ _ _ := trivial
  element _ _ := trivial
  function _ _ := ⟨trivial, fun _ _ => trivial⟩
  curried _ _ := ⟨trivial, fun _ _ => trivial⟩
  returning _ := trivial

section Evaluator

variable {depth : Nat} {c : ScopeId} {σ τ : State}

theorem confined_expr {e : Expr} (h : (e.eval (bodies depth) c σ).state? = some τ) :
    Confined none σ τ :=
  ((ends_expr (D := confinement) (confinement.account.runs_bodies depth) trivial trivial
    trivial).of_state? h).2

theorem confined_statement {s : Statement} (h : (s.eval (bodies depth) c σ).state? = some τ) :
    Confined (some c) σ τ :=
  ((confinement.ends_eval trivial (fun _ => trivial) depth (.statement s) trivial trivial
    nofun).of_state? h).2

theorem confined_from {ss : List Statement} {last : Value}
    (h : (Statement.evalFrom (bodies depth) c last ss σ).state? = some τ) :
    Confined (some c) σ τ :=
  ((ends_from (D := confinement) (confinement.account.runs_bodies depth) (fun _ _ => trivial)
    trivial trivial trivial).of_state? h).2

/-! ## What a statement gives to its scope -/

/-- Scope `c` holds the name in `τ` and did not in `σ`. -/
def Gained (c : ScopeId) (x : String) (σ τ : State) : Prop :=
  σ.store.holds c x = false ∧ τ.store.holds c x = true

theorem Confined.not_gained (h : Confined none σ τ) (hc : c < σ.store.scopes.size) (x : String) :
    ¬ Gained c x σ τ := by
  rintro ⟨hσ, hτ⟩
  rw [h.same c hc nofun, hσ] at hτ
  cases hτ

theorem Confined.gained_trans {o : Option ScopeId} {υ : State} (h : Confined o σ τ)
    (k : Confined o τ υ) (c : ScopeId) (x : String) :
    Gained c x σ υ ↔ Gained c x σ τ ∨ Gained c x τ υ := by
  unfold Gained
  have hkept := h.kept c x
  have kkept := k.kept c x
  constructor
  · rintro ⟨hσ, hυ⟩
    cases hτ : τ.store.holds c x with
    | true => exact Or.inl ⟨hσ, rfl⟩
    | false => exact Or.inr ⟨rfl, hυ⟩
  · rintro (⟨hσ, hτ⟩ | ⟨hτ, hυ⟩)
    · exact ⟨hσ, kkept hτ⟩
    · refine ⟨Bool.eq_false_iff.mpr fun hσ => ?_, hυ⟩
      rw [hkept hσ] at hτ
      cases hτ

theorem gained_insert {x : String} (v : Value) (hc : c < σ.store.scopes.size)
    (hx : σ.store.visible c x = false) (y : String) :
    Gained c y σ { σ with store := σ.store.insert c x v } ↔ y = x := by
  unfold Gained
  rw [Store.holds_insert]
  constructor
  · rintro ⟨hσ, hold | ⟨-, rfl, -⟩⟩
    · rw [hσ] at hold
      cases hold
    · rfl
  · rintro rfl
    refine ⟨Bool.eq_false_iff.mpr fun hold => ?_, Or.inr ⟨rfl, rfl, hc⟩⟩
    rw [Store.visible_iff.mpr ⟨c, Store.mem_chain_self.mpr hc, hold⟩] at hx
    cases hx

/-- **A statement gives its scope a name exactly if it is a `let` statement for that name and has a
result.** -/
theorem gained_iff_statement {s : Statement} (hc : c < σ.store.scopes.size)
    (h : (s.eval (bodies depth) c σ).state? = some τ) (x : String) :
    Gained c x σ τ ↔ (∃ e, s = .bind x e) ∧ ∃ v υ, s.eval (bodies depth) c σ = .ok v υ := by
  cases s with
  | bind y e =>
    rw [Statement.eval, bind_apply] at h ⊢
    cases he : e.eval (bodies depth) c σ with
    | ok v υ =>
      have hconf : Confined none σ υ := confined_expr (e := e) (by rw [he]; rfl)
      have hcυ : c < υ.store.scopes.size := Nat.lt_of_lt_of_le hc hconf.grows
      simp only [he, bind_apply, Eval.define] at h ⊢
      by_cases hvis : υ.store.visible c y = true
      · -- the name is refused, so nothing is bound
        rw [if_pos hvis] at h ⊢
        have hτ : Confined none σ τ :=
          hconf.trans (.of_store_eq (by rw [← Option.some.inj h]; rfl))
        refine iff_of_false (hτ.not_gained hc x) ?_
        rintro ⟨-, _, _, hok⟩
        cases hok
      · rw [if_neg hvis] at h ⊢
        obtain rfl := Option.some.inj h
        rw [(hconf.of_none (o := some c)).gained_trans (.define y v),
          gained_insert v hcυ (Bool.eq_false_iff.mpr hvis)]
        constructor
        · rintro (hg | rfl)
          · exact absurd hg (hconf.not_gained hc x)
          · exact ⟨⟨e, rfl⟩, v, _, rfl⟩
        · rintro ⟨⟨_, ⟨⟩⟩, -⟩
          exact Or.inr rfl
    | returned | failed =>
      have hconf : Confined none σ τ := confined_expr (e := e) (by rw [he] at h ⊢; exact h)
      exact iff_of_false (hconf.not_gained hc x) (by rintro ⟨-, _, _, ⟨⟩⟩)
    | exhausted => rw [he] at h; cases h
  | ret e =>
    have hconf : Confined none σ τ := by
      rw [Statement.eval, bind_apply] at h
      cases he : e.eval (bodies depth) c σ <;> rw [he] at h
      all_goals exact confined_expr (e := e) (by rw [he]; exact h)
    exact iff_of_false (hconf.not_gained hc x) (by rintro ⟨⟨_, ⟨⟩⟩, -⟩)
  | expr e =>
    have hconf : Confined none σ τ := confined_expr (e := e) h
    exact iff_of_false (hconf.not_gained hc x) (by rintro ⟨⟨_, ⟨⟩⟩, -⟩)

/-! ## What a row of statements gives to its scope -/

/-- A `let` statement of the row for the name has a result, and so has every statement before it:
it was reached and not refused. -/
def BindsFrom (run : BodyRunner) (c : ScopeId) (last : Value) (ss : List Statement) (σ : State)
    (x : String) : Prop :=
  ∃ before e after, ss = before ++ .bind x e :: after ∧
    ∃ v τ, Statement.evalFrom run c last (before ++ [.bind x e]) σ = .ok v τ

/-- One of the statements of the program itself binds the name when it is evaluated from `σ`. -/
def Program.Binds (run : BodyRunner) (c : ScopeId) (p : Program) (σ : State) (x : String) : Prop :=
  BindsFrom run c .nil p σ x

theorem not_bindsFrom_nil {run : BodyRunner} {last : Value} (x : String) :
    ¬ BindsFrom run c last [] σ x := by
  rintro ⟨before, e, after, h, -⟩
  cases before with
  | nil => cases h
  | cons s before => cases h

theorem bindsFrom_cons {run : BodyRunner} {last : Value} {s : Statement} {ss : List Statement}
    {x : String} : BindsFrom run c last (s :: ss) σ x ↔
      ∃ v υ, s.eval run c σ = .ok v υ ∧ ((∃ e, s = .bind x e) ∨ BindsFrom run c v ss υ x) := by
  constructor
  · rintro ⟨before, e, after, hss, v, τ, hτ⟩
    cases before with
    | nil =>
      obtain ⟨rfl, rfl⟩ := List.cons.inj hss
      rw [List.nil_append, Statement.evalFrom, bind_apply] at hτ
      cases hs : (Statement.bind x e).eval run c σ <;> rw [hs] at hτ
      case ok w υ => exact ⟨w, υ, rfl, Or.inl ⟨e, rfl⟩⟩
      all_goals cases hτ
    | cons t before =>
      obtain ⟨rfl, rfl⟩ := List.cons.inj hss
      rw [List.cons_append, Statement.evalFrom, bind_apply] at hτ
      cases hs : s.eval run c σ <;> rw [hs] at hτ
      case ok w υ => exact ⟨w, υ, rfl, Or.inr ⟨before, e, after, rfl, v, τ, hτ⟩⟩
      all_goals cases hτ
  · rintro ⟨w, υ, hs, ⟨e, rfl⟩ | ⟨before, e, after, rfl, v, τ, hτ⟩⟩
    · refine ⟨[], e, ss, rfl, w, υ, ?_⟩
      rw [List.nil_append, Statement.evalFrom, bind_apply, hs]
      rfl
    · refine ⟨s :: before, e, after, rfl, v, τ, ?_⟩
      rw [List.cons_append, Statement.evalFrom, bind_apply, hs]
      exact hτ

/-- **A row of statements gives its scope the names of its own `let` statements that were reached and
not refused, and no others.** -/
theorem gained_iff_binds (ss : List Statement) (last : Value) (σ : State)
    (hc : c < σ.store.scopes.size)
    (h : (Statement.evalFrom (bodies depth) c last ss σ).state? = some τ) (x : String) :
    Gained c x σ τ ↔ BindsFrom (bodies depth) c last ss σ x := by
  induction ss generalizing σ last with
  | nil =>
    obtain rfl : σ = τ := Option.some.inj h
    exact iff_of_false ((Confined.of_store_eq rfl).not_gained hc x) (not_bindsFrom_nil x)
  | cons s ss ih =>
    rw [bindsFrom_cons]
    rw [Statement.evalFrom, bind_apply] at h
    cases hs : s.eval (bodies depth) c σ with
    | ok v υ =>
      rw [hs] at h
      have hstep := gained_iff_statement hc (s := s) (by rw [hs]; rfl) x
      have hsυ : Confined (some c) σ υ := confined_statement (by rw [hs]; rfl)
      have hrest := ih v υ (Nat.lt_of_lt_of_le hc hsυ.grows) h
      rw [hsυ.gained_trans (confined_from h), hstep, hrest]
      constructor
      · rintro (⟨hlet, -⟩ | hbinds)
        · exact ⟨v, υ, rfl, Or.inl hlet⟩
        · exact ⟨v, υ, rfl, Or.inr hbinds⟩
      · rintro ⟨w, ρ, hok, hlet | hbinds⟩
        · exact Or.inl ⟨hlet, v, υ, hs⟩
        · cases hok
          exact Or.inr hbinds
    | returned v υ | failed cause υ =>
      rw [hs] at h
      rw [gained_iff_statement hc (by rw [hs]; exact h), hs]
      exact iff_of_false (by rintro ⟨-, _, _, ⟨⟩⟩) (by rintro ⟨_, _, ⟨⟩, -⟩)
    | exhausted => rw [hs] at h; cases h

end Evaluator

/-! ## Main result -/

theorem state?_catchReturn (x : Eval Value) (σ : State) :
    (catchReturn x σ).state? = (x σ).state? := by
  unfold catchReturn
  cases x σ <;> rfl

/-- **Bindings never leave their block.** Whatever the outcome, an expression leaves every old scope
with the chain and the names it had. A program does so for every old scope but the one it is
evaluated in, which keeps its names and gains exactly those of the program's own `let` statements
that were reached and not refused. -/
theorem bindings_stay_in_block (depth : Nat) (c : ScopeId) (σ τ : State) :
    (∀ e : Expr, (e.eval (bodies depth) c σ).state? = some τ →
      ∀ i < σ.store.scopes.size, τ.store.chain i = σ.store.chain i ∧
        ∀ x, τ.store.holds i x = σ.store.holds i x) ∧
    (∀ p : Program, c < σ.store.scopes.size → (p.eval (bodies depth) c σ).state? = some τ →
      (∀ i < σ.store.scopes.size, τ.store.chain i = σ.store.chain i ∧
        (i ≠ c → ∀ x, τ.store.holds i x = σ.store.holds i x)) ∧
      (∀ x, σ.store.holds c x = true → τ.store.holds c x = true) ∧
      (∀ x, σ.store.holds c x = false ∧ τ.store.holds c x = true ↔
        p.Binds (bodies depth) c σ x)) := by
  refine ⟨fun e he i hi => ?_, fun p hc hp => ?_⟩
  · have h := confined_expr he
    exact ⟨h.chain i hi, h.same i hi nofun⟩
  · rw [Program.eval, state?_catchReturn] at hp
    have h := confined_from hp
    refine ⟨fun i hi => ⟨h.chain i hi, fun hne => ?_⟩, h.kept c, gained_iff_binds p .nil σ hc hp⟩
    exact h.same i hi fun ho => hne (Option.some.inj ho).symm

/-- A `let` statement whose value binds another name in a conditional, and then a call that fails
after it has bound its parameter: the scope of the program gains the name of the statement only. -/
theorem only_own_name_gained : ∃ p : Program,
    p = [.bind "a" (.ifThen (.bool true) [.bind "b" (.int 2)]),
      .expr (.call (.function ["c"] [.expr (.ident "missing")]) [.nil])] ∧
    ∃ τ, (p.eval (bodies 1) State.initial.1 State.initial.2).state? = some τ ∧
      (∀ x, State.initial.2.store.holds State.initial.1 x = false ∧
        τ.store.holds State.initial.1 x = true ↔
          p.Binds (bodies 1) State.initial.1 State.initial.2 x) ∧
      ["a", "b", "c"].map (τ.store.holds State.initial.1) = [true, false, false] := by
  refine ⟨_, rfl, _, rfl, ?_, by decide +kernel⟩
  exact ((bindings_stay_in_block 1 State.initial.1 State.initial.2 _).2 _ (by decide) rfl).2.2

end CurryLang
