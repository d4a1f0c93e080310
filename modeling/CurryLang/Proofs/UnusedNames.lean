import CurryLang.Proofs.SharedScopes
import CurryLang.Session

/-!
# Names that nothing uses

A name that is visible cannot be bound again, so one more name in a scope can make a program fail.
It does not if the name stands neither in the program nor in a function that the program can find.

1. `State.adding`: a state with one more name in one of its scopes.
2. All scopes are shared with the state without the name, and all other names may be used. So the
   states match, and programs that do not use the name run in step.
3. A run of such a source text shows the same to the outside, whether the name is there or not.
-/

namespace CurryLang

open Eval

/-! ## What a run shows -/

/-- Two runs end alike: with the same errors in the source, with the same failure or the same data, or
both not at all. -/
inductive RunResult.Alike : RunResult → RunResult → Prop where
  | rejected (errors : List ParseError) : Alike (.rejected errors) (.rejected errors)
  | finished {v w : Value} (hdata : v.data? = w.data?) (herror : ∀ e, v = .error e ↔ w = .error e) :
    Alike (.finished v) (.finished w)
  | exhausted : Alike .exhausted .exhausted

namespace Value.Like

variable {P : Pairing} {v w : Value}

theorem unwrap (h : v.Like P w) : v.unwrap.Like P w.unwrap := by
  cases h with
  | returning h => exact h
  | int n => exact .int n
  | str h text => exact .str h text
  | bool b => exact .bool b
  | nil => exact .nil
  | array h hlength hzip => exact .array h hlength hzip
  | function h => exact .function h
  | curried h => exact .curried h
  | builtin b => exact .builtin b
  | error e => exact .error e

theorem error_iff (h : v.Like P w) (e : RuntimeError) : v = .error e ↔ w = .error e := by
  cases h with
  | error => exact Iff.rfl
  | _ => exact iff_of_false nofun nofun

theorem finished (h : v.Like P w) : (RunResult.finished v).Alike (.finished w) :=
  .finished h.data?_eq h.error_iff

end Value.Like

/-- Programs that run in step end alike and leave matching states behind. -/
theorem Overlap.alike_run {O : Overlap} (hO : O.Sound) (depth : Nat) {p : Program}
    (hp : Statement.NamesAll O.legal p) {c d : ScopeId} (hcd : O.pairing.scope c d) {σ τ : State}
    (h : O.Matches σ τ) : (p.run depth c σ).1.Alike (p.run depth d τ).1 ∧
      O.Matches (p.run depth c σ).2 (p.run depth d τ).2 := by
  have hends := O.sameEnd_program hO depth hp hcd h
  unfold Program.run Eval.conclude
  generalize p.eval (bodies depth) c σ = r, p.eval (bodies depth) d τ = s at hends
  cases hends with
  | ok hvw hστ => exact ⟨hvw.unwrap.finished, hστ⟩
  | failed e hστ => exact ⟨(Value.Like.error (P := O.pairing) e).finished, hστ⟩
  | exhausted => exact ⟨.exhausted, h⟩

/-! ## One more name -/

/-- The state with the name `z` bound to `v` in scope number `i`. The value may be a new object, so
objects made later may have other numbers. -/
def State.adding (σ : State) (i : ScopeId) (z : String) (v : Value) (next : ObjectId) : State :=
  { σ with store := σ.store.insert i z v, nextObject := next }

/-- The session without and the one with the name `z`, which share all scopes. -/
def State.beside (σ : State) (i : ScopeId) (z : String) (v : Value) (next : ObjectId) :
    Overlap where
  left := σ
  right := σ.adding i z v next
  shared j := j < σ.store.scopes.size
  legal x := x ≠ z

section OneMoreName

variable {σ : State} {i : ScopeId} {z : String} {v : Value} {next : ObjectId}

theorem State.beside_sound : (σ.beside i z v next).Sound := by
  intro j hj
  exact ⟨hj, Nat.lt_of_lt_of_eq hj (σ.store.size_insert i z v).symm⟩

/-- Every scope stands for itself, also the new ones. -/
theorem State.beside_scope (j : ScopeId) : (σ.beside i z v next).pairing.scope j j := by
  by_cases hj : j < σ.store.scopes.size
  · exact Overlap.scope_shared (O := σ.beside i z v next) hj
  · have hsize : (σ.adding i z v next).store.scopes.size = σ.store.scopes.size :=
      σ.store.size_insert i z v
    refine .inr ⟨Nat.le_of_not_lt hj, ?_, ?_⟩
    · exact hsize ▸ Nat.le_of_not_lt hj
    · exact congrArg (j + ·) hsize

theorem State.beside_matches (hσ : σ.Numbered) (hnext : σ.nextObject ≤ next)
    (hslots : ∀ j x w, σ.store.get? j x = some w → w.Names (· ≠ z)) :
    (σ.beside i z v next).Matches σ (σ.adding i z v next) := by
  refine Overlap.Matches.of_shared (O := σ.beside i z v next)
    (fun j hj => ⟨σ.store.chain_insert .., fun k hk => ?_⟩) fun j hj x hx => ?_
  · exact Nat.lt_of_le_of_lt (Store.le_of_mem_chain hk) hj
  · have hslot : (σ.adding i z v next).store.get? j x = σ.store.get? j x := by
      rw [State.adding, Store.get?_insert, if_neg fun hhit => hx hhit.2.1]
    show Option.Rel _ (σ.store.get? j x) ((σ.adding i z v next).store.get? j x)
    rw [hslot]
    cases hw : σ.store.get? j x with
    | none => exact .none
    | some w =>
      have hhas : σ.Has w := hσ j x w hw
      have hsize : (σ.adding i z v next).store.scopes.size = σ.store.scopes.size :=
        σ.store.size_insert i z v
      have hhas' : (σ.adding i z v next).Has w := hhas.mono (Nat.le_of_eq hsize.symm) hnext
      exact .some (Overlap.like_self (O := σ.beside i z v next) (hslots j x w hw) hhas hhas'
        fun k hk => hk.lt hhas)

end OneMoreName

/-! ## Main result -/

/-- **A name that nothing uses does not matter.** The source text `source` has no errors, and the name
`z` stands neither in it nor in a function of the state, and no scope holds it. Then running the text
in scope `c` comes to the same with `z` bound to any value in the outermost scope of the chain as
without: the runs end alike, print the same, and leave scopes with the same other names behind; `z`
keeps its value there, and no other scope gets it. -/
theorem unused_name_irrelevant (depth : Nat) (source file : String) (p : Program)
    (c root : ScopeId) (σ : State) (z : String) (v : Value) (next : ObjectId)
    (hp : Program.ofSource source file = (p, [])) (hz : Statement.NamesAll (· ≠ z) p)
    (hσ : σ.Numbered) (hnext : σ.nextObject ≤ next)
    (hroot : (σ.store.chain c).getLast? = some root)
    (hslots : ∀ i x w, σ.store.get? i x = some w → w.Names (· ≠ z))
    (hfree : ∀ i, σ.store.holds i z = false) :
    let without := run depth source file c σ
    let added := run depth source file c (σ.adding root z v next)
    without.1.Alike added.1 ∧ without.2.printed = added.2.printed ∧
    (∀ i x, x ≠ z → without.2.store.holds i x = added.2.store.holds i x) ∧
    (∀ i, without.2.store.get? i z = none ∧
      added.2.store.get? i z = if i = root then some v else none) := by
  intro without added
  have hthere : root < σ.store.scopes.size :=
    Store.lt_of_mem_chain (Store.mem_chain_of_mem (List.mem_of_getLast? hroot))
  have hrun : without.1.Alike added.1 ∧ (σ.beside root z v next).Matches without.2 added.2 := by
    have hmatch := State.beside_matches (i := root) (v := v) hσ hnext hslots
    have halike := Overlap.alike_run State.beside_sound depth hz (State.beside_scope c) hmatch
    unfold without added run
    rwa [hp]
  refine ⟨hrun.1, ?_, fun i x hx => hrun.2.holds_eq (State.beside_scope i) hx, fun i => ?_⟩
  · obtain ⟨lines, hleft, hright⟩ := hrun.2.printed
    rw [hleft, hright]
    rfl
  · obtain ⟨hleft, hright⟩ := hrun.2.others z (fun h => h rfl) i
    have hnone : σ.store.get? i z = none := by
      have hi := hfree i
      rwa [Store.holds_eq_isSome_get?, Option.isSome_eq_false_iff, Option.isNone_iff_eq_none] at hi
    refine ⟨hleft.trans hnone, hright.trans ?_⟩
    show (σ.store.insert root z v).get? i z = _
    rw [Store.get?_insert, hnone]
    simp only [hthere, and_true]

/-- A counter in scope 0 counts on, whether `unused` is bound to a string beside it or not. -/
theorem counter_ignores_unused :
    let σ : State := { State.initial.2 with store := State.initial.2.store.insert 0 "n" (.int 1) }
    let without := run 1 "n = n + 1; puts(n)" "" 0 σ
    let added := run 1 "n = n + 1; puts(n)" "" 0 (σ.adding 0 "unused" (.str 0 "text") 1)
    without.1.Alike added.1 ∧ without.2.printed = ["2"] ∧ without.2.printed = added.2.printed ∧
      added.2.store.get? 0 "unused" = some (.str 0 "text") := by
  intro σ
  have hp : Program.ofSource "n = n + 1; puts(n)" "" =
      ([.expr (.assign "n" (.binary .add (.ident "n") (.int 1))),
        .expr (.call (.ident "puts") [.ident "n"])], []) := rfl
  have hslots : ∀ i x w, σ.store.get? i x = some w → w.Names (· ≠ "unused") := by
    intro i x w hw
    rw [Store.get?_insert, State.get?_initial] at hw
    split at hw
    · exact Option.some.inj hw ▸ .int 1
    · cases hw
  have hfree : ∀ i, σ.store.holds i "unused" = false := by
    intro i
    rw [Store.holds_eq_isSome_get?, Store.get?_insert, State.get?_initial, if_neg (by simp)]
    rfl
  obtain ⟨halike, hprinted, -, hslot⟩ := unused_name_irrelevant 1 "n = n + 1; puts(n)" "" _ 0 0 σ
    "unused" (.str 0 "text") 1 hp (by simp [Statement.NamesAll, Statement.Names, Expr.Names,
      Expr.NamesEach]) (State.Numbered.initial.insert 0 "n" (.int 1)) (Nat.zero_le _) rfl hslots hfree
  exact ⟨halike, by decide +kernel, hprinted, (hslot 0).2.trans (if_pos rfl)⟩

end CurryLang
