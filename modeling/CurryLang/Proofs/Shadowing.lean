import CurryLang.Proofs.Resolution
import CurryLang.Session

/-!
# Where a name is held twice

A binding is refused when the name is visible from the scope it is made in. That scope may have
scopes inside it, captured by functions, and nothing keeps one of them from holding the name
already: a late binding. So a name can be held by two scopes of one chain, and late bindings are the
only way to get there:

1. After an edit, a name is held twice on a chain if it was on the chain of one of its scopes, or if
   the edit is a late binding around one of them (`shadowed_edit`).
2. So, starting from no scope at all, names are held twice exactly where a late binding was made
   (`shadowed_replay`).
-/

namespace CurryLang

open Eval

namespace Store

variable {s : Store} {h i : ScopeId} {x : String} {e : Edit}

/-- Two scopes of the chain of `h` hold the name. -/
def Shadowed (s : Store) (h : ScopeId) (x : String) : Prop :=
  ∃ i ∈ s.chain h, ∃ j ∈ s.chain h, i ≠ j ∧ s.holds i x = true ∧ s.holds j x = true

/-- The edit binds the name in a scope around scope `i`, although `i` holds it: from the outer
scope, it is not visible. -/
def Late (s : Store) (e : Edit) (i : ScopeId) (x : String) : Prop :=
  ∃ c v, e = .bind c x v ∧ c ∈ s.chain i ∧ s.visible c x = false ∧ s.holds i x = true

/-- What a chain holds twice, every longer chain does. -/
theorem Shadowed.of_mem (hs : s.Shadowed i x) (hi : i ∈ s.chain h) : s.Shadowed h x := by
  obtain ⟨j, hj, k, hk, hne, hjx, hkx⟩ := hs
  exact ⟨j, mem_chain_trans hi hj, k, mem_chain_trans hi hk, hne, hjx, hkx⟩

theorem Shadowed.mem_chain (hs : s.Shadowed h x) : h ∈ s.chain h := by
  obtain ⟨j, hj, -⟩ := hs
  exact mem_chain_self.mpr (lt_of_mem_chain hj)

/-- A store with the same chains and the same names holds the same names twice. -/
theorem shadowed_of_same {t : Store} (hchain : t.chain h = s.chain h)
    (hholds : ∀ i, t.holds i x = s.holds i x) : t.Shadowed h x ↔ s.Shadowed h x := by
  unfold Shadowed
  simp only [hchain, hholds]

/-! ## One edit -/

theorem shadowed_push (c : ScopeId) :
    (s.push c).2.Shadowed h x ↔ ∃ i ∈ (s.push c).2.chain h, s.Shadowed i x := by
  rw [chain_push]
  by_cases hnew : h = s.scopes.size
  · subst hnew
    rw [if_pos rfl]
    have old {i : ScopeId} (hi : i ∈ s.scopes.size :: s.chain c) (hx : s.holds i x = true) :
        i ∈ s.chain c := by
      rcases List.mem_cons.mp hi with rfl | hi
      · exact absurd (lt_of_holds hx) (Nat.lt_irrefl _)
      · exact hi
    constructor
    · rintro ⟨i, hi, j, hj, hne, hix, hjx⟩
      rw [chain_push, if_pos rfl] at hi hj
      rw [holds_push] at hix hjx
      have hc : s.Shadowed c x := ⟨i, old hi hix, j, old hj hjx, hne, hix, hjx⟩
      exact ⟨c, List.mem_cons_of_mem _ hc.mem_chain, hc⟩
    · rintro ⟨i, hi, hs⟩
      have hic : i ∈ s.chain c := by
        rcases List.mem_cons.mp hi with rfl | hi
        · exact absurd (mem_chain_self.mp hs.mem_chain) (Nat.lt_irrefl _)
        · exact hi
      obtain ⟨j, hj, k, hk, hne, hjx, hkx⟩ := hs.of_mem hic
      refine ⟨j, ?_, k, ?_, hne, ?_, ?_⟩
      · rw [chain_push, if_pos rfl]
        exact List.mem_cons_of_mem _ hj
      · rw [chain_push, if_pos rfl]
        exact List.mem_cons_of_mem _ hk
      · rw [holds_push, hjx]
      · rw [holds_push, hkx]
  · rw [if_neg hnew, shadowed_of_same (s := s) (by rw [chain_push, if_neg hnew])
      fun i => s.holds_push c i x]
    exact ⟨fun hs => ⟨h, hs.mem_chain, hs⟩, fun ⟨i, hi, hs⟩ => hs.of_mem hi⟩

/-- A binding that is not refused is late for every scope of the chain that holds the name: further
in, the name would be visible. -/
theorem late_of_mem {c : ScopeId} {v : Value} (hi : i ∈ s.chain h) (hc : c ∈ s.chain h)
    (hx : s.visible c x = false) (hix : s.holds i x = true) : s.Late (.bind c x v) i x := by
  refine ⟨c, v, rfl, ?_, hx, hix⟩
  rcases mem_chain_or hi hc with hic | hci
  · rw [visible_iff.mpr ⟨i, hic, hix⟩] at hx
    cases hx
  · exact hci

theorem shadowed_insert {c : ScopeId} {y : String} {v : Value} (hy : s.visible c y = false) :
    (s.insert c y v).Shadowed h x ↔ s.Shadowed h x ∨ ∃ i ∈ s.chain h, s.Late (.bind c y v) i x := by
  constructor
  · rintro ⟨i, hi, j, hj, hne, hix, hjx⟩
    rw [chain_insert] at hi hj
    rw [holds_insert] at hix hjx
    rcases hix with hix | ⟨rfl, rfl, -⟩
    · rcases hjx with hjx | ⟨rfl, rfl, -⟩
      · exact Or.inl ⟨i, hi, j, hj, hne, hix, hjx⟩
      · exact Or.inr ⟨i, hi, late_of_mem hi hj hy hix⟩
    · rcases hjx with hjx | ⟨rfl, -, -⟩
      · exact Or.inr ⟨j, hj, late_of_mem hj hi hy hjx⟩
      · exact absurd rfl hne
  · rintro (⟨i, hi, j, hj, hne, hix, hjx⟩ | ⟨i, hi, d, w, hbind, hd, hx, hix⟩)
    · refine ⟨i, ?_, j, ?_, hne, holds_insert.mpr (Or.inl hix), holds_insert.mpr (Or.inl hjx)⟩
      · rwa [chain_insert]
      · rwa [chain_insert]
    · cases hbind
      have hc : c < s.scopes.size := mem_chain_self.mp (mem_chain_of_mem hd)
      refine ⟨i, ?_, c, ?_, ?_, holds_insert.mpr (Or.inl hix), ?_⟩
      · rwa [chain_insert]
      · rw [chain_insert]
        exact mem_chain_trans hi hd
      · rintro rfl
        rw [visible_iff.mpr ⟨i, mem_chain_self.mpr hc, hix⟩] at hx
        cases hx
      · exact holds_insert.mpr (Or.inr ⟨rfl, rfl, hc⟩)

/-- An edit that changes no chain and no name makes nothing held twice. -/
theorem shadowed_iff_of_not_late (hlate : ∀ i, ¬ s.Late e i x) :
    s.Shadowed h x ↔ ∃ i ∈ s.chain h, s.Shadowed i x ∨ s.Late e i x := by
  constructor
  · exact fun hs => ⟨h, hs.mem_chain, Or.inl hs⟩
  · rintro ⟨i, hi, hs | hs⟩
    · exact hs.of_mem hi
    · exact absurd hs (hlate i)

/-- **A name is held twice on a chain after an edit** when it was held twice on the chain of one of
its scopes before, or when the edit is a late binding for one of them. -/
theorem shadowed_edit (s : Store) (e : Edit) (h : ScopeId) (x : String) :
    (s.edit e).Shadowed h x ↔ ∃ i ∈ (s.edit e).chain h, s.Shadowed i x ∨ s.Late e i x := by
  cases e with
  | push c =>
    have hlate (i : ScopeId) : ¬ s.Late (.push c) i x := by
      rintro ⟨_, _, hbind, -⟩
      cases hbind
    simp only [hlate, or_false]
    exact shadowed_push c
  | bind c y v =>
    rw [edit]
    split
    · next hy =>
      refine shadowed_iff_of_not_late ?_
      rintro i ⟨_, _, ⟨⟩, -, hx, -⟩
      rw [hy] at hx
      cases hx
    · next hy =>
      rw [shadowed_insert (Bool.eq_false_iff.mpr hy), chain_insert]
      constructor
      · rintro (hs | ⟨i, hi, hs⟩)
        · exact ⟨h, hs.mem_chain, Or.inl hs⟩
        · exact ⟨i, hi, Or.inr hs⟩
      · rintro ⟨i, hi, hs | hs⟩
        · exact Or.inl (hs.of_mem hi)
        · exact Or.inr ⟨i, hi, hs⟩
  | rebind c y v =>
    have hlate (i : ScopeId) : ¬ s.Late (.rebind c y v) i x := by
      rintro ⟨_, _, hbind, -⟩
      cases hbind
    rw [edit]
    split
    · next k hk =>
      rw [shadowed_of_same (s := s) (chain_replace ..) (fun i => holds_replace ..), chain_replace]
      exact shadowed_iff_of_not_late hlate
    · exact shadowed_iff_of_not_late hlate

/-! ## Many edits -/

theorem size_edit (s : Store) (e : Edit) : s.scopes.size ≤ (s.edit e).scopes.size := by
  cases e with
  | push c => exact Nat.le_of_lt (by rw [edit, size_push]; exact Nat.lt_succ_self _)
  | bind c x v =>
    rw [edit]
    split
    · exact Nat.le_refl _
    · exact Nat.le_of_eq (size_insert ..).symm
  | rebind c x v =>
    rw [edit]
    split
    · exact Nat.le_of_eq (size_replace ..).symm
    · exact Nat.le_refl _

theorem chain_edit (e : Edit) (hi : i < s.scopes.size) : (s.edit e).chain i = s.chain i := by
  cases e with
  | push c => rw [edit, chain_push, if_neg (Nat.ne_of_lt hi)]
  | bind c x v =>
    rw [edit]
    split
    · rfl
    · exact chain_insert ..
  | rebind c x v =>
    rw [edit]
    split
    · exact chain_replace ..
    · rfl

theorem chain_replay (es : List Edit) (hi : i < s.scopes.size) :
    (s.replay es).chain i = s.chain i := by
  induction es generalizing s with
  | nil => rfl
  | cons e es ih => exact (ih (Nat.lt_of_lt_of_le hi (s.size_edit e))).trans (chain_edit e hi)

/-- Some edit of the list was a late binding of the name around scope `i`. -/
def LateAmong (s : Store) (es : List Edit) (i : ScopeId) (x : String) : Prop :=
  ∃ j e, es[j]? = some e ∧ (s.replay (es.take j)).Late e i x

theorem lateAmong_cons (s : Store) (e : Edit) (es : List Edit) (i : ScopeId) (x : String) :
    s.LateAmong (e :: es) i x ↔ s.Late e i x ∨ (s.edit e).LateAmong es i x := by
  constructor
  · rintro ⟨j, f, hf, hlate⟩
    cases j with
    | zero =>
      obtain rfl : e = f := Option.some.inj hf
      exact Or.inl hlate
    | succ j => exact Or.inr ⟨j, f, hf, hlate⟩
  · rintro (hlate | ⟨j, f, hf, hlate⟩)
    · exact ⟨0, e, rfl, hlate⟩
    · exact ⟨j + 1, f, hf, hlate⟩

theorem lateAmong_take (s : Store) (es : List Edit) (k : Nat) (i : ScopeId) (x : String) :
    s.LateAmong (es.take k) i x ↔
      ∃ j e, j < k ∧ es[j]? = some e ∧ (s.replay (es.take j)).Late e i x := by
  unfold LateAmong
  constructor
  · rintro ⟨j, e, he, hlate⟩
    have hj : j < k := by
      obtain ⟨hlt, -⟩ := List.getElem?_eq_some_iff.mp he
      exact Nat.lt_of_lt_of_le hlt (List.length_take_le k es)
    rw [List.getElem?_take_of_lt hj] at he
    rw [List.take_take, Nat.min_eq_left (Nat.le_of_lt hj)] at hlate
    exact ⟨j, e, hj, he, hlate⟩
  · rintro ⟨j, e, hj, he, hlate⟩
    refine ⟨j, e, ?_, ?_⟩
    · rw [List.getElem?_take_of_lt hj, he]
    · rw [List.take_take, Nat.min_eq_left (Nat.le_of_lt hj)]
      exact hlate

/-- **What is held twice after many edits**: what was before, and what a late binding added to. -/
theorem shadowed_replay (s : Store) (es : List Edit) (h : ScopeId) (x : String) :
    (s.replay es).Shadowed h x ↔
      ∃ i ∈ (s.replay es).chain h, s.Shadowed i x ∨ s.LateAmong es i x := by
  induction es generalizing s with
  | nil =>
    constructor
    · exact fun hs => ⟨h, hs.mem_chain, Or.inl hs⟩
    · rintro ⟨i, hi, hs | ⟨j, e, he, -⟩⟩
      · exact hs.of_mem hi
      · cases he
  | cons e es ih =>
    show ((s.edit e).replay es).Shadowed h x ↔ ∃ i ∈ ((s.edit e).replay es).chain h, _
    rw [ih]
    constructor
    · rintro ⟨i, hi, hs | hlate⟩
      · obtain ⟨k, hk, hk'⟩ := (s.shadowed_edit e i x).mp hs
        refine ⟨k, mem_chain_trans hi ?_, hk'.imp_right fun hl => ?_⟩
        · rw [chain_replay es (lt_of_mem_chain hk)]
          exact hk
        · exact (s.lateAmong_cons e es k x).mpr (Or.inl hl)
      · exact ⟨i, hi, Or.inr ((s.lateAmong_cons e es i x).mpr (Or.inr hlate))⟩
    · rintro ⟨i, hi, hs⟩
      refine ⟨i, hi, ?_⟩
      rw [s.lateAmong_cons, ← or_assoc] at hs
      refine hs.imp_left fun hs => (s.shadowed_edit e i x).mpr ⟨i, ?_, hs⟩
      have hlt : i < s.scopes.size := by
        rcases hs with hs | ⟨_, _, -, -, -, hix⟩
        · exact mem_chain_self.mp hs.mem_chain
        · exact lt_of_holds hix
      rw [chain_edit e hlt]
      exact mem_chain_self.mpr hlt

end Store

/-! ## Running sources in one session -/

/-- The programs of the sources without errors, to be evaluated in scope `c`. -/
def sessionOf (depth : Nat) (file : String) (c : ScopeId) (sources : List String) : List Action :=
  sources.flatMap fun source =>
    match Program.ofSource source file with
    | (p, []) => [.evaluate depth p c]
    | _ => []

theorem run_of_evaluate {depth : Nat} {p : Program} {c : ScopeId} {σ τ : State}
    (h : ((Action.evaluate depth p c).eval σ).state? = some τ) : (p.run depth c σ).2 = τ := by
  rw [Action.eval, bind_apply] at h
  unfold Program.run conclude
  cases hp : p.eval (bodies depth) c σ with
  | ok v υ => rw [hp] at h; exact Option.some.inj h
  | returned v υ => rw [hp] at h; exact Option.some.inj h
  | failed e υ => rw [hp] at h; exact Option.some.inj h
  | exhausted => rw [hp] at h; cases h

/-- Sources run as the actions of their programs, when every program ends. -/
theorem runAll_of_perform {depth : Nat} {file : String} {c : ScopeId} {sources : List String}
    {σ τ : State} (h : perform (sessionOf depth file c sources) σ = some τ) :
    (runAll depth file c sources σ).2 = τ := by
  induction sources generalizing σ with
  | nil => exact Option.some.inj h
  | cons source rest ih =>
    unfold sessionOf at h
    rw [List.flatMap_cons] at h
    show (runAll depth file c rest (run depth source file c σ).2).2 = τ
    unfold run
    cases hp : Program.ofSource source file with
    | mk p errors =>
      rw [hp] at h
      cases errors with
      | nil =>
        obtain ⟨υ, hυ, hrest⟩ := Option.bind_eq_some_iff.mp h
        show (runAll depth file c rest (p.run depth c σ).2).2 = τ
        rw [run_of_evaluate hυ]
        exact ih hrest
      | cons error errors => exact ih h

/-- The edits of a session that runs sources in one fresh scope. -/
def sessionEdits (depth : Nat) (file : String) (sources : List String) : List Edit :=
  edits (sessionOf depth file State.initial.1 sources) State.initial.2

/-- The store after the first `k` edits of such a session. -/
def sessionStore (depth : Nat) (file : String) (sources : List String) (k : Nat) : Store :=
  moment (sessionOf depth file State.initial.1 sources) State.initial.2 k

theorem store_runAll {depth : Nat} {file : String} {sources : List String} {τ : State}
    (h : perform (sessionOf depth file State.initial.1 sources) State.initial.2 = some τ) :
    (runAll depth file State.initial.1 sources State.initial.2).2.store =
      sessionStore depth file sources (sessionEdits depth file sources).length := by
  unfold sessionStore sessionEdits moment
  rw [runAll_of_perform h, List.take_length]
  exact store_perform h

theorem not_shadowed_initial (h : ScopeId) (x : String) :
    ¬ State.initial.2.store.Shadowed h x := by
  rintro ⟨i, -, -, -, -, hi, -⟩
  cases i with
  | zero => cases hi
  | succ i => cases hi

/-! ## Main result -/

/-- **Names are held twice where late bindings were made, and nowhere else.** At any moment of a
session that runs sources in one fresh scope, two scopes of a chain hold a name exactly if one of
its scopes held the name already when an earlier edit bound it further out. When every program ends,
the last moment is the state that the session leaves behind. -/
theorem shadowed_iff_late_binding (depth : Nat) (file : String) (sources : List String) :
    (∀ k h x, (sessionStore depth file sources k).Shadowed h x ↔
      ∃ i ∈ (sessionStore depth file sources k).chain h, ∃ j e, j < k ∧
        (sessionEdits depth file sources)[j]? = some e ∧
        (sessionStore depth file sources j).Late e i x) ∧
    (∀ τ, perform (sessionOf depth file State.initial.1 sources) State.initial.2 = some τ →
      (runAll depth file State.initial.1 sources State.initial.2).2.store =
        sessionStore depth file sources (sessionEdits depth file sources).length) := by
  refine ⟨fun k h x => ?_, fun τ hτ => store_runAll hτ⟩
  unfold sessionStore sessionEdits moment
  rw [Store.shadowed_replay]
  simp only [not_shadowed_initial, false_or, Store.lateAmong_take]

instance (s : Store) (h : ScopeId) (x : String) : Decidable (s.Shadowed h x) :=
  inferInstanceAs (Decidable (∃ i ∈ s.chain h, ∃ j ∈ s.chain h,
    i ≠ j ∧ s.holds i x = true ∧ s.holds j x = true))

/-- The scope that a function or a partial application has captured. -/
def Value.captured? : Value → Option ScopeId
  | .function f => some f.env
  | .curried f => some f.env
  | _ => none

/-- A function captures a scope that holds `x`; binding `x` around this scope is not refused. -/
theorem captured_scope_shadowed :
    ∃ s, (runAll 1 "test.ln" State.initial.1
      ["let f = fun() \x7b let x = 1; fun() \x7b x \x7d \x7d;", "let g = f();", "let x = 2;"]
      State.initial.2).2.store = s ∧
    ∃ i, (s.lookup State.initial.1 "g").bind Value.captured? = some i ∧ s.Shadowed i "x" :=
  ⟨_, rfl, 1, by decide +kernel, by decide +kernel⟩

end CurryLang
