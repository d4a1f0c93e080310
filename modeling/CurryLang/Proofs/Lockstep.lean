import CurryLang.Proofs.Grammar

/-!
# Readings in lockstep

Two readings, along tapes of any kind, go on in the same way as long as their tapes show the same
lexemes. What holds between two such tapes, and is kept by every move and every record, therefore
holds all along: a `Lockstep` says what that is, and the walk through the grammar is made here, once.

1. `Lockstep.Meets` describes how two readings end, and goes from one reader to the next
   (`Meets.bind`).
2. The readers meet, one by one, by induction on their bound (`meetsAt`). The bounds of the two may
   differ, when there is room enough in both.
3. On the way everything is known that the grammar knows: the kind of the lexeme at each move, why an
   error is recorded and at which lexeme (`Cause.Blames`), and of what words a tree was grown
   (`Growth`). A reading moves past the end of its row once for each brace and once more, so that it
   moves at most twice for each lexeme (`Lockstep.reach`).
-/

namespace CurryLang

/-! ## What is wrong with a lexeme -/

/-- What a cause says is true of a lexeme. -/
def Cause.Blames : Cause → Lexeme → Prop
  | .unexpected expected found, x => x.kind = found ∧ found ≠ expected
  | .noOperand literal, x => x.literal = literal ∧ x.kind.opensOperand = false
  | .invalidInteger literal, x =>
    x.literal = literal ∧ x.kind = .int ∧ Decimal.toInt64? literal = none
  | .invalidParameter literal, x => x.literal = literal ∧ x.kind ≠ .ident
  | .unterminatedBlock found, x => x.kind = found ∧ found = .eof
  | .invalidTarget _, x => x.kind = .symbol .assign

/-- The cause is noted at an assignment sign that was passed. -/
def Cause.isTarget : Cause → Bool
  | .invalidTarget _ => true
  | _ => false

/-! ## Trees that are grown of words -/

/-- A class of trees to which everything belongs that is grown of its words. -/
structure Growth where
  word : String → Prop
  expr : Expr → Prop
  statement : Statement → Prop
  ident : ∀ {x}, word x → expr (.ident x)
  int : ∀ {n}, expr (.int n)
  str : ∀ {text}, word text → expr (.str text)
  bool : ∀ {b}, expr (.bool b)
  nil : expr .nil
  array : ∀ {es}, (∀ e ∈ es, expr e) → expr (.array es)
  unary : ∀ {op e}, expr e → expr (.unary op e)
  binary : ∀ {op l r}, expr l → expr r → expr (.binary op l r)
  ifThen : ∀ {e yes}, expr e → (∀ s ∈ yes, statement s) → expr (.ifThen e yes)
  ifElse : ∀ {e yes no}, expr e → (∀ s ∈ yes, statement s) → (∀ s ∈ no, statement s) →
    expr (.ifElse e yes no)
  function : ∀ {xs body}, (∀ x ∈ xs, word x) → (∀ s ∈ body, statement s) →
    expr (.function xs body)
  call : ∀ {f es}, expr f → (∀ e ∈ es, expr e) → expr (.call f es)
  index : ∀ {a i}, expr a → expr i → expr (.index a i)
  assign : ∀ {x e}, expr (.ident x) → expr e → expr (.assign x e)
  bind : ∀ {x e}, word x → expr e → statement (.bind x e)
  ret : ∀ {e}, expr e → statement (.ret e)
  value : ∀ {e}, expr e → statement (.expr e)

def Growth.all : Growth where
  word _ := True
  expr _ := True
  statement _ := True
  ident _ := trivial
  int := trivial
  str _ := trivial
  bool := trivial
  nil := trivial
  array _ := trivial
  unary _ := trivial
  binary _ _ := trivial
  ifThen _ _ := trivial
  ifElse _ _ _ := trivial
  function _ _ := trivial
  call _ _ := trivial
  index _ _ := trivial
  assign _ _ := trivial
  bind _ _ := trivial
  ret _ := trivial
  value _ := trivial

/-! ## Two tapes -/

/-- What holds between two tapes after the same number of moves, along rows of the same length. -/
structure Lockstep (C D : Type) {P Q : Type} [Tape C P] [Tape D Q] extends Growth where
  /-- The number of lexemes in front of the ends of the input. -/
  length : Nat
  /-- What holds after so many moves. -/
  state : Nat → C → D → Prop
  /-- What holds when the readers have given up after so many moves. -/
  halted : Nat → C → D → Prop
  /-- The places of one and the same assignment sign. -/
  sign : P → Q → Prop
  /-- The bounds of two readers, when so many readers can call each other. -/
  room : Nat → Nat → Nat → Prop
  room_mono : ∀ {j k n m}, j ≤ k → room k n m → room j n m
  room_succ : ∀ {k n m}, room (k + 1) (n + 1) m → ∃ m', m = m' + 1 ∧ room k n m'
  room_zero : ∀ {k m}, room (k + 1) 0 m → m = 0
  current_eq : ∀ {i c d}, state i c d → Tape.current c = Tape.current d
  word_current : ∀ {i c d}, state i c d → word (Tape.current c).literal
  inside : ∀ {i c d}, state i c d → (Tape.current c).kind ≠ .eof → i < length
  advance : ∀ {i c d}, state i c d → state (i + 1) (Tape.advance c) (Tape.advance d)
  halt : ∀ {i c d}, state i c d → halted i c d
  resume : ∀ {i c d}, halted i c d → state (i + 1) (Tape.advance c) (Tape.advance d)
  stop : ∀ {k i c d}, room (k + 1) 0 0 → state i c d →
    halted i (Tape.exhaust c) (Tape.exhaust d)
  blame : ∀ {i c d a}, state i c d → a.isTarget = false → a.Blames (Tape.current c) →
    state i (Tape.record c a (Tape.place c)) (Tape.record d a (Tape.place d))
  miss : ∀ {i c d a}, state i c d → a.isTarget = false → a.Blames (Tape.next c) →
    halted i (Tape.record c a (Tape.nextPlace c)) (Tape.record d a (Tape.nextPlace d))
  mark : ∀ {i c d}, state i c d → (Tape.current c).kind = .symbol .assign →
    sign (Tape.place c) (Tape.place d)
  target : ∀ {i c d p q e}, state i c d → sign p q → expr e →
    state i (Tape.record c (.invalidTarget e.text) p) (Tape.record d (.invalidTarget e.text) q)

namespace Lockstep

variable {C D P Q α β : Type} [Tape C P] [Tape D Q] {A : Lockstep C D}
variable {R : α → Prop} {limit i j : Nat} {c : C} {d : D}

/-- How far a reading can get that moves over every lexeme once and has a move to spare for it. -/
def reach (A : Lockstep C D) (i : Nat) : Nat := i + 2 * (A.length - i)

/-- Two readings end alike, with one result that has the property `R` or both without, and have moved
on together up to the limit. -/
inductive Meets (A : Lockstep C D) (R : α → Prop) (limit i : Nat) :
    Option α × C → Option α × D → Prop
  | result {a : α} {j : Nat} {c : C} {d : D} (hi : i ≤ j) (hlimit : A.reach j ≤ limit) (ha : R a)
    (h : A.state j c d) : Meets A R limit i (some a, c) (some a, d)
  | failure {j : Nat} {c : C} {d : D} (hi : i ≤ j) (hlimit : A.reach j ≤ limit)
    (h : A.halted j c d) : Meets A R limit i (none, c) (none, d)

/-- A move over a lexeme has a move to spare. -/
theorem reach_succ_lt (hin : i < A.length) : A.reach (i + 1) < A.reach i := by
  unfold reach
  omega

/-! ## Through the monad -/

theorem Meets.earlier {x : Option α × C} {y : Option α × D} (h : A.Meets R limit j x y)
    (hij : i ≤ j) : A.Meets R limit i x y := by
  cases h with
  | result hi hlimit ha h => exact .result (Nat.le_trans hij hi) hlimit ha h
  | failure hi hlimit h => exact .failure (Nat.le_trans hij hi) hlimit h

theorem Meets.bind_of_eq {S : β → Prop} {r : Reader C α} {s : Reader D α} {f : α → Reader C β}
    {g : α → Reader D β} (h : A.Meets R limit i (r c) (s d))
    (hf : ∀ a j c' d', r c = (some a, c') → i ≤ j → A.reach j ≤ limit → R a → A.state j c' d' →
      A.Meets S limit j (f a c') (g a d')) : A.Meets S limit i ((r >>= f) c) ((s >>= g) d) := by
  rw [Reader.bind_apply, Reader.bind_apply]
  generalize hx : r c = x, s d = y at h
  cases h with
  | result hi hlimit ha h => exact (hf _ _ _ _ hx hi hlimit ha h).earlier hi
  | failure hi hlimit h => exact .failure hi hlimit h

theorem Meets.bind {S : β → Prop} {r : Reader C α} {s : Reader D α} {f : α → Reader C β}
    {g : α → Reader D β} (h : A.Meets R limit i (r c) (s d))
    (hf : ∀ a j c' d', i ≤ j → A.reach j ≤ limit → R a → A.state j c' d' →
      A.Meets S limit j (f a c') (g a d')) : A.Meets S limit i ((r >>= f) c) ((s >>= g) d) :=
  h.bind_of_eq fun a j c' d' _ => hf a j c' d'

theorem meets_pure {a : α} (hs : A.state i c d) (hlimit : A.reach i ≤ limit) (ha : R a) :
    A.Meets R limit i ((pure a : Reader C α) c) ((pure a : Reader D α) d) :=
  .result (Nat.le_refl _) hlimit ha hs

theorem meets_stop {k : Nat} (hroom : A.room (k + 1) 0 0) (hs : A.state i c d)
    (hlimit : A.reach i ≤ limit) :
    A.Meets R limit i ((Reader.stop : Reader C α) c) ((Reader.stop : Reader D α) d) :=
  .failure (Nat.le_refl _) hlimit (A.stop hroom hs)

section Bind

variable {S : β → Prop}

theorem meets_current {f : Lexeme → Reader C β} {g : Lexeme → Reader D β} (hs : A.state i c d)
    (h : A.Meets S limit i (f (Tape.current c) c) (g (Tape.current c) d)) :
    A.Meets S limit i ((Reader.current >>= f) c) ((Reader.current >>= g) d) := by
  show A.Meets S limit i (f (Tape.current c) c) (g (Tape.current d) d)
  rwa [← A.current_eq hs]

theorem next_eq (hs : A.state i c d) : Tape.next c = Tape.next d := by
  rw [← Tape.current_advance, ← Tape.current_advance]
  exact A.current_eq (A.advance hs)

/-- Only a lexeme of the row is no end of the input. -/
theorem inside_next (hs : A.state i c d) (h : (Tape.next c).kind ≠ .eof) : i + 1 < A.length := by
  rw [← Tape.current_advance] at h
  exact A.inside (A.advance hs) h

theorem meets_next {f : Lexeme → Reader C β} {g : Lexeme → Reader D β} (hs : A.state i c d)
    (h : A.Meets S limit i (f (Tape.next c) c) (g (Tape.next c) d)) :
    A.Meets S limit i ((Reader.next >>= f) c) ((Reader.next >>= g) d) := by
  show A.Meets S limit i (f (Tape.next c) c) (g (Tape.next d) d)
  rwa [← next_eq hs]

theorem meets_place {f : P → Reader C β} {g : Q → Reader D β}
    (h : A.Meets S limit i (f (Tape.place c) c) (g (Tape.place d) d)) :
    A.Meets S limit i ((Reader.place >>= f) c) ((Reader.place >>= g) d) := h

theorem meets_advance {f : Unit → Reader C β} {g : Unit → Reader D β} (hin : i < A.length)
    (hs : A.state i c d) (hlimit : A.reach i ≤ limit)
    (h : A.reach (i + 1) < limit → A.state (i + 1) (Tape.advance c) (Tape.advance d) →
      A.Meets S limit (i + 1) (f () (Tape.advance c)) (g () (Tape.advance d))) :
    A.Meets S limit i ((Reader.advance >>= f) c) ((Reader.advance >>= g) d) := by
  have hlater := h (Nat.lt_of_lt_of_le (reach_succ_lt hin) hlimit) (A.advance hs)
  exact Meets.earlier (x := (Reader.advance >>= f) c) hlater (Nat.le_succ i)

/-- Behind an expected lexeme the readings stand on it. -/
theorem meets_expect {kind : TokenKind} {f : Unit → Reader C β} {g : Unit → Reader D β}
    (hkind : kind ≠ .eof) (hs : A.state i c d) (hlimit : A.reach i ≤ limit)
    (h : i + 1 < A.length → A.reach (i + 1) ≤ limit →
      A.state (i + 1) (Tape.advance c) (Tape.advance d) →
      A.Meets S limit (i + 1) (f () (Tape.advance c)) (g () (Tape.advance d))) :
    A.Meets S limit i ((Reader.expect kind >>= f) c) ((Reader.expect kind >>= g) d) := by
  rw [Reader.bind_apply, Reader.bind_apply]
  unfold Reader.expect
  rw [← next_eq hs]
  by_cases hnext : (Tape.next c).kind = kind
  · rw [if_pos hnext, if_pos hnext]
    have hin := inside_next hs (hnext ▸ hkind)
    have hlimit := Nat.le_trans (Nat.le_of_lt (reach_succ_lt (Nat.lt_of_succ_lt hin))) hlimit
    exact (h hin hlimit (A.advance hs)).earlier (Nat.le_succ i)
  · rw [if_neg hnext, if_neg hnext]
    -- the error stands at the following lexeme, but the readings have not moved
    exact .failure (Nat.le_refl _) hlimit (A.miss hs rfl ⟨rfl, hnext⟩)

theorem meets_refuse {a : Cause} (hs : A.state i c d) (hlimit : A.reach i ≤ limit)
    (hhere : a.isTarget = false) (ha : a.Blames (Tape.current c)) :
    A.Meets S limit i ((do Reader.refuse a (← Reader.place) : Reader C β) c)
      ((do Reader.refuse a (← Reader.place) : Reader D β) d) :=
  .failure (Nat.le_refl _) hlimit (A.halt (A.blame hs hhere ha))

/-- An error at the current lexeme, behind which reading goes on. -/
theorem meets_record {a : Cause} {f : Reader C β} {g : Reader D β} (hs : A.state i c d)
    (hhere : a.isTarget = false) (ha : a.Blames (Tape.current c))
    (h : ∀ c' d', A.state i c' d' → A.Meets S limit i (f c') (g d')) :
    A.Meets S limit i ((do Reader.record a (← Reader.place); f : Reader C β) c)
      ((do Reader.record a (← Reader.place); g : Reader D β) d) :=
  h _ _ (A.blame hs hhere ha)

/-- A move behind a reader that may have no result. It goes over a lexeme, or is the last one. -/
theorem meets_attempt {r : Reader C α} {s : Reader D α} {f : Option α → Reader C β}
    {g : Option α → Reader D β} (h : A.Meets R (A.reach i) i (r c) (s d))
    (hspare : A.reach i < limit)
    (hf : ∀ a j c' d', i < j → A.reach j ≤ limit → A.length ≤ j ∨ A.reach j < limit →
      (∀ x ∈ a, R x) → A.state j c' d' → A.Meets S limit j (f a c') (g a d')) :
    A.Meets S limit i ((r.attempt >>= fun a => Reader.advance >>= fun _ => f a) c)
      ((s.attempt >>= fun a => Reader.advance >>= fun _ => g a) d) := by
  -- what is left to move behind `j`, whether the move goes over a lexeme or past the end
  have hleft : ∀ {j}, A.reach j ≤ A.reach i →
      A.reach (j + 1) ≤ limit ∧ (A.length ≤ j + 1 ∨ A.reach (j + 1) < limit) := by
    unfold reach at hspare ⊢
    omega
  show A.Meets S limit i (f (r c).1 (Tape.advance (r c).2)) (g (s d).1 (Tape.advance (s d).2))
  generalize r c = x, s d = y at h
  cases h with
  | result hi hlimit ha hs =>
    refine (hf _ _ _ _ (Nat.lt_succ_of_le hi) (hleft hlimit).1 (hleft hlimit).2 ?_
      (A.advance hs)).earlier (Nat.le_succ_of_le hi)
    simpa using ha
  | failure hi hlimit hs =>
    exact (hf none _ _ _ (Nat.lt_succ_of_le hi) (hleft hlimit).1 (hleft hlimit).2 nofun
      (A.resume hs)).earlier (Nat.le_succ_of_le hi)

end Bind

/-! ## Parts without expressions -/

theorem meets_integer (hs : A.state i c d) (hlimit : A.reach i ≤ limit)
    (hkind : (Tape.current c).kind = .int) :
    A.Meets A.expr limit i (Reader.integer c) (Reader.integer d) := by
  apply meets_current hs
  cases hn : Decimal.toInt64? (Tape.current c).literal with
  | some n => exact meets_pure hs hlimit A.int
  | none => exact meets_refuse hs hlimit rfl ⟨rfl, hkind, hn⟩

theorem meets_parameter (hs : A.state i c d) (hlimit : A.reach i ≤ limit) :
    A.Meets A.word limit i (Reader.parameter c) (Reader.parameter d) := by
  apply meets_current hs
  have hword := A.word_current hs
  split
  · next hkind =>
    refine meets_record hs rfl ⟨rfl, by simpa using hkind⟩ fun c' d' hs' => ?_
    exact meets_pure hs' hlimit hword
  · exact meets_pure hs hlimit hword

theorem meets_skipSemicolon (hs : A.state i c d) (hlimit : A.reach i ≤ limit) :
    A.Meets (fun _ => True) limit i (Reader.skipSemicolon c) (Reader.skipSemicolon d) := by
  apply meets_next hs
  split
  · next hkind =>
    have hin := inside_next hs (by simp [eq_of_beq hkind])
    have hmove := Nat.le_of_lt (reach_succ_lt (Nat.lt_of_succ_lt hin))
    exact .result (Nat.le_succ i) (Nat.le_trans hmove hlimit) trivial (A.advance hs)
  · exact meets_pure hs hlimit trivial

theorem meets_moreParameters {n m : Nat} (hroom : A.room (A.length - i + 1) n m)
    (hs : A.state i c d) (hlimit : A.reach i ≤ limit) :
    A.Meets (fun xs => ∀ x ∈ xs, A.word x) limit i (Reader.moreParameters n c)
      (Reader.moreParameters m d) := by
  induction n generalizing m i c d with
  | zero =>
    obtain rfl := A.room_zero hroom
    exact meets_stop hroom hs hlimit
  | succ n ih =>
    obtain ⟨m, rfl, hless⟩ := A.room_succ hroom
    unfold Reader.moreParameters
    apply meets_next hs
    split
    · next hcomma =>
      have hin := inside_next hs (by simp [eq_of_beq hcomma])
      refine meets_advance (Nat.lt_of_succ_lt hin) hs hlimit fun hlimit hs => ?_
      refine meets_advance hin hs (Nat.le_of_lt hlimit) fun hlimit hs => ?_
      apply (meets_parameter hs (Nat.le_of_lt hlimit)).bind
      intro x j _ _ hj hlimit hx hs
      apply (ih (A.room_mono (by omega) hless) hs hlimit).bind
      intro xs k _ _ hk hlimit hxs hs
      exact meets_pure hs hlimit (List.forall_mem_cons.mpr ⟨hx, hxs⟩)
    · exact meets_pure hs hlimit nofun

theorem meets_parameters {n m : Nat} (hroom : A.room (A.length - i + 1) n m) (hin : i < A.length)
    (hs : A.state i c d) (hlimit : A.reach i ≤ limit) :
    A.Meets (fun xs => ∀ x ∈ xs, A.word x) limit i (Reader.parameters n c)
      (Reader.parameters m d) := by
  apply meets_next hs
  split
  · refine meets_advance hin hs hlimit fun hlimit hs => ?_
    exact meets_pure hs (Nat.le_of_lt hlimit) nofun
  · refine meets_advance hin hs hlimit fun hlimit hs => ?_
    apply (meets_parameter hs (Nat.le_of_lt hlimit)).bind
    intro x j _ _ hj hlimit hx hs
    apply (meets_moreParameters (A.room_mono (by omega) hroom) hs hlimit).bind
    intro xs k _ _ hk hlimit hxs hs
    refine meets_expect (by decide) hs hlimit fun _ hlimit hs => ?_
    exact meets_pure hs hlimit (List.forall_mem_cons.mpr ⟨hx, hxs⟩)

/-! ## Expressions and statements -/

/-- Only a lexeme of the row can hold on to something. -/
theorem kind_ne_eof_of_looser {p : Precedence} {kind : TokenKind}
    (h : p.looser (Precedence.ofKind kind) = true) : kind ≠ .eof := by
  rintro rfl
  exact absurd h (by simp [Precedence.looser, Precedence.ofKind, Precedence.rank])

theorem kind_ne_eof_of_ends {around : Reader.Enclosure} {kind : TokenKind}
    (h : ¬ around.ends kind = true) : kind ≠ .eof := by
  rintro rfl
  cases around <;> exact h rfl

theorem ends_statements {n : Nat} {around : Reader.Enclosure} {c c' : C} {body : List Statement}
    (h : Reader.statements n around c = (some body, c')) :
    around.ends (Tape.current c').kind = true := by
  induction n generalizing c body with
  | zero => cases h
  | succ n ih =>
    rw [Reader.statements] at h
    replace h : (if around.ends (Tape.current c).kind = true then pure [] else _ :
      Reader C (List Statement)) c = _ := h
    split at h
    · next hends =>
      obtain ⟨-, rfl⟩ := Prod.mk.inj h
      exact hends
    · replace h : (Reader.statements n around >>= fun rest =>
        pure ((Reader.statement n c).1.toList ++ rest)) (Tape.advance (Reader.statement n c).2) = _ := h
      rw [Reader.bind_apply] at h
      rcases hs : Reader.statements n around (Tape.advance (Reader.statement n c).2)
        with ⟨_ | rest, e⟩
      · rw [hs] at h
        cases h
      · rw [hs] at h
        obtain ⟨-, rfl⟩ := Prod.mk.inj h
        exact ih hs

/-- With the bound `n`, all readers meet those with any bound for which there is room. A row of
statements may move past the end once, and behind the end it moves no more. -/
structure MeetsAt (A : Lockstep C D) (n : Nat) : Prop where
  expression : ∀ {m i limit c d} p, A.room (8 * (A.length - i) + 3) n m → A.state i c d →
    A.reach i ≤ limit →
    A.Meets A.expr limit i (Reader.expression n p c) (Reader.expression m p d)
  operators : ∀ {m i limit c d} p {e}, A.room (8 * (A.length - i) + 2) n m → A.state i c d →
    A.reach i ≤ limit → A.expr e →
    A.Meets A.expr limit i (Reader.operators n p e c) (Reader.operators m p e d)
  extension : ∀ {m i limit c d} {e}, A.room (8 * (A.length - i) + 2) n m → A.state i c d →
    A.reach i ≤ limit → A.expr e →
    A.Meets A.expr limit i (Reader.extension n e c) (Reader.extension m e d)
  operand : ∀ {m i limit c d}, A.room (8 * (A.length - i) + 2) n m → A.state i c d →
    A.reach i ≤ limit → A.Meets A.expr limit i (Reader.operand n c) (Reader.operand m d)
  conditional : ∀ {m i limit c d}, A.room (8 * (A.length - i) + 1) n m → A.state i c d →
    A.reach i ≤ limit → A.Meets A.expr limit i (Reader.conditional n c) (Reader.conditional m d)
  items : ∀ {m i limit c d} close, A.room (8 * (A.length - i) + 1) n m → A.state i c d →
    A.reach i ≤ limit → i < A.length →
    A.Meets (fun es => ∀ e ∈ es, A.expr e) limit i (Reader.items n close c)
      (Reader.items m close d)
  moreItems : ∀ {m i limit c d}, A.room (8 * (A.length - i) + 1) n m → A.state i c d →
    A.reach i ≤ limit →
    A.Meets (fun es => ∀ e ∈ es, A.expr e) limit i (Reader.moreItems n c) (Reader.moreItems m d)
  block : ∀ {m i limit c d}, A.room (8 * (A.length - i) + 1) n m → A.state i c d →
    A.reach i ≤ limit → i < A.length →
    A.Meets (fun ss => ∀ s ∈ ss, A.statement s) limit i (Reader.block n c) (Reader.block m d)
  statements : ∀ {m i limit c d} around, A.room (8 * (A.length - i) + 5) n m → A.state i c d →
    A.reach i ≤ limit → A.length ≤ i ∨ A.reach i < limit →
    A.Meets (fun ss => ∀ s ∈ ss, A.statement s) limit i (Reader.statements n around c)
      (Reader.statements m around d)
  statement : ∀ {m i limit c d}, A.room (8 * (A.length - i) + 4) n m → A.state i c d →
    A.reach i ≤ limit → A.Meets A.statement limit i (Reader.statement n c) (Reader.statement m d)

theorem meetsAt_zero (A : Lockstep C D) : A.MeetsAt 0 := by
  constructor
  all_goals
    intros
    obtain rfl := A.room_zero (by assumption)
    simp only [Reader.expression, Reader.operators, Reader.extension, Reader.operand,
      Reader.conditional, Reader.items, Reader.moreItems, Reader.block, Reader.statements,
      Reader.statement]
    exact meets_stop (by assumption) (by assumption) (by assumption)

namespace MeetsAt

variable {n m : Nat} {e : Expr} (h : A.MeetsAt n)
include h

theorem expression_succ (p : Precedence) (hroom : A.room (8 * (A.length - i) + 3) (n + 1) m)
    (hs : A.state i c d) (hlimit : A.reach i ≤ limit) :
    A.Meets A.expr limit i (Reader.expression (n + 1) p c) (Reader.expression m p d) := by
  obtain ⟨m, rfl, hless⟩ := A.room_succ hroom
  unfold Reader.expression
  apply (h.operand (A.room_mono (by omega) hless) hs hlimit).bind
  intro e j _ _ hj hlimit he hs
  exact h.operators p (A.room_mono (by omega) hless) hs hlimit he

theorem operators_succ (p : Precedence) (hroom : A.room (8 * (A.length - i) + 2) (n + 1) m)
    (hs : A.state i c d) (hlimit : A.reach i ≤ limit) (he : A.expr e) :
    A.Meets A.expr limit i (Reader.operators (n + 1) p e c) (Reader.operators m p e d) := by
  obtain ⟨m, rfl, hless⟩ := A.room_succ hroom
  unfold Reader.operators
  apply meets_next hs
  split
  · next hholds =>
    have hin := inside_next hs (kind_ne_eof_of_looser hholds)
    refine meets_advance (Nat.lt_of_succ_lt hin) hs hlimit fun hlimit hs => ?_
    apply (h.extension (A.room_mono (by omega) hless) hs (Nat.le_of_lt hlimit) he).bind
    intro e' j _ _ hj hlimit he' hs
    exact h.operators p (A.room_mono (by omega) hless) hs hlimit he'
  · exact meets_pure hs hlimit he

theorem extension_succ (hroom : A.room (8 * (A.length - i) + 2) (n + 1) m)
    (hs : A.state i c d) (hlimit : A.reach i ≤ limit) (he : A.expr e) :
    A.Meets A.expr limit i (Reader.extension (n + 1) e c) (Reader.extension m e d) := by
  obtain ⟨m, rfl, hless⟩ := A.room_succ hroom
  unfold Reader.extension
  apply meets_current hs
  generalize hkind : (Tape.current c).kind = kind
  split
  · have hin := A.inside hs (by simp [hkind])
    apply (h.items .rightParen (A.room_mono (by omega) hless) hs hlimit hin).bind
    intro es j _ _ hj hlimit hes hs
    exact meets_pure hs hlimit (A.call he hes)
  · have hin := A.inside hs (by simp [hkind])
    refine meets_advance hin hs hlimit fun hlimit hs => ?_
    apply (h.expression _ (A.room_mono (by omega) hless) hs (Nat.le_of_lt hlimit)).bind
    intro position j _ _ hj hlimit hposition hs
    refine meets_expect (by decide) hs hlimit fun _ hlimit hs => ?_
    exact meets_pure hs hlimit (A.index he hposition)
  · have hin := A.inside hs (by simp [hkind])
    have hsign := A.mark hs hkind
    apply meets_place
    refine meets_advance hin hs hlimit fun hlimit hs => ?_
    apply (h.expression _ (A.room_mono (by omega) hless) hs (Nat.le_of_lt hlimit)).bind
    intro value j _ _ hj hlimit hvalue hs
    cases e with
    | ident x => exact meets_pure hs hlimit (A.assign he hvalue)
    | _ => exact .failure (Nat.le_refl _) hlimit (A.halt (A.target hs hsign he))
  · next s _ _ _ =>
    have hin := A.inside hs (by simp [hkind])
    cases BinaryOp.ofSymbol? s with
    | none => exact meets_pure hs hlimit he
    | some op =>
      refine meets_advance hin hs hlimit fun hlimit hs => ?_
      apply (h.expression _ (A.room_mono (by omega) hless) hs (Nat.le_of_lt hlimit)).bind
      intro right j _ _ hj hlimit hright hs
      exact meets_pure hs hlimit (A.binary he hright)
  · exact meets_pure hs hlimit he

theorem operand_succ (hroom : A.room (8 * (A.length - i) + 2) (n + 1) m) (hs : A.state i c d)
    (hlimit : A.reach i ≤ limit) :
    A.Meets A.expr limit i (Reader.operand (n + 1) c) (Reader.operand m d) := by
  obtain ⟨m, rfl, hless⟩ := A.room_succ hroom
  have hword := A.word_current hs
  unfold Reader.operand
  apply meets_current hs
  generalize hkind : (Tape.current c).kind = kind
  split
  · exact meets_pure hs hlimit (A.ident hword)
  · exact meets_integer hs hlimit hkind
  · exact meets_pure hs hlimit (A.str hword)
  · exact meets_pure hs hlimit A.bool
  · exact meets_pure hs hlimit A.bool
  · exact meets_pure hs hlimit A.nil
  · exact h.conditional (A.room_mono (by omega) hless) hs hlimit
  · refine meets_expect (by decide) hs hlimit fun hin hlimit hs => ?_
    apply (meets_parameters (A.room_mono (by omega) hless) hin hs hlimit).bind
    intro names j _ _ hj hlimit hnames hs
    refine meets_expect (by decide) hs hlimit fun hin hlimit hs => ?_
    apply (h.block (A.room_mono (by omega) hless) hs hlimit hin).bind
    intro body k _ _ hk hlimit hbody hs
    exact meets_pure hs hlimit (A.function hnames hbody)
  · have hin := A.inside hs (by simp [hkind])
    refine meets_advance hin hs hlimit fun hlimit hs => ?_
    apply (h.expression _ (A.room_mono (by omega) hless) hs (Nat.le_of_lt hlimit)).bind
    intro inner j _ _ hj hlimit hinner hs
    refine meets_expect (by decide) hs hlimit fun _ hlimit hs => ?_
    exact meets_pure hs hlimit hinner
  · have hin := A.inside hs (by simp [hkind])
    apply (h.items _ (A.room_mono (by omega) hless) hs hlimit hin).bind
    intro es j _ _ hj hlimit hes hs
    exact meets_pure hs hlimit (A.array hes)
  · next s hparen hbracket =>
    have hin := A.inside hs (by simp [hkind])
    cases hop : UnaryOp.ofSymbol? s with
    | none =>
      refine meets_refuse hs hlimit rfl ⟨rfl, ?_⟩
      rw [hkind]
      cases s <;> simp_all [TokenKind.opensOperand, UnaryOp.ofSymbol?]
    | some op =>
      refine meets_advance hin hs hlimit fun hlimit hs => ?_
      apply (h.expression _ (A.room_mono (by omega) hless) hs (Nat.le_of_lt hlimit)).bind
      intro inner j _ _ hj hlimit hinner hs
      exact meets_pure hs hlimit (A.unary hinner)
  · refine meets_refuse hs hlimit rfl ⟨rfl, ?_⟩
    rw [hkind]
    cases kind with
    | keyword word => cases word <;> simp_all [TokenKind.opensOperand]
    | _ => simp_all [TokenKind.opensOperand]

theorem conditional_succ (hroom : A.room (8 * (A.length - i) + 1) (n + 1) m) (hs : A.state i c d)
    (hlimit : A.reach i ≤ limit) :
    A.Meets A.expr limit i (Reader.conditional (n + 1) c) (Reader.conditional m d) := by
  obtain ⟨m, rfl, hless⟩ := A.room_succ hroom
  unfold Reader.conditional
  refine meets_expect (by decide) hs hlimit fun hin hlimit hs => ?_
  refine meets_advance hin hs hlimit fun hlimit hs => ?_
  apply (h.expression _ (A.room_mono (by omega) hless) hs (Nat.le_of_lt hlimit)).bind
  intro condition j _ _ hj hlimit hcondition hs
  refine meets_expect (by decide) hs hlimit fun _ hlimit hs => ?_
  refine meets_expect (by decide) hs hlimit fun hin hlimit hs => ?_
  apply (h.block (A.room_mono (by omega) hless) hs hlimit hin).bind
  intro consequence k c' _ hk hlimit hconsequence hs
  apply meets_next hs
  split
  · next helse =>
    have hin := inside_next hs (by simp [eq_of_beq helse])
    refine meets_advance (Nat.lt_of_succ_lt hin) hs hlimit fun hlimit hs => ?_
    refine meets_expect (by decide) hs (Nat.le_of_lt hlimit) fun hin hlimit hs => ?_
    apply (h.block (A.room_mono (by omega) hless) hs hlimit hin).bind
    intro alternative l _ _ hl hlimit halternative hs
    exact meets_pure hs hlimit (A.ifElse hcondition hconsequence halternative)
  · exact meets_pure hs hlimit (A.ifThen hcondition hconsequence)

theorem items_succ (close : Symbol) (hroom : A.room (8 * (A.length - i) + 1) (n + 1) m)
    (hs : A.state i c d) (hlimit : A.reach i ≤ limit) (hin : i < A.length) :
    A.Meets (fun es => ∀ e ∈ es, A.expr e) limit i (Reader.items (n + 1) close c)
      (Reader.items m close d) := by
  obtain ⟨m, rfl, hless⟩ := A.room_succ hroom
  unfold Reader.items
  apply meets_next hs
  split
  · refine meets_advance hin hs hlimit fun hlimit hs => ?_
    exact meets_pure hs (Nat.le_of_lt hlimit) nofun
  · refine meets_advance hin hs hlimit fun hlimit hs => ?_
    apply (h.expression _ (A.room_mono (by omega) hless) hs (Nat.le_of_lt hlimit)).bind
    intro first j _ _ hj hlimit hfirst hs
    apply (h.moreItems (A.room_mono (by omega) hless) hs hlimit).bind
    intro rest k _ _ hk hlimit hrest hs
    refine meets_expect nofun hs hlimit fun _ hlimit hs => ?_
    exact meets_pure hs hlimit (List.forall_mem_cons.mpr ⟨hfirst, hrest⟩)

theorem moreItems_succ (hroom : A.room (8 * (A.length - i) + 1) (n + 1) m) (hs : A.state i c d)
    (hlimit : A.reach i ≤ limit) :
    A.Meets (fun es => ∀ e ∈ es, A.expr e) limit i (Reader.moreItems (n + 1) c)
      (Reader.moreItems m d) := by
  obtain ⟨m, rfl, hless⟩ := A.room_succ hroom
  unfold Reader.moreItems
  apply meets_next hs
  split
  · next hcomma =>
    have hin := inside_next hs (by simp [eq_of_beq hcomma])
    refine meets_advance (Nat.lt_of_succ_lt hin) hs hlimit fun hlimit hs => ?_
    refine meets_advance hin hs (Nat.le_of_lt hlimit) fun hlimit hs => ?_
    apply (h.expression _ (A.room_mono (by omega) hless) hs (Nat.le_of_lt hlimit)).bind
    intro first j _ _ hj hlimit hfirst hs
    apply (h.moreItems (A.room_mono (by omega) hless) hs hlimit).bind
    intro rest k _ _ hk hlimit hrest hs
    exact meets_pure hs hlimit (List.forall_mem_cons.mpr ⟨hfirst, hrest⟩)
  · exact meets_pure hs hlimit nofun

/-- The opening brace pays for a move past the end. -/
theorem block_succ (hroom : A.room (8 * (A.length - i) + 1) (n + 1) m) (hs : A.state i c d)
    (hlimit : A.reach i ≤ limit) (hin : i < A.length) :
    A.Meets (fun ss => ∀ s ∈ ss, A.statement s) limit i (Reader.block (n + 1) c)
      (Reader.block m d) := by
  obtain ⟨m, rfl, hless⟩ := A.room_succ hroom
  unfold Reader.block
  refine meets_advance hin hs hlimit fun hlimit hs => ?_
  apply (h.statements _ (A.room_mono (by omega) hless) hs (Nat.le_of_lt hlimit)
    (.inr hlimit)).bind_of_eq
  intro body j _ _ hread hj hlimit hbody hs
  apply meets_current hs
  split
  · next hkind =>
    have hends := ends_statements hread
    refine meets_record hs rfl ⟨rfl, ?_⟩ fun _ _ hs => meets_pure hs hlimit hbody
    simp_all [Reader.Enclosure.ends]
  · exact meets_pure hs hlimit hbody

/-- A move behind a statement is a move over a lexeme, or the last one. -/
theorem statements_succ (around : Reader.Enclosure)
    (hroom : A.room (8 * (A.length - i) + 5) (n + 1) m) (hs : A.state i c d)
    (hlimit : A.reach i ≤ limit) (hspare : A.length ≤ i ∨ A.reach i < limit) :
    A.Meets (fun ss => ∀ s ∈ ss, A.statement s) limit i (Reader.statements (n + 1) around c)
      (Reader.statements m around d) := by
  obtain ⟨m, rfl, hless⟩ := A.room_succ hroom
  unfold Reader.statements
  apply meets_current hs
  split
  · exact meets_pure hs hlimit nofun
  · next hgoes =>
    have hin := A.inside hs (kind_ne_eof_of_ends hgoes)
    have hspare : A.reach i < limit := hspare.resolve_left (Nat.not_le_of_lt hin)
    refine meets_attempt (h.statement (A.room_mono (by omega) hless) hs (Nat.le_refl _)) hspare ?_
    intro s j _ _ hj hlimit hspare hstatement hs
    apply (h.statements around (A.room_mono (by omega) hless) hs hlimit hspare).bind
    intro rest k _ _ hk hlimit hrest hs
    refine meets_pure hs hlimit fun x hx => ?_
    obtain hx | hx := List.mem_append.mp hx
    · exact hstatement x (by simpa using hx)
    · exact hrest x hx

theorem statement_succ (hroom : A.room (8 * (A.length - i) + 4) (n + 1) m) (hs : A.state i c d)
    (hlimit : A.reach i ≤ limit) :
    A.Meets A.statement limit i (Reader.statement (n + 1) c) (Reader.statement m d) := by
  obtain ⟨m, rfl, hless⟩ := A.room_succ hroom
  unfold Reader.statement
  apply meets_current hs
  generalize hkind : (Tape.current c).kind = kind
  split
  · refine meets_expect (by decide) hs hlimit fun _ hlimit hs => meets_current hs ?_
    have hname := A.word_current hs
    refine meets_expect (by decide) hs hlimit fun hin hlimit hs => ?_
    refine meets_advance hin hs hlimit fun hlimit hs => ?_
    apply (h.expression _ (A.room_mono (by omega) hless) hs (Nat.le_of_lt hlimit)).bind
    intro value j _ _ hj hlimit hvalue hs
    apply (meets_skipSemicolon hs hlimit).bind
    intro _ k _ _ hk hlimit _ hs
    exact meets_pure hs hlimit (A.bind hname hvalue)
  · have hin := A.inside hs (by simp [hkind])
    refine meets_advance hin hs hlimit fun hlimit hs => ?_
    apply (h.expression _ (A.room_mono (by omega) hless) hs (Nat.le_of_lt hlimit)).bind
    intro value j _ _ hj hlimit hvalue hs
    apply (meets_skipSemicolon hs hlimit).bind
    intro _ k _ _ hk hlimit _ hs
    exact meets_pure hs hlimit (A.ret hvalue)
  · apply (h.expression _ (A.room_mono (by omega) hless) hs hlimit).bind
    intro value j _ _ hj hlimit hvalue hs
    apply (meets_skipSemicolon hs hlimit).bind
    intro _ k _ _ hk hlimit _ hs
    exact meets_pure hs hlimit (A.value hvalue)

end MeetsAt

theorem meetsAt (A : Lockstep C D) (n : Nat) : A.MeetsAt n := by
  induction n with
  | zero => exact A.meetsAt_zero
  | succ n h =>
    exact ⟨h.expression_succ, fun p _ => h.operators_succ p, h.extension_succ, h.operand_succ,
      h.conditional_succ, h.items_succ, h.moreItems_succ, h.block_succ, h.statements_succ,
      h.statement_succ⟩

end Lockstep

end CurryLang
