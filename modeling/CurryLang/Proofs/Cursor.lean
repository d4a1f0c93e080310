import CurryLang.Proofs.Lockstep

/-!
# Cursors in a row of lexemes

A `Cursor` is the plainest of tapes. It stands in a row of lexemes that goes on with end-of-input
lexemes for ever, its places are the numbers of the lexemes, and an error on it is a `Fault`, which
does not depend on layout. What is true of the grammar is proved along cursors, and other tapes are
compared with them.

A reader only moves forward and only adds faults (`Forward`), whatever its bound. So a reader that
ends without new faults had none in any of its parts, and what it read can be described part by part.
-/

namespace CurryLang

/-- A cause at the lexeme number `token` of a row. -/
structure Fault where
  cause : Cause
  token : Nat
  deriving DecidableEq, Repr

/-- A place in a row of lexemes. -/
structure Cursor where
  /-- The lexemes from the current one on, without the end-of-input lexemes that follow. -/
  ahead : List Lexeme
  /-- The number of the current lexeme. -/
  index : Nat
  /-- The faults met so far, the latest first. -/
  faults : List Fault
  /-- Some reader has reached its bound. -/
  exhausted : Bool
  deriving Repr

namespace Cursor

def start (row : List Lexeme) : Cursor := ⟨row, 0, [], false⟩

def current (c : Cursor) : Lexeme := c.ahead.headD .eof

def next (c : Cursor) : Lexeme := c.ahead.tail.headD .eof

def advance (c : Cursor) : Cursor := { c with ahead := c.ahead.tail, index := c.index + 1 }

def record (c : Cursor) (cause : Cause) (token : Nat) : Cursor :=
  { c with faults := ⟨cause, token⟩ :: c.faults }

instance : Tape Cursor Nat where
  current := current
  next := next
  place := index
  nextPlace c := c.index + 1
  advance := advance
  record := record
  exhaust c := { c with exhausted := true }
  current_advance _ := rfl

@[simp] theorem tape_record (c : Cursor) (a : Cause) (i : Nat) :
    Tape.record c a i = c.record a i := rfl

@[simp] theorem current_advance (c : Cursor) : c.advance.current = c.next := rfl

def rest (c : Cursor) : List Lexeme := c.ahead.tail

@[simp] theorem ahead_advance (c : Cursor) : c.advance.ahead = c.rest := rfl

theorem length_rest (c : Cursor) : c.rest.length = c.ahead.length - 1 := by
  unfold rest
  rw [List.length_tail]

theorem length_advance (c : Cursor) : c.advance.ahead.length = c.ahead.length - 1 := c.length_rest

theorem ahead_of_kind {c : Cursor} {k : TokenKind} (hk : c.current.kind = k)
    (hne : k ≠ .eof) : c.ahead = c.current :: c.rest := by
  subst hk
  unfold current rest at *
  cases hc : c.ahead with
  | nil => rw [hc] at hne; exact absurd rfl hne
  | cons x w => rfl

theorem rest_of_kind {c : Cursor} {k : TokenKind} (hk : c.next.kind = k)
    (hne : k ≠ .eof) : c.rest = c.next :: c.advance.rest :=
  ahead_of_kind (c := c.advance) hk hne

theorem length_pos_of_kind {c : Cursor} {kind : TokenKind} (hk : c.current.kind = kind)
    (hne : kind ≠ .eof) : 0 < c.ahead.length := by
  rw [ahead_of_kind hk hne]
  exact Nat.succ_pos _

end Cursor

/-! ## Whole rows -/

/-- What reading a whole row gives, and where it ends. -/
def Program.read (row : List Lexeme) : Option Program × Cursor :=
  Reader.statements (Reader.depth row.length) .source (.start row)

/-- The program of a row of lexemes and its faults. -/
def Program.ofLexemes (row : List Lexeme) : Program × List Fault :=
  ((Program.read row).1.getD [], (Program.read row).2.faults.reverse)

namespace Reader

variable {α β : Type}

theorem expect_of_kind {c : Cursor} {k : TokenKind} (h : c.next.kind = k) :
    expect k c = (some (), c.advance) := if_pos h

theorem expect_of_kind_ne {c : Cursor} {k : TokenKind} (h : c.next.kind ≠ k) :
    expect k c = (none, c.record (.unexpected k c.next.kind) (c.index + 1)) := if_neg h

/-! ## Moving forward -/

/-- A reader leaves no more lexemes ahead than it found, and keeps the faults met before. -/
def Forward (r : Reader Cursor α) : Prop :=
  ∀ c, (r c).2.ahead.length ≤ c.ahead.length ∧ c.faults <:+ (r c).2.faults

theorem forward_pure (a : α) : Forward (pure a : Reader Cursor α) :=
  fun _ => ⟨Nat.le_refl _, List.suffix_refl _⟩

theorem forward_current : Forward current := fun _ => ⟨Nat.le_refl _, List.suffix_refl _⟩

theorem forward_next : Forward next := fun _ => ⟨Nat.le_refl _, List.suffix_refl _⟩

theorem forward_place : Forward place := fun _ => ⟨Nat.le_refl _, List.suffix_refl _⟩

theorem forward_advance : Forward advance := fun c =>
  ⟨by show c.rest.length ≤ _; rw [c.length_rest]; omega, List.suffix_refl _⟩

theorem forward_record (a : Cause) (i : Nat) : Forward (record a i) := fun _ =>
  ⟨Nat.le_refl _, List.suffix_cons _ _⟩

theorem forward_refuse (a : Cause) (i : Nat) : Forward (refuse a i : Reader Cursor α) := fun _ =>
  ⟨Nat.le_refl _, List.suffix_cons _ _⟩

theorem forward_expect (k : TokenKind) : Forward (expect k) := by
  intro c
  unfold expect
  split
  · exact forward_advance c
  · exact forward_refuse (α := Unit) _ _ c

theorem Forward.attempt {r : Reader Cursor α} (h : Forward r) : Forward (attempt r) := h

theorem Forward.bind {r : Reader Cursor α} {f : α → Reader Cursor β} (hr : Forward r)
    (hf : ∀ a, Forward (f a)) : Forward (r >>= f) := by
  intro c
  obtain ⟨hlen, hfaults⟩ := hr c
  rw [bind_apply]
  match h : r c with
  | (some a, d) =>
    rw [h] at hlen hfaults
    obtain ⟨hlen', hfaults'⟩ := hf a d
    exact ⟨Nat.le_trans hlen' hlen, hfaults.trans hfaults'⟩
  | (none, d) =>
    rw [h] at hlen hfaults
    exact ⟨hlen, hfaults⟩

/-- A reading beside itself, from the cursor `c` on. Where `c` stands counts as a lexeme of the row. -/
def onward (c : Cursor) : Lockstep Cursor Cursor where
  toGrowth := .all
  length := c.ahead.length + 1
  state i d e := d = e ∧ d.ahead = c.ahead.drop i ∧ c.faults <:+ d.faults
  halted i d e := d = e ∧ d.ahead = c.ahead.drop i ∧ c.faults <:+ d.faults
  sign p q := p = q
  room _ n m := n = m
  room_mono _ h := h
  room_succ h := ⟨_, h.symm, rfl⟩
  room_zero h := h.symm
  current_eq h := congrArg Cursor.current h.1
  word_current _ := trivial
  inside := by
    rintro i d _ ⟨rfl, hahead, -⟩ hkind
    have hpos := Cursor.length_pos_of_kind rfl hkind
    rw [hahead, List.length_drop] at hpos
    omega
  advance := by
    rintro i d _ ⟨rfl, hahead, hfaults⟩
    exact ⟨rfl, (congrArg List.tail hahead).trans List.tail_drop, hfaults⟩
  halt h := h
  resume := by
    rintro i d _ ⟨rfl, hahead, hfaults⟩
    exact ⟨rfl, (congrArg List.tail hahead).trans List.tail_drop, hfaults⟩
  stop := by
    rintro k i d _ - ⟨rfl, h⟩
    exact ⟨rfl, h⟩
  blame := by
    rintro i d _ a ⟨rfl, hahead, hfaults⟩ - -
    exact ⟨rfl, hahead, hfaults.trans (List.suffix_cons _ _)⟩
  miss := by
    rintro i d _ a ⟨rfl, hahead, hfaults⟩ - -
    exact ⟨rfl, hahead, hfaults.trans (List.suffix_cons _ _)⟩
  mark h _ := congrArg Cursor.index h.1
  target := by
    rintro i d _ p _ e ⟨rfl, hahead, hfaults⟩ rfl -
    exact ⟨rfl, hahead, hfaults.trans (List.suffix_cons _ _)⟩

theorem onward_state (c : Cursor) : (onward c).state 0 c c := ⟨rfl, rfl, List.suffix_refl _⟩

theorem onward_zero_lt (c : Cursor) : 0 < (onward c).length := Nat.succ_pos _

theorem forward_of_meets {r : Reader Cursor α} {R : α → Prop} {limit : Nat} {c : Cursor}
    (h : (onward c).Meets R limit 0 (r c) (r c)) :
    (r c).2.ahead.length ≤ c.ahead.length ∧ c.faults <:+ (r c).2.faults := by
  have hlength (i : Nat) : (c.ahead.drop i).length ≤ c.ahead.length := by
    rw [List.length_drop]
    exact Nat.sub_le ..
  generalize r c = x at h
  cases h with
  | result _ _ _ hd => exact ⟨hd.2.1 ▸ hlength _, hd.2.2⟩
  | failure _ _ hd => exact ⟨hd.2.1 ▸ hlength _, hd.2.2⟩

theorem forward_parameter : Forward parameter := fun c =>
  forward_of_meets (Lockstep.meets_parameter (onward_state c) (Nat.le_refl _))

theorem forward_skipSemicolon : Forward skipSemicolon := fun c =>
  forward_of_meets (Lockstep.meets_skipSemicolon (onward_state c) (Nat.le_refl _))

theorem forward_moreParameters (n : Nat) : Forward (moreParameters n) := fun c =>
  forward_of_meets (Lockstep.meets_moreParameters rfl (onward_state c) (Nat.le_refl _))

theorem forward_parameters (n : Nat) : Forward (parameters n) := fun c =>
  forward_of_meets
    (Lockstep.meets_parameters rfl (onward_zero_lt c) (onward_state c) (Nat.le_refl _))

/-- All readers with the bound `n` move forward. -/
structure ForwardAt (n : Nat) : Prop where
  expression : ∀ p, Forward (expression n p)
  operators : ∀ p e, Forward (operators n p e)
  extension : ∀ e, Forward (extension n e)
  operand : Forward (operand n)
  conditional : Forward (conditional n)
  items : ∀ close, Forward (items n close)
  moreItems : Forward (moreItems n)
  block : Forward (block n)
  statements : ∀ around, Forward (statements n around)
  statement : Forward (statement n)

theorem forwardAt (n : Nat) : ForwardAt n := by
  have h (c : Cursor) := (onward c).meetsAt n
  have hpos := onward_zero_lt
  have hs := onward_state
  constructor
  case expression =>
    exact fun p c => forward_of_meets ((h c).expression p rfl (hs c) (Nat.le_refl _))
  case operators =>
    exact fun p _ c => forward_of_meets ((h c).operators p rfl (hs c) (Nat.le_refl _) trivial)
  case extension =>
    exact fun _ c => forward_of_meets ((h c).extension rfl (hs c) (Nat.le_refl _) trivial)
  case operand => exact fun c => forward_of_meets ((h c).operand rfl (hs c) (Nat.le_refl _))
  case conditional =>
    exact fun c => forward_of_meets ((h c).conditional rfl (hs c) (Nat.le_refl _))
  case items =>
    exact fun close c => forward_of_meets ((h c).items close rfl (hs c) (Nat.le_refl _) (hpos c))
  case moreItems => exact fun c => forward_of_meets ((h c).moreItems rfl (hs c) (Nat.le_refl _))
  case block => exact fun c => forward_of_meets ((h c).block rfl (hs c) (Nat.le_refl _) (hpos c))
  case statements =>
    exact fun around c => forward_of_meets
      ((h c).statements around rfl (hs c) (Nat.le_succ _) (.inr (Nat.lt_succ_self _)))
  case statement => exact fun c => forward_of_meets ((h c).statement rfl (hs c) (Nat.le_refl _))

end Reader

end CurryLang
