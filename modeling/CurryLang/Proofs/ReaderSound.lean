import CurryLang.Proofs.Cursor

/-!
# What is read without faults follows the grammar

Every reader with a large enough bound either records a fault or reads a phrase of the grammar, and
its result is the tree of that phrase (`soundAt`). A bound of eight for each lexeme ahead is large
enough: no more than eight readers call each other before one of them moves.

The reader of operators keeps an invariant: what was read so far is an expression of a tier whose
operators hold at least as tightly as the lexeme that follows (`Tier.ceiling`), and more tightly
than the level at which it reads (`Tier.floor`).
-/

namespace CurryLang

/-! ## Levels and tiers -/

/-- A reader at a level of a lower rank takes in a whole expression of the tier. -/
def Tier.floor : Tier → Nat
  | expression => 1
  | equality => 2
  | comparison => 3
  | sum => 4
  | product => 5
  | prefixed | applied | primary => 7

/-- A lexeme of a higher rank does not follow a whole expression of the tier: it would take the
last operand of it. -/
def Tier.ceiling : Tier → Nat
  | expression => 0
  | equality => 2
  | comparison => 3
  | sum => 4
  | product => 5
  | prefixed => 6
  | applied | primary => 8

theorem Tier.floor_le (t : Tier) : t.floor ≤ 7 := by cases t <;> decide

theorem Precedence.rank_le (p : Precedence) : p.rank ≤ 8 := by cases p <;> decide

/-- How tightly the lexeme after the current one holds on to what stands before it. -/
def Cursor.pull (c : Cursor) : Nat := (Precedence.ofKind c.next.kind).rank

theorem looser_next_iff {p : Precedence} {c : Cursor} :
    p.looser (Precedence.ofKind c.next.kind) = true ↔ p.rank < c.pull := by
  unfold Precedence.looser Cursor.pull
  rw [decide_eq_true_iff]

/-- Only a lexeme of the row can hold on to something. -/
theorem Cursor.rest_ne_nil {c : Cursor} (h : 0 < c.pull) : c.rest ≠ [] := by
  intro hnil
  unfold pull next at h
  rw [← rest, hnil] at h
  exact absurd h (by decide)

theorem rank_ofKind_eq_zero_iff (k : TokenKind) :
    (Precedence.ofKind k).rank = 0 ↔ k.continues = false := by
  cases k with
  | symbol s => cases s <;> decide
  | _ => exact ⟨fun _ => rfl, fun _ => rfl⟩

theorem BinaryOp.ofSymbol?_eq_some_iff {s : Symbol} {op : BinaryOp} :
    BinaryOp.ofSymbol? s = some op ↔ s = op.symbol := by
  cases s <;> cases op <;> decide

/-- Only calls, indexing, assignments and binary operators go on with an expression. -/
theorem Cursor.next_cases {c : Cursor} (h : 0 < c.pull) :
    c.next.kind = .symbol .leftParen ∨ c.next.kind = .symbol .leftBracket ∨
      c.next.kind = .symbol .assign ∨ ∃ op : BinaryOp, c.next.kind = .symbol op.symbol := by
  unfold pull at h
  cases hk : c.next.kind with
  | symbol s =>
    rw [hk] at h
    cases hs : BinaryOp.ofSymbol? s with
    | some op => exact .inr (.inr (.inr ⟨op, by rw [BinaryOp.ofSymbol?_eq_some_iff.mp hs]⟩))
    | none =>
      cases s <;>
        simp_all [BinaryOp.ofSymbol?, Precedence.ofKind, Precedence.ofSymbol, Precedence.rank]
  | _ => rw [hk] at h; exact absurd h (Nat.lt_irrefl 0)

theorem UnaryOp.ofSymbol?_eq_some_iff {s : Symbol} {op : UnaryOp} :
    UnaryOp.ofSymbol? s = some op ↔ s = op.symbol := by
  cases s <;> cases op <;> decide

/-- The level of a binary operator is the floor and the ceiling of its tier. -/
theorem BinaryOp.rank_ofSymbol (op : BinaryOp) :
    (Precedence.ofSymbol op.symbol).rank = op.tier.floor ∧ op.tier.ceiling = op.tier.floor := by
  cases op <;> decide

theorem Tier.rank_applied_le {t : Tier} (h : 7 ≤ t.ceiling) : applied.rank ≤ t.rank := by
  cases t <;> revert h <;> decide

theorem Tier.rank_prefixed_le {t : Tier} (h : 6 < t.floor) : prefixed.rank ≤ t.rank := by
  cases t <;> revert h <;> decide

theorem Tier.rank_equality_le {t : Tier} (h : 1 ≤ t.ceiling) : equality.rank ≤ t.rank := by
  cases t <;> revert h <;> decide

theorem BinaryOp.rank_tier_le (op : BinaryOp) {t : Tier} (h : op.tier.floor ≤ t.ceiling) :
    op.tier.rank ≤ t.rank := by
  cases op <;> cases t <;> revert h <;> decide

theorem BinaryOp.rank_tighter_le (op : BinaryOp) {t : Tier} (h : op.tier.floor < t.floor) :
    op.tier.tighter.rank ≤ t.rank := by
  cases op <;> cases t <;> revert h <;> decide

namespace Reader

variable {α β : Type}

/-! ## Results without faults -/

/-- Unless it records a fault, the reader has a result with the property `Q`. -/
def Yields (r : Reader Cursor α) (c : Cursor) (Q : α → Cursor → Prop) : Prop :=
  (r c).2.faults = c.faults → ∃ a, (r c).1 = some a ∧ Q a (r c).2

section

variable {c : Cursor} {R : β → Cursor → Prop}

theorem yields_pure {b : β} (h : R b c) : Yields (pure b) c R := fun _ => ⟨b, rfl, h⟩

theorem yields_refuse (a : Cause) (i : Nat) : Yields (refuse a i) c R := by
  intro h
  exact absurd (congrArg List.length h) (by simp [refuse, Cursor.record])

theorem Yields.mono {r : Reader Cursor β} {Q : β → Cursor → Prop} (h : Yields r c Q)
    (hQR : ∀ b d, Q b d → R b d) : Yields r c R := by
  intro hc
  obtain ⟨b, hb, hQ⟩ := h hc
  exact ⟨b, hb, hQR _ _ hQ⟩

theorem yields_current {f : Lexeme → Reader Cursor β} (h : Yields (f c.current) c R) :
    Yields (current >>= f) c R := h

theorem yields_next {f : Lexeme → Reader Cursor β} (h : Yields (f c.next) c R) :
    Yields (next >>= f) c R := h

theorem yields_place {f : Nat → Reader Cursor β} (h : Yields (f c.index) c R) :
    Yields (place >>= f) c R := h

theorem yields_advance {f : Unit → Reader Cursor β} (h : Yields (f ()) c.advance R) :
    Yields (advance >>= f) c R := h

theorem yields_expect {k : TokenKind} {f : Unit → Reader Cursor β} (hk : k ≠ .eof)
    (h : ∀ x, x.kind = k → c.rest = x :: c.advance.rest → Yields (f ()) c.advance R) :
    Yields (expect k >>= f) c R := by
  intro hc
  by_cases hx : c.next.kind = k
  · have he : (expect k >>= f) c = f () c.advance := by
      rw [bind_apply, expect_of_kind hx]
    rw [he] at hc ⊢
    exact h c.next hx (c.rest_of_kind hx hk) hc
  · have he : (expect k >>= f) c = (none, c.record (.unexpected k c.next.kind) (c.index + 1)) := by
      rw [bind_apply, expect_of_kind_ne hx]
    rw [he] at hc
    exact absurd (congrArg List.length hc) (by simp [Cursor.record])

/-- Two readers one after the other: a fault of the first would stay. -/
theorem Yields.bind {r : Reader Cursor α} {f : α → Reader Cursor β} {Q : α → Cursor → Prop}
    (h : Yields r c Q) (hr : Forward r) (hf : ∀ a, Forward (f a))
    (hQ : ∀ a d, d.ahead.length ≤ c.ahead.length → Q a d → Yields (f a) d R) :
    Yields (r >>= f) c R := by
  intro hc
  rw [bind_apply] at hc ⊢
  obtain ⟨hlen, hfaults⟩ := hr c
  have hkept : (r c).2.faults = c.faults := by
    match hrc : r c with
    | (none, d) => rw [hrc] at hc; exact hc
    | (some a, d) =>
      rw [hrc] at hc hfaults
      have hle : d.faults.length ≤ c.faults.length := by
        rw [← hc]
        exact (hf a d).2.length_le
      exact (hfaults.eq_of_length_le hle).symm
  obtain ⟨a, ha, hq⟩ := h hkept
  have hrc : r c = (some a, (r c).2) := Prod.ext ha rfl
  rw [hrc] at hc ⊢
  exact hQ a _ hlen hq (hc.trans hkept.symm)

theorem Yields.attempt {r : Reader Cursor α} {Q : α → Cursor → Prop} (h : Yields r c Q) :
    Yields (attempt r) c fun o d => ∃ a, o = some a ∧ Q a d := by
  intro hc
  obtain ⟨a, ha, hq⟩ := h hc
  exact ⟨_, rfl, a, ha, hq⟩

end

/-! ## Parts without expressions -/

section

variable {c : Cursor}

theorem yields_record {R : β → Cursor → Prop} {f : Unit → Reader Cursor β} (hf : Forward (f ()))
    (a : Cause) (i : Nat) : Yields (record a i >>= f) c R := by
  intro h
  have hle := (hf (c.record a i)).2.length_le
  have heq : (f () (c.record a i)).2.faults = c.faults := h
  rw [heq] at hle
  exact absurd hle (by simp [Cursor.record])

theorem yields_integer (hk : c.current.kind = .int) :
    Yields integer c fun e d =>
      c.ahead = [c.current] ++ d.rest ∧ Derives (.expr .primary e) [c.current] := by
  apply yields_current
  split
  · next n hn =>
    refine yields_pure ⟨c.ahead_of_kind hk (by decide), ?_⟩
    exact .int hk (Decimal.toInt64?_eq_some_iff.mp hn)
  · exact yields_place (yields_refuse _ _)

theorem yields_parameter :
    Yields parameter c fun x d => d = c ∧ c.current.kind = .ident ∧ x = c.current.literal := by
  apply yields_current
  split
  · exact yields_place (yields_record (f := fun _ => pure c.current.literal) (forward_pure _) _ _)
  · next hk => exact yields_pure ⟨rfl, by simpa using hk, rfl⟩

theorem yields_moreParameters (n : Nat) (hn : c.rest.length < n) :
    Yields (moreParameters n) c fun xs d => ∃ w, c.rest = w ++ d.rest ∧ MoreNames xs w := by
  induction n generalizing c with
  | zero => omega
  | succ n ih =>
    unfold moreParameters
    apply yields_next
    split
    · next hcomma =>
      have hcomma : c.next.kind = .symbol .comma := by simpa using hcomma
      have hc := c.rest_of_kind hcomma (by decide)
      refine yields_advance (yields_advance ?_)
      refine yields_parameter.bind forward_parameter
        (fun _ => (forward_moreParameters n).bind fun _ => forward_pure _) ?_
      rintro x d - ⟨rfl, hx, rfl⟩
      have hd := Cursor.ahead_of_kind (c := c.advance.advance) hx (by decide)
      have hlen : c.rest.length = c.advance.advance.rest.length + 2 := by
        rw [hc, ← Cursor.ahead_advance c.advance, hd]; rfl
      refine (ih (c := c.advance.advance) (by omega)).bind (forward_moreParameters n)
        (fun _ => forward_pure _) ?_
      rintro xs d - ⟨w, hw, hxs⟩
      refine yields_pure ⟨_, ?_, .cons hcomma hx hxs⟩
      rw [hc, ← Cursor.ahead_advance c.advance, hd, hw]; rfl
    · exact yields_pure ⟨[], rfl, .nil⟩

theorem yields_parameters (n : Nat) (hn : c.rest.length ≤ n) :
    Yields (parameters n) c fun xs d =>
      ∃ w x, c.rest = w ++ x :: d.rest ∧ x.kind = .symbol .rightParen ∧ Names xs w := by
  unfold parameters
  apply yields_next
  split
  · next hx =>
    have hx : c.next.kind = .symbol .rightParen := by simpa using hx
    refine yields_advance (yields_pure ⟨[], c.next, ?_, hx, .nil⟩)
    exact c.rest_of_kind hx (by decide)
  · apply yields_advance
    refine yields_parameter.bind forward_parameter (fun _ => (forward_moreParameters n).bind
      fun _ => (forward_expect _).bind fun _ => forward_pure _) ?_
    rintro x d - ⟨rfl, hx, rfl⟩
    have hc := Cursor.ahead_of_kind (c := c.advance) hx (by decide)
    rw [Cursor.ahead_advance] at hc
    have hlen : c.rest.length = c.advance.rest.length + 1 := by rw [hc]; rfl
    refine (yields_moreParameters n (by omega)).bind (forward_moreParameters n)
      (fun _ => (forward_expect _).bind fun _ => forward_pure _) ?_
    rintro xs d - ⟨w, hw, hxs⟩
    refine yields_expect (by decide) fun y hy hd => yields_pure ⟨_, y, ?_, hy, .cons hx hxs⟩
    rw [hc, hw, hd]; rfl

theorem skipSemicolon_apply (c : Cursor) :
    skipSemicolon c = (some (), if c.next.kind = .symbol .semicolon then c.advance else c) := by
  by_cases h : c.next.kind = .symbol .semicolon
  · have hb : (c.next.kind == .symbol .semicolon) = true := by simpa using h
    show (if c.next.kind == .symbol .semicolon then advance else pure ()) c = _
    rw [if_pos hb, if_pos h]; rfl
  · have hb : ¬(c.next.kind == .symbol .semicolon) = true := by simpa using h
    show (if c.next.kind == .symbol .semicolon then advance else pure ()) c = _
    rw [if_neg hb, if_neg h]; rfl

end

/-! ## Expressions and statements -/

/-- The lexemes `w` form the expression `e`. A reader at the level `p` takes it in whole, and the
lexeme after `d` does not take the last operand of it. -/
def Formed (p : Precedence) (e : Expr) (w : List Lexeme) (d : Cursor) : Prop :=
  ∃ t, Derives (.expr t e) w ∧ p.rank < t.floor ∧ d.pull ≤ t.ceiling

theorem Formed.expression {p : Precedence} {e : Expr} {w : List Lexeme} {d : Cursor}
    (h : Formed p e w d) : Derives (.expr .expression e) w := by
  obtain ⟨t, ht, -, -⟩ := h
  exact ht.loosen (Nat.zero_le _)

theorem formed_primary {p : Precedence} {e : Expr} {w : List Lexeme} {d : Cursor} (hp : p.rank < 7)
    (he : Derives (.expr .primary e) w) : Formed p e w d :=
  ⟨.primary, he, hp, Precedence.rank_le _⟩

/-- What stands behind a statement: a semicolon, or something that does not go on with it. -/
def Closed (c : Cursor) (u : List Lexeme) (d : Cursor) : Prop :=
  c.ahead = u ++ d.rest ∧ d.pull = 0 ∨ ∃ x, x.kind = .symbol .semicolon ∧ c.ahead = u ++ x :: d.rest

theorem yields_close {c d : Cursor} {s : Statement} {u : List Lexeme} (hu : c.ahead = u ++ d.rest)
    (hs : Derives (.statement s) u) (hd : d.pull ≤ 0) :
    Yields (skipSemicolon >>= fun _ => pure s) d fun s' d' =>
      ∃ u', Derives (.statement s') u' ∧ Closed c u' d' := by
  have hskip : (skipSemicolon >>= fun _ => pure s) d =
      (some s, if d.next.kind = .symbol .semicolon then d.advance else d) := by
    rw [bind_apply, skipSemicolon_apply]; rfl
  intro _
  rw [hskip]
  refine ⟨s, rfl, u, hs, ?_⟩
  by_cases hx : d.next.kind = .symbol .semicolon
  · have hrest := d.rest_of_kind hx (by decide)
    rw [if_pos hx]
    exact .inr ⟨d.next, hx, by rw [hu, hrest]⟩
  · rw [if_neg hx]
    exact .inl ⟨hu, Nat.le_zero.mp hd⟩

/-- All readers with the bound `n` that have enough of it read phrases. -/
structure SoundAt (n : Nat) : Prop where
  expression : ∀ (p : Precedence) (c : Cursor), p.rank < 7 → 8 * c.ahead.length + 3 ≤ n →
    Yields (expression n p) c fun e d =>
      ∃ w, c.ahead = w ++ d.rest ∧ Formed p e w d ∧ d.pull ≤ p.rank
  operators : ∀ (p : Precedence) (e : Expr) (u : List Lexeme) (c : Cursor),
    8 * c.ahead.length + 2 ≤ n → Formed p e u c → Yields (operators n p e) c fun e' d =>
      ∃ w, c.rest = w ++ d.rest ∧ Formed p e' (u ++ w) d ∧ d.pull ≤ p.rank
  extension : ∀ (p : Precedence) (e : Expr) (u : List Lexeme) (c : Cursor),
    8 * c.rest.length + 2 ≤ n → Formed p e u c → p.rank < c.pull →
      Yields (extension n e) c.advance fun e' d =>
        ∃ w, c.rest = w ++ d.rest ∧ Formed p e' (u ++ w) d
  operand : ∀ (p : Precedence) (c : Cursor), p.rank < 7 → 8 * c.ahead.length + 2 ≤ n →
    Yields (operand n) c fun e d => ∃ w, c.ahead = w ++ d.rest ∧ Formed p e w d
  conditional : ∀ c : Cursor, c.current.kind = .keyword .ifWord → 8 * c.ahead.length + 1 ≤ n →
    Yields (conditional n) c fun e d => ∃ w, c.ahead = w ++ d.rest ∧ Derives (.expr .primary e) w
  items : ∀ (close : Symbol) (c : Cursor), c.ahead ≠ [] → 8 * c.ahead.length + 1 ≤ n →
    Yields (items n close) c fun es d =>
      ∃ w x, c.rest = w ++ x :: d.rest ∧ x.kind = .symbol close ∧ Derives (.items es) w
  moreItems : ∀ c : Cursor, 8 * c.ahead.length + 1 ≤ n → Yields (moreItems n) c fun es d =>
    ∃ w, c.rest = w ++ d.rest ∧ Derives (.moreItems es) w
  block : ∀ c : Cursor, c.current.kind = .symbol .leftBrace → 8 * c.ahead.length + 1 ≤ n →
    Yields (block n) c fun b d => ∃ w, c.ahead = w ++ d.rest ∧ Derives (.block b) w
  statements : ∀ (around : Enclosure) (c : Cursor), 8 * c.ahead.length + 5 ≤ n →
    Yields (statements n around) c fun ss d =>
      ∃ w, c.ahead = w ++ d.ahead ∧ Derives (.statements ss) w ∧ around.ends d.current.kind = true
  statement : ∀ c : Cursor, 8 * c.ahead.length + 4 ≤ n → Yields (statement n) c fun s d =>
    ∃ u, Derives (.statement s) u ∧ Closed c u d

namespace SoundAt

variable {n : Nat} (h : SoundAt n)
include h

theorem expression_succ (p : Precedence) (c : Cursor) (hp : p.rank < 7)
    (hn : 8 * c.ahead.length + 3 ≤ n + 1) : Yields (Reader.expression (n + 1) p) c fun e d =>
      ∃ w, c.ahead = w ++ d.rest ∧ Formed p e w d ∧ d.pull ≤ p.rank := by
  have hf := forwardAt n
  unfold Reader.expression
  refine (h.operand p c hp (by omega)).bind hf.operand (fun _ => hf.operators _ _) ?_
  rintro e d hd ⟨u, hu, he⟩
  apply (h.operators p e u d (by omega) he).mono
  rintro e' d' ⟨w, hw, he', hpull⟩
  exact ⟨u ++ w, by rw [hu, hw, List.append_assoc], he', hpull⟩

theorem operators_succ (p : Precedence) (e : Expr) (u : List Lexeme) (c : Cursor)
    (hn : 8 * c.ahead.length + 2 ≤ n + 1) (he : Formed p e u c) :
    Yields (Reader.operators (n + 1) p e) c fun e' d =>
      ∃ w, c.rest = w ++ d.rest ∧ Formed p e' (u ++ w) d ∧ d.pull ≤ p.rank := by
  have hf := forwardAt n
  unfold Reader.operators
  apply yields_next
  split
  · next hlt =>
    have hlt := looser_next_iff.mp hlt
    have hpos := List.length_pos_iff.mpr (c.rest_ne_nil (by omega))
    have hlen := c.length_rest
    apply yields_advance
    refine (h.extension p e u c (by omega) he hlt).bind (hf.extension _)
      (fun _ => hf.operators _ _) ?_
    rintro e' d hd ⟨w, hw, he'⟩
    rw [Cursor.ahead_advance] at hd
    apply (h.operators p e' (u ++ w) d (by omega) he').mono
    rintro e'' d' ⟨w', hw', he'', hpull⟩
    exact ⟨w ++ w', by rw [hw, hw', List.append_assoc], by rwa [← List.append_assoc], hpull⟩
  · next hge =>
    have hge := Nat.le_of_not_lt (mt looser_next_iff.mpr hge)
    exact yields_pure ⟨[], rfl, by rwa [List.append_nil], hge⟩

theorem extension_call {p : Precedence} {e : Expr} {u : List Lexeme} {c : Cursor}
    (hn : 8 * c.rest.length + 2 ≤ n + 1) (he : Formed p e u c)
    (hk : c.next.kind = .symbol .leftParen) :
    Yields (do return Expr.call e (← Reader.items n .rightParen)) c.advance fun e' d =>
      ∃ w, c.rest = w ++ d.rest ∧ Formed p e' (u ++ w) d := by
  obtain ⟨t, ht, hfloor, hceil⟩ := he
  have hc := c.rest_of_kind hk (by decide)
  have hpull : c.pull = 7 := by unfold Cursor.pull; rw [hk]; rfl
  refine (h.items .rightParen c.advance (by simp [hc]) (by rw [Cursor.ahead_advance]; omega)).bind
    ((forwardAt n).items _) (fun _ => forward_pure _) ?_
  rintro es d - ⟨w, x, hw, hx, hes⟩
  have ht' := ht.loosen (Tier.rank_applied_le (by omega))
  refine yields_pure
    ⟨c.next :: (w ++ [x]), by rw [hc, hw]; simp, .applied, .call ht' hk hes hx, ?_, ?_⟩
  · exact Nat.lt_of_lt_of_le hfloor t.floor_le
  · exact Precedence.rank_le _

theorem extension_index {p : Precedence} {e : Expr} {u : List Lexeme} {c : Cursor}
    (hn : 8 * c.rest.length + 2 ≤ n + 1) (he : Formed p e u c)
    (hk : c.next.kind = .symbol .leftBracket) :
    Yields (do
      advance
      let position ← Reader.expression n .lowest
      expect (.symbol .rightBracket)
      return Expr.index e position) c.advance fun e' d =>
        ∃ w, c.rest = w ++ d.rest ∧ Formed p e' (u ++ w) d := by
  obtain ⟨t, ht, hfloor, hceil⟩ := he
  have hc := c.rest_of_kind hk (by decide)
  have hlen : c.rest.length = c.advance.advance.ahead.length + 1 := by rw [hc]; rfl
  have hpull : c.pull = 8 := by unfold Cursor.pull; rw [hk]; rfl
  apply yields_advance
  refine (h.expression .lowest c.advance.advance (by decide) (by omega)).bind
    ((forwardAt n).expression _) (fun _ => (forward_expect _).bind fun _ => forward_pure _) ?_
  rintro i d - ⟨w, hw, hi, -⟩
  refine yields_expect (by decide) fun x hx hd => ?_
  have ht' := ht.loosen (Tier.rank_applied_le (by omega))
  refine yields_pure ⟨c.next :: (w ++ [x]), ?_, .applied, .index ht' hk hi.expression hx, ?_, ?_⟩
  · rw [hc, ← Cursor.ahead_advance c.advance, hw, hd]; simp
  · exact Nat.lt_of_lt_of_le hfloor t.floor_le
  · exact Precedence.rank_le _

theorem extension_assign {p : Precedence} {e : Expr} {u : List Lexeme} {c : Cursor}
    (hn : 8 * c.rest.length + 2 ≤ n + 1) (he : Formed p e u c) (hp : p.rank < c.pull)
    (hk : c.next.kind = .symbol .assign) :
    Yields (do
      let sign ← place
      advance
      let value ← Reader.expression n .lowest
      match e with
      | .ident name => return Expr.assign name value
      | target => refuse (.invalidTarget target.text) sign) c.advance fun e' d =>
        ∃ w, c.rest = w ++ d.rest ∧ Formed p e' (u ++ w) d := by
  obtain ⟨t, ht, hfloor, hceil⟩ := he
  have hc := c.rest_of_kind hk (by decide)
  have hlen : c.rest.length = c.advance.advance.ahead.length + 1 := by rw [hc]; rfl
  have hpull : c.pull = 1 := by unfold Cursor.pull; rw [hk]; rfl
  refine yields_place (yields_advance ?_)
  refine (h.expression .lowest c.advance.advance (by decide) (by omega)).bind
    ((forwardAt n).expression _) (fun _ => ?_) ?_
  · split
    · exact forward_pure _
    · exact forward_refuse _ _
  rintro v d - ⟨w, hw, hv, hd⟩
  split
  · next name =>
    have ht' := ht.loosen (Tier.rank_equality_le (by omega))
    refine yields_pure ⟨c.next :: w, ?_, .expression, .assign ht' hk hv.expression, ?_, hd⟩
    · rw [hc, ← Cursor.ahead_advance c.advance, hw]; rfl
    · show p.rank < 1
      omega
  · exact yields_refuse _ _

theorem extension_binary {p : Precedence} {e : Expr} {u : List Lexeme} {c : Cursor} {op : BinaryOp}
    (hn : 8 * c.rest.length + 2 ≤ n + 1) (he : Formed p e u c) (hp : p.rank < c.pull)
    (hk : c.next.kind = .symbol op.symbol) :
    Yields (do
      advance
      let right ← Reader.expression n (Precedence.ofSymbol op.symbol)
      return Expr.binary op e right) c.advance fun e' d =>
        ∃ w, c.rest = w ++ d.rest ∧ Formed p e' (u ++ w) d := by
  obtain ⟨t, ht, hfloor, hceil⟩ := he
  obtain ⟨hrank, hceiling⟩ := op.rank_ofSymbol
  have hc := c.rest_of_kind hk TokenKind.noConfusion
  have hlen : c.rest.length = c.advance.advance.ahead.length + 1 := by rw [hc]; rfl
  have hpull : c.pull = op.tier.floor := by unfold Cursor.pull; rw [hk]; exact hrank
  have hlevel : (Precedence.ofSymbol op.symbol).rank < 7 := by cases op <;> decide
  apply yields_advance
  refine (h.expression _ c.advance.advance hlevel (by omega)).bind
    ((forwardAt n).expression _) (fun _ => forward_pure _) ?_
  rintro r d - ⟨w, hw, ⟨t', hr, hfloor', -⟩, hd⟩
  have ht' := ht.loosen (op.rank_tier_le (by omega))
  have hr' := hr.loosen (op.rank_tighter_le (by omega))
  refine yields_pure ⟨c.next :: w, ?_, op.tier, .binary ht' hk hr', by omega, by omega⟩
  rw [hc, ← Cursor.ahead_advance c.advance, hw]; rfl

theorem extension_succ (p : Precedence) (e : Expr) (u : List Lexeme) (c : Cursor)
    (hn : 8 * c.rest.length + 2 ≤ n + 1) (he : Formed p e u c) (hp : p.rank < c.pull) :
    Yields (Reader.extension (n + 1) e) c.advance fun e' d =>
      ∃ w, c.rest = w ++ d.rest ∧ Formed p e' (u ++ w) d := by
  unfold Reader.extension
  apply yields_current
  split
  · next hk => exact h.extension_call hn he hk
  · next hk => exact h.extension_index hn he hk
  · next hk => exact h.extension_assign hn he hp hk
  · next s hparen hbracket hassign hk =>
    split
    · next op hop =>
      obtain rfl := BinaryOp.ofSymbol?_eq_some_iff.mp hop
      exact h.extension_binary hn he hp hk
    · next hop =>
      rw [Cursor.current_advance] at hk
      rcases c.next_cases (by omega) with hn | hn | hn | ⟨op, hn⟩ <;> rw [hk] at hn
      · exact absurd (TokenKind.symbol.inj hn) hparen
      · exact absurd (TokenKind.symbol.inj hn) hbracket
      · exact absurd (TokenKind.symbol.inj hn) hassign
      · rw [BinaryOp.ofSymbol?_eq_some_iff.mpr (TokenKind.symbol.inj hn)] at hop
        cases hop
  · next hparen hbracket hassign hsymbol =>
    rcases c.next_cases (by omega) with hn | hn | hn | ⟨op, hn⟩
    · exact absurd hn hparen
    · exact absurd hn hbracket
    · exact absurd hn hassign
    · exact absurd hn (hsymbol _)

theorem braced {β : Type} {c : Cursor} {f : Block → Reader Cursor β} {R : β → Cursor → Prop}
    (hn : 8 * c.ahead.length ≤ n + 7) (hf : ∀ b, Forward (f b))
    (hR : ∀ b d w, d.ahead.length ≤ c.ahead.length → c.rest = w ++ d.rest →
      Derives (.block b) w → Yields (f b) d R) :
    Yields (expect (.symbol .leftBrace) >>= fun _ => Reader.block n >>= f) c R := by
  refine yields_expect (by decide) fun x hx hc => ?_
  have hcur : c.advance.current = x := by
    unfold Cursor.current; rw [Cursor.ahead_advance, hc]; rfl
  have hlen := c.length_rest
  have hpos := congrArg List.length hc
  rw [List.length_cons] at hpos
  refine (h.block c.advance (by rw [hcur, hx]) (by rw [Cursor.ahead_advance]; omega)).bind
    (forwardAt n).block hf ?_
  rintro b d hd ⟨w, hw, hb⟩
  rw [Cursor.ahead_advance] at hd
  exact hR b d w (by omega) hw hb

theorem operand_function {p : Precedence} {c : Cursor} (hp : p.rank < 7)
    (hn : 8 * c.ahead.length + 2 ≤ n + 1) (hk : c.current.kind = .keyword .funWord) :
    Yields (do
      expect (.symbol .leftParen)
      let names ← parameters n
      expect (.symbol .leftBrace)
      let body ← Reader.block n
      return Expr.function names body) c fun e d =>
        ∃ w, c.ahead = w ++ d.rest ∧ Formed p e w d := by
  have hc := c.ahead_of_kind hk (by decide)
  have hlen := c.length_rest
  refine yields_expect (by decide) fun left hleft hrest => ?_
  have hlen' : c.rest.length = c.advance.rest.length + 1 := by rw [hrest]; rfl
  refine (yields_parameters n (c := c.advance) (by omega)).bind (forward_parameters n)
    (fun _ => (forward_expect _).bind fun _ => (forwardAt n).block.bind fun _ => forward_pure _) ?_
  rintro xs d hd ⟨u, right, hu, hright, hxs⟩
  rw [Cursor.ahead_advance] at hd
  apply h.braced (by omega) (fun _ => forward_pure _)
  intro b d' v _ hv hb
  refine yields_pure ⟨_, ?_, formed_primary hp (.function hk hleft hxs hright hb)⟩
  rw [hc, hrest, hu, hv]
  simp

theorem operand_succ (p : Precedence) (c : Cursor) (hp : p.rank < 7)
    (hn : 8 * c.ahead.length + 2 ≤ n + 1) :
    Yields (Reader.operand (n + 1)) c fun e d => ∃ w, c.ahead = w ++ d.rest ∧ Formed p e w d := by
  have hf := forwardAt n
  have hlen := c.length_rest
  unfold Reader.operand
  apply yields_current
  split
  · next hk =>
    have hc := c.ahead_of_kind hk (by decide)
    exact yields_pure ⟨[c.current], hc, formed_primary hp (.ident hk)⟩
  · next hk => exact (yields_integer hk).mono fun _ _ hd => ⟨_, hd.1, formed_primary hp hd.2⟩
  · next hk =>
    have hc := c.ahead_of_kind hk (by decide)
    exact yields_pure ⟨[c.current], hc, formed_primary hp (.str hk)⟩
  · next hk =>
    have hc := c.ahead_of_kind hk (by decide)
    exact yields_pure ⟨[c.current], hc, formed_primary hp (.trueWord hk)⟩
  · next hk =>
    have hc := c.ahead_of_kind hk (by decide)
    exact yields_pure ⟨[c.current], hc, formed_primary hp (.falseWord hk)⟩
  · next hk =>
    have hc := c.ahead_of_kind hk (by decide)
    exact yields_pure ⟨[c.current], hc, formed_primary hp (.nilWord hk)⟩
  · next hk =>
    apply (h.conditional c hk (by omega)).mono
    rintro e d ⟨w, hw, he⟩
    exact ⟨w, hw, formed_primary hp he⟩
  · next hk => exact h.operand_function hp hn hk
  · next hk =>
    have hc := c.ahead_of_kind hk (by decide)
    have hpos : c.ahead.length = c.rest.length + 1 := by rw [hc]; rfl
    apply yields_advance
    refine (h.expression .lowest c.advance (by decide) (by rw [Cursor.ahead_advance]; omega)).bind
      (hf.expression _) (fun _ => (forward_expect _).bind fun _ => forward_pure _) ?_
    rintro e d - ⟨w, hw, he, -⟩
    refine yields_expect (by decide) fun x hx hd => ?_
    refine yields_pure ⟨_, ?_, formed_primary hp (.group hk he.expression hx)⟩
    rw [hc, ← Cursor.ahead_advance, hw, hd]; simp
  · next hk =>
    have hc := c.ahead_of_kind hk (by decide)
    refine (h.items .rightBracket c (by rw [hc]; simp) (by omega)).bind (hf.items _)
      (fun _ => forward_pure _) ?_
    rintro es d - ⟨w, x, hw, hx, hes⟩
    refine yields_pure ⟨_, ?_, formed_primary hp (.array hk hes hx)⟩
    rw [hc, hw]; simp
  · next s _ _ hk =>
    split
    · next op hop =>
      obtain rfl := UnaryOp.ofSymbol?_eq_some_iff.mp hop
      have hc := c.ahead_of_kind hk TokenKind.noConfusion
      have hpos : c.ahead.length = c.rest.length + 1 := by rw [hc]; rfl
      apply yields_advance
      refine (h.expression .unary c.advance (by decide) (by rw [Cursor.ahead_advance]; omega)).bind
        (hf.expression _) (fun _ => forward_pure _) ?_
      rintro e d - ⟨w, hw, ⟨t, he, hfloor, -⟩, hd⟩
      have he' := he.loosen (Tier.rank_prefixed_le hfloor)
      refine yields_pure ⟨c.current :: w, ?_, .prefixed, .unary hk he', hp, hd⟩
      rw [hc, ← Cursor.ahead_advance, hw]; rfl
    · exact yields_place (yields_refuse _ _)
  · exact yields_place (yields_refuse _ _)

theorem conditional_succ (c : Cursor) (hk : c.current.kind = .keyword .ifWord)
    (hn : 8 * c.ahead.length + 1 ≤ n + 1) : Yields (Reader.conditional (n + 1)) c fun e d =>
      ∃ w, c.ahead = w ++ d.rest ∧ Derives (.expr .primary e) w := by
  have hf := forwardAt n
  have hc := c.ahead_of_kind hk (by decide)
  have hlen := c.length_rest
  unfold Reader.conditional
  refine yields_expect (by decide) fun left hleft hrest => yields_advance ?_
  have hlen' : c.rest.length = c.advance.advance.ahead.length + 1 := by rw [hrest]; rfl
  refine (h.expression .lowest c.advance.advance (by decide) (by omega)).bind (hf.expression _)
    (fun _ => ?_) ?_
  · refine (forward_expect _).bind fun _ => (forward_expect _).bind fun _ => ?_
    refine hf.block.bind fun _ => forward_next.bind fun x => ?_
    split
    · refine forward_advance.bind fun _ => (forward_expect _).bind fun _ => ?_
      exact hf.block.bind fun _ => forward_pure _
    · exact forward_pure _
  rintro e d hd ⟨u, hu, he, -⟩
  refine yields_expect (by decide) fun right hright hrest' => ?_
  have hlen'' := d.length_rest
  refine h.braced (by rw [Cursor.ahead_advance]; omega) (fun _ => forward_next.bind fun x => ?_) ?_
  · split
    · refine forward_advance.bind fun _ => (forward_expect _).bind fun _ => ?_
      exact hf.block.bind fun _ => forward_pure _
    · exact forward_pure _
  intro a d' v hd' hv ha
  have hword : c.ahead = c.current :: left :: (u ++ right :: v) ++ d'.rest := by
    rw [hc, hrest, ← Cursor.ahead_advance c.advance, hu, hrest', hv]
    simp
  apply yields_next
  split
  · next helse =>
    have helse : d'.next.kind = .keyword .elseWord := by simpa using helse
    have hother := d'.rest_of_kind helse (by decide)
    have hlen''' := d'.length_rest
    rw [Cursor.ahead_advance] at hd'
    apply yields_advance
    refine h.braced (by rw [Cursor.ahead_advance]; omega) (fun _ => forward_pure _) ?_
    intro b d'' w _ hw hb
    refine yields_pure ⟨_, ?_, .ifElse hk hleft he.expression hright ha helse hb⟩
    rw [hword, hother, hw]
    simp
  · exact yields_pure ⟨_, hword, .ifThen hk hleft he.expression hright ha⟩

theorem items_succ (close : Symbol) (c : Cursor) (hne : c.ahead ≠ [])
    (hn : 8 * c.ahead.length + 1 ≤ n + 1) : Yields (Reader.items (n + 1) close) c fun es d =>
      ∃ w x, c.rest = w ++ x :: d.rest ∧ x.kind = .symbol close ∧ Derives (.items es) w := by
  have hf := forwardAt n
  unfold Reader.items
  apply yields_next
  split
  · next hx =>
    have hx : c.next.kind = .symbol close := by simpa using hx
    have hc := c.rest_of_kind hx TokenKind.noConfusion
    exact yields_advance (yields_pure ⟨[], c.next, hc, hx, .noItems⟩)
  · have hlen := c.length_rest
    have hpos := List.length_pos_iff.mpr hne
    apply yields_advance
    refine (h.expression .lowest c.advance (by decide) (by rw [Cursor.ahead_advance]; omega)).bind
      (hf.expression _)
      (fun _ => hf.moreItems.bind fun _ => (forward_expect _).bind fun _ => forward_pure _) ?_
    rintro e d hd ⟨u, hu, he, -⟩
    rw [Cursor.ahead_advance] at hd hu
    refine (h.moreItems d (by omega)).bind hf.moreItems
      (fun _ => (forward_expect _).bind fun _ => forward_pure _) ?_
    rintro es d' - ⟨v, hv, hes⟩
    refine yields_expect TokenKind.noConfusion fun x hx hd' => ?_
    refine yields_pure ⟨u ++ v, x, ?_, hx, .items he.expression hes⟩
    rw [hu, hv, hd', List.append_assoc]

theorem moreItems_succ (c : Cursor) (hn : 8 * c.ahead.length + 1 ≤ n + 1) :
    Yields (Reader.moreItems (n + 1)) c fun es d =>
      ∃ w, c.rest = w ++ d.rest ∧ Derives (.moreItems es) w := by
  have hf := forwardAt n
  unfold Reader.moreItems
  apply yields_next
  split
  · next hcomma =>
    have hcomma : c.next.kind = .symbol .comma := by simpa using hcomma
    have hc := c.rest_of_kind hcomma (by decide)
    have hlen := c.length_rest
    have hlen' : c.rest.length = c.advance.advance.ahead.length + 1 := by rw [hc]; rfl
    refine yields_advance (yields_advance ?_)
    refine (h.expression .lowest c.advance.advance (by decide) (by omega)).bind (hf.expression _)
      (fun _ => hf.moreItems.bind fun _ => forward_pure _) ?_
    rintro e d hd ⟨u, hu, he, -⟩
    refine (h.moreItems d (by omega)).bind hf.moreItems (fun _ => forward_pure _) ?_
    rintro es d' - ⟨v, hv, hes⟩
    refine yields_pure ⟨_, ?_, .moreItems hcomma he.expression hes⟩
    rw [hc, ← Cursor.ahead_advance c.advance, hu, hv]
    simp
  · exact yields_pure ⟨[], rfl, .lastItem⟩

theorem block_succ (c : Cursor) (hk : c.current.kind = .symbol .leftBrace)
    (hn : 8 * c.ahead.length + 1 ≤ n + 1) : Yields (Reader.block (n + 1)) c fun b d =>
      ∃ w, c.ahead = w ++ d.rest ∧ Derives (.block b) w := by
  have hc := c.ahead_of_kind hk (by decide)
  have hlen : c.ahead.length = c.rest.length + 1 := by rw [hc]; rfl
  unfold Reader.block
  apply yields_advance
  refine (h.statements .braces c.advance (by rw [Cursor.ahead_advance]; omega)).bind
    ((forwardAt n).statements _) (fun _ => forward_current.bind fun x => ?_) ?_
  · split
    · exact forward_place.bind fun _ => (forward_record _ _).bind fun _ => forward_pure _
    · exact forward_pure _
  rintro b d - ⟨w, hw, hb, -⟩
  apply yields_current
  split
  · exact yields_place (yields_record (f := fun _ => pure b) (forward_pure _) _ _)
  · next hx =>
    have hx : d.current.kind = .symbol .rightBrace := by simpa using hx
    have hd := d.ahead_of_kind hx (by decide)
    refine yields_pure ⟨_, ?_, .block hk hb hx⟩
    rw [hc, ← Cursor.ahead_advance, hw, hd]
    simp

theorem statement_succ (c : Cursor) (hn : 8 * c.ahead.length + 4 ≤ n + 1) :
    Yields (Reader.statement (n + 1)) c fun s d =>
      ∃ u, Derives (.statement s) u ∧ Closed c u d := by
  have hf := forwardAt n
  have hlen := c.length_rest
  unfold Reader.statement
  apply yields_current
  split
  · next hk =>
    have hc := c.ahead_of_kind hk (by decide)
    refine yields_expect (by decide) fun x hx hrest => yields_current ?_
    have hcur : c.advance.current = x := by
      unfold Cursor.current; rw [Cursor.ahead_advance, hrest]; rfl
    refine yields_expect (by decide) fun sign hsign hrest' => yields_advance ?_
    have hlen' : c.rest.length = c.advance.advance.advance.ahead.length + 2 := by
      rw [hrest, hrest']; rfl
    refine (h.expression .lowest c.advance.advance.advance (by decide) (by omega)).bind
      (hf.expression _) (fun _ => forward_skipSemicolon.bind fun _ => forward_pure _) ?_
    rintro e d - ⟨w, hw, he, hd⟩
    rw [hcur]
    refine yields_close (u := c.current :: x :: sign :: w) ?_ (.bind hk hx hsign he.expression) hd
    rw [hc, hrest, hrest', ← Cursor.ahead_advance c.advance.advance, hw]; rfl
  · next hk =>
    have hc := c.ahead_of_kind hk (by decide)
    have hpos : c.ahead.length = c.rest.length + 1 := by rw [hc]; rfl
    apply yields_advance
    refine (h.expression .lowest c.advance (by decide) (by rw [Cursor.ahead_advance]; omega)).bind
      (hf.expression _) (fun _ => forward_skipSemicolon.bind fun _ => forward_pure _) ?_
    rintro e d - ⟨w, hw, he, hd⟩
    refine yields_close (u := c.current :: w) ?_ (.ret hk he.expression) hd
    rw [hc, ← Cursor.ahead_advance, hw]; rfl
  · refine (h.expression .lowest c (by decide) (by omega)).bind
      (hf.expression _) (fun _ => forward_skipSemicolon.bind fun _ => forward_pure _) ?_
    rintro e d - ⟨w, hw, he, hd⟩
    exact yields_close hw (.expr he.expression) hd

theorem statements_succ (around : Enclosure) (c : Cursor) (hn : 8 * c.ahead.length + 5 ≤ n + 1) :
    Yields (Reader.statements (n + 1) around) c fun ss d => ∃ w, c.ahead = w ++ d.ahead ∧
      Derives (.statements ss) w ∧ around.ends d.current.kind = true := by
  have hf := forwardAt n
  unfold Reader.statements
  apply yields_current
  split
  · next hend => exact yields_pure ⟨[], rfl, .noStatements, hend⟩
  · next hend =>
    have hne : c.current.kind ≠ .eof := by
      intro heof
      rw [heof] at hend
      exact hend (by cases around <;> rfl)
    have hpos : c.ahead.length = c.rest.length + 1 := by rw [c.ahead_of_kind rfl hne]; rfl
    refine (h.statement c (by omega)).attempt.bind hf.statement.attempt
      (fun _ => forward_advance.bind fun _ => (hf.statements _).bind fun _ => forward_pure _) ?_
    rintro _ d hd ⟨s, rfl, u, hs, hclosed⟩
    have hlen := d.length_rest
    apply yields_advance
    refine (h.statements around d.advance (by rw [Cursor.ahead_advance]; omega)).bind
      (hf.statements _) (fun _ => forward_pure _) ?_
    rintro ss d' - ⟨v, hv, hss, hends⟩
    rw [Cursor.ahead_advance] at hv
    rcases hclosed with ⟨hu, hpull⟩ | ⟨x, hx, hu⟩
    · refine yields_pure ⟨u ++ v, by rw [hu, hv, List.append_assoc], .bare hs ?_ hss, hends⟩
      -- the first lexeme of the next statement is the one that was seen behind this one
      intro y hy
      have hnext : d.next = y := by
        unfold Cursor.next
        rw [← Cursor.rest, hv]
        cases v with
        | nil => cases hy
        | cons z v => exact Option.some.inj hy
      rw [← hnext]
      exact (rank_ofKind_eq_zero_iff _).mp hpull
    · refine yields_pure ⟨u ++ x :: v, ?_, .ended hs hx hss, hends⟩
      rw [hu, hv, List.append_assoc, List.cons_append]

end SoundAt

/-- **Soundness.** With a large enough bound, every reader reads a phrase or records a fault. -/
theorem soundAt (n : Nat) : SoundAt n := by
  induction n with
  | zero => constructor <;> intros <;> omega
  | succ n h =>
    exact ⟨h.expression_succ, h.operators_succ, h.extension_succ, h.operand_succ,
      h.conditional_succ, h.items_succ, h.moreItems_succ, h.block_succ, h.statements_succ,
      h.statement_succ⟩

end Reader

end CurryLang
