import CurryLang.Proofs.ReaderSound

/-!
# What follows the grammar is read without faults

Every phrase is read whole, with its tree as the result and without a fault, by a reader with a
large enough bound, as long as what stands behind the phrase does not go on with it
(`Derives.reads`). The proof is by induction on the derivation. For expressions the statement is
about the reader of operators that is left to run: it has read the expression and stands before
the rest (`Reads`).
-/

namespace CurryLang

/-! ## What stands behind a phrase -/

/-- The lexeme that comes first, or the end of the input. -/
def firstKind (w : List Lexeme) : TokenKind := (w.headD .eof).kind

@[simp] theorem firstKind_cons (x : Lexeme) (w : List Lexeme) : firstKind (x :: w) = x.kind := rfl

/-- The lexemes `w` do not go on with what stands before them, for a reader at a level of rank
`k`. -/
def Quiet (k : Nat) (w : List Lexeme) : Prop :=
  (Precedence.ofKind (firstKind w)).rank ≤ k ∧ firstKind w ≠ .keyword .elseWord

theorem Quiet.mono {j k : Nat} {w : List Lexeme} (h : Quiet j w) (hjk : j ≤ k) : Quiet k w :=
  ⟨Nat.le_trans h.1 hjk, h.2⟩

theorem quiet_symbol {x : Lexeme} {s : Symbol} {k : Nat} {w : List Lexeme}
    (hx : x.kind = .symbol s) (hs : (Precedence.ofSymbol s).rank ≤ k) : Quiet k (x :: w) := by
  refine ⟨?_, ?_⟩ <;> rw [firstKind_cons, hx]
  · exact hs
  · exact TokenKind.noConfusion

theorem Cursor.kind_current {c : Cursor} {w : List Lexeme} (h : c.ahead = w) :
    c.current.kind = firstKind w := by
  unfold firstKind current; rw [h]

theorem Cursor.kind_next {c : Cursor} {w : List Lexeme} (h : c.rest = w) :
    c.next.kind = firstKind w := by
  unfold firstKind next; rw [← rest, h]

theorem Cursor.pull_le {c : Cursor} {k : Nat} {w : List Lexeme} (h : c.rest = w) (hw : Quiet k w) :
    c.pull ≤ k := by
  unfold pull; rw [c.kind_next h]; exact hw.1

theorem Cursor.rest_eq {c : Cursor} {x : Lexeme} {w : List Lexeme} (h : c.ahead = x :: w) :
    c.rest = w := by
  unfold rest; rw [h]; rfl

theorem Cursor.current_eq {c : Cursor} {x : Lexeme} {w : List Lexeme} (h : c.ahead = x :: w) :
    c.current = x := by
  unfold current; rw [h]; rfl

theorem Cursor.length_ahead {c : Cursor} {x : Lexeme} {w : List Lexeme} (h : c.ahead = x :: w) :
    c.ahead.length = c.rest.length + 1 := by
  rw [rest_eq h, h]; rfl

namespace Reader

variable {α β : Type}

/-! ## Readers that succeed -/

/-- From `c` on the reader has the result `a`, stops before `rest` and records no fault. -/
def Gives (r : Reader Cursor α) (c : Cursor) (a : α) (rest : List Lexeme) : Prop :=
  ∃ d, r c = (some a, d) ∧ d.rest = rest ∧ d.faults = c.faults

section

variable {c : Cursor} {b : β} {rest : List Lexeme}

theorem gives_pure (h : c.rest = rest) : Gives (pure b) c b rest := ⟨c, rfl, h, rfl⟩

theorem gives_current {f : Lexeme → Reader Cursor β} (h : Gives (f c.current) c b rest) :
    Gives (current >>= f) c b rest := h

theorem gives_next {f : Lexeme → Reader Cursor β} (h : Gives (f c.next) c b rest) :
    Gives (next >>= f) c b rest := h

theorem gives_place {f : Nat → Reader Cursor β} (h : Gives (f c.index) c b rest) :
    Gives (place >>= f) c b rest := h

theorem gives_advance {f : Unit → Reader Cursor β} (h : Gives (f ()) c.advance b rest) :
    Gives (advance >>= f) c b rest := h

theorem gives_expect {k : TokenKind} {f : Unit → Reader Cursor β} (hk : c.next.kind = k)
    (h : Gives (f ()) c.advance b rest) : Gives (expect k >>= f) c b rest := by
  obtain ⟨d, hd, hrest, hfaults⟩ := h
  refine ⟨d, ?_, hrest, hfaults⟩
  rw [bind_apply, expect_of_kind hk]
  exact hd

theorem Gives.bind {r : Reader Cursor α} {a : α} {f : α → Reader Cursor β} {w : List Lexeme}
    (h : Gives r c a w) (hf : ∀ d : Cursor, d.rest = w → Gives (f a) d b rest) :
    Gives (r >>= f) c b rest := by
  obtain ⟨d, hd, hrest, hfaults⟩ := h
  obtain ⟨d', hd', hrest', hfaults'⟩ := hf d hrest
  refine ⟨d', ?_, hrest', hfaults'.trans hfaults⟩
  rw [bind_apply, hd]
  exact hd'

end

/-! ## Parts without expressions -/

theorem gives_integer {c : Cursor} {n : Int64} {rest : List Lexeme}
    (hn : Decimal.Writes c.current.literal.toList n.toInt) (h : c.rest = rest) :
    Gives integer c (.int n) rest := by
  apply gives_current
  rw [Decimal.toInt64?_eq_some_iff.mpr hn]
  exact gives_pure h

theorem gives_parameter {c : Cursor} {rest : List Lexeme} (hk : c.current.kind = .ident)
    (h : c.rest = rest) : Gives parameter c c.current.literal rest := by
  apply gives_current
  rw [hk]
  exact gives_pure h

theorem gives_moreParameters {xs : List String} {w rest : List Lexeme} {right : Lexeme}
    (h : MoreNames xs w) (hright : right.kind = .symbol .rightParen) (n : Nat) (c : Cursor)
    (hc : c.rest = w ++ right :: rest) (hn : c.rest.length ≤ n) :
    Gives (moreParameters n) c xs (right :: rest) := by
  induction h generalizing n c with
  | nil =>
    obtain ⟨k, rfl⟩ : ∃ k, n = k + 1 := ⟨n - 1, by rw [hc] at hn; simp at hn; omega⟩
    have hk : c.next.kind = .symbol .rightParen := by rw [c.kind_next hc]; exact hright
    unfold moreParameters
    apply gives_next
    rw [hk]
    exact gives_pure hc
  | @cons comma x xs w hcomma hx _ ih =>
    obtain ⟨k, rfl⟩ : ∃ k, n = k + 1 := ⟨n - 1, by rw [hc] at hn; simp at hn; omega⟩
    have hk : c.next.kind = .symbol .comma := by rw [c.kind_next hc]; exact hcomma
    have hc' : c.advance.advance.ahead = x :: (w ++ right :: rest) :=
      c.advance.rest_eq (by rw [Cursor.ahead_advance, hc]; rfl)
    have hcur := Cursor.current_eq hc'
    have hrest := Cursor.rest_eq hc'
    unfold moreParameters
    apply gives_next
    rw [hk]
    refine gives_advance (gives_advance ?_)
    rw [← hcur]
    apply (gives_parameter (by rw [hcur]; exact hx) hrest).bind
    intro d hd
    refine (ih k d hd ?_).bind fun d' hd' => gives_pure hd'
    rw [hc] at hn
    rw [hd]
    simp at hn ⊢
    omega

theorem gives_parameters {xs : List String} {w rest : List Lexeme} {right : Lexeme}
    (h : Names xs w) (hright : right.kind = .symbol .rightParen) (n : Nat) (c : Cursor)
    (hc : c.rest = w ++ right :: rest) (hn : c.rest.length ≤ n) :
    Gives (parameters n) c xs rest := by
  unfold parameters
  apply gives_next
  cases h with
  | nil =>
    rw [c.kind_next hc, List.nil_append, firstKind_cons, hright]
    exact gives_advance (gives_pure (c.advance.rest_eq hc))
  | @cons x xs w hx h =>
    have hc' : c.advance.ahead = x :: (w ++ right :: rest) := hc
    have hcur := Cursor.current_eq hc'
    rw [c.kind_next hc, List.cons_append, firstKind_cons, hx]
    apply gives_advance
    rw [← hcur]
    apply (gives_parameter (by rw [hcur]; exact hx) (Cursor.rest_eq hc')).bind
    intro d hd
    have hlen : d.rest.length ≤ n := by rw [hd]; rw [hc] at hn; simp at hn ⊢; omega
    apply (gives_moreParameters h hright n d hd hlen).bind
    intro d' hd'
    refine gives_expect (by rw [d'.kind_next hd']; exact hright) (gives_pure ?_)
    exact d'.advance.rest_eq hd'

/-! ## Phrases -/

/-- The lexemes behind a semicolon, if there is one. -/
def afterSemicolon (w : List Lexeme) : List Lexeme :=
  if firstKind w = .symbol .semicolon then w.tail else w

/-- The words `w` of a phrase are read whole. For an expression, what remains to be done is to
read operators behind it. -/
def Reads (w : List Lexeme) : Phrase → Prop
  | .expr t e => ∀ (n : Nat) (p : Precedence) (c : Cursor) (rest : List Lexeme),
    p.rank < t.floor → Quiet t.ceiling rest → c.ahead = w ++ rest → 8 * c.ahead.length + 3 ≤ n →
      ∃ m d, 8 * rest.length + 10 ≤ m ∧ d.rest = rest ∧ d.faults = c.faults ∧
        expression n p c = operators m p e d
  | .items es => ∀ (n : Nat) (close : Symbol) (c : Cursor) (x : Lexeme) (rest : List Lexeme),
    close = .rightParen ∨ close = .rightBracket → c.rest = w ++ x :: rest →
      x.kind = .symbol close → 8 * c.rest.length + 9 ≤ n → Gives (items n close) c es rest
  | .moreItems es => ∀ (n : Nat) (close : Symbol) (c : Cursor) (x : Lexeme) (rest : List Lexeme),
    close = .rightParen ∨ close = .rightBracket → c.rest = w ++ x :: rest →
      x.kind = .symbol close → 8 * c.rest.length + 1 ≤ n → Gives (moreItems n) c es (x :: rest)
  | .block b => ∀ (n : Nat) (c : Cursor) (rest : List Lexeme),
    c.ahead = w ++ rest → 8 * c.ahead.length + 1 ≤ n → Gives (block n) c b rest
  | .statement s => ∀ (n : Nat) (c : Cursor) (rest : List Lexeme), Quiet 0 rest →
    c.ahead = w ++ rest → 8 * c.ahead.length + 4 ≤ n → Gives (statement n) c s (afterSemicolon rest)
  | .statements ss => ∀ (n : Nat) (around : Enclosure) (c : Cursor) (rest : List Lexeme),
    around.ends (firstKind rest) = true → c.ahead = w ++ rest → 8 * c.ahead.length + 5 ≤ n →
      ∃ d, statements n around c = (some ss, d) ∧ d.ahead = rest ∧ d.faults = c.faults

section

variable {t : Tier} {e : Expr} {w : List Lexeme}

theorem operators_stop {n : Nat} {p : Precedence} {d : Cursor} (h : d.pull ≤ p.rank) :
    operators (n + 1) p e d = (some e, d) := by
  have hlt : ¬p.looser (Precedence.ofKind d.next.kind) = true := by rw [looser_next_iff]; omega
  unfold operators
  show (if p.looser (Precedence.ofKind d.next.kind) then _ else pure e : Reader Cursor Expr) d = _
  rw [if_neg hlt]; rfl

/-- A reader at the level of what stands behind an expression stops there. -/
theorem Reads.gives (h : Reads w (.expr t e)) {p : Precedence} (hp : p.rank < t.floor)
    (hp' : p.rank ≤ t.ceiling) {n : Nat} {c : Cursor} {rest : List Lexeme}
    (hrest : Quiet p.rank rest) (hc : c.ahead = w ++ rest) (hn : 8 * c.ahead.length + 3 ≤ n) :
    Gives (expression n p) c e rest := by
  obtain ⟨m, d, hm, hd, hfaults, heq⟩ := h n p c rest hp (hrest.mono hp') hc hn
  obtain ⟨k, rfl⟩ : ∃ k, m = k + 1 := ⟨m - 1, by omega⟩
  exact ⟨d, heq.trans (operators_stop (d.pull_le hd hrest)), hd, hfaults⟩

theorem Reads.gives_lowest (h : Reads w (.expr .expression e)) {n : Nat} {c : Cursor}
    {rest : List Lexeme} (hrest : Quiet 0 rest) (hc : c.ahead = w ++ rest)
    (hn : 8 * c.ahead.length + 3 ≤ n) : Gives (expression n .lowest) c e rest :=
  h.gives (by decide) (by decide) hrest hc hn

theorem reads_of_operand (hw : w ≠ [])
    (h : ∀ (n : Nat) (c : Cursor) (rest : List Lexeme), Quiet t.ceiling rest →
      c.ahead = w ++ rest → 8 * c.ahead.length + 2 ≤ n + 1 → Gives (operand (n + 1)) c e rest) :
    Reads w (.expr t e) := by
  intro n p c rest _ hrest hc hn
  have hpos := List.length_pos_iff.mpr hw
  have hlen : c.ahead.length = w.length + rest.length := by rw [hc, List.length_append]
  obtain ⟨k, rfl⟩ : ∃ k, n = k + 2 := ⟨n - 2, by omega⟩
  obtain ⟨d, hd, hdrest, hfaults⟩ := h k c rest hrest hc (by omega)
  refine ⟨k + 1, d, by omega, hdrest, hfaults, ?_⟩
  unfold expression
  rw [bind_apply, hd]

theorem Reads.extend {t' : Tier} {e' : Expr} {x : Lexeme} {s : Symbol} {v : List Lexeme}
    (h : Reads w (.expr t e)) (hx : x.kind = .symbol s)
    (hfloor : t'.floor ≤ t.floor) (hlow : t'.floor ≤ (Precedence.ofSymbol s).rank)
    (hhigh : (Precedence.ofSymbol s).rank ≤ t.ceiling)
    (hext : ∀ (n : Nat) (c : Cursor) (rest : List Lexeme), Quiet t'.ceiling rest →
      c.ahead = x :: v ++ rest → 8 * c.ahead.length + 2 ≤ n + 1 →
        Gives (extension (n + 1) e) c e' rest) :
    Reads (w ++ x :: v) (.expr t' e') := by
  intro n p c rest hp hrest hc hn
  rw [List.append_assoc] at hc
  obtain ⟨m, d, hm, hd, hfaults, heq⟩ :=
    h n p c (x :: v ++ rest) (by omega) (quiet_symbol hx hhigh) hc hn
  have hlen : (x :: v ++ rest).length = v.length + rest.length + 1 := by simp
  obtain ⟨k, rfl⟩ : ∃ k, m = k + 2 := ⟨m - 2, by omega⟩
  obtain ⟨d', hd', hdrest, hfaults'⟩ :=
    hext k d.advance rest hrest hd (by rw [Cursor.ahead_advance, hd]; omega)
  refine ⟨k + 1, d', by omega, hdrest, hfaults'.trans hfaults, ?_⟩
  have hpull : d.pull = (Precedence.ofSymbol s).rank := by
    unfold Cursor.pull; rw [d.kind_next hd, List.cons_append, firstKind_cons, hx]; rfl
  have hlt : p.looser (Precedence.ofKind d.next.kind) = true := looser_next_iff.mpr (by omega)
  rw [heq, operators]
  show (if p.looser (Precedence.ofKind d.next.kind) then _ else pure e : Reader Cursor Expr) d = _
  rw [if_pos hlt]
  show (extension (k + 1) e >>= operators (k + 1) p) d.advance = _
  rw [bind_apply, hd']

end

/-! ### Operators -/

section

variable {u v : List Lexeme}

theorem reads_assign {x : String} {e : Expr} {sign : Lexeme}
    (hx : Reads u (.expr .equality (.ident x))) (hsign : sign.kind = .symbol .assign)
    (he : Reads v (.expr .expression e)) :
    Reads (u ++ sign :: v) (.expr .expression (.assign x e)) := by
  apply hx.extend hsign (by decide) (by decide) (by decide)
  intro n c rest hrest hc hn
  have hcur := Cursor.current_eq hc
  have hadv : c.rest = v ++ rest := Cursor.rest_eq hc
  have hlen := Cursor.length_ahead hc
  unfold extension
  apply gives_current
  rw [hcur]
  simp only [hsign]
  refine gives_place (gives_advance ?_)
  exact (he.gives_lowest hrest hadv (by rw [Cursor.ahead_advance]; omega)).bind
    fun d hd => gives_pure hd

theorem reads_binary {op : BinaryOp} {l r : Expr} {sign : Lexeme}
    (hl : Reads u (.expr op.tier l)) (hsign : sign.kind = .symbol op.symbol)
    (hr : Reads v (.expr op.tier.tighter r)) :
    Reads (u ++ sign :: v) (.expr op.tier (.binary op l r)) := by
  obtain ⟨hrank, hceil⟩ := op.rank_ofSymbol
  apply hl.extend hsign (Nat.le_refl _) (by omega) (by omega)
  intro n c rest hrest hc hn
  have hcur := Cursor.current_eq hc
  have hadv : c.rest = v ++ rest := Cursor.rest_eq hc
  have hlen := Cursor.length_ahead hc
  have hright : Gives (expression n (Precedence.ofSymbol op.symbol)) c.advance r rest := by
    refine hr.gives ?_ ?_ (hrest.mono (by omega)) hadv (by rw [Cursor.ahead_advance]; omega)
    · cases op <;> decide
    · cases op <;> decide
  unfold extension
  apply gives_current
  rw [hcur]
  cases op <;> simp only [hsign, BinaryOp.symbol, BinaryOp.ofSymbol?] <;>
    exact gives_advance (hright.bind fun d hd => gives_pure hd)

theorem reads_unary {op : UnaryOp} {e : Expr} {sign : Lexeme}
    (hsign : sign.kind = .symbol op.symbol) (he : Reads v (.expr .prefixed e)) :
    Reads (sign :: v) (.expr .prefixed (.unary op e)) := by
  apply reads_of_operand (by simp)
  intro n c rest hrest hc hn
  have hcur := Cursor.current_eq hc
  have hadv : c.rest = v ++ rest := Cursor.rest_eq hc
  have hlen := Cursor.length_ahead hc
  have hinner : Gives (expression n .unary) c.advance e rest :=
    he.gives (by decide) (by decide) hrest hadv (by rw [Cursor.ahead_advance]; omega)
  unfold operand
  apply gives_current
  rw [hcur]
  cases op <;> simp only [hsign, UnaryOp.symbol, UnaryOp.ofSymbol?] <;>
    exact gives_advance (hinner.bind fun d hd => gives_pure hd)

theorem reads_call {f : Expr} {es : List Expr} {left right : Lexeme}
    (hf : Reads u (.expr .applied f)) (hleft : left.kind = .symbol .leftParen)
    (hes : Reads v (.items es)) (hright : right.kind = .symbol .rightParen) :
    Reads (u ++ left :: (v ++ [right])) (.expr .applied (.call f es)) := by
  apply hf.extend hleft (by decide) (by decide) (by decide)
  intro n c rest hrest hc hn
  have hcur := Cursor.current_eq hc
  have hadv : c.rest = v ++ right :: rest := by rw [Cursor.rest_eq hc]; simp
  have hlen := Cursor.length_ahead hc
  unfold extension
  apply gives_current
  rw [hcur]
  simp only [hleft]
  exact (hes n .rightParen c right rest (.inl rfl) hadv hright (by omega)).bind
    fun d hd => gives_pure hd

theorem reads_index {a i : Expr} {left right : Lexeme}
    (ha : Reads u (.expr .applied a)) (hleft : left.kind = .symbol .leftBracket)
    (hi : Reads v (.expr .expression i)) (hright : right.kind = .symbol .rightBracket) :
    Reads (u ++ left :: (v ++ [right])) (.expr .applied (.index a i)) := by
  apply ha.extend hleft (by decide) (by decide) (by decide)
  intro n c rest hrest hc hn
  have hcur := Cursor.current_eq hc
  have hadv : c.rest = v ++ right :: rest := by rw [Cursor.rest_eq hc]; simp
  have hlen := Cursor.length_ahead hc
  unfold extension
  apply gives_current
  rw [hcur]
  simp only [hleft]
  apply gives_advance
  refine (hi.gives_lowest (quiet_symbol hright (by decide)) hadv
    (by rw [Cursor.ahead_advance]; omega)).bind fun d hd => ?_
  refine gives_expect (by rw [d.kind_next hd]; exact hright) (gives_pure ?_)
  exact d.advance.rest_eq hd

/-! ### Primary expressions -/

theorem reads_ident {x : Lexeme} (hx : x.kind = .ident) :
    Reads [x] (.expr .primary (.ident x.literal)) := by
  apply reads_of_operand (by simp)
  intro n c rest hrest hc hn
  have hcur := Cursor.current_eq hc
  unfold operand
  apply gives_current
  rw [hcur]
  simp only [hx]
  exact gives_pure (Cursor.rest_eq hc)

theorem reads_int {x : Lexeme} {n : Int64} (hx : x.kind = .int)
    (hn : Decimal.Writes x.literal.toList n.toInt) : Reads [x] (.expr .primary (.int n)) := by
  apply reads_of_operand (by simp)
  intro n c rest hrest hc _
  have hcur := Cursor.current_eq hc
  unfold operand
  apply gives_current
  rw [hcur]
  simp only [hx]
  exact gives_integer (by rwa [hcur]) (Cursor.rest_eq hc)

theorem reads_str {x : Lexeme} (hx : x.kind = .string) :
    Reads [x] (.expr .primary (.str x.literal)) := by
  apply reads_of_operand (by simp)
  intro n c rest hrest hc hn
  have hcur := Cursor.current_eq hc
  unfold operand
  apply gives_current
  rw [hcur]
  simp only [hx]
  exact gives_pure (Cursor.rest_eq hc)

theorem reads_keyword {x : Lexeme} {k : Keyword} {e : Expr} (hx : x.kind = .keyword k)
    (hk : (k, e) ∈ [(.trueWord, .bool true), (.falseWord, .bool false), (.nilWord, .nil)]) :
    Reads [x] (.expr .primary e) := by
  apply reads_of_operand (by simp)
  intro n c rest hrest hc hn
  have hcur := Cursor.current_eq hc
  unfold operand
  apply gives_current
  rw [hcur]
  simp only [List.mem_cons, Prod.mk.injEq, List.not_mem_nil, or_false] at hk
  rcases hk with ⟨rfl, rfl⟩ | ⟨rfl, rfl⟩ | ⟨rfl, rfl⟩ <;> simp only [hx] <;>
    exact gives_pure (Cursor.rest_eq hc)

theorem reads_group {e : Expr} {left right : Lexeme} (hleft : left.kind = .symbol .leftParen)
    (he : Reads v (.expr .expression e)) (hright : right.kind = .symbol .rightParen) :
    Reads (left :: (v ++ [right])) (.expr .primary e) := by
  apply reads_of_operand (by simp)
  intro n c rest hrest hc hn
  have hcur := Cursor.current_eq hc
  have hadv : c.rest = v ++ right :: rest := by rw [Cursor.rest_eq hc]; simp
  have hlen := Cursor.length_ahead hc
  unfold operand
  apply gives_current
  rw [hcur]
  simp only [hleft]
  apply gives_advance
  refine (he.gives_lowest (quiet_symbol hright (by decide)) hadv
    (by rw [Cursor.ahead_advance]; omega)).bind fun d hd => ?_
  refine gives_expect (by rw [d.kind_next hd]; exact hright) (gives_pure ?_)
  exact d.advance.rest_eq hd

theorem reads_array {es : List Expr} {left right : Lexeme}
    (hleft : left.kind = .symbol .leftBracket) (hes : Reads v (.items es))
    (hright : right.kind = .symbol .rightBracket) :
    Reads (left :: (v ++ [right])) (.expr .primary (.array es)) := by
  apply reads_of_operand (by simp)
  intro n c rest hrest hc hn
  have hcur := Cursor.current_eq hc
  have hadv : c.rest = v ++ right :: rest := by rw [Cursor.rest_eq hc]; simp
  have hlen := Cursor.length_ahead hc
  unfold operand
  apply gives_current
  rw [hcur]
  simp only [hleft]
  exact (hes n .rightBracket c right rest (.inr rfl) hadv hright (by omega)).bind
    fun d hd => gives_pure hd

/-! ### Blocks in expressions -/

theorem firstKind_block {b : Block} (h : Derives (.block b) v) (w : List Lexeme) :
    firstKind (v ++ w) = .symbol .leftBrace := by
  cases h with
  | block hleft _ _ => exact hleft

theorem gives_braced {α : Type} {n : Nat} {c : Cursor} {b : Block} {a : α} {f : Block → Reader Cursor α}
    {w rest : List Lexeme} (hb : Derives (.block b) v) (hreads : Reads v (.block b))
    (hc : c.rest = v ++ w) (hn : 8 * c.rest.length + 1 ≤ n)
    (hf : ∀ d : Cursor, d.rest = w → Gives (f b) d a rest) :
    Gives (expect (.symbol .leftBrace) >>= fun _ => block n >>= f) c a rest := by
  apply gives_expect (by rw [c.kind_next hc, firstKind_block hb])
  exact (hreads n c.advance w hc hn).bind hf

/-- A condition and its first block, before what may be an alternative. -/
theorem gives_conditional {n : Nat} {c : Cursor} {e e' : Expr} {b : Block} (word : Lexeme)
    {left right : Lexeme} {w rest : List Lexeme} (hleft : left.kind = .symbol .leftParen)
    (he : Reads u (.expr .expression e)) (hright : right.kind = .symbol .rightParen)
    (hb : Derives (.block b) v) (hreads : Reads v (.block b))
    (hc : c.ahead = word :: left :: (u ++ right :: (v ++ w))) (hn : 8 * c.ahead.length ≤ n + 1)
    (hw : ∀ d : Cursor, d.rest = w → Gives (do
      if (← next).kind == .keyword .elseWord then
        advance
        expect (.symbol .leftBrace)
        let alternative ← block n
        return .ifElse e b alternative
      else return .ifThen e b) d e' rest) :
    Gives (conditional (n + 1)) c e' rest := by
  have hrest : c.rest = left :: (u ++ right :: (v ++ w)) := Cursor.rest_eq hc
  have hcond : c.advance.rest = u ++ right :: (v ++ w) := c.advance.rest_eq hrest
  have hlen := Cursor.length_ahead hc
  have hlen' := congrArg List.length hrest
  rw [List.length_cons, ← hcond] at hlen'
  unfold conditional
  refine gives_expect (by rw [c.kind_next hrest]; exact hleft) (gives_advance ?_)
  refine (he.gives_lowest (quiet_symbol hright (by decide)) hcond
    (by rw [Cursor.ahead_advance]; omega)).bind fun d hd => ?_
  apply gives_expect (by rw [d.kind_next hd]; exact hright)
  have hblock : d.advance.rest = v ++ w := d.advance.rest_eq hd
  refine gives_braced hb hreads hblock ?_ hw
  have : (v ++ w).length ≤ c.advance.rest.length := by
    rw [hcond]; simp only [List.length_append, List.length_cons]; omega
  rw [hblock]
  omega

theorem reads_ifThen {e : Expr} {b : Block} {word left right : Lexeme}
    (hword : word.kind = .keyword .ifWord) (hleft : left.kind = .symbol .leftParen)
    (he : Reads u (.expr .expression e)) (hright : right.kind = .symbol .rightParen)
    (hb : Derives (.block b) v) (hreads : Reads v (.block b)) :
    Reads (word :: left :: (u ++ right :: v)) (.expr .primary (.ifThen e b)) := by
  apply reads_of_operand (by simp)
  intro n c rest hrest hc hn
  have hcur := Cursor.current_eq hc
  have hlen := Cursor.length_ahead hc
  obtain ⟨k, rfl⟩ : ∃ k, n = k + 1 := ⟨n - 1, by omega⟩
  unfold operand
  apply gives_current
  rw [hcur]
  simp only [hword]
  refine gives_conditional word hleft he hright hb hreads (w := rest) (by rw [hc]; simp)
    (by omega) fun d hd => gives_next ?_
  have helse : ¬(d.next.kind == .keyword .elseWord) = true := by
    rw [d.kind_next hd]; simpa using hrest.2
  rw [if_neg helse]
  exact gives_pure hd

theorem reads_ifElse {e : Expr} {a b : Block} {word left right other : Lexeme} {w : List Lexeme}
    (hword : word.kind = .keyword .ifWord) (hleft : left.kind = .symbol .leftParen)
    (he : Reads u (.expr .expression e)) (hright : right.kind = .symbol .rightParen)
    (ha : Derives (.block a) v) (hreads : Reads v (.block a))
    (hother : other.kind = .keyword .elseWord) (hb : Derives (.block b) w)
    (hreads' : Reads w (.block b)) :
    Reads (word :: left :: (u ++ right :: (v ++ other :: w))) (.expr .primary (.ifElse e a b)) := by
  apply reads_of_operand (by simp)
  intro n c rest hrest hc hn
  have hcur := Cursor.current_eq hc
  have hlen := Cursor.length_ahead hc
  obtain ⟨k, rfl⟩ : ∃ k, n = k + 1 := ⟨n - 1, by omega⟩
  unfold operand
  apply gives_current
  rw [hcur]
  simp only [hword]
  refine gives_conditional word hleft he hright ha hreads (w := other :: (w ++ rest))
    (by rw [hc]; simp) (by omega) fun d hd => gives_next ?_
  have helse : (d.next.kind == .keyword .elseWord) = true := by
    rw [d.kind_next hd]; simpa using hother
  have hblock : d.advance.rest = w ++ rest := d.advance.rest_eq hd
  rw [if_pos helse]
  refine gives_advance (gives_braced hb hreads' hblock ?_ fun d' hd' => gives_pure hd')
  rw [hc] at hn
  rw [hblock]
  simp at hn ⊢
  omega

theorem reads_function {xs : List String} {b : Block} {word left right : Lexeme}
    (hword : word.kind = .keyword .funWord) (hleft : left.kind = .symbol .leftParen)
    (hxs : Names xs u) (hright : right.kind = .symbol .rightParen) (hb : Derives (.block b) v)
    (hreads : Reads v (.block b)) :
    Reads (word :: left :: (u ++ right :: v)) (.expr .primary (.function xs b)) := by
  apply reads_of_operand (by simp)
  intro n c rest hrest hc hn
  have hcur := Cursor.current_eq hc
  have hadv : c.rest = left :: (u ++ right :: (v ++ rest)) := by rw [Cursor.rest_eq hc]; simp
  have hnames : c.advance.rest = u ++ right :: (v ++ rest) := c.advance.rest_eq hadv
  have hlen := Cursor.length_ahead hc
  have hlen' := congrArg List.length hadv
  rw [List.length_cons, ← hnames] at hlen'
  unfold operand
  apply gives_current
  rw [hcur]
  simp only [hword]
  apply gives_expect (by rw [c.kind_next hadv]; exact hleft)
  apply (gives_parameters hxs hright n c.advance hnames (by omega)).bind
  intro d hd
  refine gives_braced hb hreads hd ?_ fun d' hd' => gives_pure hd'
  have : (v ++ rest).length ≤ c.advance.rest.length := by
    rw [hnames]; simp only [List.length_append, List.length_cons]; omega
  rw [hd]
  omega

/-! ### Lists of expressions -/

theorem reads_noItems : Reads [] (.items []) := by
  intro n close c x rest hclose hc hx hn
  obtain ⟨k, rfl⟩ : ∃ k, n = k + 1 := ⟨n - 1, by omega⟩
  unfold items
  apply gives_next
  rw [c.kind_next hc, List.nil_append, firstKind_cons, hx, if_pos (by simp)]
  exact gives_advance (gives_pure (c.advance.rest_eq hc))

theorem reads_lastItem : Reads [] (.moreItems []) := by
  intro n close c x rest hclose hc hx hn
  obtain ⟨k, rfl⟩ : ∃ k, n = k + 1 := ⟨n - 1, by omega⟩
  unfold moreItems
  apply gives_next
  rw [c.kind_next hc, List.nil_append, firstKind_cons, hx]
  rcases hclose with rfl | rfl <;> exact gives_pure hc

/-- Behind an expression of a list stands a comma or the closing symbol. -/
theorem quiet_moreItems {es : List Expr} {x : Lexeme} {close : Symbol} {rest : List Lexeme}
    (h : Derives (.moreItems es) v) (hclose : close = .rightParen ∨ close = .rightBracket)
    (hx : x.kind = .symbol close) : Quiet 0 (v ++ x :: rest) := by
  cases h with
  | lastItem => rcases hclose with rfl | rfl <;> exact quiet_symbol hx (by decide)
  | moreItems hcomma _ _ => exact quiet_symbol hcomma (by decide)

theorem reads_moreItems {e : Expr} {es : List Expr} {comma : Lexeme}
    (hcomma : comma.kind = .symbol .comma) (he : Reads u (.expr .expression e))
    (hes : Derives (.moreItems es) v) (hreads : Reads v (.moreItems es)) :
    Reads (comma :: (u ++ v)) (.moreItems (e :: es)) := by
  intro n close c x rest hclose hc hx hn
  have hadv : c.advance.rest = u ++ (v ++ x :: rest) := by rw [c.advance.rest_eq hc]; simp
  have hlen := congrArg List.length hc
  have hlen' := congrArg List.length hadv
  simp only [List.length_append, List.length_cons] at hlen hlen'
  obtain ⟨k, rfl⟩ : ∃ k, n = k + 1 := ⟨n - 1, by omega⟩
  unfold moreItems
  apply gives_next
  rw [c.kind_next hc, List.cons_append, firstKind_cons, hcomma]
  refine gives_advance (gives_advance ?_)
  refine (he.gives_lowest (quiet_moreItems hes hclose hx) hadv
    (by rw [Cursor.ahead_advance]; omega)).bind fun d hd => ?_
  refine (hreads k close d x rest hclose hd hx ?_).bind fun d' hd' => gives_pure hd'
  rw [hd]
  simp only [List.length_append, List.length_cons]
  omega

theorem reads_items {e : Expr} {es : List Expr} (h : Derives (.expr .expression e) u)
    (he : Reads u (.expr .expression e)) (hes : Derives (.moreItems es) v)
    (hreads : Reads v (.moreItems es)) : Reads (u ++ v) (.items (e :: es)) := by
  intro n close c x rest hclose hc hx hn
  rw [List.append_assoc] at hc
  obtain ⟨k, rfl⟩ : ∃ k, n = k + 1 := ⟨n - 1, by omega⟩
  have hopen : (firstKind (u ++ (v ++ x :: rest)) == .symbol close) = false := by
    obtain ⟨y, w, rfl, hy⟩ := h.opens
    rw [List.cons_append, firstKind_cons]
    rcases hclose with rfl | rfl <;> exact beq_false_of_ne (by rintro hk; rw [hk] at hy; cases hy)
  unfold items
  apply gives_next
  rw [c.kind_next hc, hopen]
  apply gives_advance
  refine (he.gives_lowest (quiet_moreItems hes hclose hx) hc
    (by rw [Cursor.ahead_advance]; omega)).bind fun d hd => ?_
  refine (hreads k close d x rest hclose hd hx ?_).bind fun d' hd' => ?_
  · rw [hc] at hn
    rw [hd]
    simp only [List.length_append, List.length_cons] at hn ⊢
    omega
  refine gives_expect (by rw [d'.kind_next hd']; exact hx) (gives_pure ?_)
  exact d'.advance.rest_eq hd'

/-! ### Statements -/

theorem reads_block {b : Block} {left right : Lexeme} (hb : Reads v (.statements b))
    (hright : right.kind = .symbol .rightBrace) :
    Reads (left :: (v ++ [right])) (.block b) := by
  intro n c rest hc hn
  have hadv : c.rest = v ++ right :: rest := by rw [Cursor.rest_eq hc]; simp
  have hlen := Cursor.length_ahead hc
  obtain ⟨k, rfl⟩ : ∃ k, n = k + 1 := ⟨n - 1, by omega⟩
  obtain ⟨d, hd, hahead, hfaults⟩ := hb k .braces c.advance (right :: rest)
    (by rw [firstKind_cons, hright]; rfl) hadv (by rw [Cursor.ahead_advance]; omega)
  have hcur := Cursor.current_eq hahead
  have hend : (current >>= fun x => if x.kind != .symbol .rightBrace then
      place >>= fun i => record (.unterminatedBlock x.kind) i >>= fun _ => pure b
      else pure b : Reader Cursor Block) d = (some b, d) := by
    show (if d.current.kind != .symbol .rightBrace then _ else pure b : Reader Cursor Block) d = _
    rw [hcur, hright]; rfl
  refine ⟨d, ?_, Cursor.rest_eq hahead, hfaults⟩
  unfold block
  show (statements k .braces >>= _) c.advance = _
  rw [bind_apply, hd]
  exact hend

theorem gives_close {c : Cursor} {s : Statement} {rest : List Lexeme} (hc : c.rest = rest) :
    Gives (skipSemicolon >>= fun _ => pure s) c s (afterSemicolon rest) := by
  refine ⟨if c.next.kind = .symbol .semicolon then c.advance else c, ?_, ?_, ?_⟩
  · rw [bind_apply, skipSemicolon_apply]; rfl
  · unfold afterSemicolon
    rw [← c.kind_next hc]
    split
    · rw [← hc]; rfl
    · exact hc
  · split <;> rfl

theorem reads_bind {e : Expr} {word x sign : Lexeme} (hword : word.kind = .keyword .letWord)
    (hx : x.kind = .ident) (hsign : sign.kind = .symbol .assign)
    (he : Reads v (.expr .expression e)) :
    Reads (word :: x :: sign :: v) (.statement (.bind x.literal e)) := by
  intro n c rest hrest hc hn
  have hcur := Cursor.current_eq hc
  have hname : c.rest = x :: sign :: (v ++ rest) := Cursor.rest_eq hc
  have hassign : c.advance.rest = sign :: (v ++ rest) := c.advance.rest_eq hname
  have hvalue : c.advance.advance.rest = v ++ rest := c.advance.advance.rest_eq hassign
  have hlen := congrArg List.length hc
  have hlen' := congrArg List.length hvalue
  simp only [List.length_append, List.length_cons] at hlen hlen'
  obtain ⟨k, rfl⟩ : ∃ k, n = k + 1 := ⟨n - 1, by omega⟩
  unfold statement
  apply gives_current
  rw [hcur]
  simp only [hword]
  refine gives_expect (by rw [c.kind_next hname]; exact hx) (gives_current ?_)
  rw [Cursor.current_eq (c := c.advance) hname]
  refine gives_expect (by rw [c.advance.kind_next hassign]; exact hsign) (gives_advance ?_)
  exact (he.gives_lowest hrest hvalue (by rw [Cursor.ahead_advance]; omega)).bind
    fun d hd => gives_close hd

theorem reads_ret {e : Expr} {word : Lexeme} (hword : word.kind = .keyword .returnWord)
    (he : Reads v (.expr .expression e)) : Reads (word :: v) (.statement (.ret e)) := by
  intro n c rest hrest hc hn
  have hcur := Cursor.current_eq hc
  have hadv : c.rest = v ++ rest := Cursor.rest_eq hc
  have hlen := Cursor.length_ahead hc
  obtain ⟨k, rfl⟩ : ∃ k, n = k + 1 := ⟨n - 1, by omega⟩
  unfold statement
  apply gives_current
  rw [hcur]
  simp only [hword]
  apply gives_advance
  exact (he.gives_lowest hrest hadv (by rw [Cursor.ahead_advance]; omega)).bind
    fun d hd => gives_close hd

theorem reads_expr {e : Expr} (h : Derives (.expr .expression e) v)
    (he : Reads v (.expr .expression e)) : Reads v (.statement (.expr e)) := by
  intro n c rest hrest hc hn
  obtain ⟨x, w, rfl, hx⟩ := h.opens
  have hcur := Cursor.current_eq hc
  obtain ⟨k, rfl⟩ : ∃ k, n = k + 1 := ⟨n - 1, by omega⟩
  have hread : Gives (do
      let value ← expression k .lowest
      skipSemicolon
      return Statement.expr value) c (.expr e) (afterSemicolon rest) :=
    (he.gives_lowest hrest hc (by omega)).bind fun d hd => gives_close hd
  unfold statement
  apply gives_current
  rw [hcur]
  split
  · next hk => rw [hk] at hx; cases hx
  · next hk => rw [hk] at hx; cases hx
  · exact hread

/-! ### Rows of statements -/

theorem ends_eq_false {k : TokenKind} (around : Enclosure) (h : k.opensStatement = true) :
    around.ends k = false := by
  have heof : k ≠ .eof := by rintro rfl; cases h
  have hbrace : k ≠ .symbol .rightBrace := by rintro rfl; cases h
  cases around <;> simp [Enclosure.ends, heof, hbrace]

theorem kind_of_ends {k : TokenKind} {around : Enclosure} (h : around.ends k = true) :
    k = .eof ∨ k = .symbol .rightBrace := by
  cases around with
  | source => exact .inl (by simpa [Enclosure.ends] using h)
  | braces => simpa [Enclosure.ends] using h

/-- A statement that follows one without a semicolon does not go on with it. -/
theorem quiet_statement {ss : List Statement} (h : Derives (.statements ss) v) (hne : v ≠ [])
    (hv : ∀ x ∈ v.head?, x.kind.continues = false) (rest : List Lexeme) :
    Quiet 0 (v ++ rest) ∧ afterSemicolon (v ++ rest) = v ++ rest := by
  obtain ⟨x, w, rfl⟩ := List.exists_cons_of_ne_nil hne
  have hopens := h.opens x rfl
  have hquiet := (rank_ofKind_eq_zero_iff _).mpr (hv x rfl)
  rw [List.cons_append]
  unfold Quiet afterSemicolon
  rw [firstKind_cons]
  refine ⟨⟨by omega, ?_⟩, if_neg ?_⟩
  · intro hk; rw [hk] at hopens; cases hopens
  · intro hk; rw [hk] at hopens; cases hopens

/-- Behind a statement without a semicolon stands another statement or the end of the row. -/
theorem quiet_statements {ss : List Statement} {around : Enclosure} {rest : List Lexeme}
    (h : Derives (.statements ss) v) (hv : ∀ x ∈ v.head?, x.kind.continues = false)
    (hrest : around.ends (firstKind rest) = true) :
    Quiet 0 (v ++ rest) ∧ afterSemicolon (v ++ rest) = v ++ rest := by
  by_cases hne : v = []
  · rw [hne, List.nil_append]
    unfold Quiet afterSemicolon
    rcases kind_of_ends hrest with hk | hk <;> rw [hk] <;> exact ⟨by decide, rfl⟩
  · exact quiet_statement h hne hv rest

theorem gives_statements_cons {s : Statement} {ss : List Statement} {w rest : List Lexeme} {n : Nat}
    {around : Enclosure} {c : Cursor} (hs : Derives (.statement s) u)
    (hreads : Reads u (.statement s)) (hss : Reads v (.statements ss)) (hw : Quiet 0 w)
    (hafter : afterSemicolon w = v ++ rest) (hrest : around.ends (firstKind rest) = true)
    (hc : c.ahead = u ++ w) (hn : 8 * c.ahead.length + 5 ≤ n) :
    ∃ d, statements n around c = (some (s :: ss), d) ∧ d.ahead = rest ∧ d.faults = c.faults := by
  obtain ⟨k, rfl⟩ : ∃ k, n = k + 1 := ⟨n - 1, by omega⟩
  obtain ⟨x, u', rfl, hx⟩ := hs.opens
  have hlen : (v ++ rest).length ≤ w.length := by
    rw [← hafter]; unfold afterSemicolon; split <;> simp
  have hlen' := congrArg List.length hc
  simp only [List.length_append, List.length_cons] at hlen hlen'
  obtain ⟨d, hd, hdrest, hfaults⟩ := hreads k c w hw hc (by omega)
  rw [hafter] at hdrest
  obtain ⟨d', hd', hahead, hfaults'⟩ := hss k around d.advance rest hrest hdrest
    (by rw [Cursor.ahead_advance, hdrest, List.length_append]; omega)
  refine ⟨d', ?_, hahead, hfaults'.trans hfaults⟩
  have hcur : around.ends c.current.kind = false := by
    rw [Cursor.current_eq hc]; exact ends_eq_false around hx
  unfold statements
  show (if around.ends c.current.kind then _ else _ : Reader Cursor (List Statement)) c = _
  rw [if_neg (by rw [hcur]; decide), bind_apply]
  unfold attempt
  rw [hd]
  show (statements k around >>= fun rest => pure ([s] ++ rest)) d.advance = _
  rw [bind_apply, hd']
  rfl

theorem reads_noStatements : Reads [] (.statements []) := by
  intro n around c rest hrest hc hn
  obtain ⟨k, rfl⟩ : ∃ k, n = k + 1 := ⟨n - 1, by omega⟩
  refine ⟨c, ?_, hc, rfl⟩
  have hcur : around.ends c.current.kind = true := by rw [c.kind_current hc]; exact hrest
  unfold statements
  show (if around.ends c.current.kind then pure [] else _ : Reader Cursor (List Statement)) c = _
  rw [if_pos hcur]
  rfl

theorem reads_ended {s : Statement} {ss : List Statement} {semicolon : Lexeme}
    (hs : Derives (.statement s) u) (hreads : Reads u (.statement s))
    (hsemicolon : semicolon.kind = .symbol .semicolon) (hss : Reads v (.statements ss)) :
    Reads (u ++ semicolon :: v) (.statements (s :: ss)) := by
  intro n around c rest hrest hc hn
  rw [List.append_assoc] at hc
  refine gives_statements_cons hs hreads hss (quiet_symbol hsemicolon (by decide)) ?_ hrest hc hn
  unfold afterSemicolon
  rw [firstKind_cons, if_pos hsemicolon]
  rfl

theorem reads_bare {s : Statement} {ss : List Statement} (hs : Derives (.statement s) u)
    (hreads : Reads u (.statement s)) (hv : ∀ x ∈ v.head?, x.kind.continues = false)
    (hss : Derives (.statements ss) v) (hreads' : Reads v (.statements ss)) :
    Reads (u ++ v) (.statements (s :: ss)) := by
  intro n around c rest hrest hc hn
  rw [List.append_assoc] at hc
  obtain ⟨hquiet, hafter⟩ := quiet_statements hss hv hrest
  exact gives_statements_cons hs hreads hreads' hquiet hafter hrest hc hn

theorem reads_tighten {t : Tier} {e : Expr} (h : Reads v (.expr t.tighter e)) :
    Reads v (.expr t e) := by
  intro n p c rest hp hrest hc hn
  have hfloor : t.floor ≤ t.tighter.floor := by cases t <;> decide
  have hceiling : t.ceiling ≤ t.tighter.ceiling := by cases t <;> decide
  exact h n p c rest (by omega) (hrest.mono hceiling) hc hn

end

end Reader

open Reader in
/-- **Completeness.** The words of a phrase are read as that phrase. -/
theorem Derives.reads {φ : Phrase} {w : List Lexeme} (h : Derives φ w) : Reads w φ := by
  induction h with
  | tighten _ ih => exact reads_tighten ih
  | assign _ hs _ ih ih' => exact reads_assign ih hs ih'
  | binary _ hs _ ih ih' => exact reads_binary ih hs ih'
  | unary hs _ ih => exact reads_unary hs ih
  | call _ hl _ hr ih ih' => exact reads_call ih hl ih' hr
  | index _ hl _ hr ih ih' => exact reads_index ih hl ih' hr
  | ident hx => exact reads_ident hx
  | int hx hn => exact reads_int hx hn
  | str hx => exact reads_str hx
  | trueWord hx | falseWord hx | nilWord hx => exact reads_keyword hx (by simp)
  | group hl _ hr ih => exact reads_group hl ih hr
  | ifThen hw hl _ hr hb ih ih' => exact reads_ifThen hw hl ih hr hb ih'
  | ifElse hw hl _ hr ha ho hb ih ih' ih'' => exact reads_ifElse hw hl ih hr ha ih' ho hb ih''
  | function hw hl hxs hr hb ih => exact reads_function hw hl hxs hr hb ih
  | array hl _ hr ih => exact reads_array hl ih hr
  | noItems => exact reads_noItems
  | items he hes ih ih' => exact reads_items he ih hes ih'
  | lastItem => exact reads_lastItem
  | moreItems hc _ hes ih ih' => exact reads_moreItems hc ih hes ih'
  | block _ _ hr ih => exact reads_block ih hr
  | bind hw hx hs _ ih => exact reads_bind hw hx hs ih
  | ret hw _ ih => exact reads_ret hw ih
  | expr he ih => exact reads_expr he ih
  | noStatements => exact reads_noStatements
  | ended hs hx _ ih ih' => exact reads_ended hs ih hx ih'
  | bare hs hv hss ih ih' => exact reads_bare hs ih hv hss ih'

end CurryLang
