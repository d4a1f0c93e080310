import CurryLang.Program.Parser

/-!
# The grammar of programs

The sentences of the language as rules, apart from any way of reading them: `Derives φ w` says that
the lexemes `w` form the phrase `φ`, where `φ` carries the tree that they stand for.

1. Expressions come in tiers, from the loosest to the tightest. A binary operator joins an operand
   of its own tier, on its left, with one of the next tier, so it associates to the left.
2. A statement may stand without a semicolon only where the lexeme after it cannot go on with its
   expression.
3. A phrase starts with a lexeme that tells what it is (`Derives.opens`), and no phrase contains a
   comment, something illegal or the end of the input (`Derives.inPhrases`). Its numbers are in range
   (`Derives.numerals`).
-/

namespace CurryLang

/-! ## Words without expressions -/

/-- Characters that write an integer: one optional sign and one or more ASCII digits. -/
def Decimal.Writes (cs : List Char) (i : Int) : Prop :=
  ∃ ds : List Char, ds ≠ [] ∧ (∀ c ∈ ds, c.isDigit = true) ∧
    ((cs = ds ∨ cs = '+' :: ds) ∧ i = value ds ∨ cs = '-' :: ds ∧ i = -value ds)

/-- Identifiers, each behind a comma. -/
inductive MoreNames : List String → List Lexeme → Prop where
  | nil : MoreNames [] []
  | cons {comma x : Lexeme} {xs : List String} {w : List Lexeme} :
      comma.kind = .symbol .comma → x.kind = .ident → MoreNames xs w →
        MoreNames (x.literal :: xs) (comma :: x :: w)

/-- Identifiers with commas between them, or nothing. -/
inductive Names : List String → List Lexeme → Prop where
  | nil : Names [] []
  | cons {x : Lexeme} {xs : List String} {w : List Lexeme} :
      x.kind = .ident → MoreNames xs w → Names (x.literal :: xs) (x :: w)

def UnaryOp.symbol : UnaryOp → Symbol
  | not => .bang
  | negate => .minus
  | plus => .plus

def BinaryOp.symbol : BinaryOp → Symbol
  | add => .plus
  | sub => .minus
  | mul => .star
  | div => .slash
  | less => .less
  | greater => .greater
  | equal => .equal
  | notEqual => .notEqual

/-- The lexemes that go on with an expression in front of them. -/
def TokenKind.continues : TokenKind → Bool
  | .symbol .assign | .symbol .equal | .symbol .notEqual | .symbol .less | .symbol .greater
  | .symbol .plus | .symbol .minus | .symbol .star | .symbol .slash
  | .symbol .leftParen | .symbol .leftBracket => true
  | _ => false

/-! ## Phrases -/

/-- The tiers of expressions, the loosest first. -/
inductive Tier where
  | expression | equality | comparison | sum | product | prefixed | applied | primary
  deriving DecidableEq, Repr

/-- The next tighter tier. -/
def Tier.tighter : Tier → Tier
  | expression => equality
  | equality => comparison
  | comparison => sum
  | sum => product
  | product => prefixed
  | prefixed => applied
  | applied => primary
  | primary => primary

/-- The tier of the expressions that a binary operator makes. -/
def BinaryOp.tier : BinaryOp → Tier
  | equal | notEqual => .equality
  | less | greater => .comparison
  | add | sub => .sum
  | mul | div => .product

/-- The kinds of phrases, with the trees that they stand for. -/
inductive Phrase where
  /-- An expression of some tier. -/
  | expr (tier : Tier) (e : Expr)
  /-- Expressions with commas between them, or nothing. -/
  | items (es : List Expr)
  /-- Expressions, each behind a comma. -/
  | moreItems (es : List Expr)
  /-- Statements between braces. -/
  | block (b : Block)
  /-- A statement without the semicolon after it. -/
  | statement (s : Statement)
  /-- Statements with their semicolons. -/
  | statements (ss : List Statement)

/-- The lexemes `w` are a phrase `φ`. -/
inductive Derives : Phrase → List Lexeme → Prop where
  -- operators
  | tighten {t : Tier} {e : Expr} {w : List Lexeme} :
      Derives (.expr t.tighter e) w → Derives (.expr t e) w
  | assign {x : String} {e : Expr} {sign : Lexeme} {u v : List Lexeme} :
      Derives (.expr .equality (.ident x)) u → sign.kind = .symbol .assign →
        Derives (.expr .expression e) v → Derives (.expr .expression (.assign x e)) (u ++ sign :: v)
  | binary {op : BinaryOp} {l r : Expr} {sign : Lexeme} {u v : List Lexeme} :
      Derives (.expr op.tier l) u → sign.kind = .symbol op.symbol →
        Derives (.expr op.tier.tighter r) v →
          Derives (.expr op.tier (.binary op l r)) (u ++ sign :: v)
  | unary {op : UnaryOp} {e : Expr} {sign : Lexeme} {w : List Lexeme} :
      sign.kind = .symbol op.symbol → Derives (.expr .prefixed e) w →
        Derives (.expr .prefixed (.unary op e)) (sign :: w)
  | call {f : Expr} {es : List Expr} {left right : Lexeme} {u v : List Lexeme} :
      Derives (.expr .applied f) u → left.kind = .symbol .leftParen → Derives (.items es) v →
        right.kind = .symbol .rightParen →
          Derives (.expr .applied (.call f es)) (u ++ left :: (v ++ [right]))
  | index {a i : Expr} {left right : Lexeme} {u v : List Lexeme} :
      Derives (.expr .applied a) u → left.kind = .symbol .leftBracket →
        Derives (.expr .expression i) v → right.kind = .symbol .rightBracket →
          Derives (.expr .applied (.index a i)) (u ++ left :: (v ++ [right]))
  -- primary expressions
  | ident {x : Lexeme} : x.kind = .ident → Derives (.expr .primary (.ident x.literal)) [x]
  | int {x : Lexeme} {n : Int64} :
      x.kind = .int → Decimal.Writes x.literal.toList n.toInt →
      Derives (.expr .primary (.int n)) [x]
  | str {x : Lexeme} : x.kind = .string → Derives (.expr .primary (.str x.literal)) [x]
  | trueWord {x : Lexeme} :
      x.kind = .keyword .trueWord → Derives (.expr .primary (.bool true)) [x]
  | falseWord {x : Lexeme} :
      x.kind = .keyword .falseWord → Derives (.expr .primary (.bool false)) [x]
  | nilWord {x : Lexeme} : x.kind = .keyword .nilWord → Derives (.expr .primary .nil) [x]
  | group {e : Expr} {left right : Lexeme} {w : List Lexeme} :
      left.kind = .symbol .leftParen → Derives (.expr .expression e) w →
        right.kind = .symbol .rightParen → Derives (.expr .primary e) (left :: (w ++ [right]))
  | ifThen {e : Expr} {b : Block} {word left right : Lexeme} {u v : List Lexeme} :
      word.kind = .keyword .ifWord → left.kind = .symbol .leftParen →
        Derives (.expr .expression e) u → right.kind = .symbol .rightParen → Derives (.block b) v →
          Derives (.expr .primary (.ifThen e b)) (word :: left :: (u ++ right :: v))
  | ifElse {e : Expr} {a b : Block} {word left right other : Lexeme} {u v w : List Lexeme} :
      word.kind = .keyword .ifWord → left.kind = .symbol .leftParen →
        Derives (.expr .expression e) u → right.kind = .symbol .rightParen → Derives (.block a) v →
          other.kind = .keyword .elseWord → Derives (.block b) w →
            Derives (.expr .primary (.ifElse e a b))
              (word :: left :: (u ++ right :: (v ++ other :: w)))
  | function {xs : List String} {b : Block} {word left right : Lexeme} {u v : List Lexeme} :
      word.kind = .keyword .funWord → left.kind = .symbol .leftParen → Names xs u →
        right.kind = .symbol .rightParen → Derives (.block b) v →
          Derives (.expr .primary (.function xs b)) (word :: left :: (u ++ right :: v))
  | array {es : List Expr} {left right : Lexeme} {w : List Lexeme} :
      left.kind = .symbol .leftBracket → Derives (.items es) w →
        right.kind = .symbol .rightBracket →
          Derives (.expr .primary (.array es)) (left :: (w ++ [right]))
  -- lists of expressions
  | noItems : Derives (.items []) []
  | items {e : Expr} {es : List Expr} {u v : List Lexeme} :
      Derives (.expr .expression e) u → Derives (.moreItems es) v →
        Derives (.items (e :: es)) (u ++ v)
  | lastItem : Derives (.moreItems []) []
  | moreItems {e : Expr} {es : List Expr} {comma : Lexeme} {u v : List Lexeme} :
      comma.kind = .symbol .comma → Derives (.expr .expression e) u → Derives (.moreItems es) v →
        Derives (.moreItems (e :: es)) (comma :: (u ++ v))
  -- statements
  | block {b : Block} {left right : Lexeme} {w : List Lexeme} :
      left.kind = .symbol .leftBrace → Derives (.statements b) w →
        right.kind = .symbol .rightBrace → Derives (.block b) (left :: (w ++ [right]))
  | bind {e : Expr} {word x sign : Lexeme} {w : List Lexeme} :
      word.kind = .keyword .letWord → x.kind = .ident → sign.kind = .symbol .assign →
        Derives (.expr .expression e) w →
          Derives (.statement (.bind x.literal e)) (word :: x :: sign :: w)
  | ret {e : Expr} {word : Lexeme} {w : List Lexeme} :
      word.kind = .keyword .returnWord → Derives (.expr .expression e) w →
        Derives (.statement (.ret e)) (word :: w)
  | expr {e : Expr} {w : List Lexeme} :
      Derives (.expr .expression e) w → Derives (.statement (.expr e)) w
  | noStatements : Derives (.statements []) []
  | ended {s : Statement} {ss : List Statement} {semicolon : Lexeme} {u v : List Lexeme} :
      Derives (.statement s) u → semicolon.kind = .symbol .semicolon → Derives (.statements ss) v →
        Derives (.statements (s :: ss)) (u ++ semicolon :: v)
  | bare {s : Statement} {ss : List Statement} {u v : List Lexeme} :
      Derives (.statement s) u → (∀ x ∈ v.head?, x.kind.continues = false) →
        Derives (.statements ss) v → Derives (.statements (s :: ss)) (u ++ v)

/-! ## Numerals -/

namespace Decimal

theorem fit?_eq_some_iff {i : Int} {n : Int64} : fit? i = some n ↔ n.toInt = i := by
  constructor
  · intro h
    unfold fit? at h
    split at h
    · next hi =>
      rw [Int64.toInt_minValue, Int64.toInt_maxValue] at hi
      rw [← Option.some.inj h]
      exact Int64.toInt_ofInt_of_le hi.1 (by omega)
    · cases h
  · rintro rfl
    exact fit?_toInt n

theorem toNat?_eq_some_iff {cs : List Char} {k : Nat} :
    toNat? cs = some k ↔ cs ≠ [] ∧ (∀ c ∈ cs, c.isDigit = true) ∧ value cs = k := by
  unfold toNat?
  by_cases h : cs = []
  · simp [h]
  by_cases hd : ∀ c ∈ cs, c.isDigit = true
  · simp [h]
  · have hall : cs.all Char.isDigit = false := by simpa using hd
    simp [hd, hall]

theorem toInt?_eq_some_iff {cs : List Char} {i : Int} : toInt? cs = some i ↔ Writes cs i := by
  unfold toInt?
  split
  · next ds =>
    simp only [Option.map_eq_some_iff, Option.bind_eq_bind, Option.bind_eq_some_iff,
      Option.pure_def, Option.some.injEq, toNat?_eq_some_iff]
    constructor
    · rintro ⟨_, ⟨_, ⟨hne, hd, rfl⟩, rfl⟩, rfl⟩
      exact ⟨ds, hne, hd, .inr ⟨rfl, rfl⟩⟩
    · rintro ⟨es, hne, hd, ⟨h | h, hi⟩ | ⟨h, hi⟩⟩
      · exact absurd (hd '-' (by simp [← h])) (by decide)
      · cases h
      · cases h
        exact ⟨_, ⟨_, ⟨hne, hd, rfl⟩, rfl⟩, hi.symm⟩
  · next ds =>
    simp only [Option.map_eq_some_iff, Option.bind_eq_bind, Option.bind_eq_some_iff,
      Option.pure_def, Option.some.injEq, toNat?_eq_some_iff]
    constructor
    · rintro ⟨_, ⟨_, ⟨hne, hd, rfl⟩, rfl⟩, rfl⟩
      exact ⟨ds, hne, hd, .inl ⟨.inr rfl, rfl⟩⟩
    · rintro ⟨es, hne, hd, ⟨h | h, hi⟩ | ⟨h, hi⟩⟩
      · exact absurd (hd '+' (by simp [← h])) (by decide)
      · cases h
        exact ⟨_, ⟨_, ⟨hne, hd, rfl⟩, rfl⟩, hi.symm⟩
      · cases h
  · next hminus hplus =>
    simp only [Option.map_eq_some_iff, Option.bind_eq_bind, Option.bind_eq_some_iff,
      Option.pure_def, Option.some.injEq, toNat?_eq_some_iff]
    constructor
    · rintro ⟨_, ⟨_, ⟨hne, hd, rfl⟩, rfl⟩, rfl⟩
      exact ⟨cs, hne, hd, .inl ⟨.inl rfl, rfl⟩⟩
    · rintro ⟨es, hne, hd, ⟨h | h, hi⟩ | ⟨h, hi⟩⟩
      · cases h
        exact ⟨_, ⟨_, ⟨hne, hd, rfl⟩, rfl⟩, hi.symm⟩
      · exact absurd h (hplus es)
      · exact absurd h (hminus es)

/-- The reader of numbers reads the numerals and nothing else. -/
theorem toInt64?_eq_some_iff {text : String} {n : Int64} :
    toInt64? text = some n ↔ Writes text.toList n.toInt := by
  unfold toInt64?
  simp only [Option.bind_eq_some_iff, toInt?_eq_some_iff, fit?_eq_some_iff]
  exact ⟨fun ⟨_, h, hn⟩ => hn ▸ h, fun h => ⟨_, h, rfl⟩⟩

end Decimal

/-! ## Tiers -/

/-- The place of a tier in the order, from the loosest up. -/
def Tier.rank : Tier → Nat
  | expression => 0
  | equality => 1
  | comparison => 2
  | sum => 3
  | product => 4
  | prefixed => 5
  | applied => 6
  | primary => 7

theorem Tier.rank_tighter {t : Tier} (h : t ≠ primary) : t.tighter.rank = t.rank + 1 := by
  cases t <;> first | rfl | exact absurd rfl h

theorem Tier.rank_injective {s t : Tier} (h : s.rank = t.rank) : s = t := by
  cases s <;> cases t <;> first | rfl | cases h

theorem Derives.loosen {s t : Tier} {e : Expr} {w : List Lexeme} (hst : s.rank ≤ t.rank)
    (h : Derives (.expr t e) w) : Derives (.expr s e) w := by
  by_cases heq : s = t
  · rwa [heq]
  · have hne : s.rank ≠ t.rank := fun hr => heq (Tier.rank_injective hr)
    have hs : s ≠ .primary := by rintro rfl; cases t <;> simp [Tier.rank] at hst hne
    have hr := Tier.rank_tighter hs
    exact .tighten (loosen (by omega) h)
termination_by t.rank - s.rank

/-! ## First lexemes -/

/-- The lexemes that an expression can start with. -/
def TokenKind.opensOperand : TokenKind → Bool
  | .ident | .int | .string => true
  | .keyword k => match k with
    | .trueWord | .falseWord | .nilWord | .ifWord | .funWord => true
    | _ => false
  | .symbol s => match s with
    | .bang | .minus | .plus | .leftParen | .leftBracket => true
    | _ => false
  | _ => false

/-- The lexemes that a statement can start with. -/
def TokenKind.opensStatement (k : TokenKind) : Bool :=
  k == .keyword .letWord || k == .keyword .returnWord || k.opensOperand

/-- How the words of a phrase start. -/
def Phrase.Opens (w : List Lexeme) : Phrase → Prop
  | .expr _ _ => ∃ x v, w = x :: v ∧ x.kind.opensOperand = true
  | .statement _ => ∃ x v, w = x :: v ∧ x.kind.opensStatement = true
  | .statements _ => ∀ x ∈ w.head?, x.kind.opensStatement = true
  | _ => True

theorem opensStatement_of_opensOperand {k : TokenKind} (h : k.opensOperand = true) :
    k.opensStatement = true := by
  unfold TokenKind.opensStatement
  rw [h, Bool.or_true]

theorem opensOperand_symbol (op : UnaryOp) : (TokenKind.symbol op.symbol).opensOperand = true := by
  cases op <;> rfl

theorem Derives.opens {φ : Phrase} {w : List Lexeme} (h : Derives φ w) : φ.Opens w := by
  induction h with
  | tighten _ ih => exact ih
  | assign _ _ _ ih => obtain ⟨x, v, rfl, hx⟩ := ih; exact ⟨x, _, rfl, hx⟩
  | binary _ _ _ ih => obtain ⟨x, v, rfl, hx⟩ := ih; exact ⟨x, _, rfl, hx⟩
  | unary hs => exact ⟨_, _, rfl, by rw [hs, opensOperand_symbol]⟩
  | call _ _ _ _ ih => obtain ⟨x, v, rfl, hx⟩ := ih; exact ⟨x, _, rfl, hx⟩
  | index _ _ _ _ ih => obtain ⟨x, v, rfl, hx⟩ := ih; exact ⟨x, _, rfl, hx⟩
  | ident h | int h | str h | trueWord h | falseWord h | nilWord h | group h | ifThen h | ifElse h
  | function h | array h => exact ⟨_, _, rfl, by rw [h]; rfl⟩
  | noItems | items | lastItem | moreItems | block => trivial
  | bind h | ret h => exact ⟨_, _, rfl, by rw [h]; rfl⟩
  | expr _ ih =>
    obtain ⟨x, v, rfl, hx⟩ := ih
    exact ⟨x, v, rfl, opensStatement_of_opensOperand hx⟩
  | noStatements => intro x hx; cases hx
  | ended _ _ _ ih | bare _ _ _ ih =>
    obtain ⟨x, v, rfl, hx⟩ := ih
    intro y hy
    obtain rfl : x = y := by simpa using hy
    exact hx

/-- The kinds of lexemes that phrases consist of. -/
def TokenKind.inPhrases : TokenKind → Bool
  | .comment | .eof | .illegal => false
  | _ => true

theorem MoreNames.inPhrases {xs : List String} {w : List Lexeme} (h : MoreNames xs w) :
    ∀ x ∈ w, x.kind.inPhrases = true := by
  induction h with
  | nil => simp
  | cons hc hx _ ih => simpa [hc, hx, TokenKind.inPhrases] using ih

theorem Names.inPhrases {xs : List String} {w : List Lexeme} (h : Names xs w) :
    ∀ x ∈ w, x.kind.inPhrases = true := by
  cases h with
  | nil => simp
  | cons hx h => simpa [hx, TokenKind.inPhrases] using h.inPhrases

theorem Derives.inPhrases {φ : Phrase} {w : List Lexeme} (h : Derives φ w) :
    ∀ x ∈ w, x.kind.inPhrases = true := by
  induction h with
  | function hw hl hn hr _ ih =>
    have := hn.inPhrases
    simp_all [or_imp, TokenKind.inPhrases]
  | _ => simp_all [or_imp, TokenKind.inPhrases]

theorem MoreNames.not_int {xs : List String} {w : List Lexeme} (h : MoreNames xs w) :
    ∀ x ∈ w, x.kind ≠ .int := by
  induction h with
  | nil => simp
  | cons hc hx _ ih => simpa [hc, hx] using ih

theorem Names.not_int {xs : List String} {w : List Lexeme} (h : Names xs w) :
    ∀ x ∈ w, x.kind ≠ .int := by
  cases h with
  | nil => simp
  | cons hx h => simpa [hx] using h.not_int

/-- Every number of a phrase is a 64-bit integer. -/
theorem Derives.numerals {φ : Phrase} {w : List Lexeme} (h : Derives φ w) :
    ∀ x ∈ w, x.kind = .int → ∃ n : Int64, Decimal.Writes x.literal.toList n.toInt := by
  induction h with
  | int _ hn => exact fun x hx _ => ⟨_, List.mem_singleton.mp hx ▸ hn⟩
  | function _ _ hxs _ _ ih =>
    have := hxs.not_int
    simp_all [or_imp]
  | _ => simp_all [or_imp]

theorem Derives.kind_ne_eof {φ : Phrase} {w : List Lexeme} (h : Derives φ w) :
    ∀ x ∈ w, x.kind ≠ .eof := by
  intro x hx heof
  have hkind := h.inPhrases x hx
  rw [heof] at hkind
  cases hkind

end CurryLang
