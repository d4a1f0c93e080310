import CurryLang.Proofs.ReadBack

/-!
# What canonical text determines

Assignments stand in canonical text without parentheses, so what is called or indexed there may be the
value of an assignment as well as the assignment. Nothing else is lost: two expressions without blocks
have the same text exactly if they are the same after every call and every index of an assignment has
been moved to its value (`Expr.hoist`).

1. Canonical text writes a row of lexemes (`Expr.words`), and a text has one row.
2. An expression is taken apart in the way its text is read from left to right: the names that are
   assigned to, what stands behind them, and what is applied to that (`Expr.words_eq`). It has the
   same parts when it is hoisted (`Expr.hoist_eq`).
3. These parts can be told from the row, and where they end, whatever follows that does not go on with
   them (`Expr.wordsInj`), by induction on the length of the row.
-/

namespace CurryLang

open Lexer

/-! ## Moving applications to assigned values -/

/-- Replaces what an expression assigns in the end: the value of an assignment, or of the assignment
that is its value, and so on. -/
def Expr.under (change : Expr → Expr) : Expr → Expr
  | .assign x value => .assign x (value.under change)
  | e => change e

mutual

/-- The expression with what is applied to an assignment applied to its value. -/
def Expr.hoist : Expr → Expr
  | .array es => .array (Expr.hoistEach es)
  | .unary op e => .unary op e.hoist
  | .binary op l r => .binary op l.hoist r.hoist
  | .call f es => f.hoist.under (.call · (Expr.hoistEach es))
  | .index a i => a.hoist.under (.index · i.hoist)
  | .assign x e => .assign x e.hoist
  | e => e

def Expr.hoistEach : List Expr → List Expr
  | [] => []
  | e :: es => e.hoist :: Expr.hoistEach es

end

/-- The expression calls or indexes an assignment. -/
def Expr.appliesAssign : Expr → Bool
  | .call f _ => f.isAssign
  | .index a _ => a.isAssign
  | _ => false

theorem Expr.under_of_not_assign {e : Expr} (h : e.isAssign = false) (change : Expr → Expr) :
    e.under change = change e := by
  cases e with
  | assign => cases h
  | _ => rfl

mutual

/-- Where no assignment is called or indexed, there is nothing to move. -/
theorem Expr.hoist_of_not_appliesAssign : (e : Expr) →
    e.all (fun e => !e.appliesAssign) = true → e.hoist = e
  | .ident _, _ | .int _, _ | .str _, _ | .bool _, _ | .nil, _ => rfl
  | .ifThen .., _ | .ifElse .., _ | .function .., _ => rfl
  | .array es, h => by
    simp only [Expr.all, Bool.and_eq_true] at h
    rw [hoist, Expr.hoistEach_of_not_appliesAssign es h.2]
  | .unary op e, h => by
    simp only [Expr.all, Bool.and_eq_true] at h
    rw [hoist, e.hoist_of_not_appliesAssign h.2]
  | .binary op l r, h => by
    simp only [Expr.all, Bool.and_eq_true] at h
    rw [hoist, l.hoist_of_not_appliesAssign h.2.1, r.hoist_of_not_appliesAssign h.2.2]
  | .call f es, h => by
    simp only [Expr.all, Bool.and_eq_true] at h
    rw [hoist, f.hoist_of_not_appliesAssign h.2.1, Expr.hoistEach_of_not_appliesAssign es h.2.2,
      Expr.under_of_not_assign (by simpa [appliesAssign] using h.1)]
  | .index a i, h => by
    simp only [Expr.all, Bool.and_eq_true] at h
    rw [hoist, a.hoist_of_not_appliesAssign h.2.1, i.hoist_of_not_appliesAssign h.2.2,
      Expr.under_of_not_assign (by simpa [appliesAssign] using h.1)]
  | .assign x e, h => by
    simp only [Expr.all, Bool.and_eq_true] at h
    rw [hoist, e.hoist_of_not_appliesAssign h.2]

theorem Expr.hoistEach_of_not_appliesAssign : (es : List Expr) →
    Expr.allEach (fun e => !e.appliesAssign) es = true → Expr.hoistEach es = es
  | [], _ => rfl
  | e :: es, h => by
    simp only [Expr.allEach, Bool.and_eq_true] at h
    rw [hoistEach, e.hoist_of_not_appliesAssign h.1, Expr.hoistEach_of_not_appliesAssign es h.2]

end

/-! ## Hoisting keeps the text -/

theorem Expr.text_under {change : Expr → Expr} {behind : String}
    (h : ∀ e, (change e).text = e.text ++ behind) (e : Expr) :
    (e.under change).text = e.text ++ behind := by
  fun_induction Expr.under change e with
  | case1 x value ih =>
    rw [Expr.text, Expr.text, ih]
    simp only [String.append_assoc]
  | case2 e => exact h e

mutual

/-- **The canonical text does not show what was moved.** -/
theorem Expr.text_hoist : (e : Expr) → e.hoist.text = e.text
  | .ident _ | .int _ | .str _ | .bool _ | .nil | .ifThen .. | .ifElse .. | .function .. => rfl
  | .array es => by rw [hoist, text, text, Expr.textEach_hoistEach es]
  | .unary op e => by rw [hoist, text, text, e.text_hoist]
  | .binary op l r => by rw [hoist, text, text, l.text_hoist, r.text_hoist]
  | .call f es => by
    have hcall (e : Expr) : (Expr.call e (Expr.hoistEach es)).text =
        e.text ++ ("(" ++ Text.commaSeparated (Expr.textEach es) ++ ")") := by
      rw [text, Expr.textEach_hoistEach es]
      simp only [String.append_assoc]
    rw [hoist, Expr.text_under hcall, f.text_hoist, text]
    simp only [String.append_assoc]
  | .index a i => by
    have hindex (e : Expr) : (Expr.index e i.hoist).text = e.text ++ ("[" ++ i.text ++ "]") := by
      rw [text, i.text_hoist]
      simp only [String.append_assoc]
    rw [hoist, Expr.text_under hindex, a.text_hoist, text]
    simp only [String.append_assoc]
  | .assign x e => by rw [hoist, text, text, e.text_hoist]

theorem Expr.textEach_hoistEach : (es : List Expr) →
    Expr.textEach (Expr.hoistEach es) = Expr.textEach es
  | [] => rfl
  | e :: es => by rw [hoistEach, textEach, textEach, e.text_hoist, Expr.textEach_hoistEach es]

end

/-! ## The row of lexemes -/

mutual

/-- The lexemes of the canonical text of an expression without blocks. -/
def Expr.words : Expr → List Lexeme
  | .ident x => [⟨.ident, x⟩]
  | .int n => [⟨.int, Decimal.ofInt64 n⟩]
  | .str text => [⟨.string, text⟩]
  | .bool b => [.ofKeyword (if b then .trueWord else .falseWord)]
  | .nil => [.ofKeyword .nilWord]
  | .array es => .ofSymbol .leftBracket :: (Expr.wordsItems es ++ [.ofSymbol .rightBracket])
  | .unary op e =>
    .ofSymbol .leftParen :: (.ofSymbol op.symbol :: e.words ++ [.ofSymbol .rightParen])
  | .binary op l r =>
    .ofSymbol .leftParen :: (l.words ++ .ofSymbol op.symbol :: r.words ++ [.ofSymbol .rightParen])
  | .call f es =>
    f.words ++ .ofSymbol .leftParen :: (Expr.wordsItems es ++ [.ofSymbol .rightParen])
  | .index a i => a.words ++ .ofSymbol .leftBracket :: (i.words ++ [.ofSymbol .rightBracket])
  | .assign x e => ⟨.ident, x⟩ :: .ofSymbol .assign :: e.words
  | .ifThen .. | .ifElse .. | .function .. => []

def Expr.wordsItems : List Expr → List Lexeme
  | [] => []
  | e :: es => e.words ++ Expr.wordsMore es

def Expr.wordsMore : List Expr → List Lexeme
  | [] => []
  | e :: es => .ofSymbol .comma :: (e.words ++ Expr.wordsMore es)

end

/-- The lexemes that the text of an expression without blocks can start with. -/
def TokenKind.opensText : TokenKind → Bool
  | .ident | .int | .string => true
  | .keyword .trueWord | .keyword .falseWord | .keyword .nilWord => true
  | .symbol .leftParen | .symbol .leftBracket => true
  | _ => false

theorem opensOperand_of_opensText {k : TokenKind} (h : k.opensText = true) :
    k.opensOperand = true := by
  cases k with
  | keyword word => cases word <;> first | rfl | cases h
  | symbol s => cases s <;> first | rfl | cases h
  | _ => first | rfl | cases h

/-- Neither the expression nor a part of it has a block. -/
def Expr.BlockFree (e : Expr) : Prop := e.all (fun e => !e.hasBlock) = true

def Expr.BlockFreeEach (es : List Expr) : Prop := Expr.allEach (fun e => !e.hasBlock) es = true

section BlockFree

variable {e l r f a i : Expr} {es : List Expr}

@[simp] theorem blockFree_array : (Expr.array es).BlockFree ↔ Expr.BlockFreeEach es := by
  simp [Expr.BlockFree, Expr.BlockFreeEach, Expr.all, Expr.hasBlock]

@[simp] theorem blockFree_unary {op : UnaryOp} : (Expr.unary op e).BlockFree ↔ e.BlockFree := by
  simp [Expr.BlockFree, Expr.all, Expr.hasBlock]

@[simp] theorem blockFree_binary {op : BinaryOp} :
    (Expr.binary op l r).BlockFree ↔ l.BlockFree ∧ r.BlockFree := by
  simp [Expr.BlockFree, Expr.all, Expr.hasBlock]

@[simp] theorem blockFree_call :
    (Expr.call f es).BlockFree ↔ f.BlockFree ∧ Expr.BlockFreeEach es := by
  simp [Expr.BlockFree, Expr.BlockFreeEach, Expr.all, Expr.hasBlock]

@[simp] theorem blockFree_index : (Expr.index a i).BlockFree ↔ a.BlockFree ∧ i.BlockFree := by
  simp [Expr.BlockFree, Expr.all, Expr.hasBlock]

@[simp] theorem blockFree_assign {x : String} : (Expr.assign x e).BlockFree ↔ e.BlockFree := by
  simp [Expr.BlockFree, Expr.all, Expr.hasBlock]

@[simp] theorem blockFreeEach_cons :
    Expr.BlockFreeEach (e :: es) ↔ e.BlockFree ∧ Expr.BlockFreeEach es := by
  simp [Expr.BlockFree, Expr.BlockFreeEach, Expr.allEach]

theorem Expr.BlockFree.not_hasBlock (h : e.BlockFree) : e.hasBlock = false := by
  cases e with
  | ifThen | ifElse | function =>
    simp only [BlockFree, Expr.all, Bool.and_eq_true] at h
    cases h.1
  | _ => rfl

theorem Expr.BlockFree.opens : {e : Expr} → e.BlockFree →
    ∃ x w, e.words = x :: w ∧ x.kind.opensText = true
  | .ident _, _ | .int _, _ | .str _, _ | .nil, _ => ⟨_, _, rfl, rfl⟩
  | .bool b, _ => ⟨_, _, rfl, by cases b <;> rfl⟩
  | .array _, _ | .unary .., _ | .binary .., _ => ⟨_, _, rfl, rfl⟩
  | .assign .., _ => ⟨_, _, rfl, rfl⟩
  | .call f es, h => by
    obtain ⟨x, w, hw, hx⟩ := BlockFree.opens (blockFree_call.mp h).1
    exact ⟨x, _, by rw [words, hw]; rfl, hx⟩
  | .index a i, h => by
    obtain ⟨x, w, hw, hx⟩ := BlockFree.opens (blockFree_index.mp h).1
    exact ⟨x, _, by rw [words, hw]; rfl, hx⟩
  | .ifThen .., h | .ifElse .., h | .function .., h => by cases h.not_hasBlock

end BlockFree

/-- The expression has no block, and its literals can be written. -/
def Expr.isSimple (e : Expr) : Bool := e.isWritten && !e.hasBlock

theorem Expr.BlockFree.of_simple {e : Expr} (h : e.all Expr.isSimple = true) : e.BlockFree := by
  have hboth : e.all (fun e => e.isWritten && !e.hasBlock) = true := h
  rw [Expr.all_and, Bool.and_eq_true] at hboth
  exact hboth.2

mutual

/-- **Canonical text writes the row.** -/
theorem Expr.writes_words : (e : Expr) → e.Names (isName · = true) →
    e.all Expr.isSimple = true → Writes e.words e.text.toList
  | .ident _, hx, _ => .lexeme hx rfl
  | .int _, _, h => writes_int (of_decide_eq_true (Bool.and_eq_true_iff.mp h).1)
  | .str _, _, h => writes_quoted (Bool.and_eq_true_iff.mp h).1
  | .bool b, _, _ => by cases b <;> exact .lexeme rfl rfl
  | .nil, _, _ => .lexeme rfl rfl
  | .array es, hx, h => by
    simp only [Expr.all, Bool.and_eq_true] at h
    exact (Expr.writes_wordsItems es hx h.2).bracketed
  | .unary op e, hx, h => by
    simp only [Expr.all, Bool.and_eq_true] at h
    obtain ⟨x, w, hw, hopens⟩ := (BlockFree.of_simple h.2).opens
    exact (e.writes_words hx h.2).unary op ⟨x, w, hw, opensOperand_of_opensText hopens⟩
  | .binary op l r, hx, h => by
    simp only [Expr.all, Bool.and_eq_true] at h
    exact (l.writes_words hx.1 h.2.1).binary op (r.writes_words hx.2 h.2.2)
  | .call f es, hx, h => by
    simp only [Expr.all, Bool.and_eq_true] at h
    exact (f.writes_words hx.1 h.2.1).call (Expr.writes_wordsItems es hx.2 h.2.2)
  | .index a i, hx, h => by
    simp only [Expr.all, Bool.and_eq_true] at h
    exact (a.writes_words hx.1 h.2.1).index (i.writes_words hx.2 h.2.2)
  | .assign x e, hx, h => by
    simp only [Expr.all, Bool.and_eq_true] at h
    exact (e.writes_words hx.2 h.2).assign hx.1
  | .ifThen .., _, h | .ifElse .., _, h | .function .., _, h => by
    simp only [Expr.all, Bool.and_eq_true] at h
    cases h.1

theorem Expr.writes_wordsItems : (es : List Expr) → Expr.NamesEach (isName · = true) es →
    Expr.allEach Expr.isSimple es = true →
      Writes (Expr.wordsItems es) (Text.commaSeparated (Expr.textEach es)).toList
  | [], _, _ => .nil
  | e :: es, hx, h => by
    simp only [Expr.allEach, Bool.and_eq_true] at h
    exact (e.writes_words hx.1 h.1).commaSeparated (Expr.writes_wordsMore es hx.2 h.2)

theorem Expr.writes_wordsMore : (es : List Expr) → Expr.NamesEach (isName · = true) es →
    Expr.allEach Expr.isSimple es = true →
      Writes (Expr.wordsMore es) ((Expr.textEach es).flatMap fun t => ',' :: ' ' :: t.toList)
  | [], _, _ => .nil
  | e :: es, hx, h => by
    simp only [Expr.allEach, Bool.and_eq_true] at h
    exact (e.writes_words hx.1 h.1).comma (Expr.writes_wordsMore es hx.2 h.2)

end

/-! ## Parts from left to right -/

/-- What can be applied to an expression: arguments or a position. -/
inductive Suffix where
  | arguments (es : List Expr)
  | position (i : Expr)

namespace Suffix

/-- The lexemes of what is applied. -/
def words : Suffix → List Lexeme
  | arguments es => .ofSymbol .leftParen :: (Expr.wordsItems es ++ [.ofSymbol .rightParen])
  | position i => .ofSymbol .leftBracket :: (i.words ++ [.ofSymbol .rightBracket])

/-- Every expression in it is hoisted. -/
def hoist : Suffix → Suffix
  | arguments es => arguments (Expr.hoistEach es)
  | position i => position i.hoist

def BlockFree : Suffix → Prop
  | arguments es => Expr.BlockFreeEach es
  | position i => i.BlockFree

end Suffix

namespace Expr

/-- The expression with something applied to it. -/
def suffixed (e : Expr) : Suffix → Expr
  | .arguments es => .call e es
  | .position i => .index e i

/-- The names that are assigned to in front of everything else. -/
def targets : Expr → List String
  | .assign x e => x :: e.targets
  | .call f _ => f.targets
  | .index a _ => a.targets
  | _ => []

/-- What stands behind these names. -/
def head : Expr → Expr
  | .assign _ e => e.head
  | .call f _ => f.head
  | .index a _ => a.head
  | e => e

/-- What is applied behind that. -/
def suffixes : Expr → List Suffix
  | .assign _ e => e.suffixes
  | .call f es => f.suffixes ++ [.arguments es]
  | .index a i => a.suffixes ++ [.position i]
  | _ => []

/-- An expression that is neither an assignment nor applies anything. -/
def isHead : Expr → Bool
  | .assign .. | .call .. | .index .. => false
  | _ => true

theorem isHead_head (e : Expr) : e.head.isHead = true := by
  fun_induction Expr.head e with
  | case1 _ _ ih => exact ih
  | case2 _ _ ih => exact ih
  | case3 _ _ ih => exact ih
  | case4 e hassign hcall hindex => cases e <;> simp_all [isHead]

/-- The row consists of the rows of the parts. -/
theorem words_eq (e : Expr) :
    e.words = (e.targets.flatMap fun x => [⟨.ident, x⟩, .ofSymbol .assign]) ++
      (e.head.words ++ e.suffixes.flatMap Suffix.words) := by
  fun_induction Expr.head e with
  | case1 x e ih => rw [words, ih, targets, suffixes]; rfl
  | case2 f es ih =>
    rw [words, ih, targets, suffixes, List.flatMap_append]
    simp [Suffix.words]
  | case3 a i ih =>
    rw [words, ih, targets, suffixes, List.flatMap_append]
    simp [Suffix.words]
  | case4 e hassign hcall hindex => cases e <;> simp_all [targets, suffixes]

theorem isAssign_foldl (s : List Suffix) {e : Expr} (h : e.isAssign = false) :
    (s.foldl suffixed e).isAssign = false := by
  induction s generalizing e with
  | nil => exact h
  | cons x s ih => exact ih (by cases x <;> rfl)

theorem under_foldr (change : Expr → Expr) (xs : List String) {e : Expr} (h : e.isAssign = false) :
    (xs.foldr assign e).under change = xs.foldr assign (change e) := by
  induction xs with
  | nil => exact under_of_not_assign h change
  | cons x xs ih => exact congrArg (assign x) ih

theorem isAssign_hoist_of_isHead {e : Expr} (h : e.isHead = true) : e.hoist.isAssign = false := by
  cases e with
  | assign | call | index => cases h
  | _ => rfl

theorem hoist_eq (e : Expr) : e.hoist =
    e.targets.foldr assign ((e.suffixes.map Suffix.hoist).foldl suffixed e.head.hoist) := by
  have happlied (f : Expr) (x : Suffix) :
      (f.targets.foldr assign ((f.suffixes.map Suffix.hoist).foldl suffixed f.head.hoist)).under
        (suffixed · x) =
      f.targets.foldr assign ((f.suffixes.map Suffix.hoist ++ [x]).foldl suffixed f.head.hoist) := by
    rw [under_foldr _ _ (isAssign_foldl _ (isAssign_hoist_of_isHead f.isHead_head)),
      List.foldl_append]
    rfl
  fun_induction Expr.head e with
  | case1 x e ih => rw [hoist, ih]; rfl
  | case2 f es ih =>
    rw [hoist, ih, targets, suffixes, List.map_append]
    exact happlied f (.arguments (hoistEach es))
  | case3 a i ih =>
    rw [hoist, ih, targets, suffixes, List.map_append]
    exact happlied a (.position i.hoist)
  | case4 e hassign hcall hindex => cases e <;> simp_all [targets, suffixes]

theorem BlockFree.head {e : Expr} (h : e.BlockFree) : e.head.BlockFree := by
  fun_induction Expr.head e with
  | case1 x e ih => exact ih (blockFree_assign.mp h)
  | case2 f es ih => exact ih (blockFree_call.mp h).1
  | case3 a i ih => exact ih (blockFree_index.mp h).1
  | case4 e => exact h

theorem BlockFree.suffixes {e : Expr} (h : e.BlockFree) : ∀ x ∈ e.suffixes, x.BlockFree := by
  fun_induction Expr.suffixes e with
  | case1 x e ih => exact ih (blockFree_assign.mp h)
  | case2 f es ih =>
    obtain ⟨hf, hes⟩ := blockFree_call.mp h
    exact List.forall_mem_append.mpr ⟨ih hf, List.forall_mem_singleton.mpr hes⟩
  | case3 a i ih =>
    obtain ⟨ha, hi⟩ := blockFree_index.mp h
    exact List.forall_mem_append.mpr ⟨ih ha, List.forall_mem_singleton.mpr hi⟩
  | case4 e => exact fun _ hx => absurd hx List.not_mem_nil

end Expr

/-! ## Where a part ends -/

theorem Decimal.ofInt64_injective {n m : Int64} (h : Decimal.ofInt64 n = Decimal.ofInt64 m) :
    n = m := by
  have hread := Decimal.toInt64?_ofInt64 n
  rw [h, Decimal.toInt64?_ofInt64] at hread
  exact (Option.some.inj hread).symm

/-- The lexeme goes on with an expression in front of it, outside of parentheses. -/
def Lexeme.goesOn (x : Lexeme) : Bool :=
  x.kind == .symbol .assign || x.kind == .symbol .leftParen || x.kind == .symbol .leftBracket

/-- The row does not go on with an expression in front of it. -/
def Stops (w : List Lexeme) : Prop := ∀ x ∈ w.head?, x.goesOn = false

theorem stops_cons {x : Lexeme} (h : x.goesOn = false) (w : List Lexeme) : Stops (x :: w) := by
  intro y hy
  obtain rfl : x = y := by simpa using hy
  exact h

/-- The kind of the first lexeme of an expression that is neither an assignment nor applies anything. -/
def Expr.opening : Expr → TokenKind
  | .ident _ => .ident
  | .int _ => .int
  | .str _ => .string
  | .bool b => .keyword (if b then .trueWord else .falseWord)
  | .nil => .keyword .nilWord
  | .array _ => .symbol .leftBracket
  | .unary .. | .binary .. => .symbol .leftParen
  | _ => .eof

theorem Expr.BlockFree.words_opening {e : Expr} (h : e.BlockFree) (he : e.isHead = true) :
    ∃ literal w, e.words = ⟨e.opening, literal⟩ :: w := by
  cases e with
  | assign | call | index => cases he
  | ifThen | ifElse | function => cases h.not_hasBlock
  | _ => exact ⟨_, _, rfl⟩

theorem Expr.BlockFree.head_ne_target {e : Expr} (h : e.BlockFree) (he : e.isHead = true)
    {u : List Lexeme} (hu : ∀ x ∈ u.head?, x.kind ≠ .symbol .assign) (x : String)
    (v : List Lexeme) : e.words ++ u ≠ ⟨.ident, x⟩ :: .ofSymbol .assign :: v := by
  intro heq
  have hopening : e.opening = .ident := by
    obtain ⟨a, w, hw⟩ := h.words_opening he
    rw [hw] at heq
    exact (Lexeme.mk.inj (List.cons.inj heq).1).1
  cases e with
  | ident y =>
    obtain rfl : u = .ofSymbol .assign :: v := (List.cons.inj heq).2
    exact hu _ rfl rfl
  | _ => cases hopening

theorem stops_more {close : Symbol} (hclose : close = .rightParen ∨ close = .rightBracket)
    (es : List Expr) (w : List Lexeme) : Stops (Expr.wordsMore es ++ .ofSymbol close :: w) := by
  cases es with
  | nil => exact stops_cons (by rcases hclose with rfl | rfl <;> rfl) _
  | cons => exact stops_cons rfl _

theorem Expr.BlockFree.cons_ne {e : Expr} (h : e.BlockFree) {x : Lexeme}
    (hx : x.kind.opensText = false) (u v : List Lexeme) : x :: u ≠ e.words ++ v := by
  obtain ⟨y, w, hw, hy⟩ := h.opens
  intro heq
  rw [hw] at heq
  rw [(List.cons.inj heq).1, hy] at hx
  cases hx

/-- Behind a parenthesis stands an operator or its left operand. -/
theorem unary_ne_binary {op : UnaryOp} {op' : BinaryOp} {e l r : Expr} {u v : List Lexeme}
    (hl : l.BlockFree) : (Expr.unary op e).words ++ u ≠ (Expr.binary op' l r).words ++ v := by
  intro h
  simp only [Expr.words, List.cons_append, List.append_assoc, List.cons.injEq, true_and] at h
  exact hl.cons_ne (by cases op <;> rfl) _ _ h

/-- In a row of less than `n` lexemes it can be told which hoisted expression stands at its start and
where it ends. -/
def WordsInj (n : Nat) : Prop :=
  ∀ (e d : Expr) (u v : List Lexeme), (e.words ++ u).length < n → e.BlockFree → d.BlockFree →
    Stops u → Stops v → e.words ++ u = d.words ++ v → e.hoist = d.hoist ∧ u = v

namespace WordsInj

variable {n : Nat} (ih : WordsInj n) {u v : List Lexeme}
include ih

section Lists

variable {close : Symbol} (hclose : close = .rightParen ∨ close = .rightBracket)
include hclose

theorem more (es ds : List Expr) (hn : (Expr.wordsMore es ++ .ofSymbol close :: u).length ≤ n)
    (hes : Expr.BlockFreeEach es) (hds : Expr.BlockFreeEach ds)
    (h : Expr.wordsMore es ++ .ofSymbol close :: u = Expr.wordsMore ds ++ .ofSymbol close :: v) :
    Expr.hoistEach es = Expr.hoistEach ds ∧ u = v := by
  induction es generalizing ds with
  | nil =>
    cases ds with
    | nil => exact ⟨rfl, (List.cons.inj h).2⟩
    | cons => rcases hclose with rfl | rfl <;> cases (List.cons.inj h).1
  | cons e es ihes =>
    cases ds with
    | nil => rcases hclose with rfl | rfl <;> cases (List.cons.inj h).1
    | cons d ds =>
      rw [blockFreeEach_cons] at hes hds
      simp only [Expr.wordsMore, List.cons_append, List.append_assoc, List.length_cons,
        List.cons.injEq, true_and] at hn h
      obtain ⟨hfirst, hrest⟩ := ih e d _ _ (by omega) hes.1 hds.1 (stops_more hclose es u) (stops_more hclose ds v) h
      have hlength : (Expr.wordsMore es ++ .ofSymbol close :: u).length ≤ n := by
        rw [List.length_append] at hn
        omega
      obtain ⟨hmore, hend⟩ := ihes ds hlength hes.2 hds.2 hrest
      exact ⟨by rw [Expr.hoistEach, Expr.hoistEach, hfirst, hmore], hend⟩

theorem items (es ds : List Expr) (hn : (Expr.wordsItems es ++ .ofSymbol close :: u).length < n)
    (hes : Expr.BlockFreeEach es) (hds : Expr.BlockFreeEach ds)
    (h : Expr.wordsItems es ++ .ofSymbol close :: u = Expr.wordsItems ds ++ .ofSymbol close :: v) :
    Expr.hoistEach es = Expr.hoistEach ds ∧ u = v := by
  have hcloses : (Lexeme.ofSymbol close).kind.opensText = false := by
    rcases hclose with rfl | rfl <;> rfl
  cases es with
  | nil =>
    cases ds with
    | nil => exact ⟨rfl, (List.cons.inj h).2⟩
    | cons d ds =>
      rw [blockFreeEach_cons] at hds
      rw [Expr.wordsItems, Expr.wordsItems, List.append_assoc] at h
      exact absurd h (Expr.BlockFree.cons_ne hds.1 hcloses _ _)
  | cons e es =>
    rw [blockFreeEach_cons] at hes
    rw [Expr.wordsItems, List.append_assoc] at h hn
    cases ds with
    | nil => exact absurd h.symm (Expr.BlockFree.cons_ne hes.1 hcloses _ _)
    | cons d ds =>
      rw [blockFreeEach_cons] at hds
      rw [Expr.wordsItems, List.append_assoc] at h
      obtain ⟨hfirst, hrest⟩ := ih e d _ _ hn hes.1 hds.1 (stops_more hclose es u)
        (stops_more hclose ds v) h
      have hlength : (Expr.wordsMore es ++ .ofSymbol close :: u).length ≤ n := by
        rw [List.length_append] at hn
        omega
      obtain ⟨hmore, hend⟩ := ih.more hclose es ds hlength hes.2 hds.2 hrest
      exact ⟨by rw [Expr.hoistEach, Expr.hoistEach, hfirst, hmore], hend⟩

end Lists

theorem arrays {es ds : List Expr} (hn : ((Expr.array es).words ++ u).length ≤ n)
    (hes : Expr.BlockFreeEach es) (hds : Expr.BlockFreeEach ds)
    (h : (Expr.array es).words ++ u = (Expr.array ds).words ++ v) :
    (Expr.array es).hoist = (Expr.array ds).hoist ∧ u = v := by
  simp only [Expr.words, List.cons_append, List.append_assoc, List.nil_append,
    List.cons.injEq, true_and, List.length_cons] at hn h
  obtain ⟨hitems, hrest⟩ := ih.items (.inr rfl) es ds (by omega) hes hds h
  exact ⟨congrArg Expr.array hitems, hrest⟩

theorem unaries {op op' : UnaryOp} {e d : Expr} (hn : ((Expr.unary op e).words ++ u).length ≤ n)
    (he : e.BlockFree) (hd : d.BlockFree)
    (h : (Expr.unary op e).words ++ u = (Expr.unary op' d).words ++ v) :
    (Expr.unary op e).hoist = (Expr.unary op' d).hoist ∧ u = v := by
  simp only [Expr.words, List.cons_append, List.append_assoc, List.nil_append,
    List.cons.injEq, true_and, List.length_cons] at hn h
  obtain ⟨hsign, hrest⟩ := h
  have hop : op = op' := by cases op <;> cases op' <;> first | rfl | cases hsign
  obtain ⟨hoperand, hend⟩ :=
    ih e d _ _ (by omega) he hd (stops_cons rfl _) (stops_cons rfl _) hrest
  exact ⟨by rw [Expr.hoist, Expr.hoist, hop, hoperand], (List.cons.inj hend).2⟩

theorem binaries {op op' : BinaryOp} {l r l' r' : Expr}
    (hn : ((Expr.binary op l r).words ++ u).length ≤ n) (hl : l.BlockFree) (hr : r.BlockFree)
    (hl' : l'.BlockFree) (hr' : r'.BlockFree)
    (h : (Expr.binary op l r).words ++ u = (Expr.binary op' l' r').words ++ v) :
    (Expr.binary op l r).hoist = (Expr.binary op' l' r').hoist ∧ u = v := by
  have hstops (op : BinaryOp) (w : List Lexeme) : Stops (.ofSymbol op.symbol :: w) :=
    stops_cons (by cases op <;> rfl) w
  simp only [Expr.words, List.cons_append, List.append_assoc, List.nil_append,
    List.cons.injEq, true_and, List.length_cons] at hn h
  obtain ⟨hleft, hrest⟩ := ih l l' _ _ (by omega) hl hl' (hstops op _) (hstops op' _) h
  obtain ⟨hsign, hrest⟩ := List.cons.inj hrest
  have hop : op = op' := by cases op <;> cases op' <;> first | rfl | cases hsign
  rw [List.length_append, List.length_cons] at hn
  obtain ⟨hright, hend⟩ :=
    ih r r' _ _ (by omega) hr hr' (stops_cons rfl _) (stops_cons rfl _) hrest
  exact ⟨by rw [Expr.hoist, Expr.hoist, hop, hleft, hright], (List.cons.inj hend).2⟩

/-- Expressions that are neither assignments nor apply anything end where they end, whatever follows. -/
theorem heads {p q : Expr} (hp : p.isHead = true) (hq : q.isHead = true)
    (hn : (p.words ++ u).length ≤ n) (hpfree : p.BlockFree) (hqfree : q.BlockFree)
    (h : p.words ++ u = q.words ++ v) : p.hoist = q.hoist ∧ u = v := by
  have hopening : p.opening = q.opening := by
    obtain ⟨a, w, hw⟩ := hpfree.words_opening hp
    obtain ⟨b, w', hw'⟩ := hqfree.words_opening hq
    rw [hw, hw'] at h
    exact (Lexeme.mk.inj (List.cons.inj h).1).1
  -- The first lexeme tells which kind the two are of, but for the two kinds of operators.
  cases p with
  | assign | call | index => cases hp
  | ifThen | ifElse | function => cases hpfree.not_hasBlock
  | ident x =>
    cases q with
    | ident y =>
      obtain ⟨hx, hrest⟩ := List.cons.inj h
      exact ⟨congrArg Expr.ident (Lexeme.mk.inj hx).2, hrest⟩
    | _ => cases hopening
  | int k =>
    cases q with
    | int m =>
      obtain ⟨hx, hrest⟩ := List.cons.inj h
      exact ⟨congrArg Expr.int (Decimal.ofInt64_injective (Lexeme.mk.inj hx).2), hrest⟩
    | _ => cases hopening
  | str text =>
    cases q with
    | str text' =>
      obtain ⟨hx, hrest⟩ := List.cons.inj h
      exact ⟨congrArg Expr.str (Lexeme.mk.inj hx).2, hrest⟩
    | _ => cases hopening
  | bool b =>
    cases q with
    | bool b' =>
      refine ⟨congrArg Expr.bool ?_, (List.cons.inj h).2⟩
      cases b <;> cases b' <;> first | rfl | cases hopening
    | nil => cases b <;> cases hopening
    | _ => cases hopening
  | nil =>
    cases q with
    | nil => exact ⟨rfl, (List.cons.inj h).2⟩
    | bool b => cases b <;> cases hopening
    | _ => cases hopening
  | array es =>
    cases q with
    | array ds => exact ih.arrays hn (blockFree_array.mp hpfree) (blockFree_array.mp hqfree) h
    | _ => cases hopening
  | unary op e =>
    cases q with
    | unary op' d => exact ih.unaries hn (blockFree_unary.mp hpfree) (blockFree_unary.mp hqfree) h
    | binary op' l r => exact absurd h (unary_ne_binary (blockFree_binary.mp hqfree).1)
    | _ => cases hopening
  | binary op l r =>
    obtain ⟨hl, hr⟩ := blockFree_binary.mp hpfree
    cases q with
    | unary op' d => exact absurd h.symm (unary_ne_binary hl)
    | binary op' l' r' =>
      obtain ⟨hl', hr'⟩ := blockFree_binary.mp hqfree
      exact ih.binaries hn hl hr hl' hr' h
    | _ => cases hopening

theorem suffixes (s t : List Suffix) (hn : (s.flatMap Suffix.words ++ u).length ≤ n)
    (hs : ∀ x ∈ s, x.BlockFree) (ht : ∀ x ∈ t, x.BlockFree) (hu : Stops u) (hv : Stops v)
    (h : s.flatMap Suffix.words ++ u = t.flatMap Suffix.words ++ v) :
    s.map Suffix.hoist = t.map Suffix.hoist ∧ u = v := by
  induction s generalizing t with
  | nil =>
    cases t with
    | nil => exact ⟨rfl, h⟩
    | cons x t => cases x <;> cases hu _ (by rw [List.flatMap_nil, List.nil_append] at h; rw [h]; rfl)
  | cons x s ihs =>
    cases t with
    | nil => cases x <;> cases hv _ (by rw [List.flatMap_nil, List.nil_append] at h; rw [← h]; rfl)
    | cons y t =>
      rw [List.forall_mem_cons] at hs ht
      have hfirst : x.hoist = y.hoist ∧
          s.flatMap Suffix.words ++ u = t.flatMap Suffix.words ++ v := by
        simp only [List.flatMap_cons, List.append_assoc] at hn h
        cases x with
        | arguments es =>
          cases y with
          | arguments ds =>
            simp only [Suffix.words, List.cons_append, List.append_assoc, List.nil_append,
              List.cons.injEq, true_and, List.length_cons] at hn h
            obtain ⟨hitems, hrest⟩ := ih.items (.inl rfl) es ds (by omega) hs.1 ht.1 h
            exact ⟨congrArg Suffix.arguments hitems, hrest⟩
          | position => cases (List.cons.inj h).1
        | position i =>
          cases y with
          | arguments => cases (List.cons.inj h).1
          | position j =>
            simp only [Suffix.words, List.cons_append, List.append_assoc, List.nil_append,
              List.cons.injEq, true_and, List.length_cons] at hn h
            obtain ⟨hposition, hrest⟩ :=
              ih i j _ _ (by omega) hs.1 ht.1 (stops_cons rfl _) (stops_cons rfl _) h
            exact ⟨congrArg Suffix.position hposition, (List.cons.inj hrest).2⟩
      have hlength : (s.flatMap Suffix.words ++ u).length ≤ n := by
        rw [List.flatMap_cons, List.append_assoc, List.length_append] at hn
        omega
      obtain ⟨hmap, hend⟩ := ihs t hlength hs.2 ht.2 hfirst.2
      exact ⟨by rw [List.map_cons, List.map_cons, hfirst.1, hmap], hend⟩

end WordsInj

/-- The names that are assigned to can be told from what stands behind them. -/
theorem targets_inj {xs ys : List String} {p q : Expr} {u v : List Lexeme} (hp : p.isHead = true)
    (hq : q.isHead = true) (hpfree : p.BlockFree) (hqfree : q.BlockFree)
    (hu : ∀ x ∈ u.head?, x.kind ≠ .symbol .assign) (hv : ∀ x ∈ v.head?, x.kind ≠ .symbol .assign)
    (h : (xs.flatMap fun x => [⟨.ident, x⟩, .ofSymbol .assign]) ++ (p.words ++ u) =
      (ys.flatMap fun x => [⟨.ident, x⟩, .ofSymbol .assign]) ++ (q.words ++ v)) :
    xs = ys ∧ p.words ++ u = q.words ++ v := by
  induction xs generalizing ys with
  | nil =>
    cases ys with
    | nil => exact ⟨rfl, h⟩
    | cons y ys => exact absurd h (hpfree.head_ne_target hp hu y _)
  | cons x xs ih =>
    cases ys with
    | nil => exact absurd h.symm (hqfree.head_ne_target hq hv x _)
    | cons y ys =>
      simp only [List.flatMap_cons, List.cons_append, List.nil_append, List.cons.injEq,
        Lexeme.mk.injEq, true_and] at h
      obtain ⟨rfl, hrest⟩ := ih h.2
      exact ⟨by rw [h.1], hrest⟩

theorem head?_suffixes_ne_assign (s : List Suffix) {u : List Lexeme} (hu : Stops u) :
    ∀ x ∈ (s.flatMap Suffix.words ++ u).head?, x.kind ≠ .symbol .assign := by
  cases s with
  | nil =>
    intro x hx hkind
    have hgoes := hu x hx
    rw [Lexeme.goesOn, hkind] at hgoes
    cases hgoes
  | cons y s =>
    intro x hx
    cases y with
    | arguments | position =>
      obtain rfl := Option.some.inj hx
      exact nofun

/-- **The row of a hoisted expression determines it and where it ends.** -/
theorem wordsInj (n : Nat) : WordsInj n := by
  induction n with
  | zero => exact fun _ _ _ _ hn => absurd hn (Nat.not_lt_zero _)
  | succ n ih =>
    intro e d u v hn he hd hu hv h
    rw [e.words_eq, List.append_assoc, List.append_assoc] at h hn
    rw [d.words_eq, List.append_assoc, List.append_assoc] at h
    simp only [List.length_append] at hn
    obtain ⟨htargets, hrest⟩ := targets_inj e.isHead_head d.isHead_head he.head hd.head
      (head?_suffixes_ne_assign _ hu) (head?_suffixes_ne_assign _ hv) h
    obtain ⟨hhead, hrest⟩ := ih.heads e.isHead_head d.isHead_head
      (by simp only [List.length_append]; omega) he.head hd.head hrest
    obtain ⟨hsuffixes, hend⟩ := ih.suffixes e.suffixes d.suffixes
      (by simp only [List.length_append]; omega) he.suffixes hd.suffixes hu hv hrest
    exact ⟨by rw [e.hoist_eq, d.hoist_eq, htargets, hhead, hsuffixes], hend⟩

/-! ## Texts -/

theorem Expr.lexemes_text {e : Expr} (hnames : e.Names (isName · = true))
    (hsimple : e.all Expr.isSimple = true) : lexemes e.text.toList = e.words := by
  have hspells := e.writes_words hnames hsimple [] [] .nil rfl
  rw [List.append_nil, List.append_nil] at hspells
  exact hspells.lexemes_eq

/-- **Texts are the same exactly if the hoisted expressions are.** -/
theorem Expr.text_eq_iff {e d : Expr} (he : e.Names (isName · = true))
    (hd : d.Names (isName · = true)) (he' : e.all Expr.isSimple = true)
    (hd' : d.all Expr.isSimple = true) : e.text = d.text ↔ e.hoist = d.hoist := by
  constructor
  · intro htext
    have hwords : e.words ++ [] = d.words ++ [] := by
      rw [← e.lexemes_text he he', ← d.lexemes_text hd hd', htext]
    exact (wordsInj _ e d [] [] (Nat.lt_succ_self _) (.of_simple he') (.of_simple hd') nofun nofun
      hwords).1
  · intro hhoist
    rw [← e.text_hoist, hhoist, d.text_hoist]

/-! ## Main result -/

/-- A source that is read to one expression without blocks has names and literals that can be written. -/
theorem spellable_of_ofSource {source file : String} {e : Expr}
    (h : Program.ofSource source file = ([.expr e], []))
    (hblocks : e.all (fun e => !e.hasBlock) = true) :
    e.Names (isName · = true) ∧ e.all Expr.isSimple = true := by
  have hderives : Derives (.statements [.expr e]) (TokenStream.ofSource source file).sentence :=
    ofTokens_eq_iff.mp h
  obtain ⟨hnames, hwritten⟩ := hderives.spellable fun x hx =>
    wellFormed_of_mem_sentence hx (hderives.inPhrases x hx)
  refine ⟨hnames.1, ?_⟩
  show e.all (fun e => e.isWritten && !e.hasBlock) = true
  simp only [Statement.allEach, Statement.all, Bool.and_true] at hwritten
  rw [Expr.all_and, hwritten, hblocks]
  rfl

theorem Program.text_singleton (e : Expr) : Program.text [.expr e] = e.text := by
  rw [Program.text, Statement.textAll, Statement.textAll, Statement.text, String.append_empty]

/-- **The canonical text determines the tree up to what is applied to assignments.** Two sources are
read without errors to one expression each, and neither has a block. The texts are the same if and only
if the expressions are the same once every call and every index of an assignment is moved to its value.
So where no assignment is called or indexed, programs with the same text are equal. -/
theorem same_text_iff_same_hoist (source source' file file' : String) (e d : Expr)
    (he : Program.ofSource source file = ([.expr e], []))
    (hd : Program.ofSource source' file' = ([.expr d], []))
    (heblocks : e.all (fun e => !e.hasBlock) = true)
    (hdblocks : d.all (fun e => !e.hasBlock) = true) :
    (Program.text [.expr e] = Program.text [.expr d] ↔ e.hoist = d.hoist) ∧
      (e.all (fun e => !e.appliesAssign) = true → d.all (fun e => !e.appliesAssign) = true →
        Program.text [.expr e] = Program.text [.expr d] → e = d) := by
  obtain ⟨henames, hesimple⟩ := spellable_of_ofSource he heblocks
  obtain ⟨hdnames, hdsimple⟩ := spellable_of_ofSource hd hdblocks
  have htext := Expr.text_eq_iff henames hdnames hesimple hdsimple
  rw [Program.text_singleton, Program.text_singleton]
  refine ⟨htext, fun hesettled hdsettled heq => ?_⟩
  have hhoist := htext.mp heq
  rwa [e.hoist_of_not_appliesAssign hesettled, d.hoist_of_not_appliesAssign hdsettled] at hhoist

/-- A call of an assignment and an assignment of a call. -/
theorem called_assignment_hoists :
    let e : Expr := .call (.assign "x" (.ident "f")) [.unary .negate (.int 1)]
    let d : Expr := .assign "x" (.call (.ident "f") [.unary .negate (.int 1)])
    Program.ofSource "(x = f)(-1)" "first" = ([.expr e], []) ∧
      Program.ofSource "x = f(-1)" "second" = ([.expr d], []) ∧
      e.all (fun e => !e.hasBlock) = true ∧ d.all (fun e => !e.hasBlock) = true ∧
      Program.text [.expr e] = Program.text [.expr d] := by
  intro e d
  have he : Program.ofSource "(x = f)(-1)" "first" = ([.expr e], []) := rfl
  have hd : Program.ofSource "x = f(-1)" "second" = ([.expr d], []) := rfl
  have hsame := same_text_iff_same_hoist _ _ _ _ e d he hd (by decide) (by decide)
  exact ⟨he, hd, by decide, by decide, hsame.1.mpr rfl⟩

/-- An index of an assignment and an assignment of an index: two programs with one text. -/
theorem indexed_assignment_prints_alike :
    let e : Expr := .index (.assign "a" (.int 1)) (.int 0)
    let d : Expr := .assign "a" (.index (.int 1) (.int 0))
    Program.ofSource "(a = 1)[0]" "test.ln" = ([.expr e], []) ∧
      Program.ofSource "a = 1[0]" "test.ln" = ([.expr d], []) ∧
      e.all (fun e => !e.hasBlock) = true ∧ d.all (fun e => !e.hasBlock) = true ∧
      Program.text [.expr e] = "a = 1[0]" ∧ Program.text [.expr d] = "a = 1[0]" ∧
      ([.expr e] : Program) ≠ [.expr d] := by
  refine ⟨rfl, rfl, rfl, rfl, by decide +kernel, by decide +kernel, ?_⟩
  simp

end CurryLang
