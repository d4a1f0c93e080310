import CurryLang.Program.Text
import CurryLang.Proofs.ParserExact
import CurryLang.Proofs.Spelling
import CurryLang.Proofs.Subterms

/-!
# Canonical text reads back

The canonical text of a program without blocks inside its expressions is a source of the same
program, as long as its assignments stand where they need no parentheses and only its last statement
is an expression.

1. `Writes w cs`: the text `cs` spells the lexemes `w` in front of every text that keeps apart from
   them. Pieces of canonical text keep apart, so none of them fuse.
2. The names and literals of a program that was read can be written (`Derives.spellable`).
3. Canonical text writes lexemes that form the expression it belongs to, by induction on the
   expression. Operators stand in parentheses, so all but assignments form an expression of the
   tier of calls.
4. Statements follow each other, and the grammar determines the program.
-/

namespace CurryLang

open Lexer

/-! ## Pieces of text -/

/-- A character that no word, number or operator in front of it takes in. -/
def keepsApart (next : Option Char) : Bool := !next.any fun c => isWordPart c || c == '='

theorem endsBefore_of_keepsApart {x : Lexeme} (hx : x.kind.inPhrases = true) {next : Option Char}
    (h : keepsApart next = true) : x.endsBefore next = true := by
  have hword : next.any isWordPart = false ∧ next.any Char.isDigit = false ∧ next ≠ some '=' := by
    cases next with
    | none => simp
    | some c => simp_all [keepsApart, isWordPart]
  obtain ⟨hword, hdigit, hequal⟩ := hword
  obtain ⟨kind, literal⟩ := x
  cases kind with
  | ident | keyword => simp [Lexeme.endsBefore, hword]
  | int => simp [Lexeme.endsBefore, hdigit]
  | symbol s => cases s <;> simp [Lexeme.endsBefore, hequal]
  | string => rfl
  | comment | eof | illegal => cases hx

/-- The text spells the lexemes, whatever keeps apart behind it. -/
def Writes (w : List Lexeme) (cs : List Char) : Prop :=
  ∀ v rest, Spells v rest → keepsApart rest.head? = true → Spells (w ++ v) (cs ++ rest)

namespace Writes

theorem nil : Writes [] [] := fun _ _ h _ => h

theorem lexeme {x : Lexeme} (hx : x.wellFormed = true) (hkind : x.kind.inPhrases = true) :
    Writes [x] x.spelling :=
  fun _ _ h hrest => .cons hx (endsBefore_of_keepsApart hkind hrest) h

end Writes

/-- What opens an operand does not start with an equals sign. -/
theorem Lexeme.spelling_of_opensOperand {x : Lexeme} (hx : x.wellFormed = true)
    (h : x.kind.opensOperand = true) : ∃ c cs, x.spelling = c :: cs ∧ c ≠ '=' := by
  obtain ⟨kind, literal⟩ := x
  cases kind with
  | ident =>
    have hword : isWord literal.toList = true := (Bool.and_eq_true_iff.mp hx).1
    cases hl : literal.toList with
    | nil => rw [hl] at hword; cases hword
    | cons c cs =>
      rw [hl, isWord, Bool.and_eq_true] at hword
      refine ⟨c, cs, hl, ?_⟩
      rintro rfl
      cases hword.1
  | int =>
    obtain ⟨hne, hdigits⟩ := Bool.and_eq_true_iff.mp hx
    cases hl : literal.toList with
    | nil => rw [hl] at hne; cases hne
    | cons c cs =>
      rw [hl, List.all_cons, Bool.and_eq_true] at hdigits
      refine ⟨c, cs, hl, ?_⟩
      rintro rfl
      cases hdigits.1
  | string => exact ⟨'"', _, rfl, by decide⟩
  | keyword k =>
    obtain rfl : literal = k.text := by simpa [Lexeme.wellFormed] using hx
    cases k <;> exact ⟨_, _, rfl, by decide⟩
  | symbol s =>
    obtain rfl : literal = s.text := by simpa [Lexeme.wellFormed] using hx
    cases s with
    | bang | minus | plus | leftParen | leftBracket => exact ⟨_, _, rfl, by decide⟩
    | _ => cases h
  | comment | eof | illegal => cases h

theorem Spells.symbol {w : List Lexeme} {cs : List Char} (h : Spells w cs) {s : Symbol}
    (hs : (Lexeme.ofSymbol s).endsBefore cs.head? = true) :
    Spells (.ofSymbol s :: w) (s.text.toList ++ cs) := by
  have hform : (Lexeme.ofSymbol s).wellFormed = true := by simp [Lexeme.wellFormed, Lexeme.ofSymbol]
  exact .cons hform hs h

theorem Spells.head?_ne {w : List Lexeme} {cs : List Char} (h : Spells w cs)
    (hw : ∀ x ∈ w.head?, x.kind.opensOperand = true) : cs.head? ≠ some '=' := by
  cases h with
  | nil => simp
  | space hc =>
    rintro ⟨⟩
    cases hc
  | cons hx _ _ =>
    obtain ⟨c, cs, hcs, hne⟩ := Lexeme.spelling_of_opensOperand hx (hw _ rfl)
    rw [hcs]
    simpa using hne

/-! ## Texts of expressions -/

theorem UnaryOp.text_symbol (op : UnaryOp) : op.text = op.symbol.text := by
  cases op <;> rfl

theorem BinaryOp.text_symbol (op : BinaryOp) : op.text = op.symbol.text := by
  cases op <;> rfl

theorem toList_commaSeparated (text : String) (texts : List String) :
    (Text.commaSeparated (text :: texts)).toList =
      text.toList ++ texts.flatMap fun t => ',' :: ' ' :: t.toList := by
  induction texts generalizing text with
  | nil => simp [Text.commaSeparated]
  | cons t texts ih =>
    have hcomma : ", ".toList = [',', ' '] := rfl
    rw [Text.commaSeparated, String.intercalate_cons_cons, String.toList_append,
      String.toList_append, hcomma, ← Text.commaSeparated, ih]
    simp

theorem writes_numeral (k : Nat) :
    Writes [⟨.int, Decimal.ofNat k⟩] (Decimal.ofNat k).toList := by
  refine .lexeme (x := ⟨.int, Decimal.ofNat k⟩) ?_ rfl
  have hall : (Decimal.digits k).all Char.isDigit = true :=
    List.all_eq_true.mpr fun c hc => Decimal.isDigit_of_mem_digits hc
  simp [Lexeme.wellFormed, Decimal.ofNat, hall, Decimal.digits_ne_nil]

theorem writes_int {n : Int64} (hn : 0 ≤ n.toInt) :
    Writes [⟨.int, Decimal.ofInt64 n⟩] (Decimal.ofInt64 n).toList := by
  obtain ⟨k, hk⟩ := Int.eq_ofNat_of_zero_le hn
  have hnumeral : Decimal.ofInt64 n = Decimal.ofNat k := by
    rw [Decimal.ofInt64, hk]
    rfl
  rw [hnumeral]
  exact writes_numeral k

theorem writes_quoted {text : String} (h : text.toList.all isStringPart = true) :
    Writes [⟨.string, text⟩] ("\"" ++ text ++ "\"").toList := by
  have hwrites : Writes [⟨.string, text⟩] ('"' :: (text.toList ++ ['"'])) := .lexeme h rfl
  have hquote : "\"".toList = ['"'] := rfl
  rw [String.toList_append, String.toList_append, hquote]
  exact hwrites

/-- What comes behind an element keeps apart from it. -/
theorem keepsApart_more (texts : List String) {rest : List Char}
    (h : keepsApart rest.head? = true) :
    keepsApart ((texts.flatMap fun t => ',' :: ' ' :: t.toList) ++ rest).head? = true := by
  cases texts with
  | nil => exact h
  | cons => rfl

section Lists

variable {u w : List Lexeme} {text : String} {texts : List String}

/-- An element behind its comma, and the others behind theirs. -/
theorem Writes.comma (hu : Writes u text.toList)
    (hw : Writes w (texts.flatMap fun t => ',' :: ' ' :: t.toList)) :
    Writes (.ofSymbol .comma :: (u ++ w))
      ((text :: texts).flatMap fun t => ',' :: ' ' :: t.toList) := by
  intro v rest hv hrest
  have hitem := hu _ _ (hw _ _ hv hrest) (keepsApart_more _ hrest)
  have hcomma : Spells (.ofSymbol .comma :: _) (",".toList ++ _) :=
    (Spells.space (c := ' ') rfl hitem).symbol rfl
  simpa using hcomma

/-- The first element, and the others behind their commas. -/
theorem Writes.commaSeparated (hu : Writes u text.toList)
    (hw : Writes w (texts.flatMap fun t => ',' :: ' ' :: t.toList)) :
    Writes (u ++ w) (Text.commaSeparated (text :: texts)).toList := by
  intro v rest hv hrest
  have hitem := hu _ _ (hw _ _ hv hrest) (keepsApart_more _ hrest)
  rw [toList_commaSeparated]
  simpa using hitem

theorem Writes.bracketed (hw : Writes w (Text.commaSeparated texts).toList) :
    Writes (.ofSymbol .leftBracket :: (w ++ [.ofSymbol .rightBracket]))
      (Text.bracketed texts).toList := by
  intro v rest hv _
  have hclose : Spells (.ofSymbol .rightBracket :: v) ("]".toList ++ rest) := hv.symbol rfl
  have hopen : Spells (.ofSymbol .leftBracket :: _) ("[".toList ++ _) :=
    (hw _ _ hclose rfl).symbol rfl
  rw [Text.bracketed]
  simpa using hopen

end Lists

section Operators

variable {u w : List Lexeme} {text left right : String}

theorem Writes.unary (op : UnaryOp) (hw : Writes w text.toList)
    (hopens : ∃ x v, w = x :: v ∧ x.kind.opensOperand = true) :
    Writes (.ofSymbol .leftParen :: (.ofSymbol op.symbol :: w ++ [.ofSymbol .rightParen]))
      ("(" ++ op.text ++ text ++ ")").toList := by
  intro v rest hv hrest
  have hclose : Spells (.ofSymbol .rightParen :: v) (")".toList ++ rest) := hv.symbol rfl
  have hoperand := hw _ _ hclose rfl
  -- an exclamation mark and an equals sign would fuse
  have hnext : (text.toList ++ (")".toList ++ rest)).head? ≠ some '=' := by
    refine hoperand.head?_ne fun x hx => ?_
    obtain ⟨y, w', rfl, hy⟩ := hopens
    cases hx
    exact hy
  have hop : Spells (.ofSymbol op.symbol :: (w ++ .ofSymbol .rightParen :: v))
      (op.symbol.text.toList ++ (text.toList ++ (")".toList ++ rest))) := by
    refine hoperand.symbol ?_
    cases op with
    | not => exact bne_iff_ne.mpr hnext
    | negate | plus => rfl
  have hopen : Spells (.ofSymbol .leftParen :: _) ("(".toList ++ _) := hop.symbol rfl
  rw [op.text_symbol]
  simpa using hopen

theorem Writes.binary (op : BinaryOp) (hu : Writes u left.toList) (hw : Writes w right.toList) :
    Writes (.ofSymbol .leftParen :: (u ++ .ofSymbol op.symbol :: w ++ [.ofSymbol .rightParen]))
      ("(" ++ left ++ " " ++ op.text ++ " " ++ right ++ ")").toList := by
  intro v rest hv hrest
  have hclose : Spells (.ofSymbol .rightParen :: v) (")".toList ++ rest) := hv.symbol rfl
  have hop : Spells (.ofSymbol op.symbol :: (w ++ .ofSymbol .rightParen :: v))
      (op.symbol.text.toList ++ (' ' :: (right.toList ++ (")".toList ++ rest)))) :=
    (Spells.space rfl (hw _ _ hclose rfl)).symbol (by cases op <;> rfl)
  have hopen : Spells (.ofSymbol .leftParen :: _) ("(".toList ++ _) :=
    (hu _ _ (.space (c := ' ') rfl hop) rfl).symbol rfl
  have hgap : " ".toList = [' '] := rfl
  rw [op.text_symbol]
  simpa [hgap] using hopen

theorem Writes.assign {x : String} (hx : isName x = true) (hw : Writes w text.toList) :
    Writes (⟨.ident, x⟩ :: .ofSymbol .assign :: w) (x ++ " = " ++ text).toList := by
  intro v rest hv hrest
  have hsign : Spells (.ofSymbol .assign :: (w ++ v))
      ("=".toList ++ (' ' :: (text.toList ++ rest))) :=
    (Spells.space rfl (hw _ _ hv hrest)).symbol rfl
  have hname : Spells (⟨.ident, x⟩ :: _) (x.toList ++ _) :=
    .cons hx rfl (Spells.space (c := ' ') rfl hsign)
  have hgap : " = ".toList = [' ', '=', ' '] := rfl
  simpa [hgap] using hname

theorem Writes.call (hu : Writes u left.toList) (hw : Writes w right.toList) :
    Writes (u ++ .ofSymbol .leftParen :: (w ++ [.ofSymbol .rightParen]))
      (left ++ "(" ++ right ++ ")").toList := by
  intro v rest hv hrest
  have hclose : Spells (.ofSymbol .rightParen :: v) (")".toList ++ rest) := hv.symbol rfl
  have hopen : Spells (.ofSymbol .leftParen :: _) ("(".toList ++ _) :=
    (hw _ _ hclose rfl).symbol rfl
  simpa using hu _ _ hopen rfl

theorem Writes.index (hu : Writes u left.toList) (hw : Writes w right.toList) :
    Writes (u ++ .ofSymbol .leftBracket :: (w ++ [.ofSymbol .rightBracket]))
      (left ++ "[" ++ right ++ "]").toList := by
  intro v rest hv hrest
  have hclose : Spells (.ofSymbol .rightBracket :: v) ("]".toList ++ rest) := hv.symbol rfl
  have hopen : Spells (.ofSymbol .leftBracket :: _) ("[".toList ++ _) :=
    (hw _ _ hclose rfl).symbol rfl
  simpa using hu _ _ hopen rfl

end Operators

section Expressions

variable {e l r f a i : Expr} {es : List Expr} {t : Tier}

/-- The text of the expression writes lexemes that form it. -/
def Expr.Reads (e : Expr) (t : Tier) : Prop :=
  ∃ w, Derives (.expr t e) w ∧ Writes w e.text.toList

theorem Expr.Reads.loosen {s : Tier} (h : e.Reads t) (hst : s.rank ≤ t.rank) : e.Reads s :=
  have ⟨w, hw, htext⟩ := h
  ⟨w, hw.loosen hst, htext⟩

theorem reads_ident {x : String} (hx : isName x = true) : (Expr.ident x).Reads .primary :=
  ⟨[⟨.ident, x⟩], .ident (x := ⟨.ident, x⟩) rfl, .lexeme hx rfl⟩

theorem reads_int {n : Int64} (hn : 0 ≤ n.toInt) : (Expr.int n).Reads .primary := by
  have hwrites : Decimal.Writes (Decimal.ofInt64 n).toList n.toInt :=
    Decimal.toInt64?_eq_some_iff.mp (Decimal.toInt64?_ofInt64 n)
  exact ⟨[⟨.int, Decimal.ofInt64 n⟩], .int rfl hwrites, writes_int hn⟩

theorem reads_str {text : String} (h : text.toList.all isStringPart = true) :
    (Expr.str text).Reads .primary :=
  ⟨[⟨.string, text⟩], .str (x := ⟨.string, text⟩) rfl, writes_quoted h⟩

theorem reads_bool (b : Bool) : (Expr.bool b).Reads .primary := by
  cases b with
  | true => exact ⟨[.ofKeyword .trueWord], .trueWord rfl, .lexeme rfl rfl⟩
  | false => exact ⟨[.ofKeyword .falseWord], .falseWord rfl, .lexeme rfl rfl⟩

theorem reads_nil : Expr.nil.Reads .primary :=
  ⟨[.ofKeyword .nilWord], .nilWord rfl, .lexeme rfl rfl⟩

theorem reads_unary (op : UnaryOp) (h : e.Reads .prefixed) : (Expr.unary op e).Reads .primary := by
  obtain ⟨w, hw, htext⟩ := h
  have hunary : Derives (.expr .prefixed (.unary op e)) (.ofSymbol op.symbol :: w) := .unary rfl hw
  have hgroup : Derives (.expr .primary (.unary op e))
      (.ofSymbol .leftParen :: (.ofSymbol op.symbol :: w ++ [.ofSymbol .rightParen])) :=
    .group rfl (hunary.loosen (by decide)) rfl
  exact ⟨_, hgroup, htext.unary op hw.opens⟩

theorem reads_binary (op : BinaryOp) (hl : l.Reads .applied) (hr : r.Reads .applied) :
    (Expr.binary op l r).Reads .primary := by
  obtain ⟨u, hu, hleft⟩ := hl
  obtain ⟨w, hw, hright⟩ := hr
  have hbinary : Derives (.expr op.tier (.binary op l r)) (u ++ .ofSymbol op.symbol :: w) :=
    .binary (hu.loosen (by cases op <;> decide)) rfl (hw.loosen (by cases op <;> decide))
  have hgroup : Derives (.expr .primary (.binary op l r))
      (.ofSymbol .leftParen :: (u ++ .ofSymbol op.symbol :: w ++ [.ofSymbol .rightParen])) :=
    .group rfl (hbinary.loosen (Nat.zero_le _)) rfl
  exact ⟨_, hgroup, hleft.binary op hright⟩

theorem reads_assign {x : String} (hx : isName x = true) (h : e.Reads .expression) :
    (Expr.assign x e).Reads .expression := by
  obtain ⟨w, hw, htext⟩ := h
  have hident : Derives (.expr .primary (.ident x)) [⟨.ident, x⟩] := .ident (x := ⟨.ident, x⟩) rfl
  have hassign : Derives (.expr .expression (.assign x e))
      ([⟨.ident, x⟩] ++ .ofSymbol .assign :: w) :=
    .assign (hident.loosen (by decide)) rfl hw
  exact ⟨_, hassign, htext.assign hx⟩

/-- The text of the list writes lexemes that form it. -/
def ReadsItems (es : List Expr) : Prop :=
  ∃ w, Derives (.items es) w ∧ Writes w (Text.commaSeparated (Expr.textEach es)).toList

/-- The text of the rest of a list writes lexemes that form it. -/
def ReadsMore (es : List Expr) : Prop :=
  ∃ w, Derives (.moreItems es) w ∧
    Writes w ((Expr.textEach es).flatMap fun t => ',' :: ' ' :: t.toList)

theorem readsMore_nil : ReadsMore [] := ⟨[], .lastItem, .nil⟩

theorem readsMore_cons (he : e.Reads .expression) (hes : ReadsMore es) : ReadsMore (e :: es) := by
  obtain ⟨u, hu, htext⟩ := he
  obtain ⟨w, hw, htexts⟩ := hes
  exact ⟨_, .moreItems rfl hu hw, htext.comma htexts⟩

theorem readsItems_nil : ReadsItems [] := ⟨[], .noItems, .nil⟩

theorem readsItems_cons (he : e.Reads .expression) (hes : ReadsMore es) :
    ReadsItems (e :: es) := by
  obtain ⟨u, hu, htext⟩ := he
  obtain ⟨w, hw, htexts⟩ := hes
  exact ⟨_, .items hu hw, htext.commaSeparated htexts⟩

theorem reads_array (h : ReadsItems es) : (Expr.array es).Reads .primary := by
  obtain ⟨w, hw, htext⟩ := h
  exact ⟨_, .array rfl hw rfl, htext.bracketed⟩

theorem reads_call (hf : f.Reads .applied) (hes : ReadsItems es) :
    (Expr.call f es).Reads .applied := by
  obtain ⟨u, hu, hcallee⟩ := hf
  obtain ⟨w, hw, htext⟩ := hes
  exact ⟨_, .call hu rfl hw rfl, hcallee.call htext⟩

theorem reads_index (ha : a.Reads .applied) (hi : i.Reads .expression) :
    (Expr.index a i).Reads .applied := by
  obtain ⟨u, hu, hcollection⟩ := ha
  obtain ⟨w, hw, htext⟩ := hi
  exact ⟨_, .index hu rfl hw rfl, hcollection.index htext⟩

end Expressions

/-! ## Names and literals that were read -/

/-- A literal that can be written: a number without a sign, or a string without a quote. -/
def Expr.isWritten : Expr → Bool
  | .int n => 0 ≤ n.toInt
  | .str text => text.toList.all isStringPart
  | _ => true

/-- The names and literals of a phrase can be written. -/
def Phrase.Spellable : Phrase → Prop
  | .expr _ e => e.Names (isName · = true) ∧ e.all Expr.isWritten = true
  | .items es | .moreItems es =>
    Expr.NamesEach (isName · = true) es ∧ Expr.allEach Expr.isWritten es = true
  | .statement s => s.Names (isName · = true) ∧ s.all Expr.isWritten = true
  | .block ss | .statements ss =>
    Statement.NamesAll (isName · = true) ss ∧ Statement.allEach Expr.isWritten ss = true

theorem MoreNames.spellable {xs : List String} {w : List Lexeme} (h : MoreNames xs w)
    (hw : ∀ x ∈ w, x.wellFormed = true) : ∀ x ∈ xs, isName x = true := by
  induction h with
  | nil => simp
  | @cons comma x xs w _ hx _ ih =>
    simp only [List.forall_mem_cons] at hw ⊢
    refine ⟨?_, ih hw.2.2⟩
    simpa [Lexeme.wellFormed, hx] using hw.2.1

theorem Names.spellable {xs : List String} {w : List Lexeme} (h : Names xs w)
    (hw : ∀ x ∈ w, x.wellFormed = true) : ∀ x ∈ xs, isName x = true := by
  cases h with
  | nil => simp
  | cons hx h =>
    simp only [List.forall_mem_cons] at hw ⊢
    refine ⟨?_, h.spellable hw.2⟩
    simpa [Lexeme.wellFormed, hx] using hw.1

theorem Decimal.Writes.nonneg {cs : List Char} {i : Int} (h : Decimal.Writes cs i)
    (hcs : cs.all Char.isDigit = true) : 0 ≤ i := by
  obtain ⟨ds, -, -, ⟨-, rfl⟩ | ⟨rfl, -⟩⟩ := h
  · exact Int.natCast_nonneg _
  · cases hcs

/-- What was read from well-formed lexemes can be written. -/
theorem Derives.spellable {φ : Phrase} {w : List Lexeme} (h : Derives φ w)
    (hw : ∀ x ∈ w, x.wellFormed = true) : φ.Spellable := by
  induction h with
  | tighten _ ih => exact ih hw
  | @ident x hx =>
    have hname : isName x.literal = true := by simpa [Lexeme.wellFormed, hx] using hw
    exact ⟨hname, rfl⟩
  | @int x n hx hn =>
    have hdigits : x.literal.toList.all Char.isDigit = true := by
      have hform := hw x List.mem_cons_self
      simp only [Lexeme.wellFormed, hx, Bool.and_eq_true] at hform
      exact hform.2
    exact ⟨trivial, decide_eq_true (hn.nonneg hdigits)⟩
  | @str x hx =>
    have htext : x.literal.toList.all isStringPart = true := by
      have hform := hw x List.mem_cons_self
      simpa only [Lexeme.wellFormed, hx] using hform
    exact ⟨trivial, htext⟩
  | function _ _ hxs _ _ ih =>
    simp only [List.forall_mem_append, List.forall_mem_cons] at hw
    obtain ⟨hnames, hwritten⟩ := ih hw.2.2.2.2
    exact ⟨⟨hxs.spellable hw.2.2.1, hnames⟩, by simp [Expr.all, Expr.isWritten, hwritten]⟩
  | bind _ hx _ _ ih =>
    simp only [List.forall_mem_cons] at hw
    obtain ⟨hnames, hwritten⟩ := ih hw.2.2.2
    refine ⟨⟨?_, hnames⟩, hwritten⟩
    simpa [Lexeme.wellFormed, hx] using hw.2.1
  | _ =>
    simp_all [or_imp, forall_and, Phrase.Spellable, Expr.Names, Expr.NamesEach, Statement.Names,
      Statement.NamesAll, Expr.all, Expr.allEach, Statement.all, Statement.allEach, Expr.isWritten]

/-! ## Expressions without blocks -/

/-- The expression has blocks of its own: it is an `if` or a function. -/
def Expr.hasBlock : Expr → Bool
  | .ifThen .. | .ifElse .. | .function .. => true
  | _ => false

def Expr.isAssign : Expr → Bool
  | .assign .. => true
  | _ => false

/-- The operands of an operator, the callee of a call, and what an index is taken of. -/
def Expr.operands : Expr → List Expr
  | .unary _ operand => [operand]
  | .binary _ left right => [left, right]
  | .call callee _ => [callee]
  | .index collection _ => [collection]
  | _ => []

/-- No operand of the expression is an assignment. -/
def Expr.joinsNoAssign (e : Expr) : Bool := e.operands.all fun d => !d.isAssign

/-- The tier that the canonical text of an expression has. -/
def Expr.textTier : Expr → Tier
  | .assign .. => .expression
  | _ => .applied

/-- An expression whose canonical text can be read, if that of its parts can. -/
def Expr.isPlain (e : Expr) : Bool := e.isWritten && (!e.hasBlock && e.joinsNoAssign)

/-- A primary expression has every tier. -/
theorem Expr.Reads.of_primary {e : Expr} (h : e.Reads .primary) (t : Tier) : e.Reads t :=
  h.loosen (by cases t <;> decide)

theorem Expr.isAssign_of_mem_operands {e d : Expr} (h : e.isPlain = true) (hd : d ∈ e.operands) :
    d.isAssign = false := by
  simp only [Expr.isPlain, Expr.joinsNoAssign, Bool.and_eq_true, List.all_eq_true] at h
  simpa using h.2.2 d hd

theorem Expr.Reads.expression {e : Expr} {t : Tier} (h : e.Reads t) : e.Reads .expression :=
  h.loosen (Nat.zero_le _)

theorem Expr.Reads.applied {e : Expr} (h : e.Reads e.textTier) (he : e.isAssign = false) :
    e.Reads .applied := by
  cases e with
  | assign => cases he
  | _ => exact h

mutual

/-- **Canonical text forms the expression it belongs to.** -/
theorem Expr.reads : (e : Expr) → e.Names (isName · = true) → e.all Expr.isPlain = true →
    e.Reads e.textTier
  | .ident _, hx, _ => (reads_ident hx).of_primary _
  | .int _, _, h => (reads_int (of_decide_eq_true (Bool.and_eq_true_iff.mp h).1)).of_primary _
  | .str _, _, h => (reads_str (Bool.and_eq_true_iff.mp h).1).of_primary _
  | .bool b, _, _ => (reads_bool b).of_primary _
  | .nil, _, _ => reads_nil.of_primary _
  | .array es, hx, h => by
    simp only [Expr.all, Bool.and_eq_true] at h
    exact (reads_array (readsItems es hx h.2)).of_primary _
  | .unary op e, hx, h => by
    simp only [Expr.all, Bool.and_eq_true] at h
    have he := Expr.isAssign_of_mem_operands h.1 (List.mem_singleton_self e)
    have hread := (e.reads hx h.2).applied he
    exact (reads_unary op (hread.loosen (by decide))).of_primary _
  | .binary op l r, hx, h => by
    simp only [Expr.all, Bool.and_eq_true] at h
    have hl := Expr.isAssign_of_mem_operands h.1 List.mem_cons_self
    have hr := Expr.isAssign_of_mem_operands h.1 (List.mem_cons_of_mem l (List.mem_singleton_self r))
    have hleft := (l.reads hx.1 h.2.1).applied hl
    have hright := (r.reads hx.2 h.2.2).applied hr
    exact (reads_binary op hleft hright).of_primary _
  | .ifThen .., _, h => by
    simp only [Expr.all, Bool.and_eq_true] at h
    cases h.1
  | .ifElse .., _, h => by
    simp only [Expr.all, Bool.and_eq_true] at h
    cases h.1
  | .function .., _, h => by
    simp only [Expr.all, Bool.and_eq_true] at h
    cases h.1
  | .call f es, hx, h => by
    simp only [Expr.all, Bool.and_eq_true] at h
    have hf := Expr.isAssign_of_mem_operands h.1 (List.mem_singleton_self f)
    exact reads_call ((f.reads hx.1 h.2.1).applied hf) (readsItems es hx.2 h.2.2)
  | .index a i, hx, h => by
    simp only [Expr.all, Bool.and_eq_true] at h
    have ha := Expr.isAssign_of_mem_operands h.1 (List.mem_singleton_self a)
    exact reads_index ((a.reads hx.1 h.2.1).applied ha) (i.reads hx.2 h.2.2).expression
  | .assign x e, hx, h => by
    simp only [Expr.all, Bool.and_eq_true] at h
    exact reads_assign hx.1 (e.reads hx.2 h.2).expression

theorem readsMore : (es : List Expr) → Expr.NamesEach (isName · = true) es →
    Expr.allEach Expr.isPlain es = true → ReadsMore es
  | [], _, _ => readsMore_nil
  | e :: es, hx, h => by
    simp only [Expr.allEach, Bool.and_eq_true] at h
    exact readsMore_cons (e.reads hx.1 h.1).expression (readsMore es hx.2 h.2)

theorem readsItems : (es : List Expr) → Expr.NamesEach (isName · = true) es →
    Expr.allEach Expr.isPlain es = true → ReadsItems es
  | [], _, _ => readsItems_nil
  | e :: es, hx, h => by
    simp only [Expr.allEach, Bool.and_eq_true] at h
    exact readsItems_cons (e.reads hx.1 h.1).expression (readsMore es hx.2 h.2)

end

/-! ## Programs -/

def Statement.isExpr : Statement → Bool
  | .expr _ => true
  | _ => false

section Programs

variable {e : Expr} {ss : List Statement} {w : List Lexeme} {cs : List Char}

/-- The text of the statements spells lexemes that form them. -/
def ReadsAll (ss : List Statement) : Prop :=
  ∃ w, Derives (.statements ss) w ∧ Spells w (Statement.textAll ss).toList

theorem readsAll_bind {x : String} (hx : isName x = true) (he : e.Reads .expression)
    (hss : ReadsAll ss) : ReadsAll (.bind x e :: ss) := by
  obtain ⟨u, hu, htext⟩ := he
  obtain ⟨w, hw, hrest⟩ := hss
  have hbind : Derives (.statement (.bind x e))
      (.ofKeyword .letWord :: ⟨.ident, x⟩ :: .ofSymbol .assign :: u) :=
    .bind (x := ⟨.ident, x⟩) rfl rfl rfl hu
  have hstatements : Derives (.statements (.bind x e :: ss))
      (.ofKeyword .letWord :: ⟨.ident, x⟩ :: .ofSymbol .assign :: u ++ .ofSymbol .semicolon :: w) :=
    .ended hbind rfl hw
  have hend : Spells (.ofSymbol .semicolon :: w) (";".toList ++ (Statement.textAll ss).toList) :=
    hrest.symbol rfl
  have hsign : Spells (.ofSymbol .assign :: (u ++ .ofSymbol .semicolon :: w)) ("=".toList ++
      (' ' :: (e.text.toList ++ (";".toList ++ (Statement.textAll ss).toList)))) :=
    (Spells.space rfl (htext _ _ hend rfl)).symbol rfl
  have hname : Spells (⟨.ident, x⟩ :: _) (x.toList ++ _) :=
    .cons hx rfl (Spells.space (c := ' ') rfl hsign)
  have hword : Spells (.ofKeyword .letWord :: _) ("let".toList ++ _) :=
    .cons rfl rfl (Spells.space (c := ' ') rfl hname)
  have hlet : "let ".toList = ['l', 'e', 't', ' '] := rfl
  have hequals : " = ".toList = [' ', '=', ' '] := rfl
  refine ⟨_, hstatements, ?_⟩
  rw [Statement.textAll, Statement.text]
  simpa [hlet, hequals] using hword

theorem readsAll_ret (he : e.Reads .expression) (hss : ReadsAll ss) :
    ReadsAll (.ret e :: ss) := by
  obtain ⟨u, hu, htext⟩ := he
  obtain ⟨w, hw, hrest⟩ := hss
  have hret : Derives (.statement (.ret e)) (.ofKeyword .returnWord :: u) := .ret rfl hu
  have hstatements : Derives (.statements (.ret e :: ss))
      (.ofKeyword .returnWord :: u ++ .ofSymbol .semicolon :: w) := .ended hret rfl hw
  have hend : Spells (.ofSymbol .semicolon :: w) (";".toList ++ (Statement.textAll ss).toList) :=
    hrest.symbol rfl
  have hword : Spells (.ofKeyword .returnWord :: _) ("return".toList ++ _) :=
    .cons rfl rfl (Spells.space (c := ' ') rfl (htext _ _ hend rfl))
  have hreturn : "return ".toList = ['r', 'e', 't', 'u', 'r', 'n', ' '] := rfl
  refine ⟨_, hstatements, ?_⟩
  rw [Statement.textAll, Statement.text]
  simpa [hreturn] using hword

theorem readsAll_last (he : e.Reads .expression) : ReadsAll [.expr e] := by
  obtain ⟨u, hu, htext⟩ := he
  refine ⟨u ++ [], .bare (.expr hu) (by simp) .noStatements, ?_⟩
  have hspells := htext [] [] .nil rfl
  simpa [Statement.textAll, Statement.text] using hspells

/-- **Canonical text forms the program it belongs to.** -/
theorem readsAll : (ss : List Statement) → Statement.NamesAll (isName · = true) ss →
    Statement.allEach Expr.isPlain ss = true → (∀ s ∈ ss.dropLast, s.isExpr = false) → ReadsAll ss
  | [], _, _, _ => ⟨[], .noStatements, .nil⟩
  | s :: ss, hx, h, hlast => by
    simp only [Statement.allEach, Bool.and_eq_true] at h
    have hrest : ∀ t ∈ ss.dropLast, t.isExpr = false := by
      intro t ht
      cases ss with
      | nil => cases ht
      | cons => exact hlast t (List.mem_cons_of_mem s ht)
    have hss := readsAll ss hx.2 h.2 hrest
    cases s with
    | bind x e => exact readsAll_bind hx.1.1 (e.reads hx.1.2 h.1).expression hss
    | ret e => exact readsAll_ret (e.reads hx.1 h.1).expression hss
    | expr e =>
      cases ss with
      | nil => exact readsAll_last (e.reads hx.1 h.1).expression
      | cons => cases hlast (.expr e) List.mem_cons_self

end Programs

/-! ## Sources -/

theorem sentence_ofSource (source file : String) :
    (TokenStream.ofSource source file).sentence =
      ((lexemes source.toList).takeWhile (·.kind != .eof)).filter (!·.isComment) := by
  rw [TokenStream.sentence, TokenStream.map_lexeme_ofSource]

theorem wellFormed_of_mem_sentence {source file : String} {x : Lexeme}
    (h : x ∈ (TokenStream.ofSource source file).sentence) (hx : x.kind.inPhrases = true) :
    x.wellFormed = true := by
  rw [sentence_ofSource] at h
  have hmem : x ∈ lexemes source.toList :=
    (List.takeWhile_prefix _).subset (List.mem_filter.mp h).1
  apply Lexeme.wellFormed_of_mem_lexemes hmem
  · intro hkind
    rw [hkind] at hx
    cases hx
  · intro hkind
    rw [hkind] at hx
    cases hx

theorem sentence_of_spells {source : String} (file : String) {w : List Lexeme}
    (h : Spells w source.toList) (hw : ∀ x ∈ w, x.kind.inPhrases = true) :
    (TokenStream.ofSource source file).sentence = w := by
  have hkind (k : TokenKind) (hk : k.inPhrases = false) : ∀ x ∈ w, (x.kind != k) = true := by
    intro x hx
    rw [bne_iff_ne]
    rintro rfl
    rw [hw x hx] at hk
    cases hk
  have htake : w.takeWhile (·.kind != .eof) = w := by
    rw [← List.append_nil w, List.takeWhile_append_of_pos (hkind .eof rfl)]
    rfl
  rw [sentence_ofSource, h.lexemes_eq, htake]
  exact List.filter_eq_self.mpr (hkind .comment rfl)

/-- **Canonical text reads back.** A source is read without errors, no expression of its program has
a block, no assignment is the operand of an operator, a callee or an indexed collection, and only the
last statement may be an expression: then the canonical text of the program is read without errors
too, and gives the same program. -/
theorem canonical_text_reads_back (source file file' : String) (p : Program)
    (hp : Program.ofSource source file = (p, []))
    (hblocks : Statement.allEach (fun e => !e.hasBlock) p = true)
    (hassigns : Statement.allEach Expr.joinsNoAssign p = true)
    (hlast : ∀ s ∈ p.dropLast, s.isExpr = false) :
    Program.ofSource (Program.text p) file' = (p, []) := by
  have hderives : Derives (.statements p) (TokenStream.ofSource source file).sentence :=
    ofTokens_eq_iff.mp hp
  obtain ⟨hnames, hwritten⟩ := hderives.spellable fun x hx =>
    wellFormed_of_mem_sentence hx (hderives.inPhrases x hx)
  have hplain : Statement.allEach Expr.isPlain p = true := by
    show Statement.allEach (fun e => e.isWritten && (!e.hasBlock && e.joinsNoAssign)) p = true
    rw [Statement.allEach_and, Statement.allEach_and, hwritten, hblocks, hassigns]
    rfl
  obtain ⟨w, hw, hspells⟩ := readsAll p hnames hplain hlast
  have hsentence : (TokenStream.ofSource (Program.text p) file').sentence = w :=
    sentence_of_spells file' hspells hw.inPhrases
  exact ofTokens_eq_iff.mpr (hsentence ▸ hw)

/-- A call of an operator of an index that is an assignment, in front of a comment. -/
theorem call_of_index_reads_back :
    let source := "let a = [1]; f(-a[i = 0]) # end"
    let p := (Program.ofSource source "first").1
    Program.ofSource source "first" = (p, []) ∧
    Program.text p = "let a = [1];f((-a[i = 0]))" ∧
    Program.ofSource (Program.text p) "second" = (p, []) := by
  intro source p
  have hp : Program.ofSource source "first" = (p, []) := Prod.ext rfl (by decide +kernel)
  refine ⟨hp, by decide +kernel, ?_⟩
  exact canonical_text_reads_back source "first" "second" p hp (by decide +kernel)
    (by decide +kernel) (by decide +kernel)

end CurryLang
