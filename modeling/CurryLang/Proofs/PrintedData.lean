import CurryLang.Proofs.FirstOrder
import CurryLang.Proofs.ReadBack
import CurryLang.Proofs.Numbering

/-!
# Printed data reads back

The text of an integer, a string, a boolean, `nil` or an array of these is a source text for the same
data, except for the least integer: its digits alone are out of range.

1. Strings are made of string literals and numerals, and none of them has a quote: this is a
   discipline (`quotable`), so it holds of every value that a session shows or binds.
2. `Datum.words` are the lexemes of the text of such a value, and `Datum.ints` the integers in it.
   The text writes these lexemes (`Datum.writes`), by induction on the data.
3. Without the least integer the words form `Datum.literal`, which evaluates to the same data and
   leaves the store as it is. With it they have a number that is no 64-bit integer, and no program has
   such a word.
-/

namespace CurryLang

open Eval Lexer

/-! ## Values without quotes -/

/-- No string in the value has a quote, nor has a string literal in the body of a function. -/
inductive Value.Quotable : Value → Prop where
  | int (n : Int64) : Quotable (.int n)
  | str (id : ObjectId) {text : String} : text.toList.all isStringPart = true →
      Quotable (.str id text)
  | bool (b : Bool) : Quotable (.bool b)
  | nil : Quotable .nil
  | array (id : ObjectId) {vs : List Value} : (∀ v ∈ vs, Quotable v) → Quotable (.array id vs)
  | function {f : Closure} : Statement.allEach Expr.isWritten f.body = true →
      Quotable (.function f)
  | curried {f : Curried} : Statement.allEach Expr.isWritten f.function.body = true →
      Quotable (.curried f)
  | builtin (b : Builtin) : Quotable (.builtin b)
  | returning {v : Value} : Quotable v → Quotable (.returning v)
  | error (e : RuntimeError) : Quotable (.error e)

theorem isStringPart_of_isDigit {c : Char} (h : c.isDigit = true) : isStringPart c = true := by
  rw [isStringPart, bne_iff_ne]
  rintro rfl
  cases h

theorem Decimal.all_isStringPart_ofInt (n : Int) :
    (Decimal.ofInt n).toList.all isStringPart = true := by
  have hdigits (k : Nat) : (Decimal.ofNat k).toList.all isStringPart = true := by
    rw [Decimal.ofNat, String.toList_ofList, List.all_eq_true]
    exact fun c hc => isStringPart_of_isDigit (Decimal.isDigit_of_mem_digits hc)
  cases n with
  | ofNat k => exact hdigits k
  | negSucc k =>
    rw [Decimal.ofInt, String.toList_append, List.all_append, hdigits]
    rfl

/-- The expressions that can be written, and texts without quotes. -/
def Fragment.written : Fragment where
  code e := e.all Expr.isWritten = true
  text t := t.toList.all isStringPart = true
  calls := True
  part := Expr.all_of_mem_parts
  literal h := h
  numeral n := Decimal.all_isStringPart_ofInt n.toInt
  join ha hb := by
    rw [String.toList_append, List.all_append, ha, hb]
    rfl
  call _ := trivial

/-- Every evaluation of such an expression uses values without quotes only, and binds no other. -/
def quotable : Discipline where
  toFragment := .written
  inv σ := ∀ i x v, σ.store.get? i x = some v → v.Quotable
  good _ v := v.Quotable
  place _ _ := True
  rel _ _ _ := True
  rel_trans _ _ := trivial
  rel_of_none _ := trivial
  good_mono _ h := h
  place_mono _ h := h
  quiet h hστ _ _ := ⟨hστ ▸ h, trivial⟩
  nest h _ := by
    refine ⟨fun i x v hv => h i x v ?_, trivial⟩
    rwa [State.nest, Store.get?_push] at hv
  leave _ := trivial
  define h _ hv _ := by
    refine ⟨fun i y u hu => ?_, trivial⟩
    rcases Store.eq_or_of_get?_insert hu with rfl | hu
    · exact hv
    · exact h i y u hu
  assign h _ _ hv _ := by
    refine ⟨fun i y u hu => ?_, trivial⟩
    rcases Store.eq_or_of_get?_replace hu with rfl | hu
    · exact hv
    · exact h i y u hu
  lookup h _ hv := by
    obtain ⟨i, -, hi⟩ := Option.bind_eq_some_iff.mp hv
    exact h i _ _ hi
  good_int := .int _
  good_bool := .bool _
  good_nil := .nil
  good_builtin := .builtin _
  good_text h := by
    cases h with | str _ h => exact h
  new_str _ h := .str _ h
  new_array _ h := .array _ h
  new_function _ h _ := .function (Bool.and_eq_true_iff.mp h).2
  new_curried _ h _ := .curried (Statement.allEach_iff.mpr h)
  element h hv := by
    cases h with | array _ h => exact h _ hv
  function _ h := by
    cases h with | function h => exact ⟨trivial, Statement.allEach_iff.mp h⟩
  curried _ h := by
    cases h with | curried h => exact ⟨trivial, Statement.allEach_iff.mp h⟩
  returning h := by
    cases h with | returning h => exact h

theorem isWritten_ofSource {source file : String} {p : Program}
    (h : Program.ofSource source file = (p, [])) : Statement.allEach Expr.isWritten p = true := by
  have hderives : Derives (.statements p) (TokenStream.ofSource source file).sentence :=
    ofTokens_eq_iff.mp h
  have hspellable := hderives.spellable fun x hx =>
    wellFormed_of_mem_sentence hx (hderives.inPhrases x hx)
  exact hspellable.2

/-- **No value that a session shows or binds has a quote in it.** -/
theorem quotable_of_session {depth : Nat} {file : String} {sources : List String} {v : Value}
    (h : RunResult.finished v ∈ (runAll depth file State.initial.1 sources State.initial.2).1 ∨
      ∃ i x, (runAll depth file State.initial.1 sources State.initial.2).2.store.get? i x = some v) :
    v.Quotable := by
  have hinitial : quotable.inv State.initial.2 := by
    intro i x w hw
    rw [State.get?_initial] at hw
    cases hw
  obtain ⟨⟨τ, hbound⟩, hτ, -, hshown⟩ := quotable.account.reaches_runAll (w := ⟨_, hinitial⟩)
    (c := State.initial.1) (fun _ _ _ hp => Statement.allEach_iff.mp (isWritten_ofSource hp)) trivial
    depth file sources
  obtain hv | ⟨i, x, hv⟩ := h
  · obtain hgood | ⟨e, rfl⟩ := hshown _ hv v rfl
    · exact hgood
    · exact .error e
  · replace hτ : τ = (runAll depth file State.initial.1 sources State.initial.2).2 := hτ
    exact hbound i x v (hτ ▸ hv)

/-! ## Words of data -/

/-- The lexemes that write an integer. -/
def integerWords : Int → List Lexeme
  | .ofNat k => [⟨.int, Decimal.ofNat k⟩]
  | .negSucc k => [.ofSymbol .minus, ⟨.int, Decimal.ofNat (k + 1)⟩]

namespace Datum

mutual

/-- The lexemes of the text of data. -/
def words : Datum → List Lexeme
  | int n => integerWords n.toInt
  | str text => [⟨.string, text⟩]
  | bool true => [.ofKeyword .trueWord]
  | bool false => [.ofKeyword .falseWord]
  | nil => [.ofKeyword .nilWord]
  | array ds => .ofSymbol .leftBracket :: (itemWords ds ++ [.ofSymbol .rightBracket])

def itemWords : List Datum → List Lexeme
  | [] => []
  | d :: ds => d.words ++ moreWords ds

def moreWords : List Datum → List Lexeme
  | [] => []
  | d :: ds => .ofSymbol .comma :: (d.words ++ moreWords ds)

end

mutual

/-- The integers in data. -/
def ints : Datum → List Int64
  | int n => [n]
  | array ds => intsEach ds
  | _ => []

def intsEach : List Datum → List Int64
  | [] => []
  | d :: ds => d.ints ++ intsEach ds

end

end Datum

theorem writes_integer (n : Int) : Writes (integerWords n) (Decimal.ofInt n).toList := by
  cases n with
  | ofNat k => exact writes_numeral k
  | negSucc k =>
    intro v rest hv hrest
    have hsign : Spells (.ofSymbol .minus :: _) ("-".toList ++ _) :=
      (writes_numeral (k + 1) v rest hv hrest).symbol rfl
    rw [Decimal.ofInt, String.toList_append, List.append_assoc]
    exact hsign

theorem integerWords_inPhrases (n : Int) : ∀ x ∈ integerWords n, x.kind.inPhrases = true := by
  cases n <;> simp [integerWords, Lexeme.ofSymbol, TokenKind.inPhrases]

namespace Datum

mutual

theorem words_inPhrases : (d : Datum) → ∀ x ∈ d.words, x.kind.inPhrases = true
  | .int n => integerWords_inPhrases n.toInt
  | .str _ | .bool true | .bool false | .nil => by
    simp [words, Lexeme.ofKeyword, TokenKind.inPhrases]
  | .array ds => by
    have hds := itemWords_inPhrases ds
    simp_all [words, or_imp, Lexeme.ofSymbol, TokenKind.inPhrases]

theorem itemWords_inPhrases : (ds : List Datum) → ∀ x ∈ itemWords ds, x.kind.inPhrases = true
  | [] => nofun
  | d :: ds => List.forall_mem_append.mpr ⟨d.words_inPhrases, moreWords_inPhrases ds⟩

theorem moreWords_inPhrases : (ds : List Datum) → ∀ x ∈ moreWords ds, x.kind.inPhrases = true
  | [] => nofun
  | d :: ds => List.forall_mem_cons.mpr
    ⟨rfl, List.forall_mem_append.mpr ⟨d.words_inPhrases, moreWords_inPhrases ds⟩⟩

end

mutual

/-- **The text of a value writes the words of its data.** -/
theorem writes : (d : Datum) → {v : Value} → v.data? = some d → v.Quotable →
    Writes d.words v.inspect.toList
  | .int n, _, hv, _ => by
    obtain rfl := Value.data?_eq_some_iff.mp hv
    exact writes_integer n.toInt
  | .str text, _, hv, h => by
    obtain ⟨_, rfl⟩ := Value.data?_eq_some_iff.mp hv
    cases h with
    | str _ h => exact writes_quoted h
  | .bool true, _, hv, _ => by
    obtain rfl := Value.data?_eq_some_iff.mp hv
    exact .lexeme rfl rfl
  | .bool false, _, hv, _ => by
    obtain rfl := Value.data?_eq_some_iff.mp hv
    exact .lexeme rfl rfl
  | .nil, _, hv, _ => by
    obtain rfl := Value.data?_eq_some_iff.mp hv
    exact .lexeme rfl rfl
  | .array ds, _, hv, h => by
    obtain ⟨_, vs, rfl, hvs⟩ := Value.data?_eq_some_iff.mp hv
    cases h with
    | array _ h => exact (writes_items ds hvs h).bracketed

theorem writes_items : (ds : List Datum) → {vs : List Value} → Value.dataEach? vs = some ds →
    (∀ v ∈ vs, v.Quotable) →
    Writes (itemWords ds) (Text.commaSeparated (Value.inspectEach vs)).toList
  | [], _, hvs, _ => by
    obtain rfl := Value.dataEach?_eq_nil_iff.mp hvs
    exact .nil
  | d :: ds, _, hvs, h => by
    obtain ⟨v, vs, rfl, hv, hvs⟩ := Value.dataEach?_eq_cons_iff.mp hvs
    rw [List.forall_mem_cons] at h
    exact (d.writes hv h.1).commaSeparated (writes_more ds hvs h.2)

theorem writes_more : (ds : List Datum) → {vs : List Value} → Value.dataEach? vs = some ds →
    (∀ v ∈ vs, v.Quotable) →
    Writes (moreWords ds) ((Value.inspectEach vs).flatMap fun t => ',' :: ' ' :: t.toList)
  | [], _, hvs, _ => by
    obtain rfl := Value.dataEach?_eq_nil_iff.mp hvs
    exact .nil
  | d :: ds, _, hvs, h => by
    obtain ⟨v, vs, rfl, hv, hvs⟩ := Value.dataEach?_eq_cons_iff.mp hvs
    rw [List.forall_mem_cons] at h
    exact (d.writes hv h.1).comma (writes_more ds hvs h.2)

end

theorem sentence_inspect {d : Datum} {v : Value} (hd : v.data? = some d) (hv : v.Quotable)
    (file : String) : (TokenStream.ofSource v.inspect file).sentence = d.words := by
  have hspells := d.writes hd hv [] [] .nil rfl
  rw [List.append_nil, List.append_nil] at hspells
  exact sentence_of_spells file hspells d.words_inPhrases

/-! ## Data as an expression -/

mutual

/-- The expression that writes data. -/
def literal : Datum → Expr
  | int n => if n.toInt < 0 then .unary .negate (.int (-n)) else .int n
  | str text => .str text
  | bool b => .bool b
  | nil => .nil
  | array ds => .array (literalEach ds)

def literalEach : List Datum → List Expr
  | [] => []
  | d :: ds => d.literal :: literalEach ds

end

end Datum

/-- The sign of a number can be changed, unless the number is the least one. -/
theorem toInt_neg_of_ne_minValue {n : Int64} (h : n ≠ Int64.minValue) : (-n).toInt = -n.toInt := by
  have hne : n.toInt ≠ -2 ^ 63 := fun hn => h (Int64.toInt_inj.mp hn)
  have hlo := Int64.minValue_le_toInt n
  have hhi := Int64.toInt_le n
  rw [Int64.toInt_minValue] at hlo
  rw [Int64.toInt_maxValue] at hhi
  rw [Int64.toInt_neg]
  exact Int.bmod_eq_of_le (by omega) (by omega)

theorem Decimal.writes_ofNat (k : Nat) : Decimal.Writes (ofNat k).toList k :=
  toInt?_eq_some_iff.mp (toInt?_ofInt k)

namespace Datum

theorem derives_int {n : Int64} (hn : n ≠ Int64.minValue) :
    Derives (.expr .prefixed (int n).literal) (int n).words := by
  rw [words, literal]
  cases h : n.toInt with
  | ofNat k =>
    have hint : Derives (.expr .primary (.int n)) [⟨.int, Decimal.ofNat k⟩] :=
      .int rfl (h ▸ Decimal.writes_ofNat k)
    have hsign : ¬ Int.ofNat k < 0 := Int.not_lt.mpr (Int.natCast_nonneg k)
    rw [if_neg hsign]
    exact hint.loosen (by decide)
  | negSucc k =>
    have hneg : (-n).toInt = (k + 1 : Nat) := by
      rw [toInt_neg_of_ne_minValue hn, h]
      rfl
    have hint : Derives (.expr .primary (.int (-n))) [⟨.int, Decimal.ofNat (k + 1)⟩] :=
      .int rfl (hneg ▸ Decimal.writes_ofNat (k + 1))
    rw [if_pos (Int.negSucc_lt_zero k)]
    exact .unary rfl (hint.loosen (by decide))

mutual

/-- **The words of data form its expression**, unless the least integer is among them. -/
theorem derives : (d : Datum) → Int64.minValue ∉ d.ints →
    Derives (.expr .prefixed d.literal) d.words
  | .int n, h => derives_int fun hn => h (List.mem_singleton.mpr hn.symm)
  | .str text, _ => (Derives.str (x := ⟨.string, text⟩) rfl).loosen (by decide)
  | .bool true, _ => (Derives.trueWord rfl).loosen (by decide)
  | .bool false, _ => (Derives.falseWord rfl).loosen (by decide)
  | .nil, _ => (Derives.nilWord rfl).loosen (by decide)
  | .array ds, h => (Derives.array rfl (derives_items ds h) rfl).loosen (by decide)

theorem derives_items : (ds : List Datum) → Int64.minValue ∉ intsEach ds →
    Derives (.items (literalEach ds)) (itemWords ds)
  | [], _ => .noItems
  | d :: ds, h => by
    rw [intsEach, List.mem_append, not_or] at h
    exact .items ((d.derives h.1).loosen (by decide)) (derives_more ds h.2)

theorem derives_more : (ds : List Datum) → Int64.minValue ∉ intsEach ds →
    Derives (.moreItems (literalEach ds)) (moreWords ds)
  | [], _ => .lastItem
  | d :: ds, h => by
    rw [intsEach, List.mem_append, not_or] at h
    exact .moreItems rfl ((d.derives h.1).loosen (by decide)) (derives_more ds h.2)

end

section Evaluation

variable (run : BodyRunner) (c : ScopeId)

mutual

/-- **The expression of data evaluates to a value with this data**, and changes no scope. -/
theorem eval_literal : (d : Datum) → (σ : State) → ∃ v τ, d.literal.eval run c σ = .ok v τ ∧
    v.data? = some d ∧ τ.store = σ.store
  | .int n, σ => by
    rw [literal]
    split
    · refine ⟨.int (- -n), σ, rfl, ?_, rfl⟩
      rw [Int64.neg_neg]
      rfl
    · exact ⟨.int n, σ, rfl, rfl, rfl⟩
  | .str text, σ => ⟨_, _, rfl, rfl, rfl⟩
  | .bool b, σ => ⟨_, _, rfl, rfl, rfl⟩
  | .nil, σ => ⟨_, _, rfl, rfl, rfl⟩
  | .array ds, σ => by
    obtain ⟨vs, τ, hvs, hdata, hstore⟩ := eval_literalEach ds σ
    refine ⟨.array τ.nextObject vs, { τ with nextObject := τ.nextObject + 1 }, ?_, ?_, hstore⟩
    · rw [literal, Expr.eval, bind_apply, hvs]
      rfl
    · rw [Value.data?, hdata]
      rfl

theorem eval_literalEach : (ds : List Datum) → (σ : State) →
    ∃ vs τ, Expr.evalEach run c (literalEach ds) σ = .ok vs τ ∧ Value.dataEach? vs = some ds ∧
      τ.store = σ.store
  | [], σ => ⟨_, _, rfl, rfl, rfl⟩
  | d :: ds, σ => by
    obtain ⟨v, τ, hv, hd, hτ⟩ := eval_literal d σ
    obtain ⟨vs, υ, hvs, hds, hυ⟩ := eval_literalEach ds τ
    refine ⟨v :: vs, υ, ?_, ?_, hυ.trans hτ⟩
    · rw [literalEach, Expr.evalEach, bind_apply, hv]
      dsimp only
      rw [bind_apply, hvs]
      rfl
    · exact Value.dataEach?_eq_cons_iff.mpr ⟨v, vs, rfl, hd, hds⟩

end

end Evaluation

/-! ## The least integer -/

/-- The digits of the least integer. -/
def leastNumeral : Lexeme := ⟨.int, Decimal.ofNat 9223372036854775808⟩

mutual

theorem leastNumeral_mem : (d : Datum) → Int64.minValue ∈ d.ints → leastNumeral ∈ d.words
  | .int n, h => by
    rw [← List.mem_singleton.mp h]
    exact List.mem_cons_of_mem _ (List.mem_singleton_self _)
  | .array ds, h => by
    have hds := leastNumeral_mem_items ds h
    exact List.mem_cons_of_mem _ (List.mem_append_left _ hds)

theorem leastNumeral_mem_items : (ds : List Datum) → Int64.minValue ∈ intsEach ds →
    leastNumeral ∈ itemWords ds
  | d :: ds, h => by
    rw [itemWords, List.mem_append]
    exact (List.mem_append.mp h).imp d.leastNumeral_mem (leastNumeral_mem_more ds)

theorem leastNumeral_mem_more : (ds : List Datum) → Int64.minValue ∈ intsEach ds →
    leastNumeral ∈ moreWords ds
  | d :: ds, h => by
    rw [moreWords, List.mem_cons, List.mem_append]
    exact .inr ((List.mem_append.mp h).imp d.leastNumeral_mem (leastNumeral_mem_more ds))

end

end Datum

theorem Derives.leastNumeral_not_mem {φ : Phrase} {w : List Lexeme}
    (h : Derives φ w) : Datum.leastNumeral ∉ w := by
  intro hmem
  obtain ⟨n, hn⟩ := h.numerals _ hmem rfl
  have hvalue : n.toInt = 9223372036854775808 := by
    have hread := Decimal.toInt?_eq_some_iff.mpr hn
    have hnumeral := Decimal.toInt?_ofInt 9223372036854775808
    exact Option.some.inj (hread.symm.trans hnumeral)
  have hle := Int64.toInt_le n
  rw [Int64.toInt_maxValue] at hle
  omega

/-! ## Running printed data -/

section Running

variable {v : Value} {d : Datum} (hd : v.data? = some d) (hv : v.Quotable) (file : String)

include hd hv

theorem Program.ofSource_inspect (h : Int64.minValue ∉ d.ints) :
    Program.ofSource v.inspect file = ([.expr d.literal], []) := by
  have hexpr := (d.derives h).loosen (s := .expression) (by decide)
  have hprogram : Derives (.statements [.expr d.literal]) (d.words ++ []) :=
    .bare (.expr hexpr) (by simp) .noStatements
  rw [List.append_nil, ← Datum.sentence_inspect hd hv file] at hprogram
  exact ofTokens_eq_iff.mpr hprogram

theorem Program.errors_ofSource_inspect (h : Int64.minValue ∈ d.ints) :
    (Program.ofSource v.inspect file).2 ≠ [] := by
  intro herrors
  have hderives : Derives (.statements (Program.ofSource v.inspect file).1)
      (TokenStream.ofSource v.inspect file).sentence := ofTokens_eq_iff.mp (Prod.ext rfl herrors)
  rw [Datum.sentence_inspect hd hv file] at hderives
  exact hderives.leastNumeral_not_mem (d.leastNumeral_mem h)

end Running

theorem Datum.run_literal (d : Datum) (depth : Nat) (c : ScopeId) (σ : State) :
    ∃ w τ, Program.run depth [.expr d.literal] c σ = (.finished w, τ) ∧ w.data? = some d ∧
      τ.store = σ.store := by
  obtain ⟨w, τ, hw, hdata, hstore⟩ := d.eval_literal (bodies depth) c σ
  have heval : Program.eval (bodies depth) c [.expr d.literal] σ = .ok w τ := by
    unfold Program.eval Block.eval catchReturn
    rw [Statement.evalFrom, Statement.eval, bind_apply, hw]
    rfl
  have hunwrap : w.unwrap = w := by
    cases w with
    | returning => cases hdata
    | _ => rfl
  refine ⟨w, τ, ?_, hdata, hstore⟩
  unfold Program.run Eval.conclude
  rw [heval]
  dsimp only
  rw [hunwrap]

/-- **Printed data reads back.** Let `v` be a value without functions that a session shows or binds.
If the least integer is not in it, its text runs in a new session, whatever the allowed depth of
calls: the result equals `v`, and nothing is bound. If the least integer is in it, its text has
errors and nothing runs. -/
theorem printed_data_reads_back (depth depth' : Nat) (file file' : String) (sources : List String)
    (v : Value) (d : Datum)
    (hv : RunResult.finished v ∈ (runAll depth file State.initial.1 sources State.initial.2).1 ∨
      ∃ i x, (runAll depth file State.initial.1 sources State.initial.2).2.store.get? i x = some v)
    (hd : v.data? = some d) :
    let again := run depth' v.inspect file' State.initial.1 State.initial.2
    (Int64.minValue ∉ d.ints → ∃ w, again.1 = .finished w ∧ w.equal v = true ∧
      again.2.store = State.initial.2.store) ∧
    (Int64.minValue ∈ d.ints → ∃ errors, errors ≠ [] ∧
      again = (.rejected errors, State.initial.2)) := by
  intro again
  have hquotable := quotable_of_session hv
  constructor
  · intro hleast
    have hread := Program.ofSource_inspect hd hquotable file' hleast
    obtain ⟨w, τ, hrun, hw, hstore⟩ := d.run_literal depth' State.initial.1 State.initial.2
    have hagain : again = (.finished w, τ) := by
      unfold again run
      rw [hread]
      exact hrun
    rw [hagain]
    exact ⟨w, rfl, Value.equal_of_data? d hw hd, hstore⟩
  · intro hleast
    have herrors := Program.errors_ofSource_inspect hd hquotable file' hleast
    refine ⟨_, herrors, ?_⟩
    unfold again run
    split
    · next hread => exact absurd (congrArg Prod.snd hread) herrors
    · next hread => rw [hread]

/-- An array with a negative number and a joined string reads back, and with the least integer in it
the array does not. -/
theorem bound_arrays_read_back :
    let sources := ["let a = [-5, \"n\" + to_string(7)];", "let b = [a, -9223372036854775807 - 1]"]
    let σ := (runAll 0 "" State.initial.1 sources State.initial.2).2
    (∃ v w, σ.store.get? 0 "a" = some v ∧ v.inspect = "[-5, \"n7\"]" ∧
      (run 0 v.inspect "" State.initial.1 State.initial.2).1 = .finished w ∧ w.equal v = true) ∧
    ∃ v errors, σ.store.get? 0 "b" = some v ∧
      v.inspect = "[[-5, \"n7\"], -9223372036854775808]" ∧ errors ≠ [] ∧
      run 0 v.inspect "" State.initial.1 State.initial.2 = (.rejected errors, State.initial.2) := by
  intro sources σ
  have ha : (σ.store.get? 0 "a").any (fun v => v.inspect == "[-5, \"n7\"]" &&
      v.data?.any fun d => !d.ints.contains Int64.minValue) = true := by decide +kernel
  have hb : (σ.store.get? 0 "b").any (fun v =>
      v.inspect == "[[-5, \"n7\"], -9223372036854775808]" &&
      v.data?.any fun d => d.ints.contains Int64.minValue) = true := by decide +kernel
  obtain ⟨v, hv, ha⟩ := (Option.any_eq_true _ _).mp ha
  obtain ⟨u, hu, hb⟩ := (Option.any_eq_true _ _).mp hb
  simp only [Option.any_eq_true, Bool.and_eq_true, Bool.not_eq_true', List.contains_eq_mem,
    decide_eq_true_eq, decide_eq_false_iff_not, beq_iff_eq] at ha hb
  obtain ⟨htext, d, hd, hleast⟩ := ha
  obtain ⟨htext', e, he, hleast'⟩ := hb
  obtain ⟨w, hw, hequal, -⟩ :=
    (printed_data_reads_back 0 0 "" "" sources v d (.inr ⟨0, "a", hv⟩) hd).1 hleast
  obtain ⟨errors, hne, hrun⟩ :=
    (printed_data_reads_back 0 0 "" "" sources u e (.inr ⟨0, "b", hu⟩) he).2 hleast'
  exact ⟨⟨v, w, hv, htext, hw, hequal⟩, u, errors, hu, htext', hne, hrun⟩

end CurryLang
