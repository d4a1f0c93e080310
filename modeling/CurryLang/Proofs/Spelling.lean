import CurryLang.Token.Lexer

/-!
# Texts and the lexemes they spell

A well-formed lexeme has a spelling, and cutting a text that starts with it gives the lexeme back,
if the character after it does not belong to the lexeme as well.

1. `lexemes` are the tokens of a text without their lines, and they come one after the other.
2. `Lexeme.spelling`, and for every kind of lexeme that cutting its spelling gives the lexeme
   (`Lexeme.cut_spelling`). The other way round, every lexeme of a text is well formed, unless it is
   a comment or illegal.
3. `Spells w cs`: the text `cs` consists of spellings with spaces between them, none of which goes on
   into what follows. Its lexemes are `w`.
-/

namespace CurryLang

open Lexer

/-! ## Lexemes without lines -/

namespace Lexer

/-- The lexemes of a text. -/
def lexemes (cs : List Char) : List Lexeme := (scan 1 0 cs).map Prod.fst

theorem scan_space {c : Char} (hc : isSpace c = true) (line : Nat) (cs : List Char) :
    scan line 0 (c :: cs) = scan (lineAfter line c) 0 cs := by
  rw [scan, if_pos hc]

theorem scan_token {c : Char} (hc : ¬ isSpace c = true) (line : Nat) (cs : List Char) :
    scan line 0 (c :: cs) =
      ((cut c cs).lexeme, line) :: scan (lineAfter line c) (cut c cs).more cs := by
  rw [scan, if_neg hc]

/-- Which lexemes a text has does not depend on the line it starts on. -/
theorem map_fst_scan_line (line line' skip : Nat) (cs : List Char) :
    (scan line skip cs).map Prod.fst = (scan line' skip cs).map Prod.fst := by
  induction cs generalizing line line' skip with
  | nil => rfl
  | cons c cs ih =>
    cases skip with
    | succ k => exact ih _ _ k
    | zero =>
      unfold scan
      simp only
      split
      · exact ih _ _ 0
      · exact congrArg (_ :: ·) (ih _ _ _)

theorem map_fst_scan (line skip : Nat) (cs : List Char) :
    (scan line skip cs).map Prod.fst = lexemes (cs.drop skip) := by
  rw [scan_skip]
  exact map_fst_scan_line _ _ _ _

theorem lexemes_space {c : Char} (hc : isSpace c = true) (cs : List Char) :
    lexemes (c :: cs) = lexemes cs := by
  rw [lexemes, scan, if_pos hc]
  exact map_fst_scan _ 0 cs

theorem lexemes_cons {c : Char} (hc : isSpace c = false) (cs : List Char) :
    lexemes (c :: cs) = (cut c cs).lexeme :: lexemes (cs.drop (cut c cs).more) := by
  rw [lexemes, scan, if_neg (Bool.eq_false_iff.mp hc)]
  exact congrArg (_ :: ·) (map_fst_scan _ _ cs)

/-- Every token of a text was cut somewhere, and not at a space. -/
theorem exists_cut_of_mem_scan {line skip : Nat} {cs : List Char} {y : Lexeme × Nat}
    (h : y ∈ scan line skip cs) : ∃ c rest, isSpace c = false ∧ y.1 = (cut c rest).lexeme := by
  induction cs generalizing line skip with
  | nil => cases h
  | cons c cs ih =>
    cases skip with
    | succ k => exact ih h
    | zero =>
      unfold scan at h
      simp only at h
      split at h
      · exact ih h
      · next hspace =>
        rcases List.mem_cons.mp h with rfl | h
        · exact ⟨c, cs, Bool.eq_false_iff.mpr hspace, rfl⟩
        · exact ih h

/-! ## Classes of characters -/

def isWord : List Char → Bool
  | [] => false
  | c :: cs => isWordStart c && cs.all isWordPart

theorem isSpace_of_isWordPart {c : Char} (h : isWordPart c = true) : isSpace c = false := by
  rw [Bool.eq_false_iff]
  intro hc
  simp only [isSpace, Bool.or_eq_true, beq_iff_eq] at hc
  rcases hc with (((rfl | rfl) | rfl) | rfl) | rfl <;> cases h

theorem isWordStart_of_isDigit {c : Char} (h : c.isDigit = true) : isWordStart c = false := by
  rw [Bool.eq_false_iff]
  intro hword
  obtain hletter | rfl : c.isAlpha = true ∨ c = '_' := by simpa [isWordStart] using hword
  · have hrange : 65 ≤ c.toNat ∧ c.toNat ≤ 90 ∨ 97 ≤ c.toNat ∧ c.toNat ≤ 122 := by
      have hcases : (decide (c.val ≥ 'A'.val ∧ c.val ≤ 'Z'.val) ||
        (decide (c.val ≥ 'a'.val) && decide (c.val ≤ 'z'.val))) = true := hletter
      simpa [UInt32.le_iff_toNat_le] using hcases
    have hdigit : 48 ≤ c.toNat ∧ c.toNat ≤ 57 := by simpa using Char.isDigit_iff_toNat.mp h
    omega
  · cases h

theorem takeWhile_append_stop {p : Char → Bool} {cs rest : List Char} (hcs : cs.all p = true)
    (hrest : rest.head?.any p = false) : (cs ++ rest).takeWhile p = cs := by
  rw [List.takeWhile_append_of_pos (by simpa using hcs)]
  cases rest with
  | nil => simp
  | cons c rest => rw [List.takeWhile_cons_of_neg (by simpa using hrest), List.append_nil]

/-! ## Cutting -/

theorem cut_word {c : Char} {cs rest : List Char} (h : isWord (c :: cs) = true)
    (hrest : rest.head?.any isWordPart = false) :
    cut c (cs ++ rest) = ⟨.ofWord (String.ofList (c :: cs)), cs.length⟩ := by
  obtain ⟨hc, hcs⟩ := Bool.and_eq_true_iff.mp h
  rw [cut, if_pos hc, takeWhile_append_stop hcs hrest]

theorem cut_digits {c : Char} {cs rest : List Char} (h : (c :: cs).all Char.isDigit = true)
    (hrest : rest.head?.any Char.isDigit = false) :
    cut c (cs ++ rest) = ⟨⟨.int, String.ofList (c :: cs)⟩, cs.length⟩ := by
  obtain ⟨hc, hcs⟩ := Bool.and_eq_true_iff.mp h
  rw [cut, if_neg (Bool.eq_false_iff.mp (isWordStart_of_isDigit hc)), if_pos hc,
    takeWhile_append_stop hcs hrest]

theorem cut_quoted {cs : List Char} (h : cs.all isStringPart = true) (rest : List Char) :
    cut '"' (cs ++ '"' :: rest) = ⟨⟨.string, String.ofList cs⟩, cs.length + 1⟩ := by
  have htake : (cs ++ '"' :: rest).takeWhile isStringPart = cs := takeWhile_append_stop h (by rfl)
  have hlength : cs.length < (cs ++ '"' :: rest).length := by simp
  rw [cut, if_neg (by decide), if_neg (by decide), if_pos (by decide), htake, if_pos hlength]

theorem cut_comment {cs rest : List Char} (h : cs.all isCommentPart = true)
    (hrest : rest.head?.any isCommentPart = false) :
    cut '#' (cs ++ rest) = ⟨⟨.comment, String.ofList (Text.trim cs)⟩, cs.length⟩ := by
  rw [cut, if_neg (by decide), if_neg (by decide), if_neg (by decide), if_pos (by decide),
    takeWhile_append_stop h hrest]

/-- A character that starts a symbol starts nothing else. -/
theorem cut_of_symbol? {c : Char} {cs : List Char} {s : Symbol} (h : symbol? c cs.head? = some s) :
    cut c cs = ⟨⟨.symbol s, s.text⟩, s.text.length - 1⟩ := by
  have hplain : isWordStart c = false ∧ c.isDigit = false ∧ (c == '"') = false ∧
      (c == '#') = false := by
    unfold symbol? at h
    split at h
    case h_17 => cases h
    all_goals decide
  obtain ⟨hword, hdigit, hquote, hmark⟩ := hplain
  rw [cut, if_neg (Bool.eq_false_iff.mp hword), if_neg (Bool.eq_false_iff.mp hdigit),
    if_neg (Bool.eq_false_iff.mp hquote), if_neg (Bool.eq_false_iff.mp hmark), h]

end Lexer

theorem TokenStream.map_lexeme_ofSource (source file : String) :
    (TokenStream.ofSource source file).tokens.map Token.lexeme = lexemes source.toList := by
  unfold TokenStream.ofSource lexemes
  rw [List.map_map]
  rfl

/-! ## Spellings -/

/-- A name: a word that is not reserved. -/
def Lexer.isName (name : String) : Bool :=
  isWord name.toList && (Keyword.ofText? name).isNone

namespace Lexeme

def ofKeyword (k : Keyword) : Lexeme := ⟨.keyword k, k.text⟩

def ofSymbol (s : Symbol) : Lexeme := ⟨.symbol s, s.text⟩

/-- How a lexeme stands in a text. -/
def spelling (x : Lexeme) : List Char :=
  match x.kind with
  | .string => '"' :: (x.literal.toList ++ ['"'])
  | .comment => '#' :: x.literal.toList
  | _ => x.literal.toList

/-- The literal fits the kind. -/
def wellFormed (x : Lexeme) : Bool :=
  match x.kind with
  | .ident => isName x.literal
  | .int => !x.literal.toList.isEmpty && x.literal.toList.all Char.isDigit
  | .string => x.literal.toList.all isStringPart
  | .comment => x.literal.toList.all isCommentPart && Text.trim x.literal.toList == x.literal.toList
  | .keyword k => x.literal == k.text
  | .symbol s => x.literal == s.text
  | .eof | .illegal => false

/-- The character after the lexeme does not belong to it as well. -/
def endsBefore (x : Lexeme) (next : Option Char) : Bool :=
  match x.kind with
  | .ident | .keyword _ => !next.any isWordPart
  | .int => !next.any Char.isDigit
  | .comment => !next.any isCommentPart
  | .symbol .assign | .symbol .bang => next != some '='
  | _ => true

theorem ofWord_of_isName {name : String} (h : isName name = true) :
    ofWord name = ⟨.ident, name⟩ := by
  have hfree : Keyword.ofText? name = none := by
    simpa using (Bool.and_eq_true_iff.mp h).2
  rw [ofWord, hfree]

theorem ofWord_text (k : Keyword) : ofWord k.text = ofKeyword k := by
  cases k <;> decide

theorem cut_ofWord {word : String} {rest : List Char} (h : isWord word.toList = true)
    (hrest : rest.head?.any isWordPart = false) : ∃ c cs, word.toList = c :: cs ∧
      isSpace c = false ∧ cut c (cs ++ rest) = ⟨ofWord word, cs.length⟩ := by
  cases hw : word.toList with
  | nil => rw [hw] at h; cases h
  | cons c cs =>
    rw [hw] at h
    have hstart : isWordStart c = true := (Bool.and_eq_true_iff.mp h).1
    refine ⟨c, cs, rfl, isSpace_of_isWordPart (by simp [isWordPart, hstart]), ?_⟩
    rw [cut_word h hrest, ← hw, String.ofList_toList]

/-- A symbol is cut out whole, unless it is the first half of a longer one. -/
theorem cut_ofSymbol {s : Symbol} {rest : List Char}
    (h : (ofSymbol s).endsBefore rest.head? = true) : ∃ c cs, s.text.toList = c :: cs ∧
      isSpace c = false ∧ cut c (cs ++ rest) = ⟨ofSymbol s, cs.length⟩ := by
  cases s with
  | assign =>
    have hnext : rest.head? ≠ some '=' := by simpa [endsBefore, ofSymbol] using h
    exact ⟨'=', [], rfl, rfl, cut_of_symbol? (congrArg some (if_neg hnext))⟩
  | bang =>
    have hnext : rest.head? ≠ some '=' := by simpa [endsBefore, ofSymbol] using h
    exact ⟨'!', [], rfl, rfl, cut_of_symbol? (congrArg some (if_neg hnext))⟩
  | equal => exact ⟨'=', ['='], rfl, rfl, cut_of_symbol? rfl⟩
  | notEqual => exact ⟨'!', ['='], rfl, rfl, cut_of_symbol? rfl⟩
  | _ => exact ⟨_, [], rfl, rfl, cut_of_symbol? rfl⟩

/-- **Cutting the spelling of a lexeme gives the lexeme**, if it ends where its spelling ends. -/
theorem cut_spelling {x : Lexeme} (hx : x.wellFormed = true) {rest : List Char}
    (hrest : x.endsBefore rest.head? = true) : ∃ c cs, x.spelling = c :: cs ∧
      isSpace c = false ∧ cut c (cs ++ rest) = ⟨x, cs.length⟩ := by
  obtain ⟨kind, literal⟩ := x
  cases kind with
  | ident =>
    have hname : isName literal = true := hx
    have hword := cut_ofWord (Bool.and_eq_true_iff.mp hname).1 (by simpa [endsBefore] using hrest)
    rwa [ofWord_of_isName hname] at hword
  | keyword k =>
    obtain rfl : literal = k.text := by simpa [wellFormed] using hx
    have hword : isWord k.text.toList = true := by cases k <;> decide
    have hcut := cut_ofWord hword (by simpa [endsBefore] using hrest)
    rwa [ofWord_text] at hcut
  | symbol s =>
    obtain rfl : literal = s.text := by simpa [wellFormed] using hx
    exact cut_ofSymbol hrest
  | int =>
    obtain ⟨hne, hdigits⟩ := Bool.and_eq_true_iff.mp hx
    have hne : literal.toList ≠ [] := by simpa using hne
    obtain ⟨c, cs, hcs⟩ := List.exists_cons_of_ne_nil hne
    rw [hcs] at hdigits
    have hdigit : c.isDigit = true := (Bool.and_eq_true_iff.mp hdigits).1
    refine ⟨c, cs, hcs, isSpace_of_isWordPart (by simp [isWordPart, hdigit]), ?_⟩
    rw [cut_digits hdigits (by simpa [endsBefore] using hrest), ← hcs, String.ofList_toList]
  | string =>
    refine ⟨'"', literal.toList ++ ['"'], rfl, rfl, ?_⟩
    rw [List.append_assoc, List.singleton_append, cut_quoted hx, String.ofList_toList]
    simp
  | comment =>
    obtain ⟨hparts, htrim⟩ := Bool.and_eq_true_iff.mp hx
    refine ⟨'#', literal.toList, rfl, rfl, ?_⟩
    rw [cut_comment hparts (by simpa [endsBefore] using hrest), eq_of_beq htrim,
      String.ofList_toList]
  | eof | illegal => cases hx

theorem lexemes_spelling {x : Lexeme} (hx : x.wellFormed = true) {rest : List Char}
    (hrest : x.endsBefore rest.head? = true) :
    lexemes (x.spelling ++ rest) = x :: lexemes rest := by
  obtain ⟨c, cs, hspelling, hspace, hcut⟩ := cut_spelling hx hrest
  rw [hspelling, List.cons_append, lexemes_cons hspace, hcut]
  simp

theorem wellFormed_ofWord {word : String} (h : isWord word.toList = true) :
    (ofWord word).wellFormed = true := by
  unfold ofWord
  cases hk : Keyword.ofText? word with
  | some k =>
    have htext := List.find?_some hk
    simpa [wellFormed] using (eq_of_beq htext).symm
  | none => simp [wellFormed, isName, h, hk]

/-- What is cut out of a text is a comment, illegal or well formed. -/
theorem cut_cases (c : Char) (cs : List Char) :
    (cut c cs).lexeme.kind = .comment ∨ (cut c cs).lexeme.kind = .illegal ∨
      (cut c cs).lexeme.wellFormed = true := by
  by_cases hword : isWordStart c = true
  · rw [cut, if_pos hword]
    refine .inr (.inr (wellFormed_ofWord ?_))
    rw [String.toList_ofList, isWord, hword, List.all_takeWhile]
    rfl
  rw [cut, if_neg hword]
  by_cases hdigit : c.isDigit = true
  · rw [if_pos hdigit]
    exact .inr (.inr (by simp [wellFormed, hdigit]))
  rw [if_neg hdigit]
  by_cases hquote : (c == '"') = true
  · rw [if_pos hquote]
    by_cases hclosed : (cs.takeWhile isStringPart).length < cs.length
    · rw [if_pos hclosed]
      exact .inr (.inr (by simp [wellFormed]))
    · rw [if_neg hclosed]
      exact .inr (.inl rfl)
  rw [if_neg hquote]
  by_cases hmark : (c == '#') = true
  · rw [if_pos hmark]
    exact .inl rfl
  rw [if_neg hmark]
  cases symbol? c cs.head? with
  | some s => exact .inr (.inr (by simp [wellFormed]))
  | none => exact .inr (.inl rfl)

theorem wellFormed_of_mem_lexemes {x : Lexeme} {cs : List Char} (h : x ∈ lexemes cs)
    (hcomment : x.kind ≠ .comment) (hillegal : x.kind ≠ .illegal) : x.wellFormed = true := by
  obtain ⟨y, hy, rfl⟩ := List.mem_map.mp h
  obtain ⟨c, rest, -, hcut⟩ := exists_cut_of_mem_scan hy
  rw [hcut] at hcomment hillegal ⊢
  exact ((cut_cases c rest).resolve_left hcomment).resolve_left hillegal

end Lexeme

/-! ## Texts made of spellings -/

/-- The text consists of the spellings of the lexemes, with spaces between them. A spelling ends
before what follows. -/
inductive Spells : List Lexeme → List Char → Prop where
  | nil : Spells [] []
  | space {c : Char} {w : List Lexeme} {cs : List Char} (hc : isSpace c = true) (h : Spells w cs) :
    Spells w (c :: cs)
  | cons {x : Lexeme} {w : List Lexeme} {cs : List Char} (hx : x.wellFormed = true)
    (hcs : x.endsBefore cs.head? = true) (h : Spells w cs) : Spells (x :: w) (x.spelling ++ cs)

/-- **A text has the lexemes that it spells.** -/
theorem Spells.lexemes_eq {w : List Lexeme} {cs : List Char} (h : Spells w cs) :
    lexemes cs = w := by
  induction h with
  | nil => rfl
  | space hc _ ih => rw [lexemes_space hc, ih]
  | cons hx hcs _ ih => rw [Lexeme.lexemes_spelling hx hcs, ih]

end CurryLang
