import CurryLang.Proofs.Spelling

/-!
# How a text falls into tokens

Every character of a source text belongs to one token or to one gap between tokens, and every token
is as long as it can be.

1. `Lexeme.Covers x piece after`: the lexeme `x` stands for the characters `piece` of a text that goes
   on with `after`. There is one rule for each kind, and each says how the literal is taken from the
   characters and what may not come next.
2. What is cut out of a text covers the characters it takes (`covers_cut`), and a lexeme that covers
   the front of a text is cut out of it (`Lexeme.Covers.cut_eq`).
3. So a text has exactly one decomposition into gaps and covered pieces, and its lexemes are the
   tokens of the text (`tokens_iff_fallsInto`).
-/

namespace CurryLang

open Lexer

/-! ## Characters -/

/-- The characters that may stand in a gap. -/
def separators : List Char := [' ', '\t', '\r', '\n', '\x0c']

def Letter (c : Char) : Prop := ('A' ≤ c ∧ c ≤ 'Z') ∨ ('a' ≤ c ∧ c ≤ 'z') ∨ c = '_'

def Digit (c : Char) : Prop := '0' ≤ c ∧ c ≤ '9'

/-- A letter with letters and digits after it. -/
def Word : List Char → Prop
  | [] => False
  | c :: rest => Letter c ∧ ∀ d ∈ rest, Letter d ∨ Digit d

/-- No gap and no token but an illegal one starts with the character. -/
structure Stray (c : Char) : Prop where
  separator : c ∉ separators
  letter : ¬ Letter c
  digit : ¬ Digit c
  quote : c ≠ '"'
  mark : c ≠ '#'
  symbol : ∀ s : Symbol, s.text.toList.head? ≠ some c

/-- `text` is `body` without the blank characters at both ends. -/
def Trims (body text : List Char) : Prop :=
  ∃ front back, body = front ++ text ++ back ∧
    (∀ c ∈ front, Text.isBlank c = true) ∧ (∀ c ∈ back, Text.isBlank c = true) ∧
    (∀ c, text.head? = some c → Text.isBlank c = false) ∧
    (∀ c, text.getLast? = some c → Text.isBlank c = false)

theorem isSpace_iff {c : Char} : isSpace c = true ↔ c ∈ separators := by
  simp [isSpace, separators, or_assoc]

theorem isWordStart_iff {c : Char} : isWordStart c = true ↔ Letter c := by
  have hupper : c.isUpper = decide ('A' ≤ c ∧ c ≤ 'Z') := rfl
  have hlower : c.isLower = (decide ('a' ≤ c) && decide (c ≤ 'z')) := rfl
  have halpha : c.isAlpha = (c.isUpper || c.isLower) := rfl
  simp only [isWordStart, halpha, hupper, hlower, Letter, Bool.or_eq_true, Bool.and_eq_true,
    decide_eq_true_eq, beq_iff_eq, or_assoc]

theorem isDigit_iff {c : Char} : c.isDigit = true ↔ Digit c := by
  simp only [Char.isDigit, Digit, Char.le_def, Bool.and_eq_true, decide_eq_true_eq, ge_iff_le]

theorem isWordPart_iff {c : Char} : isWordPart c = true ↔ Letter c ∨ Digit c := by
  rw [isWordPart, Bool.or_eq_true, isWordStart_iff, isDigit_iff]

theorem isWord_iff {cs : List Char} : isWord cs = true ↔ Word cs := by
  cases cs with
  | nil => simp [isWord, Word]
  | cons c cs => simp [isWord, Word, isWordStart_iff, isWordPart_iff]

/-! ## Pieces of a text -/

/-- The lexeme stands for the characters `piece` of a text that goes on with `after`. -/
inductive Lexeme.Covers : Lexeme → List Char → List Char → Prop where
  /-- A word that is not reserved, up to the first character that is neither letter nor digit. -/
  | ident {word after : List Char} (hword : Word word) (hfree : ∀ k : Keyword, k.text.toList ≠ word)
      (hend : ∀ c, after.head? = some c → ¬ (Letter c ∨ Digit c)) :
      Covers ⟨.ident, String.ofList word⟩ word after
  /-- A reserved word, up to such a character as well. -/
  | keyword {k : Keyword} {after : List Char}
      (hend : ∀ c, after.head? = some c → ¬ (Letter c ∨ Digit c)) :
      Covers ⟨.keyword k, k.text⟩ k.text.toList after
  /-- Digits, up to the first character that is none. -/
  | int {digits after : List Char} (hne : digits ≠ []) (hdigits : ∀ c ∈ digits, Digit c)
      (hend : ∀ c, after.head? = some c → ¬ Digit c) :
      Covers ⟨.int, String.ofList digits⟩ digits after
  /-- A text between two quotes, without a quote inside. -/
  | string {text after : List Char} (htext : '"' ∉ text) :
      Covers ⟨.string, String.ofList text⟩ ('"' :: (text ++ ['"'])) after
  /-- The rest of a line behind the mark; the literal is what is left after trimming it. -/
  | comment {body text after : List Char} (hbody : ∀ c ∈ body, c ≠ '\n' ∧ c ≠ '\r')
      (htrim : Trims body text) (hend : ∀ c, after.head? = some c → c = '\n' ∨ c = '\r') :
      Covers ⟨.comment, String.ofList text⟩ ('#' :: body) after
  /-- An operator or delimiter that is not the first half of a longer one. -/
  | symbol {s : Symbol} {after : List Char}
      (hend : s = .assign ∨ s = .bang → after.head? ≠ some '=') :
      Covers ⟨.symbol s, s.text⟩ s.text.toList after
  /-- A character that starts no token. -/
  | stray {c : Char} {after : List Char} (hc : Stray c) :
      Covers ⟨.illegal, String.ofList [c]⟩ [c] after
  /-- The rest of the text behind a quote that is not closed. -/
  | unclosed {body : List Char} (hbody : '"' ∉ body) :
      Covers ⟨.illegal, String.ofList ('"' :: body)⟩ ('"' :: body) []

/-- The text consists of gaps and of pieces that the lexemes cover, in this order: a gap, the piece of
the first lexeme, a gap, and so on up to the last gap. -/
inductive FallsInto : List Lexeme → List Char → Prop where
  | gap {gap : List Char} (hgap : ∀ c ∈ gap, c ∈ separators) : FallsInto [] gap
  | token {x : Lexeme} {w : List Lexeme} {gap piece after : List Char}
      (hgap : ∀ c ∈ gap, c ∈ separators) (hpiece : piece ≠ []) (hx : x.Covers piece after)
      (h : FallsInto w after) : FallsInto (x :: w) (gap ++ piece ++ after)

theorem FallsInto.space {c : Char} (hc : c ∈ separators) {w : List Lexeme} {cs : List Char}
    (h : FallsInto w cs) : FallsInto w (c :: cs) := by
  cases h with
  | gap hgap => exact .gap (List.forall_mem_cons.mpr ⟨hc, hgap⟩)
  | @token x w gap piece after hgap hpiece hx h =>
    show FallsInto (x :: w) ((c :: gap) ++ piece ++ after)
    exact .token (List.forall_mem_cons.mpr ⟨hc, hgap⟩) hpiece hx h

/-! ## Runs and trimming -/

/-- A text starts with a run of characters of a class, up to one that does not belong to it. -/
theorem exists_run (p : Char → Bool) (cs : List Char) :
    ∃ run after, cs = run ++ after ∧ run.all p = true ∧ after.head?.any p = false := by
  refine ⟨cs.takeWhile p, cs.dropWhile p, List.takeWhile_append_dropWhile.symm,
    List.all_takeWhile, ?_⟩
  have h := List.head?_dropWhile_not p cs
  cases hc : (cs.dropWhile p).head? with
  | none => rfl
  | some c =>
    rw [hc] at h
    simpa using h

theorem dropWhile_run {p : Char → Bool} {run after : List Char} (hrun : ∀ c ∈ run, p c = true)
    (hafter : ∀ c, after.head? = some c → p c = false) : (run ++ after).dropWhile p = after := by
  rw [List.dropWhile_append_of_pos hrun]
  cases after with
  | nil => rfl
  | cons c after => exact List.dropWhile_cons_of_neg (by simp [hafter c rfl])

theorem trims_trim (body : List Char) : Trims body (Text.trim body) := by
  obtain ⟨front, mid, rfl, hfront, hmid⟩ := exists_run Text.isBlank body
  obtain ⟨back, text, hsplit, hback, htext⟩ := exists_run Text.isBlank mid.reverse
  have hdrop {run after : List Char} (hrun : run.all Text.isBlank = true)
      (hafter : after.head?.any Text.isBlank = false) :
      (run ++ after).dropWhile Text.isBlank = after :=
    dropWhile_run (by simpa using hrun) fun c hc => by simpa [hc] using hafter
  have htrim : Text.trim (front ++ mid) = text.reverse := by
    rw [Text.trim, hdrop hfront hmid, hsplit, hdrop hback htext]
  have hmid' : mid = text.reverse ++ back.reverse := by
    rw [← List.reverse_append, ← hsplit, List.reverse_reverse]
  rw [htrim]
  refine ⟨front, back.reverse, by rw [hmid', List.append_assoc], by simpa using hfront,
    by simpa using hback, fun c hc => ?_, fun c hc => ?_⟩
  · have hhead : mid.head? = some c := by rw [hmid', List.head?_append, hc]; rfl
    simpa [hhead] using hmid
  · rw [List.getLast?_reverse] at hc
    simpa [hc] using htext

theorem Trims.trim_eq {body text : List Char} (h : Trims body text) : Text.trim body = text := by
  obtain ⟨front, back, rfl, hfront, hback, hhead, hlast⟩ := h
  have hreverse : (back.reverse ++ text.reverse).dropWhile Text.isBlank = text.reverse := by
    refine dropWhile_run (by simpa using hback) fun c hc => hlast c ?_
    rwa [List.head?_reverse] at hc
  cases text with
  | nil =>
    have hblank : ∀ c ∈ front ++ back, Text.isBlank c = true := by
      simpa [or_imp, forall_and] using ⟨hfront, hback⟩
    have hall : (front ++ back ++ []).dropWhile Text.isBlank = [] := dropWhile_run hblank nofun
    rw [List.append_nil] at hall
    rw [Text.trim, List.append_nil, hall]
    rfl
  | cons c text =>
    have hfrom : (front ++ (c :: text ++ back)).dropWhile Text.isBlank = c :: text ++ back :=
      dropWhile_run hfront fun d hd => hhead d hd
    rw [Text.trim, List.append_assoc, hfrom, List.reverse_append, hreverse, List.reverse_reverse]

/-! ## Pieces that are no words -/

theorem all_isStringPart_iff {cs : List Char} : cs.all isStringPart = true ↔ '"' ∉ cs := by
  simp [isStringPart, List.forall_mem_ne']

theorem all_isCommentPart_iff {cs : List Char} :
    cs.all isCommentPart = true ↔ ∀ c ∈ cs, c ≠ '\n' ∧ c ≠ '\r' := by
  simp [isCommentPart]

/-- A quote that is not closed takes the rest of the text. -/
theorem cut_unclosed {body : List Char} (h : body.all isStringPart = true) :
    cut '"' body = ⟨⟨.illegal, String.ofList ('"' :: body)⟩, body.length⟩ := by
  have htake : (body ++ []).takeWhile isStringPart = body := takeWhile_append_stop h rfl
  rw [List.append_nil] at htake
  rw [cut, if_neg (by decide), if_neg (by decide), if_pos (by decide), htake,
    if_neg (Nat.lt_irrefl _)]

/-- The symbol that starts a text covers its characters: where a longer one could be taken, it is. -/
theorem covers_symbol {c : Char} {cs : List Char} {s : Symbol} (h : symbol? c cs.head? = some s) :
    ∃ more after, cs = more ++ after ∧ s.text.toList = c :: more ∧
      Lexeme.Covers ⟨.symbol s, s.text⟩ (c :: more) after := by
  have single {c : Char} {s : Symbol} (htext : s.text.toList = [c])
      (hend : s = .assign ∨ s = .bang → cs.head? ≠ some '=') :
      ∃ more after, cs = more ++ after ∧ s.text.toList = c :: more ∧
        Lexeme.Covers ⟨.symbol s, s.text⟩ (c :: more) after :=
    ⟨[], cs, rfl, htext, htext ▸ .symbol hend⟩
  have double {c : Char} {s : Symbol} (htext : s.text.toList = [c, '='])
      (hs : ¬ (s = .assign ∨ s = .bang)) (hnext : cs.head? = some '=') :
      ∃ more after, cs = more ++ after ∧ s.text.toList = c :: more ∧
        Lexeme.Covers ⟨.symbol s, s.text⟩ (c :: more) after := by
    obtain ⟨after, rfl⟩ := List.head?_eq_some_iff.mp hnext
    exact ⟨['='], after, rfl, htext, htext ▸ .symbol fun hs' => absurd hs' hs⟩
  unfold symbol? at h
  split at h
  case h_1 =>
    split at h
    · next hnext => cases h; exact double rfl (by decide) hnext
    · next hnext => cases h; exact single rfl fun _ => hnext
  case h_2 =>
    split at h
    · next hnext => cases h; exact double rfl (by decide) hnext
    · next hnext => cases h; exact single rfl fun _ => hnext
  case h_17 => cases h
  all_goals
    cases h
    exact single rfl fun hs => absurd hs (by decide)

theorem head?_text_ne {c : Char} {next : Option Char} (h : symbol? c next = none) (s : Symbol) :
    s.text.toList.head? ≠ some c := by
  intro hs
  cases s
  all_goals
    cases Option.some.inj hs
    cases h

/-- A stray character is a token of its own. -/
theorem cut_stray {c : Char} (h : Stray c) (cs : List Char) :
    cut c cs = ⟨⟨.illegal, String.ofList [c]⟩, 0⟩ := by
  have hsymbol : symbol? c cs.head? = none := by
    cases hs : symbol? c cs.head? with
    | none => rfl
    | some s =>
      obtain ⟨more, -, -, htext, -⟩ := covers_symbol hs
      exact absurd (by rw [htext]; rfl) (h.symbol s)
  rw [cut, if_neg (mt isWordStart_iff.mp h.letter), if_neg (mt isDigit_iff.mp h.digit),
    if_neg (by simpa using h.quote), if_neg (by simpa using h.mark), hsymbol]

/-! ## What is cut out covers what it takes -/

theorem not_wordPart_of_any {after : List Char} (h : after.head?.any isWordPart = false) :
    ∀ c, after.head? = some c → ¬ (Letter c ∨ Digit c) := by
  intro c hc hpart
  rw [hc, Option.any_some, isWordPart_iff.mpr hpart] at h
  cases h

theorem covers_ofWord {c : Char} {more after : List Char} (hword : isWord (c :: more) = true)
    (hafter : after.head?.any isWordPart = false) :
    (Lexeme.ofWord (String.ofList (c :: more))).Covers (c :: more) after := by
  have hend := not_wordPart_of_any hafter
  unfold Lexeme.ofWord
  cases hk : Keyword.ofText? (String.ofList (c :: more)) with
  | some k =>
    have hfound := List.find?_some hk
    have htext : k.text = String.ofList (c :: more) := eq_of_beq hfound
    have hpiece : c :: more = k.text.toList := by rw [htext, String.toList_ofList]
    rw [← htext, hpiece]
    exact .keyword hend
  | none =>
    refine .ident (isWord_iff.mp hword) (fun k hkey => ?_) hend
    have hnone := List.find?_eq_none.mp hk k (Keyword.mem_all k)
    rw [← hkey, String.ofList_toList] at hnone
    simp at hnone

/-- The token cut out of a text at `c` covers `c` and the characters that it takes after it. -/
def CutCovers (c : Char) (cs : List Char) : Prop :=
  ∃ more after, cs = more ++ after ∧ (cut c cs).more = more.length ∧
    (cut c cs).lexeme.Covers (c :: more) after

theorem cutCovers_word {c : Char} (hc : isWordStart c = true) (cs : List Char) :
    CutCovers c cs := by
  obtain ⟨more, after, rfl, hmore, hafter⟩ := exists_run isWordPart cs
  have hword : isWord (c :: more) = true := Bool.and_eq_true_iff.mpr ⟨hc, hmore⟩
  refine ⟨more, after, rfl, ?_⟩
  rw [cut_word hword hafter]
  exact ⟨rfl, covers_ofWord hword hafter⟩

theorem cutCovers_digits {c : Char} (hc : c.isDigit = true) (cs : List Char) :
    CutCovers c cs := by
  obtain ⟨more, after, rfl, hmore, hafter⟩ := exists_run Char.isDigit cs
  have hdigits : (c :: more).all Char.isDigit = true := Bool.and_eq_true_iff.mpr ⟨hc, hmore⟩
  refine ⟨more, after, rfl, ?_⟩
  rw [cut_digits hdigits hafter]
  refine ⟨rfl, .int (List.cons_ne_nil _ _) (fun d hd => ?_) fun d hd hdigit => ?_⟩
  · exact isDigit_iff.mp (List.all_eq_true.mp hdigits d hd)
  · rw [hd, Option.any_some, isDigit_iff.mpr hdigit] at hafter
    cases hafter

theorem cutCovers_quote (cs : List Char) : CutCovers '"' cs := by
  obtain ⟨text, after, rfl, htext, hafter⟩ := exists_run isStringPart cs
  have hplain : '"' ∉ text := all_isStringPart_iff.mp htext
  cases after with
  | nil =>
    refine ⟨text, [], rfl, ?_⟩
    rw [List.append_nil, cut_unclosed htext]
    exact ⟨rfl, .unclosed hplain⟩
  | cons d after =>
    obtain rfl : d = '"' := by simpa [isStringPart] using hafter
    refine ⟨text ++ ['"'], after, by simp, ?_⟩
    rw [cut_quoted htext]
    exact ⟨by simp, .string hplain⟩

theorem cutCovers_mark (cs : List Char) : CutCovers '#' cs := by
  obtain ⟨body, after, rfl, hbody, hafter⟩ := exists_run isCommentPart cs
  refine ⟨body, after, rfl, ?_⟩
  rw [cut_comment hbody hafter]
  refine ⟨rfl, .comment (all_isCommentPart_iff.mp hbody) (trims_trim body) fun d hd => ?_⟩
  rw [hd, Option.any_some] at hafter
  simpa [isCommentPart, Classical.or_iff_not_imp_left] using hafter

theorem cutCovers_symbol {c : Char} {cs : List Char} {s : Symbol}
    (hs : symbol? c cs.head? = some s) : CutCovers c cs := by
  obtain ⟨more, after, hsplit, htext, hcovers⟩ := covers_symbol hs
  refine ⟨more, after, hsplit, ?_⟩
  rw [cut_of_symbol? hs, ← String.length_toList, htext]
  exact ⟨rfl, hcovers⟩

/-- **What is cut out of a text covers the characters it takes.** -/
theorem covers_cut {c : Char} (hc : isSpace c = false) (cs : List Char) : CutCovers c cs := by
  by_cases hletter : isWordStart c = true
  · exact cutCovers_word hletter cs
  by_cases hdigit : c.isDigit = true
  · exact cutCovers_digits hdigit cs
  by_cases hquote : c = '"'
  · exact hquote ▸ cutCovers_quote cs
  by_cases hmark : c = '#'
  · exact hmark ▸ cutCovers_mark cs
  cases hs : symbol? c cs.head? with
  | some s => exact cutCovers_symbol hs
  | none =>
    have hstray : Stray c := by
      refine ⟨?_, ?_, ?_, hquote, hmark, head?_text_ne hs⟩
      · rw [← isSpace_iff, hc]
        exact Bool.false_ne_true
      · rwa [← isWordStart_iff]
      · rwa [← isDigit_iff]
    refine ⟨[], cs, rfl, ?_⟩
    rw [cut_stray hstray]
    exact ⟨rfl, .stray hstray⟩

theorem fallsInto_lexemes (cs : List Char) : FallsInto (lexemes cs) cs := by
  -- a token may take many characters at once, so the induction is on the length
  induction hn : cs.length using Nat.strongRecOn generalizing cs with
  | ind n ih =>
    cases cs with
    | nil => exact .gap nofun
    | cons c cs =>
      by_cases hc : isSpace c = true
      · rw [lexemes_space hc]
        exact (ih cs.length (by rw [← hn]; exact Nat.lt_succ_self _) cs rfl).space (isSpace_iff.mp hc)
      · have hc : isSpace c = false := Bool.eq_false_iff.mpr hc
        obtain ⟨more, after, rfl, hmore, hcovers⟩ := covers_cut hc cs
        rw [lexemes_cons hc, hmore, List.drop_left]
        have hshorter : after.length < n := by
          rw [← hn, List.length_cons, List.length_append]
          omega
        show FallsInto _ ([] ++ c :: more ++ after)
        exact .token nofun (List.cons_ne_nil _ _) hcovers (ih _ hshorter after rfl)

/-! ## What covers the front of a text is cut out of it -/

/-- A lexeme that covers the front of a text is cut out of it. -/
theorem Lexeme.Covers.cut_eq {x : Lexeme} {piece after : List Char} (h : x.Covers piece after) :
    ∃ c more, piece = c :: more ∧ isSpace c = false ∧ cut c (more ++ after) = ⟨x, more.length⟩ := by
  have any_false {p : Char → Bool} (hend : ∀ c, after.head? = some c → ¬ p c = true) :
      after.head?.any p = false := by
    cases hc : after.head? with
    | none => rfl
    | some c => exact Bool.eq_false_iff.mpr (hend c hc)
  cases h with
  | ident hword hfree hend =>
    have hname : wellFormed ⟨.ident, String.ofList piece⟩ = true := by
      have hnone : Keyword.ofText? (String.ofList piece) = none := by
        refine List.find?_eq_none.mpr fun k _ hk => hfree k ?_
        rw [eq_of_beq hk, String.toList_ofList]
      rw [wellFormed, isName, hnone, String.toList_ofList, isWord_iff.mpr hword]
      rfl
    have hends : endsBefore ⟨.ident, String.ofList piece⟩ after.head? = true := by
      simpa [endsBefore] using any_false fun c hc => mt isWordPart_iff.mp (hend c hc)
    have hcut := cut_spelling hname hends
    rwa [spelling, String.toList_ofList] at hcut
  | @keyword k _ hend =>
    refine cut_spelling (x := ofKeyword k) (by simp [wellFormed, ofKeyword]) ?_
    simpa [endsBefore, ofKeyword] using any_false fun c hc => mt isWordPart_iff.mp (hend c hc)
  | int hne hdigits hend =>
    have hall : piece.all Char.isDigit = true :=
      List.all_eq_true.mpr fun c hc => isDigit_iff.mpr (hdigits c hc)
    have hends : endsBefore ⟨.int, String.ofList piece⟩ after.head? = true := by
      simpa [endsBefore] using any_false fun c hc => mt isDigit_iff.mp (hend c hc)
    have hcut := cut_spelling (by simpa [wellFormed, hne] using hall) hends
    rwa [spelling, String.toList_ofList] at hcut
  | @string text _ htext =>
    have hends : endsBefore ⟨.string, String.ofList text⟩ after.head? = true := rfl
    have hcut := cut_spelling
      (by rw [wellFormed, String.toList_ofList]; exact all_isStringPart_iff.mpr htext) hends
    rwa [spelling, String.toList_ofList] at hcut
  | @comment body text _ hbody htrim hend =>
    refine ⟨'#', body, rfl, rfl, ?_⟩
    rw [cut_comment (all_isCommentPart_iff.mpr hbody), htrim.trim_eq]
    refine any_false fun c hc hpart => ?_
    rcases hend c hc with rfl | rfl <;> cases hpart
  | @symbol s _ hend =>
    refine cut_ofSymbol ?_
    cases s with
    | assign | bang => simpa [endsBefore, ofSymbol] using hend (by decide)
    | _ => rfl
  | @stray c _ hc =>
    exact ⟨c, [], rfl, Bool.eq_false_iff.mpr (mt isSpace_iff.mp hc.separator), cut_stray hc after⟩
  | @unclosed body hbody =>
    refine ⟨'"', body, rfl, rfl, ?_⟩
    rw [List.append_nil]
    exact cut_unclosed (all_isStringPart_iff.mpr hbody)

theorem FallsInto.lexemes_eq {w : List Lexeme} {cs : List Char} (h : FallsInto w cs) :
    lexemes cs = w := by
  have skip {gap : List Char} (hgap : ∀ c ∈ gap, c ∈ separators) (cs : List Char) :
      lexemes (gap ++ cs) = lexemes cs := by
    induction gap with
    | nil => rfl
    | cons c gap ih =>
      rw [List.cons_append, lexemes_space (isSpace_iff.mpr (hgap c List.mem_cons_self))]
      exact ih fun d hd => hgap d (List.mem_cons_of_mem _ hd)
  induction h with
  | @gap gap hgap =>
    have h := skip hgap []
    rwa [List.append_nil] at h
  | token hgap hpiece hx _ ih =>
    obtain ⟨c, more, rfl, hspace, hcut⟩ := hx.cut_eq
    rw [List.append_assoc, skip hgap, List.cons_append, lexemes_cons hspace, hcut, List.drop_left, ih]

/-! ## Main result -/

/-- **The tokens of a source text are the lexemes of its only decomposition**: nothing of the text is
lost, and every token is as long as it can be. -/
theorem tokens_iff_fallsInto (source file : String) (w : List Lexeme) :
    (TokenStream.ofSource source file).tokens.map Token.lexeme = w ↔
      FallsInto w source.toList := by
  rw [TokenStream.map_lexeme_ofSource]
  exact ⟨fun h => h ▸ fallsInto_lexemes _, fun h => h.lexemes_eq⟩

end CurryLang
