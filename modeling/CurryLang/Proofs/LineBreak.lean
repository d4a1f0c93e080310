import CurryLang.Proofs.Decomposition

/-!
# Tokens across a line break

A line feed ends every token, except for a string that is still open. So the tokens of two texts on
lines of their own are those of the first text and those of the second one, further down, if and only
if no string of the first text is left open.

1. A token is cut out of a line in the same way whatever lines follow, unless it is an open string
   (`cut_append_newline`); an open string goes on into them (`not_unclosed_of_cut_eq`).
2. The same holds of all tokens of a text (`scan_append_newline_iff`), by induction on the text.
3. A text further down has its tokens further down (`scan_later`).
-/

namespace CurryLang

open Lexer

/-- A string without its closing quote: an illegal lexeme that starts with a quote. -/
def Lexeme.Unclosed (x : Lexeme) : Prop :=
  x.kind = .illegal ∧ x.literal.toList.head? = some '"'

instance (x : Lexeme) : Decidable x.Unclosed :=
  inferInstanceAs (Decidable (x.kind = .illegal ∧ x.literal.toList.head? = some '"'))

namespace Lexer

/-! ## One token -/

/-- A run of characters to which the line feed does not belong ends there. -/
theorem takeWhile_append_newline {p : Char → Bool} (hp : p '\n' = false) (cs ds : List Char) :
    (cs ++ '\n' :: ds).takeWhile p = cs.takeWhile p := by
  induction cs with
  | nil => exact List.takeWhile_cons_of_neg (Bool.eq_false_iff.mp hp)
  | cons c cs ih =>
    rw [List.cons_append, List.takeWhile_cons, List.takeWhile_cons, ih]

theorem length_symbol_le {c : Char} {cs : List Char} {s : Symbol}
    (h : symbol? c cs.head? = some s) : s.text.length - 1 ≤ cs.length := by
  cases cs with
  | nil =>
    unfold symbol? at h
    split at h
    case h_17 => cases h
    all_goals
      cases h
      decide
  | cons d cs =>
    have htwo : s.text.length ≤ 2 := by cases s <;> decide
    rw [List.length_cons]
    omega

theorem symbol?_append_newline (c : Char) (cs ds : List Char) :
    symbol? c (cs ++ '\n' :: ds).head? = symbol? c cs.head? := by
  cases cs with
  | cons d cs => rfl
  | nil =>
    unfold symbol?
    split <;> rfl

/-- A token that is cut out of a line does not depend on the lines that follow, unless it is a string
that is left open. -/
theorem cut_append_newline {c : Char} {cs : List Char} (h : ¬ (cut c cs).lexeme.Unclosed)
    (ds : List Char) : cut c (cs ++ '\n' :: ds) = cut c cs ∧ (cut c cs).more ≤ cs.length := by
  have hrun (p : Char → Bool) : (cs.takeWhile p).length ≤ cs.length :=
    (List.takeWhile_prefix p).length_le
  by_cases hword : isWordStart c = true
  · rw [cut, cut, if_pos hword, if_pos hword, takeWhile_append_newline rfl]
    exact ⟨rfl, hrun _⟩
  rw [cut, if_neg hword] at h
  rw [cut, cut, if_neg hword, if_neg hword]
  by_cases hdigit : c.isDigit = true
  · rw [if_pos hdigit, if_pos hdigit, takeWhile_append_newline rfl]
    exact ⟨rfl, hrun _⟩
  rw [if_neg hdigit] at h
  rw [if_neg hdigit, if_neg hdigit]
  by_cases hquote : (c == '"') = true
  · rw [if_pos hquote] at h
    rw [if_pos hquote, if_pos hquote]
    by_cases hclosed : (cs.takeWhile isStringPart).length < cs.length
    · have htake : (cs ++ '\n' :: ds).takeWhile isStringPart = cs.takeWhile isStringPart := by
        rw [List.takeWhile_append, if_neg (Nat.ne_of_lt hclosed)]
      have hlong : (cs.takeWhile isStringPart).length < (cs ++ '\n' :: ds).length := by
        rw [List.length_append]
        omega
      rw [htake, if_pos hlong, if_pos hclosed]
      exact ⟨rfl, hclosed⟩
    · rw [if_neg hclosed] at h
      exact absurd ⟨rfl, by simpa using hquote⟩ h
  rw [if_neg hquote, if_neg hquote]
  by_cases hmark : (c == '#') = true
  · rw [if_pos hmark, if_pos hmark, takeWhile_append_newline rfl]
    exact ⟨rfl, hrun _⟩
  rw [if_neg hmark, if_neg hmark, symbol?_append_newline]
  refine ⟨rfl, ?_⟩
  cases hs : symbol? c cs.head? with
  | some s => exact length_symbol_le hs
  | none => exact Nat.zero_le _

/-- A string that is left open has no quote behind its first character. -/
theorem eq_quote_of_unclosed {c : Char} {cs : List Char} (hc : isSpace c = false)
    (h : (cut c cs).lexeme.Unclosed) : c = '"' ∧ cs.all isStringPart = true := by
  obtain ⟨more, after, rfl, -, hcovers⟩ := covers_cut hc cs
  obtain ⟨hkind, hhead⟩ := h
  generalize (cut c (more ++ after)).lexeme = x at hcovers hkind hhead
  generalize hpiece : c :: more = piece at hcovers
  cases hcovers with
  | stray hstray =>
    obtain ⟨rfl, -⟩ := List.cons.inj hpiece
    exact absurd (by simpa using hhead) hstray.quote
  | unclosed hbody =>
    obtain ⟨rfl, rfl⟩ := List.cons.inj hpiece
    rw [List.append_nil]
    exact ⟨rfl, all_isStringPart_iff.mpr hbody⟩
  | _ => cases hkind

/-- A string that is left open is not cut out alike when lines follow: it goes on into them. -/
theorem not_unclosed_of_cut_eq {c : Char} {cs ds : List Char} (hc : isSpace c = false)
    (h : (cut c (cs ++ '\n' :: ds)).lexeme = (cut c cs).lexeme) :
    ¬ (cut c cs).lexeme.Unclosed := by
  intro hopen
  obtain ⟨rfl, hcs⟩ := eq_quote_of_unclosed hc hopen
  rw [cut_unclosed hcs, cut, if_neg (by decide), if_neg (by decide), if_pos (by decide)] at h
  by_cases hclosed :
      ((cs ++ '\n' :: ds).takeWhile isStringPart).length < (cs ++ '\n' :: ds).length
  · rw [if_pos hclosed] at h
    cases congrArg Lexeme.kind h
  · rw [if_neg hclosed] at h
    have hlength := congrArg (fun x => x.literal.toList.length) h
    simp at hlength

/-! ## Whole texts -/

/-- **The tokens of two texts on lines of their own** are those of the first one and those of the
second one exactly if no string of the first one is left open. -/
theorem scan_append_newline_iff {line skip : Nat} {cs : List Char} (ds : List Char)
    (hskip : skip ≤ cs.length) :
    scan line skip (cs ++ '\n' :: ds) = scan line skip cs ++ scan (lastLine line cs + 1) 0 ds ↔
      ∀ y ∈ scan line skip cs, ¬ y.1.Unclosed := by
  induction cs generalizing line skip with
  | nil =>
    obtain rfl : skip = 0 := Nat.le_zero.mp hskip
    exact iff_of_true rfl nofun
  | cons c cs ih =>
    cases skip with
    | succ k => exact ih (Nat.le_of_succ_le_succ hskip)
    | zero =>
      rw [List.cons_append]
      by_cases hspace : isSpace c = true
      · rw [scan_space hspace, scan_space hspace]
        exact ih (Nat.zero_le _)
      · rw [scan_token hspace, scan_token hspace, List.cons_append, List.forall_mem_cons]
        constructor
        · intro h
          obtain ⟨hfirst, hrest⟩ := List.cons.inj h
          have hclosed := not_unclosed_of_cut_eq (Bool.eq_false_iff.mpr hspace)
            (congrArg Prod.fst hfirst)
          obtain ⟨hcut, hmore⟩ := cut_append_newline hclosed ds
          rw [hcut] at hrest
          exact ⟨hclosed, (ih hmore).mp hrest⟩
        · rintro ⟨hclosed, hrest⟩
          obtain ⟨hcut, hmore⟩ := cut_append_newline hclosed ds
          rw [hcut]
          exact congrArg (_ :: ·) ((ih hmore).mpr hrest)

theorem scan_later (k line skip : Nat) (cs : List Char) :
    scan (line + k) skip cs = (scan line skip cs).map fun y => (y.1, y.2 + k) := by
  induction cs generalizing line skip with
  | nil => rfl
  | cons c cs ih =>
    have hline : lineAfter (line + k) c = lineAfter line c + k := by
      unfold lineAfter
      split
      · omega
      · rfl
    cases skip with
    | succ j =>
      rw [scan, scan, hline]
      exact ih _ _
    | zero =>
      by_cases hspace : isSpace c = true
      · rw [scan_space hspace, scan_space hspace, hline]
        exact ih _ _
      · rw [scan_token hspace, scan_token hspace, hline, List.map_cons, ih]

end Lexer

/-! ## Token streams -/

/-- The position `k` lines further down. -/
def Position.later (k : Nat) (p : Position) : Position := { p with line := p.line + k }

def Token.later (k : Nat) (t : Token) : Token := { t with position := t.position.later k }

/-- The text of `first`, and on lines of its own the text of `second`. -/
def below (first second : String) : String := first ++ "\n" ++ second

/-- How many lines further down a text starts below `first`. -/
def linesOf (first : String) : Nat := 1 + first.toList.count '\n'

section Streams

variable {first second file : String}

theorem toList_below : (below first second).toList = first.toList ++ '\n' :: second.toList := by
  simp [below]

theorem tokens_below_iff : (TokenStream.ofSource (below first second) file).tokens =
      (TokenStream.ofSource first file).tokens ++
        (TokenStream.ofSource second file).tokens.map (Token.later (linesOf first)) ↔
    ∀ t ∈ (TokenStream.ofSource first file).tokens, ¬ t.lexeme.Unclosed := by
  have hline : lastLine 1 first.toList + 1 = 1 + linesOf first := by
    rw [lastLine_eq, linesOf]
    omega
  have hplace : Function.Injective fun y : Lexeme × Nat => (⟨y.1, ⟨file, y.2⟩⟩ : Token) := by
    rintro ⟨x, k⟩ ⟨y, l⟩ h
    cases h
    rfl
  have hlater : (TokenStream.ofSource second file).tokens.map (Token.later (linesOf first)) =
      (scan (lastLine 1 first.toList + 1) 0 second.toList).map fun y => ⟨y.1, ⟨file, y.2⟩⟩ := by
    rw [hline, scan_later, TokenStream.ofSource, List.map_map, List.map_map]
    rfl
  rw [hlater]
  simp only [TokenStream.ofSource]
  rw [toList_below, ← List.map_append, List.map_inj_right fun _ _ h => hplace h,
    scan_append_newline_iff _ (Nat.zero_le _), List.forall_mem_map]

theorem last_below : (TokenStream.ofSource (below first second) file).last =
    (TokenStream.ofSource second file).last.later (linesOf first) := by
  simp only [TokenStream.ofSource, Position.later]
  rw [toList_below, lastLine_eq, lastLine_eq, List.count_append, List.count_cons_self, linesOf]
  congr 1
  omega

end Streams

/-! ## Main result -/

/-- **Lexing is compositional at a line break.** The tokens of `first` and below it `second` are the
tokens of `first` and those of `second` as many lines further down as `first` has, if and only if
`first` has no string without its closing quote. The ends of the input stand that far down in any
case. -/
theorem lexing_composes_at_line_break (first second file : String) :
    ((TokenStream.ofSource (first ++ "\n" ++ second) file).tokens =
        (TokenStream.ofSource first file).tokens ++
          (TokenStream.ofSource second file).tokens.map
            (Token.later (1 + first.toList.count '\n')) ↔
      ∀ t ∈ (TokenStream.ofSource first file).tokens,
        ¬ (t.lexeme.kind = .illegal ∧ t.lexeme.literal.toList.head? = some '"')) ∧
    (TokenStream.ofSource (first ++ "\n" ++ second) file).final =
      (TokenStream.ofSource second file).final.later (1 + first.toList.count '\n') := by
  refine ⟨tokens_below_iff, ?_⟩
  unfold TokenStream.final
  exact congrArg (Token.mk Lexeme.eof) last_below

/-- Half an operator, and a quote inside a comment, end at the line break. -/
example : (TokenStream.ofSource ("= # \"" ++ "\n" ++ "= \"") "f").tokens =
    [⟨⟨.symbol .assign, "="⟩, ⟨"f", 1⟩⟩, ⟨⟨.comment, "\""⟩, ⟨"f", 1⟩⟩,
      ⟨⟨.symbol .assign, "="⟩, ⟨"f", 2⟩⟩, ⟨⟨.illegal, "\""⟩, ⟨"f", 2⟩⟩] := by
  decide +kernel

end CurryLang
