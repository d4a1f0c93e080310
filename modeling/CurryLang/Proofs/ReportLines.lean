import CurryLang.Proofs.Window
import CurryLang.Proofs.Rendering
import CurryLang.Proofs.ReadBack

/-!
# The lines of an error report

A report has a line for its heading and, for each error, as many lines as its message has: one and one
more for every line feed in the text that the message quotes (`Cause.feeds_message`). So the errors
stand on one line each exactly if no quoted text has a line feed.

1. Trees that are grown of words without line feeds have none in their canonical texts
   (`Growth.oneLine`), and so neither have the causes that are noted on the way (`Trace.oneLine`).
2. The only lexemes of a source that can have line feeds are its strings, closed or not
   (`oneLine_of_mem_lexemes`), so a quoted line feed comes from one of them.
-/

namespace CurryLang

open Text

/-! ## Texts on one line -/

namespace Text

def OneLine (s : String) : Prop := '\n' ∉ s.toList

instance (s : String) : Decidable (OneLine s) := inferInstanceAs (Decidable ('\n' ∉ s.toList))

@[simp] theorem oneLine_append {s t : String} : OneLine (s ++ t) ↔ OneLine s ∧ OneLine t := by
  unfold OneLine
  rw [String.toList_append, List.mem_append, not_or]

theorem oneLine_empty : OneLine "" := by decide

theorem oneLine_commaSeparated {texts : List String} (h : ∀ t ∈ texts, OneLine t) :
    OneLine (commaSeparated texts) := by
  cases texts with
  | nil => decide
  | cons text texts =>
    obtain ⟨htext, htexts⟩ := List.forall_mem_cons.mp h
    unfold OneLine at *
    rw [toList_commaSeparated, List.mem_append, List.mem_flatMap]
    rintro (hmem | ⟨t, ht, hmem⟩)
    · exact htext hmem
    · exact htexts t ht (by simpa using hmem)

end Text

theorem Decimal.oneLine_ofNat (n : Nat) : OneLine (Decimal.ofNat n) := by
  intro hmem
  rw [Decimal.ofNat, String.toList_ofList] at hmem
  exact absurd (Decimal.isDigit_of_mem_digits hmem) (by decide)

theorem Decimal.oneLine_ofInt64 (n : Int64) : OneLine (Decimal.ofInt64 n) := by
  rw [Decimal.ofInt64]
  cases n.toInt with
  | ofNat k => exact Decimal.oneLine_ofNat k
  | negSucc k => exact oneLine_append.mpr ⟨by decide, Decimal.oneLine_ofNat _⟩

theorem UnaryOp.oneLine_text (op : UnaryOp) : OneLine op.text := by cases op <;> decide

theorem BinaryOp.oneLine_text (op : BinaryOp) : OneLine op.text := by cases op <;> decide

theorem TokenKind.oneLine_label (k : TokenKind) : OneLine k.label := by
  cases k with
  | keyword word => cases word <;> decide
  | symbol s => cases s <;> decide
  | _ => decide

/-! ## Texts of trees -/

theorem Expr.oneLine_commaSeparated {es : List Expr} (h : ∀ e ∈ es, OneLine e.text) :
    OneLine (commaSeparated (textEach es)) := by
  apply Text.oneLine_commaSeparated
  induction es with
  | nil => exact nofun
  | cons e es ih =>
    obtain ⟨hfirst, hrest⟩ := List.forall_mem_cons.mp h
    exact List.forall_mem_cons.mpr ⟨hfirst, ih hrest⟩

theorem Statement.oneLine_textAll {body : List Statement} (h : ∀ s ∈ body, OneLine s.text) :
    OneLine (textAll body) := by
  induction body with
  | nil => exact oneLine_empty
  | cons s body ih =>
    obtain ⟨hfirst, hrest⟩ := List.forall_mem_cons.mp h
    exact oneLine_append.mpr ⟨hfirst, ih hrest⟩

/-- The trees with a text on one line. -/
def Growth.oneLine : Growth where
  word := OneLine
  expr e := OneLine e.text
  statement s := OneLine s.text
  ident h := h
  int := Decimal.oneLine_ofInt64 _
  str h := by simp +decide [Expr.text, h]
  bool {b} := by cases b <;> decide
  nil := by decide
  array h := by simp +decide [Expr.text, bracketed, Expr.oneLine_commaSeparated h]
  unary {op} _ h := by simp +decide [Expr.text, h, op.oneLine_text]
  binary {op} _ _ hl hr := by simp +decide [Expr.text, hl, hr, op.oneLine_text]
  ifThen he hyes := by simp +decide [Expr.text, he, Statement.oneLine_textAll hyes]
  ifElse he hyes hno := by
    simp +decide [Expr.text, he, Statement.oneLine_textAll hyes, Statement.oneLine_textAll hno]
  function hxs hbody := by
    simp +decide [Expr.text, oneLine_commaSeparated hxs, Statement.oneLine_textAll hbody]
  call hf hes := by simp +decide [Expr.text, hf, Expr.oneLine_commaSeparated hes]
  index ha hi := by simp +decide [Expr.text, ha, hi]
  assign {x} _ hx he := by
    have hname : OneLine x := hx
    simp +decide [Expr.text, hname, he]
  bind hx he := by simp +decide [Statement.text, hx, he]
  ret he := by simp +decide [Statement.text, he]
  value he := he

/-! ## Faults -/

/-- The text of the source that the message quotes. -/
def Cause.quoted : Cause → String
  | .unexpected _ _ | .unterminatedBlock _ => ""
  | .noOperand literal | .invalidInteger literal | .invalidParameter literal => literal
  | .invalidTarget target => target

theorem Cause.Blames.oneLine {a : Cause} {x : Lexeme} (h : a.Blames x) (ha : a.isTarget = false)
    (hx : OneLine x.literal) : OneLine a.quoted := by
  cases a with
  | unexpected | unterminatedBlock => exact oneLine_empty
  | noOperand | invalidInteger | invalidParameter => exact h.1 ▸ hx
  | invalidTarget => cases ha

theorem Trace.oneLine {row : List Lexeme} {i : Nat} {fs : List Fault}
    (hrow : ∀ i, OneLine (lexemeAt row i).literal) (h : Trace .oneLine row i fs) :
    ∀ f ∈ fs, OneLine f.cause.quoted := by
  induction h with
  | start => exact nofun
  | move _ ih => exact ih
  | blame _ hhere ha ih => exact List.forall_mem_cons.mpr ⟨ha.oneLine hhere (hrow _), ih⟩
  | target _ _ he ih => exact List.forall_mem_cons.mpr ⟨he, ih⟩

/-- **Where no lexeme has a line feed, no fault quotes one.** -/
theorem oneLine_of_mem_faults {row : List Lexeme} (h : ∀ x ∈ row, OneLine x.literal) {f : Fault}
    (hf : f ∈ (Program.ofLexemes row).2) : OneLine f.cause.quoted := by
  have hrow (i : Nat) : OneLine (lexemeAt row i).literal := by
    unfold lexemeAt
    cases hx : row[i]? with
    | none => exact oneLine_empty
    | some x => exact h x (List.mem_of_getElem? hx)
  obtain ⟨i, fs, htrace, hfaults⟩ := Program.exists_trace .oneLine row hrow
  rw [hfaults, List.mem_reverse] at hf
  exact htrace.oneLine hrow f hf

/-! ## Lexemes of a source -/

/-- A string, closed or not. -/
def Lexeme.isQuoted (x : Lexeme) : Bool :=
  x.kind == .string || x.kind == .illegal && x.literal.toList.head? == some '"'

namespace Lexer

theorem newline_not_mem_takeWhile {p : Char → Bool} {c : Char} {cs : List Char}
    (hp : p '\n' = false) (hc : c ≠ '\n') : '\n' ∉ c :: cs.takeWhile p := by
  rw [List.mem_cons, not_or]
  refine ⟨hc.symm, fun hmem => ?_⟩
  rw [List.all_eq_true.mp List.all_takeWhile _ hmem] at hp
  cases hp

/-- Only strings and comments can run over the end of a line. -/
theorem oneLine_cut {c : Char} (hc : isSpace c = false) (cs : List Char)
    (hcomment : (cut c cs).lexeme.isComment = false) (hquoted : (cut c cs).lexeme.isQuoted = false) :
    OneLine (cut c cs).lexeme.literal := by
  have hfeed : c ≠ '\n' := by
    rintro rfl
    cases hc
  unfold cut at hcomment hquoted ⊢
  by_cases hword : isWordStart c = true
  · rw [if_pos hword]
    have hliteral (word : String) : (Lexeme.ofWord word).literal = word := by
      unfold Lexeme.ofWord
      split <;> rfl
    rw [hliteral, OneLine, String.toList_ofList]
    exact newline_not_mem_takeWhile (by decide) hfeed
  simp only [if_neg hword] at hcomment hquoted ⊢
  by_cases hdigit : c.isDigit = true
  · rw [if_pos hdigit, OneLine, String.toList_ofList]
    exact newline_not_mem_takeWhile (by decide) hfeed
  simp only [if_neg hdigit] at hcomment hquoted ⊢
  by_cases hquote : (c == '"') = true
  · simp only [if_pos hquote] at hquoted
    split at hquoted
    · cases hquoted
    · simp [Lexeme.isQuoted, eq_of_beq hquote] at hquoted
  simp only [if_neg hquote] at hcomment hquoted ⊢
  by_cases hmark : (c == '#') = true
  · simp only [if_pos hmark] at hcomment
    cases hcomment
  rw [if_neg hmark]
  cases symbol? c cs.head? with
  | some s => exact TokenKind.oneLine_label (.symbol s)
  | none => simpa [OneLine] using hfeed.symm

theorem oneLine_of_mem_lexemes {x : Lexeme} {cs : List Char} (h : x ∈ lexemes cs)
    (hcomment : x.isComment = false) (hquoted : x.isQuoted = false) : OneLine x.literal := by
  obtain ⟨y, hy, rfl⟩ := List.mem_map.mp h
  obtain ⟨c, rest, hspace, hcut⟩ := exists_cut_of_mem_scan hy
  rw [hcut] at hcomment hquoted ⊢
  exact oneLine_cut hspace rest hcomment hquoted

end Lexer

theorem TokenStream.mem_significant_ofSource {source file : String} {x : Lexeme}
    (h : x ∈ (TokenStream.ofSource source file).significant.map Token.lexeme) :
    x ∈ Lexer.lexemes source.toList ∧ x.isComment = false := by
  obtain ⟨t, ht, rfl⟩ := List.mem_map.mp h
  obtain ⟨hmem, hcomment⟩ := List.mem_filter.mp ht
  rw [← TokenStream.map_lexeme_ofSource source file]
  exact ⟨List.mem_map_of_mem hmem, by simpa using hcomment⟩

theorem TokenStream.file_positionAt (source file : String) (i : Nat) :
    ((TokenStream.ofSource source file).positionAt i).file = file := by
  unfold TokenStream.positionAt
  cases h : (TokenStream.ofSource source file).significant[i]? with
  | none => rfl
  | some t =>
    obtain ⟨y, -, rfl⟩ := List.mem_map.mp (List.mem_filter.mp (List.mem_of_getElem? h)).1
    rfl

/-- **Where a fault quotes a line feed, a string of the source has one**, closed or not, and it is what
the fault quotes, unless that is the target of an assignment. -/
theorem exists_quoted_of_mem_faults {source file : String} {f : Fault}
    (hf : f ∈ (Program.ofLexemes
      ((TokenStream.ofSource source file).significant.map Token.lexeme)).2)
    (h : ¬ OneLine f.cause.quoted) :
    ∃ x ∈ Lexer.lexemes source.toList, x.isQuoted = true ∧ ¬ OneLine x.literal ∧
      (f.cause = .noOperand x.literal ∨ f.cause = .invalidParameter x.literal ∨
        ∃ target, f.cause = .invalidTarget target) := by
  generalize hrow : (TokenStream.ofSource source file).significant.map Token.lexeme = row at hf
  have hquoted (x : Lexeme) (hx : x ∈ row) (hline : ¬ OneLine x.literal) :
      x ∈ Lexer.lexemes source.toList ∧ x.isQuoted = true := by
    rw [← hrow] at hx
    obtain ⟨hmem, hcomment⟩ := TokenStream.mem_significant_ofSource hx
    refine ⟨hmem, ?_⟩
    rw [← Bool.not_eq_false]
    exact fun hnot => hline (Lexer.oneLine_of_mem_lexemes hmem hcomment hnot)
  -- The lexeme at the fault is one of the row if it has a line feed.
  have hat (hline : ¬ OneLine (lexemeAt row f.token).literal) : lexemeAt row f.token ∈ row := by
    unfold lexemeAt at hline ⊢
    cases hx : row[f.token]? with
    | none =>
      rw [hx] at hline
      exact absurd oneLine_empty hline
    | some x => exact List.mem_of_getElem? hx
  have hsome : ∃ x ∈ row, ¬ OneLine x.literal := by
    by_cases hall : ∀ x ∈ row, OneLine x.literal
    · exact absurd (oneLine_of_mem_faults hall hf) h
    · simpa using hall
  have hblames := Program.blames_of_mem_faults hf
  revert h hblames
  cases f.cause with
  | unexpected _ _ => exact fun h => absurd oneLine_empty h
  | unterminatedBlock _ => exact fun h => absurd oneLine_empty h
  | noOperand literal =>
    rintro h ⟨rfl, -⟩
    obtain ⟨hmem, hx⟩ := hquoted _ (hat h) h
    exact ⟨_, hmem, hx, h, .inl rfl⟩
  | invalidParameter literal =>
    rintro h ⟨rfl, -⟩
    obtain ⟨hmem, hx⟩ := hquoted _ (hat h) h
    exact ⟨_, hmem, hx, h, .inr (.inl rfl)⟩
  | invalidInteger literal =>
    rintro h ⟨rfl, hkind, -⟩
    have hx := (hquoted _ (hat h) h).2
    rw [Lexeme.isQuoted, hkind] at hx
    cases hx
  | invalidTarget target =>
    intro _ _
    obtain ⟨x, hx, hline⟩ := hsome
    obtain ⟨hmem, hq⟩ := hquoted x hx hline
    exact ⟨x, hmem, hq, hline, .inr (.inr ⟨target, rfl⟩)⟩

/-! ## Reports -/

namespace Text

def feeds (s : String) : Nat := s.toList.count '\n'

@[simp] theorem feeds_append (s t : String) : feeds (s ++ t) = feeds s + feeds t := by
  rw [feeds, String.toList_append, List.count_append]
  rfl

theorem feeds_eq_zero_iff {s : String} : feeds s = 0 ↔ OneLine s := List.count_eq_zero

/-- The text consists of the given lines, each with a line feed behind it. -/
def HasLines (s : String) (lines : List String) : Prop :=
  s = String.join (lines.map (· ++ "\n")) ∧ ∀ line ∈ lines, OneLine line

instance (s : String) (lines : List String) : Decidable (HasLines s lines) :=
  inferInstanceAs (Decidable (_ ∧ _))

theorem feeds_join (texts : List String) : feeds (String.join (texts.map (· ++ "\n"))) =
    texts.length + feeds (String.join texts) := by
  induction texts with
  | nil => rfl
  | cons text texts ih =>
    rw [List.map_cons, String.join_cons, String.join_cons, feeds_append, feeds_append, feeds_append,
      ih, List.length_cons, show feeds "\n" = 1 by decide]
    omega

end Text

theorem feeds_between {before behind : String} (hbefore : OneLine before) (hbehind : OneLine behind)
    (text : String) : feeds (before ++ text ++ behind) = feeds text := by
  rw [feeds_append, feeds_append, feeds_eq_zero_iff.mpr hbefore, feeds_eq_zero_iff.mpr hbehind]
  omega

theorem Cause.feeds_message (a : Cause) : feeds a.message = feeds a.quoted := by
  have hlabel (k : TokenKind) : feeds k.label = feeds "" :=
    (feeds_eq_zero_iff.mpr k.oneLine_label).trans (feeds_eq_zero_iff.mpr oneLine_empty).symm
  cases a with
  | unexpected expected found =>
    have hbefore : OneLine ("expected next token to be " ++ expected.label ++ ", got ") :=
      oneLine_append.mpr
        ⟨oneLine_append.mpr ⟨by decide +kernel, expected.oneLine_label⟩, by decide +kernel⟩
    exact (feeds_between hbefore (by decide +kernel) found.label).trans (hlabel found)
  | unterminatedBlock found =>
    exact (feeds_between (by decide +kernel) (by decide +kernel) found.label).trans (hlabel found)
  | noOperand literal => exact feeds_between (by decide +kernel) (by decide +kernel) literal
  | invalidInteger literal => exact feeds_between (by decide +kernel) (by decide +kernel) literal
  | invalidParameter literal => exact feeds_between (by decide +kernel) (by decide +kernel) literal
  | invalidTarget target => exact feeds_between (by decide +kernel) (by decide +kernel) target

namespace ParseError

def line (file : String) (e : ParseError) : String :=
  "- " ++ file ++ ":" ++ Decimal.ofNat e.position.line ++ ": " ++ e.message

/-- The lines that a report should have. -/
def lines (file : String) (errors : List ParseError) : List String :=
  "Oops! Something is wrong here:" :: errors.map (line file)

theorem feeds_line {file : String} (hfile : OneLine file) (e : ParseError) :
    feeds (line file e) = feeds e.cause.quoted := by
  have hnumber := feeds_eq_zero_iff.mpr (Decimal.oneLine_ofNat e.position.line)
  simp +decide [line, message, feeds_eq_zero_iff.mpr hfile, hnumber, e.cause.feeds_message]

theorem feeds_join_line {file : String} (hfile : OneLine file) (errors : List ParseError) :
    feeds (String.join (errors.map (line file))) =
      feeds (String.join (errors.map fun e => e.cause.quoted)) := by
  induction errors with
  | nil => rfl
  | cons e errors ih =>
    rw [List.map_cons, List.map_cons, String.join_cons, String.join_cons, feeds_append,
      feeds_append, feeds_line hfile, ih]

theorem oneLine_line_iff {file : String} (hfile : OneLine file) {e : ParseError} :
    OneLine (line file e) ↔ OneLine e.cause.quoted := by
  rw [← feeds_eq_zero_iff, feeds_line hfile, feeds_eq_zero_iff]

/-- A report consists of its heading and the lines of its errors, whatever line feeds these have. -/
theorem reportAll_eq {file : String} {errors : List ParseError}
    (h : ∀ e ∈ errors, e.position.file = file) :
    reportAll errors = String.join ((lines file errors).map (· ++ "\n")) := by
  have hline (e : ParseError) (he : e ∈ errors) : e.reportLine = line file e ++ "\n" := by
    rw [← h e he]
    simp [reportLine, report, line, Position.text, String.append_assoc]
  rw [lines, List.map_cons, String.join_cons, List.map_map, reportAll]
  have hheading : heading = "Oops! Something is wrong here:" ++ "\n" := by decide +kernel
  rw [hheading, List.map_congr_left hline]
  rfl

end ParseError

/-! ## Main result -/

/-- **Errors stand on one line each, line feeds in quoted strings apart.** A report has a line feed for
its heading, one for each error, and those of the texts that its messages quote. It consists of its
heading and one line for each error exactly if no quoted text has a line feed. Where one has, a string
of the source, closed or not, has a line feed too; it is the string quoted in place of an operand or a
parameter, or else the target of an assignment is quoted. -/
theorem report_lines_iff (source file : String) (hfile : OneLine file) :
    let errors := (Program.ofSource source file).2
    feeds (ParseError.reportAll errors) =
        1 + errors.length + feeds (String.join (errors.map fun e => e.cause.quoted)) ∧
      (HasLines (ParseError.reportAll errors) (ParseError.lines file errors) ↔
        ∀ e ∈ errors, OneLine e.cause.quoted) ∧
      ∀ e ∈ errors, ¬ OneLine e.cause.quoted →
        ∃ x ∈ Lexer.lexemes source.toList, x.isQuoted = true ∧ ¬ OneLine x.literal ∧
          (e.cause = .noOperand x.literal ∨ e.cause = .invalidParameter x.literal ∨
            ∃ target, e.cause = .invalidTarget target) := by
  intro errors
  have hfaults : errors = _ := congrArg Prod.snd (Program.ofTokens_eq (.ofSource source file))
  have hfiles : ∀ e ∈ errors, e.position.file = file := by
    intro e he
    rw [hfaults] at he
    obtain ⟨f, -, rfl⟩ := List.mem_map.mp he
    exact TokenStream.file_positionAt source file f.token
  have hreport := ParseError.reportAll_eq hfiles
  have hheading : OneLine "Oops! Something is wrong here:" := by decide +kernel
  refine ⟨?_, ?_, ?_⟩
  · rw [hreport, feeds_join, ParseError.lines, List.length_cons, String.join_cons, feeds_append,
      feeds_eq_zero_iff.mpr hheading, List.length_map, ParseError.feeds_join_line hfile]
    omega
  · rw [HasLines, and_iff_right hreport, ParseError.lines, List.forall_mem_cons,
      and_iff_right hheading, List.forall_mem_map]
    exact forall₂_congr fun e _ => ParseError.oneLine_line_iff hfile
  · intro e he hquoted
    rw [hfaults] at he
    obtain ⟨f, hf, rfl⟩ := List.mem_map.mp he
    exact exists_quoted_of_mem_faults hf hquoted

/-- The lines of the report on a `let` without a name and an operator without an operand. -/
theorem two_errors_two_lines :
    OneLine "main.ln" ∧ HasLines
      (ParseError.reportAll (Program.ofSource "let 5;\n\"a\nb\" + ;" "main.ln").2)
      ["Oops! Something is wrong here:",
        "- main.ln:1: expected next token to be IDENT, got INT instead",
        "- main.ln:3: prefix operation `;` not recognized"] := by
  have hfile : OneLine "main.ln" := by decide
  have hlines := (report_lines_iff "let 5;\n\"a\nb\" + ;" "main.ln" hfile).2.1.mpr
    (by decide +kernel)
  have heq : ParseError.lines "main.ln" (Program.ofSource "let 5;\n\"a\nb\" + ;" "main.ln").2 =
    ["Oops! Something is wrong here:",
      "- main.ln:1: expected next token to be IDENT, got INT instead",
      "- main.ln:3: prefix operation `;` not recognized"] := by decide +kernel
  rw [heq] at hlines
  exact ⟨hfile, hlines⟩

/-- A string with a line feed in place of a parameter: one error, but three lines. -/
theorem quoted_line_feed_splits_report :
    let errors := (Program.ofSource "fun(\"a\nb\") \x7b 1 \x7d" "main.ln").2
    OneLine "main.ln" ∧ errors.length = 1 ∧ feeds (ParseError.reportAll errors) = 3 ∧
      ¬ HasLines (ParseError.reportAll errors) (ParseError.lines "main.ln" errors) := by
  decide +kernel

end CurryLang
