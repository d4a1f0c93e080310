import CurryLang.Proofs.Track

/-!
# Parsers along their windows

A parser sees its stream through a window of two tokens that were pulled, comments passed over. The
window that has slid `i` times shows the significant tokens number `i` and `i + 1` (`window_eq`), and
the number of tokens drawn for it is known (`drawn_supply`). So a parser goes along the significant
lexemes as a cursor does (`Parser.track`), and an error that it records has the position of the token
that a fault names.
-/

namespace CurryLang

namespace Supply

/-- The tokens left that are no comments. -/
def significant (p : Supply) : List Token := p.rest.filter fun t => !t.lexeme.isComment

/-- **What one pull does**: it gives the first of the tokens that are no comments, or the final one,
and takes it away. Nothing is drawn twice, and behind the row one token is drawn. -/
theorem pull_spec (final : Token) (p : Supply) :
    (p.pull final).1 = p.significant.headD final ∧
      (p.pull final).2.significant = p.significant.tail ∧
      (p.pull final).2.drawn + (p.pull final).2.rest.length =
        p.drawn + p.rest.length + if p.significant = [] then 1 else 0 := by
  obtain ⟨rest, drawn⟩ := p
  unfold pull significant
  induction rest generalizing drawn with
  | nil => simp [drawFrom]
  | cons t rest ih =>
    by_cases ht : t.lexeme.isComment = true
    · rw [drawFrom, if_pos ht]
      obtain ⟨hfirst, hrest, hdrawn⟩ := ih (drawn + 1)
      simp only [ht, Bool.not_true, Bool.false_eq_true, not_false_eq_true, List.filter_cons_of_neg,
        List.length_cons] at hfirst hrest hdrawn ⊢
      exact ⟨hfirst, hrest, by omega⟩
    · rw [drawFrom, if_neg ht]
      simp [ht]
      omega

end Supply

namespace TokenStream

/-- The tokens that are no comments. -/
def significant (s : TokenStream) : List Token := s.tokens.filter fun t => !t.lexeme.isComment

/-- The significant token number `i`, going on past the end of the row. -/
def tokenAt (s : TokenStream) (i : Nat) : Token := s.significant[i]?.getD s.final

/-- The position of the significant token number `i`. -/
def positionAt (s : TokenStream) (i : Nat) : Position :=
  (s.significant[i]?.map Token.position).getD s.last

/-- What is left of the stream after `k` pulls. -/
def supply (s : TokenStream) : Nat → Supply
  | 0 => ⟨s.tokens, 0⟩
  | k + 1 => ((s.supply k).pull s.final).2

/-- The window that has slid `i` times. -/
def window (s : TokenStream) : Nat → Window
  | 0 => s.firstWindow
  | i + 1 => s.slide (s.window i)

/-! ## What has been pulled -/

theorem position_tokenAt (s : TokenStream) (i : Nat) : (s.tokenAt i).position = s.positionAt i := by
  unfold tokenAt positionAt
  cases s.significant[i]? <;> rfl

theorem lexeme_tokenAt (s : TokenStream) (i : Nat) :
    (s.tokenAt i).lexeme = lexemeAt (s.significant.map Token.lexeme) i := by
  unfold tokenAt lexemeAt
  rw [List.getElem?_map]
  cases s.significant[i]? <;> rfl

theorem significant_supply (s : TokenStream) (k : Nat) :
    (s.supply k).significant = s.significant.drop k := by
  induction k with
  | zero => rfl
  | succ k ih =>
    rw [supply, (Supply.pull_spec s.final (s.supply k)).2.1, ih, List.tail_drop]

theorem fst_pull_supply (s : TokenStream) (k : Nat) :
    ((s.supply k).pull s.final).1 = s.tokenAt k := by
  rw [(Supply.pull_spec s.final (s.supply k)).1, significant_supply, List.headD_eq_head?_getD,
    List.head?_drop]
  rfl

/-- After `k` pulls every token of the row is drawn or left, and the pulls behind the row have drawn
one token each. -/
theorem drawn_supply (s : TokenStream) (k : Nat) :
    (s.supply k).drawn + (s.supply k).rest.length =
      s.tokens.length + (k - s.significant.length) := by
  induction k with
  | zero => simp [supply]
  | succ k ih =>
    have hempty : (s.supply k).significant = [] ↔ s.significant.length ≤ k := by
      rw [significant_supply, List.drop_eq_nil_iff]
    rw [supply, (Supply.pull_spec s.final (s.supply k)).2.2, ih]
    by_cases hk : s.significant.length ≤ k
    · rw [if_pos (hempty.mpr hk)]
      omega
    · rw [if_neg (mt hempty.mp hk)]
      omega

/-! ## What the window shows -/

/-- **Behind the window is what two pulls more leave**, and it shows the tokens they gave. -/
theorem window_eq (s : TokenStream) (i : Nat) :
    s.window i = ⟨s.tokenAt i, s.tokenAt (i + 1), s.supply (i + 2)⟩ := by
  induction i with
  | zero =>
    have hfirst := s.fst_pull_supply 0
    have hsecond := s.fst_pull_supply 1
    show Window.mk _ _ _ = _
    rw [← hfirst, ← hsecond]
    rfl
  | succ i ih =>
    have hnext := s.fst_pull_supply (i + 2)
    rw [window, ih, slide, ← hnext]
    rfl

theorem drawn_window_le (s : TokenStream) (i : Nat) :
    (s.window i).supply.drawn ≤ s.tokens.length + (i + 2 - s.significant.length) := by
  rw [window_eq, ← drawn_supply]
  exact Nat.le_add_right _ _

theorem length_significant_le (s : TokenStream) : s.significant.length ≤ s.tokens.length :=
  List.length_filter_le _ _

end TokenStream

/-! ## Parsers -/

/-- The error of a fault in a given stream. -/
def Fault.locate (s : TokenStream) (f : Fault) : ParseError := ⟨f.cause, s.positionAt f.token⟩

/-- A parser on its way along the significant lexemes of its stream. -/
def Parser.track (s : TokenStream) {row : List Lexeme} (h : s.significant.map Token.lexeme = row) :
    Track (Parser s) row where
  tape k fs := ⟨s.window k, fs.map (Fault.locate s), false⟩
  place k := s.positionAt k
  current_tape k _ := by
    subst h
    show (s.window k).current.lexeme = _
    rw [s.window_eq, s.lexeme_tokenAt]
  place_tape k _ := by
    show (s.window k).current.position = _
    rw [s.window_eq, s.position_tokenAt]
  nextPlace_tape k _ := by
    show (s.window k).peek.position = _
    rw [s.window_eq, s.position_tokenAt]
  advance_tape _ _ := rfl
  record_tape _ _ _ _ := rfl

theorem Parser.depth_le (s : TokenStream) :
    8 * (s.significant.map Token.lexeme).length + 5 ≤ Reader.depth s.tokens.length := by
  have hlength := s.length_significant_le
  unfold Reader.depth
  rw [List.length_map]
  omega

theorem Parser.ofTokens_of_statements {s : TokenStream} {row : List Lexeme} {a : Option Program}
    {k : Nat} {fs : List Fault} (hrow : s.significant.map Token.lexeme = row)
    (h : Reader.statements (Reader.depth s.tokens.length) .source
      ((track s hrow).tape 0 []) = (a, (track s hrow).tape k fs)) :
    Program.ofTokens s = (a.getD [], fs.reverse.map (Fault.locate s)) := by
  unfold Program.ofTokens
  replace h : Reader.statements _ .source (Parser.start s) = _ := h
  rw [h, List.map_reverse]
  rfl

/-- **A parser does along its windows what a cursor does along the significant lexemes.** -/
theorem Program.ofTokens_eq (s : TokenStream) :
    Program.ofTokens s =
      ((Program.ofLexemes (s.significant.map Token.lexeme)).1,
        (Program.ofLexemes (s.significant.map Token.lexeme)).2.map (Fault.locate s)) := by
  obtain ⟨a, k, fs, hparser, hcursor, -⟩ := Track.alike_statements .all (fun _ => trivial)
    (Parser.track s rfl) ((Cursor.start (s.significant.map Token.lexeme)).track rfl) .source
    (Parser.depth_le s) (Program.depth_bound _)
  rw [Parser.ofTokens_of_statements rfl hparser, Program.ofLexemes_of_statements hcursor]

end CurryLang
