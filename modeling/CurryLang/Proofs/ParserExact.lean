import CurryLang.Proofs.ReaderComplete
import CurryLang.Proofs.Window

/-!
# The reader of programs accepts exactly the grammar

A token stream is read without errors if and only if its sentence, the lexemes before the first end
of the input without the comments, follows the grammar, and then the result is the tree of its
derivation. In particular a sentence has no two trees.
-/

namespace CurryLang

/-- The lexemes before the first end of the input, without the comments. -/
def TokenStream.sentence (s : TokenStream) : List Lexeme :=
  ((s.tokens.map Token.lexeme).takeWhile (·.kind != .eof)).filter (!·.isComment)

def beforeEnd (row : List Lexeme) : List Lexeme := row.takeWhile (·.kind != .eof)

theorem TokenStream.sentence_eq (s : TokenStream) :
    s.sentence = beforeEnd (s.significant.map Token.lexeme) := by
  unfold sentence significant beforeEnd
  induction s.tokens with
  | nil => rfl
  | cons t ts ih =>
    by_cases hcomment : t.lexeme.isComment = true
    · -- a comment is no end of the input
      have hkind : t.lexeme.kind = .comment := by simpa [Lexeme.isComment] using hcomment
      simpa [hkind, hcomment] using ih
    · by_cases heof : t.lexeme.kind = .eof
      · simp [heof, hcomment]
      · simpa [heof, hcomment] using ih

theorem beforeEnd_eq {row w v : List Lexeme} (hrow : row = w ++ v)
    (hw : ∀ x ∈ w, x.kind ≠ .eof) (hv : firstKind v = .eof) : beforeEnd row = w := by
  subst hrow
  unfold beforeEnd
  rw [List.takeWhile_append_of_pos (by simpa using hw)]
  cases v with
  | nil => simp
  | cons x v => rw [List.takeWhile_cons_of_neg (by simpa using hv), List.append_nil]

/-- A row goes on behind its part before the end with an end of the input, or not at all. -/
theorem exists_append_beforeEnd (row : List Lexeme) :
    ∃ v, row = beforeEnd row ++ v ∧ firstKind v = .eof := by
  refine ⟨row.dropWhile (·.kind != .eof), List.takeWhile_append_dropWhile.symm, ?_⟩
  induction row with
  | nil => rfl
  | cons x row ih =>
    by_cases hx : x.kind = .eof
    · rw [List.dropWhile_cons_of_neg (by simpa using hx)]; exact hx
    · rw [List.dropWhile_cons_of_pos (by simpa using hx)]; exact ih

theorem derives_of_read {row : List Lexeme} (h : (Program.read row).2.faults = []) :
    ∃ p, (Program.read row).1 = some p ∧ Derives (.statements p) (beforeEnd row) := by
  obtain ⟨p, hp, w, hw, hderives, hends⟩ :=
    (Reader.soundAt _).statements .source (.start row) (Program.depth_bound row) h
  have hrow : row = w ++ (Program.read row).2.ahead := hw
  have hcurrent : (Program.read row).2.current.kind = .eof := eq_of_beq hends
  refine ⟨p, hp, ?_⟩
  rw [Cursor.kind_current rfl] at hcurrent
  rwa [beforeEnd_eq hrow hderives.kind_ne_eof hcurrent]

theorem read_of_derives {row : List Lexeme} {p : Program}
    (h : Derives (.statements p) (beforeEnd row)) :
    (Program.read row).1 = some p ∧ (Program.read row).2.faults = [] := by
  obtain ⟨v, hrow, hv⟩ := exists_append_beforeEnd row
  obtain ⟨d, hd, -, hfaults⟩ :=
    h.reads (Reader.depth row.length) .source (.start row) v (by rw [hv]; rfl) hrow
      (Program.depth_bound row)
  unfold Program.read
  rw [hd]
  exact ⟨rfl, hfaults⟩

theorem ofTokens_eq_iff {s : TokenStream} {p : Program} :
    Program.ofTokens s = (p, []) ↔ Derives (.statements p) s.sentence := by
  rw [Program.ofTokens_eq, Program.ofLexemes, Prod.mk.injEq, List.map_eq_nil_iff,
    List.reverse_eq_nil_iff, s.sentence_eq]
  constructor
  · rintro ⟨hp, hfaults⟩
    obtain ⟨q, hq, hderives⟩ := derives_of_read hfaults
    rw [hq] at hp
    obtain rfl : q = p := hp
    exact hderives
  · intro h
    obtain ⟨hp, hfaults⟩ := read_of_derives h
    exact ⟨by rw [hp]; rfl, hfaults⟩

/-- **The reader of programs accepts exactly the grammar.** There are no errors if and only if the
sentence follows the grammar, and its tree is the program. -/
theorem ofTokens_accepts_grammar (s : TokenStream) :
    ((Program.ofTokens s).2 = [] ↔ ∃ p, Derives (.statements p) s.sentence) ∧
      ∀ p, Derives (.statements p) s.sentence → Program.ofTokens s = (p, []) := by
  refine ⟨⟨fun h => ?_, fun ⟨p, h⟩ => ?_⟩, fun p h => ofTokens_eq_iff.mpr h⟩
  · exact ⟨(Program.ofTokens s).1, ofTokens_eq_iff.mp (Prod.ext rfl h)⟩
  · rw [ofTokens_eq_iff.mpr h]

end CurryLang
