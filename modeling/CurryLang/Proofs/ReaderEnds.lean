import CurryLang.Proofs.Sequencing

/-!
# Reading always ends

However the tokens of a stream are mixed, reading it comes to an end before any reader reaches its
bound, and it pulls at most two tokens for every token of the row and three more.

A reader moves past the end of the row in one place only: behind a statement that ended there, in the
row of statements of a block or of the whole source. Every such block has its opening brace in the
row. So moving over a lexeme pays for itself and for one move past the end, which is what the limit of
`Lockstep.Meets` says of every reader. From the number of moves follows how many tokens the window has
drawn (`drawn_window_le`).
-/

namespace CurryLang

/-- **Reading always ends.** Whatever the tokens of a stream are, reading it gives a program and a
parser on which no reader has left the mark of its bound, and every bound from the first on gives the
same. The parser stands on an end of the input, and its window has drawn at most two tokens for every
token of the row and three more. -/
theorem reading_ends (s : TokenStream) :
    ∃ program parser,
      (∀ n, Reader.depth s.significant.length ≤ n →
        Reader.statements n .source (Parser.start s) = (some program, parser)) ∧
      parser.exhausted = false ∧
      Program.ofTokens s = (program, parser.errors.reverse) ∧
      parser.window.current.lexeme.kind = .eof ∧
      parser.window.supply.drawn ≤ 2 * s.tokens.length + 3 := by
  have hdepth : 8 * (s.significant.map Token.lexeme).length + 5 ≤
      Reader.depth s.significant.length := by
    have hbound := Program.depth_bound (s.significant.map Token.lexeme)
    rwa [List.length_map] at hbound ⊢
  have hsome := Reader.isSome_read (s.significant.map Token.lexeme)
  obtain ⟨a, k, fs, hparser, hcursor, -, hk⟩ := Track.alike_statements .all (fun _ => trivial)
    (Parser.track s rfl) ((Cursor.start (s.significant.map Token.lexeme)).track rfl) .source hdepth
    (Program.depth_bound _)
  replace hcursor : Program.read (s.significant.map Token.lexeme) = (a, _) := hcursor
  rw [hcursor] at hsome
  obtain ⟨program, rfl⟩ := Option.isSome_iff_exists.mp hsome
  -- a larger bound is read beside the first one
  have hbounds (n : Nat) (hn : Reader.depth s.significant.length ≤ n) :
      Reader.statements n .source (Parser.start s) = (some program, (Parser.track s rfl).tape k fs) := by
    obtain ⟨b, j, gs, hlarge, hfirst, -⟩ := Track.alike_statements .all (fun _ => trivial)
      (Parser.track s rfl) (Parser.track s rfl) .source (Nat.le_trans hdepth hn) hdepth
    exact hlarge.trans (hfirst.symm.trans hparser)
  have hlength := s.length_significant_le
  have hend := Lockstep.ends_statements hparser
  have hdrawn := s.drawn_window_le k
  rw [List.length_map] at hk
  refine ⟨program, (Parser.track s rfl).tape k fs, hbounds, rfl, ?_, eq_of_beq hend, ?_⟩
  · have hdeeper : Reader.depth s.significant.length ≤ Reader.depth s.tokens.length := by
      unfold Reader.depth
      omega
    rw [Parser.ofTokens_of_statements rfl (hbounds _ hdeeper), List.map_reverse]
    rfl
  · show (s.window k).supply.drawn ≤ _
    omega

end CurryLang
