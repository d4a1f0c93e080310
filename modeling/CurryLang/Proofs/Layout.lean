import CurryLang.Proofs.Window

/-!
# Comments and layout carry no meaning

Two streams that differ in comments and positions only are read to the same program, and their errors
agree one by one: each pair has one cause, and the positions are those of one and the same pulled
token, the one that the cause blames.

The two parsers are read side by side. Their windows show tokens with the same lexemes after every
move, whatever was passed over between (`TokenStream.window_eq`), and each error takes its position
from a token with the same number: the current one, the one after it or an assignment sign that was
passed (`Track.beside`).
-/

namespace CurryLang

/-- **Comments and layout carry no meaning.** Streams with the same lexemes apart from comments are
read to the same program and to equally many errors. Two errors with the same number have the same
cause and message, and they carry the positions of the tokens with one number `k` in the two streams,
comments not counted, which are the tokens that the cause blames. -/
theorem layout_carries_no_meaning (s t : TokenStream)
    (h : s.significant.map Token.lexeme = t.significant.map Token.lexeme) :
    (Program.ofTokens s).1 = (Program.ofTokens t).1 ∧
      (Program.ofTokens s).2.length = (Program.ofTokens t).2.length ∧
      ∀ (i : Nat) (e f : ParseError),
        (Program.ofTokens s).2[i]? = some e → (Program.ofTokens t).2[i]? = some f →
        e.cause = f.cause ∧ e.message = f.message ∧
        ∃ k, e.position = (s.tokenAt k).position ∧ f.position = (t.tokenAt k).position ∧
          (s.tokenAt k).lexeme = (t.tokenAt k).lexeme ∧ e.cause.Blames (s.tokenAt k).lexeme := by
  obtain ⟨a, k, fs, hs, ht, htrace, -⟩ := Track.alike_statements .all (fun _ => trivial)
    (Parser.track s h) (Parser.track t rfl) .source (h ▸ Parser.depth_le s) (Parser.depth_le t)
  rw [Parser.ofTokens_of_statements h hs, Parser.ofTokens_of_statements rfl ht]
  refine ⟨rfl, by rw [List.length_map, List.length_map], ?_⟩
  intro i e f he hf
  rw [List.getElem?_map] at he hf
  obtain ⟨fault, hfault, rfl⟩ := Option.map_eq_some_iff.mp he
  rw [hfault] at hf
  obtain rfl := Option.some.inj hf
  refine ⟨rfl, rfl, fault.token, (s.position_tokenAt _).symm, (t.position_tokenAt _).symm, ?_, ?_⟩
  · rw [s.lexeme_tokenAt, t.lexeme_tokenAt, h]
  · rw [s.lexeme_tokenAt, h]
    exact htrace.blames fault (List.mem_reverse.mp (List.mem_of_getElem? hfault))

/-- Four faults in a line, and the same with comments between. The positions are those of the sign
before which no name stands, of the semicolon at which reading goes on, of the number in place of a
name and of the end of the input. -/
theorem errors_between_comments :
    let line := TokenStream.ofSource "1 = 2; let 3; fun() \x7b" "f"
    let lines :=
      TokenStream.ofSource "1 # one\n= # sign\n2; let # name\n3; fun() # open\n\x7b # end" "f"
    (Program.ofTokens line).1 = (Program.ofTokens lines).1 ∧
      (Program.ofTokens line).2.length = (Program.ofTokens lines).2.length ∧
      (Program.ofTokens lines).2 =
        [⟨.invalidTarget "1", ⟨"f", 2⟩⟩, ⟨.noOperand ";", ⟨"f", 3⟩⟩,
          ⟨.unexpected .ident .int, ⟨"f", 4⟩⟩, ⟨.unterminatedBlock .eof, ⟨"f", 5⟩⟩] := by
  intro line lines
  have hsame := layout_carries_no_meaning line lines (by decide +kernel)
  exact ⟨hsame.1, hsame.2.1, by decide +kernel⟩

end CurryLang
