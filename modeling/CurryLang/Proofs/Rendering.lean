import CurryLang.Proofs.Decomposition

/-!
# Lexing undoes rendering

A row of lexemes is rendered lexeme by lexeme: each one in its own spelling, and behind it a line feed
if it is a comment and a space if it is not. Nothing that was written apart is joined by this: no
spelling goes on with the character behind it (`Lexeme.endsBefore_ending`), so the text spells the row
(`spells_render`) and is cut into the same lexemes again.
-/

namespace CurryLang

open Lexer

/-! ## Lexemes that can be written -/

/-- The literal is one that a lexeme of this kind has in a text. -/
def Lexeme.Proper (x : Lexeme) : Prop :=
  match x.kind with
  | .ident => Word x.literal.toList ∧ ∀ k : Keyword, k.text ≠ x.literal
  | .int => x.literal.toList ≠ [] ∧ ∀ c ∈ x.literal.toList, Digit c
  | .string => '"' ∉ x.literal.toList
  | .comment =>
    (∀ c ∈ x.literal.toList, c ≠ '\n' ∧ c ≠ '\r') ∧ Trims x.literal.toList x.literal.toList
  | .keyword k => x.literal = k.text
  | .symbol s => x.literal = s.text
  | .eof | .illegal => False

theorem trim_eq_self_iff {cs : List Char} : Text.trim cs = cs ↔ Trims cs cs := by
  refine ⟨fun h => ?_, Trims.trim_eq⟩
  have htrims := trims_trim cs
  rwa [h] at htrims

theorem Lexer.isName_iff {name : String} :
    isName name = true ↔ Word name.toList ∧ ∀ k : Keyword, k.text ≠ name := by
  rw [isName, Bool.and_eq_true, isWord_iff, Option.isNone_iff_eq_none, Keyword.ofText?,
    List.find?_eq_none]
  refine and_congr_right fun _ => ⟨fun h k hk => ?_, fun h k _ hk => ?_⟩
  · exact h k (Keyword.mem_all k) (beq_iff_eq.mpr hk)
  · exact h k (eq_of_beq hk)

/-- **The checks on literals say what they should.** -/
theorem Lexeme.wellFormed_iff {x : Lexeme} : x.wellFormed = true ↔ x.Proper := by
  obtain ⟨kind, literal⟩ := x
  cases kind with
  | ident => exact isName_iff
  | int => simp [wellFormed, Proper, isDigit_iff]
  | string => exact all_isStringPart_iff
  | comment =>
    rw [wellFormed, Proper, Bool.and_eq_true, all_isCommentPart_iff, beq_iff_eq, trim_eq_self_iff]
  | keyword k | symbol s => exact beq_iff_eq
  | eof | illegal => simp [wellFormed, Proper]

instance (x : Lexeme) : Decidable x.Proper := decidable_of_iff _ Lexeme.wellFormed_iff

/-! ## Rendering -/

/-- The character that is written behind a lexeme. -/
def Lexeme.ending (x : Lexeme) : Char := if x.kind = .comment then '\n' else ' '

def render (w : List Lexeme) : String :=
  String.ofList (w.flatMap fun x => x.spelling ++ [x.ending])

theorem Lexeme.isSpace_ending (x : Lexeme) : isSpace x.ending = true := by
  unfold Lexeme.ending
  split <;> rfl

theorem Lexeme.endsBefore_ending (x : Lexeme) : x.endsBefore (some x.ending) = true := by
  obtain ⟨kind, literal⟩ := x
  cases kind with
  | symbol s => cases s <;> rfl
  | _ => rfl

theorem spells_render {w : List Lexeme} (hw : ∀ x ∈ w, x.wellFormed = true) :
    Spells w (render w).toList := by
  rw [render, String.toList_ofList]
  induction w with
  | nil => exact .nil
  | cons x w ih =>
    rw [List.forall_mem_cons] at hw
    rw [List.flatMap_cons, List.append_assoc, List.singleton_append]
    exact .cons hw.1 x.endsBefore_ending (.space x.isSpace_ending (ih hw.2))

/-- The token number `i` of a stream, going on past the end of the row. -/
def TokenStream.get (s : TokenStream) (i : Nat) : Token := s.tokens[i]?.getD s.final

/-- **Lexing undoes rendering.** The tokens of the text of a row of proper lexemes are these lexemes,
in order, and from then on the stream yields the end of the input. -/
theorem lexing_undoes_rendering (w : List Lexeme) (file : String) (hw : ∀ x ∈ w, x.Proper) :
    (TokenStream.ofSource (render w) file).tokens.map Token.lexeme = w ∧
    ∀ i, ((TokenStream.ofSource (render w) file).get i).lexeme = w[i]?.getD .eof := by
  have hspells := spells_render fun x hx => Lexeme.wellFormed_iff.mpr (hw x hx)
  have htokens : (TokenStream.ofSource (render w) file).tokens.map Token.lexeme = w := by
    rw [TokenStream.map_lexeme_ofSource, hspells.lexemes_eq]
  refine ⟨htokens, fun i => ?_⟩
  have hat : (TokenStream.ofSource (render w) file).tokens[i]?.map Token.lexeme = w[i]? := by
    rw [← List.getElem?_map, htokens]
  rw [← hat, TokenStream.get]
  cases (TokenStream.ofSource (render w) file).tokens[i]? <;> rfl

/-- Halves of operators next to each other, a keyword in front of a name that starts with it, digits in
front of a letter, and strings and comments with each other's marks in them. -/
theorem adjacent_halves_read_back :
    let w : List Lexeme := [⟨.symbol .assign, "="⟩, ⟨.symbol .equal, "=="⟩, ⟨.symbol .bang, "!"⟩,
      ⟨.symbol .assign, "="⟩, ⟨.keyword .letWord, "let"⟩, ⟨.ident, "let_1"⟩, ⟨.int, "007"⟩,
      ⟨.ident, "x"⟩, ⟨.string, "# a\nb"⟩, ⟨.comment, "say \"hi\" #"⟩, ⟨.string, ""⟩, ⟨.comment, ""⟩]
    render w = "= == ! = let let_1 007 x \"# a\nb\" #say \"hi\" #\n\"\" #\n" ∧
    (TokenStream.ofSource (render w) "f").tokens.map Token.lexeme = w := by
  intro w
  exact ⟨by decide +kernel, (lexing_undoes_rendering w "f" (by decide +kernel)).1⟩

end CurryLang
