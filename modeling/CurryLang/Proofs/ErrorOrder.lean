import Mathlib.Data.List.Pairwise
import Mathlib.Order.Monotone.Basic
import CurryLang.Proofs.Window
import CurryLang.Proofs.Rendering

/-!
# Errors come in source order

The errors of a reading stand in the order of the tokens that they point at, apart from those at an
assignment sign, which are noted only when the value behind the sign has been read.

1. Along a trace the numbers of the faults, the latest first, never rise, and none is above the number
   of moves (`Trace.ordered`). So the faults of a reading rise (`pairwise_faults`).
2. A fault names the lexeme number `k` among the significant ones, which is the token number
   `numberAt k` of the stream, comments counted. The one rises with the other
   (`TokenStream.strictMono_numberAt`).
3. The lines of the tokens of a source never fall (`TokenStream.line_get_mono`).
-/

namespace CurryLang

/-! ## Along a trace -/

/-- The fault is noted where the reader stands. -/
def Fault.inOrder (f : Fault) : Bool := !f.cause.isTarget

/-- The number of moves, and the numbers of the faults noted where a reader stood, the latest first. -/
def Fault.trail (i : Nat) (fs : List Fault) : List Nat :=
  i :: (fs.filter Fault.inOrder).map Fault.token

/-- No number of a trail is above the one before it. -/
theorem Trace.ordered {G : Growth} {row : List Lexeme} {i : Nat} {fs : List Fault}
    (h : Trace G row i fs) : (Fault.trail i fs).Pairwise (· ≥ ·) := by
  induction h with
  | start => exact List.pairwise_singleton _ _
  | move _ ih =>
    obtain ⟨hbelow, hrest⟩ := List.pairwise_cons.mp ih
    exact List.pairwise_cons.mpr ⟨fun i hi => Nat.le_succ_of_le (hbelow i hi), hrest⟩
  | @blame i fs a _ hhere _ ih =>
    have horder : Fault.inOrder ⟨a, i⟩ = true := by simp [Fault.inOrder, hhere]
    have hbelow := (List.pairwise_cons.mp ih).1
    unfold Fault.trail
    rw [List.filter_cons_of_pos horder, List.map_cons]
    exact List.pairwise_cons.mpr ⟨List.forall_mem_cons.mpr ⟨Nat.le_refl _, hbelow⟩, ih⟩
  | target _ _ _ ih => exact ih

/-- **The faults of a reading, apart from those at assignment signs, rise.** -/
theorem pairwise_faults (row : List Lexeme) :
    ((Program.ofLexemes row).2.filter Fault.inOrder).Pairwise (fun f g => f.token ≤ g.token) := by
  obtain ⟨i, fs, htrace, hfaults⟩ := Program.exists_trace .all row fun _ => trivial
  have hrises := (List.pairwise_cons.mp htrace.ordered).2
  rw [hfaults, List.filter_reverse, List.pairwise_reverse]
  exact List.pairwise_map.mp hrises

/-! ## Numbers of tokens -/

/-- What is left is the rest of the row behind the tokens that were drawn. -/
def Supply.Of (s : TokenStream) (p : Supply) : Prop := p.rest = s.tokens.drop p.drawn

/-- A pull draws a token at least, and the last one it draws is the one that it gives. -/
theorem Supply.Of.pull {s : TokenStream} {p : Supply} (h : p.Of s) :
    (p.pull s.final).2.Of s ∧ p.drawn < (p.pull s.final).2.drawn ∧
      (p.pull s.final).1 = s.get ((p.pull s.final).2.drawn - 1) := by
  obtain ⟨rest, drawn⟩ := p
  unfold Supply.pull Supply.Of at *
  simp only at h ⊢
  induction rest generalizing drawn with
  | nil =>
    have hlength : s.tokens.length ≤ drawn := List.drop_eq_nil_iff.mp h.symm
    have hnone : s.tokens[drawn]? = none := List.getElem?_eq_none hlength
    refine ⟨(List.drop_eq_nil_of_le (Nat.le_succ_of_le hlength)).symm, Nat.lt_succ_self _, ?_⟩
    simp [drawFrom, TokenStream.get, hnone]
  | cons t rest ih =>
    have hfirst : s.tokens[drawn]? = some t := by
      rw [← List.head?_drop, ← h]
      rfl
    have hrest : rest = s.tokens.drop (drawn + 1) := by
      rw [← List.tail_drop, ← h]
      rfl
    by_cases ht : t.lexeme.isComment = true
    · rw [drawFrom, if_pos ht]
      obtain ⟨hof, hlt, hlast⟩ := ih (drawn + 1) hrest
      exact ⟨hof, Nat.lt_of_succ_lt hlt, hlast⟩
    · rw [drawFrom, if_neg ht]
      refine ⟨hrest, Nat.lt_succ_self _, ?_⟩
      simp [TokenStream.get, hfirst]

namespace TokenStream

variable (s : TokenStream)

theorem of_supply (k : Nat) : (s.supply k).Of s := by
  induction k with
  | zero => rfl
  | succ k ih => exact ih.pull.1

/-- The number, comments counted, of the significant token number `k`: the last one that is drawn
when it is pulled. -/
def numberAt (k : Nat) : Nat := (s.supply (k + 1)).drawn - 1

theorem get_numberAt (k : Nat) : s.get (s.numberAt k) = s.tokenAt k := by
  rw [← s.fst_pull_supply k, (s.of_supply k).pull.2.2]
  rfl

theorem strictMono_numberAt : StrictMono s.numberAt := by
  refine strictMono_nat_of_lt_succ fun k => ?_
  have hthis : (s.supply k).drawn < (s.supply (k + 1)).drawn := (s.of_supply k).pull.2.1
  have hnext : (s.supply (k + 1)).drawn < (s.supply (k + 1 + 1)).drawn :=
    (s.of_supply (k + 1)).pull.2.1
  unfold numberAt
  omega

end TokenStream

/-! ## Lines of a source -/

namespace Lexer

theorem le_lineAfter (line : Nat) (c : Char) : line ≤ lineAfter line c := by
  unfold lineAfter
  split
  · exact Nat.le_succ _
  · exact Nat.le_refl _

/-- The lines of the tokens of a text, and behind them its last line, rise from its first line on. -/
theorem pairwise_lines (line skip : Nat) (cs : List Char) :
    (line :: ((scan line skip cs).map Prod.snd ++ [lastLine line cs])).Pairwise (· ≤ ·) := by
  induction cs generalizing line skip with
  | nil => exact List.pairwise_pair.mpr (Nat.le_refl _)
  | cons c cs ih =>
    have hgrows (skip : Nat) : (line ::
        ((scan (lineAfter line c) skip cs).map Prod.snd ++ [lastLine line (c :: cs)])).Pairwise
          (· ≤ ·) := by
      obtain ⟨hfirst, hrest⟩ := List.pairwise_cons.mp (ih (lineAfter line c) skip)
      exact List.pairwise_cons.mpr
        ⟨fun i hi => Nat.le_trans (le_lineAfter line c) (hfirst i hi), hrest⟩
    cases skip with
    | succ k => exact hgrows k
    | zero =>
      rw [scan]
      split
      · exact hgrows 0
      · have hrest := hgrows (cut c cs).more
        refine List.pairwise_cons.mpr ⟨?_, hrest⟩
        exact List.forall_mem_cons.mpr ⟨Nat.le_refl _, (List.pairwise_cons.mp hrest).1⟩

end Lexer

namespace TokenStream

/-- The lines of the tokens of a stream, and behind them the line of the ends of its input. -/
def lines (s : TokenStream) : List Nat := (s.tokens ++ [s.final]).map fun t => t.position.line

theorem length_lines (s : TokenStream) : s.lines.length = s.tokens.length + 1 := by simp [lines]

theorem line_get (s : TokenStream) (i : Nat) : (s.get i).position.line =
    s.lines.get ⟨min i s.tokens.length, by rw [length_lines]; omega⟩ := by
  by_cases hi : i < s.tokens.length
  · have hmin : min i s.tokens.length = i := by omega
    simp only [hmin]
    simp [get, lines, hi]
  · have hmin : min i s.tokens.length = s.tokens.length := by omega
    simp only [hmin]
    simp [get, lines, Nat.le_of_not_lt hi]

/-- **The lines of the tokens of a source never fall**, those of the ends of its input included. -/
theorem line_get_mono (source file : String) :
    Monotone fun i => ((TokenStream.ofSource source file).get i).position.line := by
  have hlines : (TokenStream.ofSource source file).lines.Pairwise (· ≤ ·) := by
    unfold lines
    rw [List.map_append, TokenStream.ofSource, List.map_map]
    exact (List.pairwise_cons.mp (Lexer.pairwise_lines 1 0 source.toList)).2
  generalize TokenStream.ofSource source file = s at hlines
  intro i j hij
  simp only [line_get]
  have hmin : min i s.tokens.length ≤ min j s.tokens.length := by omega
  exact hlines.rel_get_of_le (Fin.mk_le_mk.mpr hmin)

end TokenStream

/-! ## Main result -/

/-- **Errors come in source order.** Every error of a stream has the cause of a fault and the position
of the token that the fault names, listed or behind the row, which is the one that the cause blames.
The numbers of these tokens in the stream rise from error to error, those of assignments to something
else than an identifier left out; for a source, so do the lines of the errors. -/
theorem errors_in_source_order :
    (∀ s : TokenStream, ∃ faults : List Fault,
      (Program.ofTokens s).2 = faults.map (Fault.locate s) ∧
      (∀ f ∈ faults, (f.locate s).position = (s.get (s.numberAt f.token)).position ∧
        f.cause.Blames (s.get (s.numberAt f.token)).lexeme) ∧
      (faults.filter Fault.inOrder).Pairwise fun f g =>
        s.numberAt f.token ≤ s.numberAt g.token) ∧
    ∀ source file : String,
      ((Program.ofSource source file).2.filter fun e => !e.cause.isTarget).Pairwise fun e f =>
        e.position.line ≤ f.position.line := by
  have hfaults (s : TokenStream) :
      ((Program.ofLexemes (s.significant.map Token.lexeme)).2.filter Fault.inOrder).Pairwise
        fun f g => s.numberAt f.token ≤ s.numberAt g.token :=
    (pairwise_faults _).imp fun h => s.strictMono_numberAt.monotone h
  have hposition (s : TokenStream) (f : Fault) :
      (f.locate s).position = (s.get (s.numberAt f.token)).position := by
    rw [s.get_numberAt, s.position_tokenAt]
    rfl
  refine ⟨fun s => ⟨_, congrArg Prod.snd (Program.ofTokens_eq s), fun f hf => ⟨hposition s f, ?_⟩, hfaults s⟩, fun source file => ?_⟩
  · rw [s.get_numberAt, s.lexeme_tokenAt]
    exact Program.blames_of_mem_faults hf
  · let s := TokenStream.ofSource source file
    rw [Program.ofSource, Program.ofTokens_eq, List.filter_map, List.pairwise_map]
    refine (hfaults s).imp fun {f g} h => ?_
    rw [hposition, hposition]
    exact TokenStream.line_get_mono source file h

/-- The number that is no parameter is met before the assignment is known to have no target. -/
example : (Program.ofSource "1 =\nfun(2) \x7b\x7d" "f").2 =
    [⟨.invalidParameter "2", ⟨"f", 2⟩⟩, ⟨.invalidTarget "1", ⟨"f", 1⟩⟩] := by
  decide +kernel

end CurryLang
