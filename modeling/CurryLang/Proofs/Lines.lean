import CurryLang.Proofs.Rendering

/-!
# Lines are counted exactly

The line of a token is one more than the number of line feeds before its first character, and the
line of the end of the input one more than the number of all line feeds.

1. `Located n places cs`: how a text falls into gaps and pieces, with the number of characters
   before the piece of each lexeme. The lines of the tokens are those of these places
   (`Located.scan_eq`).
2. Tokens can be handed out one at a time as well. A `Tally` then knows how many characters have
   been taken and up to where line feeds have been counted. The count goes on to the first character
   of the next token only, so it lags behind by the last token. No line feed is counted twice and
   none is left out: `Tally.Exact` holds in the beginning, and every call keeps it
   (`Tally.next_spec`).
3. So call number `i` hands out the token number `i` of the stream (`pulled_eq`).
-/

namespace CurryLang

open Lexer

/-! ## Places in a text -/

/-- The text consists of gaps and of pieces that the lexemes cover, in this order, and beside each
lexeme stands the number of characters before its piece when `n` characters come before the text. -/
inductive Located : Nat → List (Lexeme × Nat) → List Char → Prop where
  | gap {n : Nat} {gap : List Char} (hgap : ∀ c ∈ gap, c ∈ separators) : Located n [] gap
  | token {n : Nat} {x : Lexeme} {places : List (Lexeme × Nat)} {gap piece after : List Char}
      (hgap : ∀ c ∈ gap, c ∈ separators) (hpiece : piece ≠ []) (hx : x.Covers piece after)
      (h : Located (n + gap.length + piece.length) places after) :
      Located n ((x, n + gap.length) :: places) (gap ++ piece ++ after)

theorem FallsInto.exists_located {w : List Lexeme} {cs : List Char} (h : FallsInto w cs) (n : Nat) :
    ∃ places, Located n places cs := by
  induction h generalizing n with
  | gap hgap => exact ⟨[], .gap hgap⟩
  | @token x _ gap piece _ hgap hpiece hx _ ih =>
    obtain ⟨places, h⟩ := ih (n + gap.length + piece.length)
    exact ⟨(x, n + gap.length) :: places, .token hgap hpiece hx h⟩

namespace Lexer

theorem lastLine_append (line : Nat) (cs ds : List Char) :
    lastLine line (cs ++ ds) = lastLine (lastLine line cs) ds := List.foldl_append

/-- A gap is skipped, its line feeds are not. -/
theorem scan_gap {gap : List Char} (hgap : gap.all isSpace = true) (line : Nat) (cs : List Char) :
    scan line 0 (gap ++ cs) = scan (lastLine line gap) 0 cs := by
  induction gap generalizing line with
  | nil => rfl
  | cons c gap ih =>
    obtain ⟨hc, hgap⟩ := Bool.and_eq_true_iff.mp hgap
    rw [List.cons_append, scan_space hc]
    exact ih hgap _

theorem scan_of_all_space {gap : List Char} (hgap : gap.all isSpace = true) (line : Nat) :
    scan line 0 gap = [] := by
  have hscan := scan_gap hgap line []
  rwa [List.append_nil] at hscan

theorem all_isSpace {gap : List Char} (h : ∀ c ∈ gap, c ∈ separators) : gap.all isSpace = true :=
  List.all_eq_true.mpr fun c hc => isSpace_iff.mpr (h c hc)

/-- A token is followed by what stands behind its piece, on the line reached there. -/
theorem scan_piece {c : Char} {more after : List Char} {x : Lexeme} (hc : isSpace c = false)
    (hcut : cut c (more ++ after) = ⟨x, more.length⟩) (line : Nat) :
    scan line 0 (c :: more ++ after) = (x, line) :: scan (lastLine line (c :: more)) 0 after := by
  rw [List.cons_append, scan_token (Bool.eq_false_iff.mp hc), hcut, scan_skip, List.take_left,
    List.drop_left]
  rfl

/-- A text is a gap, or it starts with a gap and a piece. -/
theorem gap_or_piece (cs : List Char) : cs.all isSpace = true ∨
    ∃ gap c more after x, cs = gap ++ (c :: more ++ after) ∧ gap.all isSpace = true ∧
      isSpace c = false ∧ cut c (more ++ after) = ⟨x, more.length⟩ := by
  obtain ⟨gap, behind, rfl, hgap, hbehind⟩ := exists_run isSpace cs
  cases behind with
  | nil => exact .inl (by rwa [List.append_nil])
  | cons c behind =>
    have hc : isSpace c = false := by simpa using hbehind
    obtain ⟨more, after, rfl, hmore, -⟩ := covers_cut hc behind
    exact .inr ⟨gap, c, more, after, _, rfl, hgap, hc, by rw [← hmore]⟩

end Lexer

/-- **The lines of the tokens of a text are those of their places**, whatever stands before it. -/
theorem Located.scan_eq {n : Nat} {places : List (Lexeme × Nat)} {cs : List Char}
    (h : Located n places cs) (front : List Char) (hn : front.length = n) :
    scan (lastLine 1 front) 0 cs =
      places.map fun p => (p.1, 1 + ((front ++ cs).take p.2).count '\n') := by
  induction h generalizing front with
  | @gap n gap hgap => exact scan_of_all_space (all_isSpace hgap) _
  | @token n x places gap piece after hgap hpiece hx h ih =>
    obtain ⟨c, more, rfl, hspace, hcut⟩ := hx.cut_eq
    have htake : (front ++ (gap ++ (c :: more) ++ after)).take (n + gap.length) = front ++ gap := by
      rw [← hn, ← List.length_append, List.append_assoc, ← List.append_assoc, List.take_left]
    have hrest := ih (front ++ gap ++ c :: more) (by rw [List.length_append, List.length_append, hn])
    rw [List.map_cons, htake, ← lastLine_eq, lastLine_append, List.append_assoc gap,
      scan_gap (all_isSpace hgap), scan_piece hspace hcut, ← lastLine_append, ← lastLine_append, hrest]
    simp only [List.append_assoc]

/-! ## Tokens handed out one at a time -/

/-- How many characters tokens and gaps have taken so far, the number of characters whose line feeds
have been counted, and the line reached there. -/
structure Tally where
  taken : Nat
  counted : Nat
  line : Nat

namespace Tally

/-- Nothing taken and nothing counted. -/
def start : Tally := ⟨0, 0, 1⟩

/-- Goes on counting up to the character number `n`. -/
def countTo (cs : List Char) (t : Tally) (n : Nat) : Tally :=
  if t.counted < n then
    { t with counted := n, line := t.line + ((cs.take n).drop t.counted).count '\n' }
  else t

/-- Hands out the next lexeme of the text and its line: skips a gap, counts up to the first character
behind it and cuts out the token there. Line feeds inside the token are left for the next call. -/
def next (cs : List Char) (t : Tally) : (Lexeme × Nat) × Tally :=
  let first := t.taken + ((cs.drop t.taken).takeWhile isSpace).length
  match cs.drop first with
  | [] =>
    let t := t.countTo cs cs.length
    ((.eof, t.line), { t with taken := cs.length })
  | c :: rest =>
    let t := t.countTo cs first
    (((cut c rest).lexeme, t.line), { t with taken := first + 1 + (cut c rest).more })

/-- The tally after `i` calls. -/
def after (cs : List Char) : Nat → Tally
  | 0 => start
  | i + 1 => ((after cs i).next cs).2

/-- The line is that of the characters counted, and no more are counted than taken. -/
structure Exact (cs : List Char) (t : Tally) : Prop where
  counted_le : t.counted ≤ t.taken
  taken_le : t.taken ≤ cs.length
  line_eq : t.line = lastLine 1 (cs.take t.counted)

variable {cs : List Char} {t : Tally}

theorem exact_start (cs : List Char) : start.Exact cs :=
  ⟨Nat.le_refl _, Nat.zero_le _, rfl⟩

theorem Exact.countTo (h : t.Exact cs) {n : Nat} (hn : t.counted ≤ n) :
    (t.countTo cs n).counted = n ∧ (t.countTo cs n).line = lastLine 1 (cs.take n) := by
  unfold Tally.countTo
  split
  · have hsplit := List.take_append_drop t.counted (cs.take n)
    rw [List.take_take, Nat.min_eq_left hn] at hsplit
    refine ⟨rfl, ?_⟩
    rw [← hsplit, lastLine_append, ← h.line_eq, lastLine_eq, hsplit]
  · next hge =>
    have heq : t.counted = n := Nat.le_antisymm hn (Nat.le_of_not_lt hge)
    exact ⟨heq, heq ▸ h.line_eq⟩

/-- Counting up to character number `n` and taking up to number `m` behind it keeps the tally
exact. -/
theorem Exact.move (h : t.Exact cs) {n m : Nat} (hn : t.counted ≤ n) (hm : n ≤ m)
    (hend : m ≤ cs.length) : Exact cs { t.countTo cs n with taken := m } := by
  obtain ⟨hcounted, hline⟩ := h.countTo hn
  exact ⟨Nat.le_trans (Nat.le_of_eq hcounted) hm, hend, by rw [hline, hcounted]⟩

/-- The tokens that are left, with their lines. -/
def rest (cs : List Char) (t : Tally) : List (Lexeme × Nat) :=
  scan (lastLine 1 (cs.take t.taken)) 0 (cs.drop t.taken)

section Call

variable {front gap : List Char} (ht : t.taken = front.length) (hgap : gap.all isSpace = true)
include ht

theorem rest_append (behind : List Char) :
    t.rest (front ++ behind) = scan (lastLine 1 front) 0 behind := by
  rw [rest, ht, List.take_left, List.drop_left]

include hgap

/-- Where only a gap is left, a call counts to the end. -/
theorem next_of_gap : t.next (front ++ gap) =
    ((.eof, (t.countTo (front ++ gap) (front ++ gap).length).line),
      { t.countTo (front ++ gap) (front ++ gap).length with taken := (front ++ gap).length }) := by
  have hrun : (gap ++ []).takeWhile isSpace = gap := takeWhile_append_stop hgap rfl
  rw [List.append_nil] at hrun
  rw [next, ht, List.drop_left, hrun, ← List.length_append, List.drop_length]

/-- Where a gap and a piece follow, a call counts to the piece and takes it. -/
theorem next_of_piece {c : Char} {more after : List Char} {x : Lexeme} (hc : isSpace c = false)
    (hcut : cut c (more ++ after) = ⟨x, more.length⟩)
    (hcs : cs = front ++ gap ++ (c :: more ++ after)) :
    t.next cs = ((x, (t.countTo cs (front ++ gap).length).line),
      { t.countTo cs (front ++ gap).length with taken := (front ++ gap ++ c :: more).length }) := by
  have hrun : (gap ++ (c :: more ++ after)).takeWhile isSpace = gap :=
    takeWhile_append_stop hgap (by simpa using hc)
  have hleft : cs.drop front.length = gap ++ (c :: more ++ after) := by
    rw [hcs, List.append_assoc, List.drop_left]
  have hfrom : cs.drop (front ++ gap).length = c :: (more ++ after) := by
    rw [hcs, List.drop_left]
    rfl
  have hend : (front ++ gap).length + 1 + more.length = (front ++ gap ++ c :: more).length := by
    simp only [List.length_append, List.length_cons]
    omega
  rw [next, ht, hleft, hrun, ← List.length_append, hfrom]
  simp only [hcut, hend]

end Call

/-- **What one call does**: it hands out the first of the tokens that are left, or the end of the
input on the last line, and takes it away. The tally stays exact. -/
theorem next_spec (h : t.Exact cs) :
    (t.next cs).1 = (t.rest cs).headD (.eof, lastLine 1 cs) ∧
      (t.next cs).2.rest cs = (t.rest cs).tail ∧ (t.next cs).2.Exact cs := by
  obtain ⟨front, behind, rfl, ht⟩ : ∃ front behind, cs = front ++ behind ∧ t.taken = front.length :=
    ⟨cs.take t.taken, cs.drop t.taken, (List.take_append_drop ..).symm,
      (List.length_take_of_le h.taken_le).symm⟩
  have hcounted : t.counted ≤ front.length := ht ▸ h.counted_le
  rw [rest_append ht]
  rcases gap_or_piece behind with hgap | ⟨gap, c, more, after, x, rfl, hgap, hc, hcut⟩
  · have hend : t.counted ≤ (front ++ behind).length := by
      rw [List.length_append]
      omega
    rw [next_of_gap ht hgap, scan_of_all_space hgap, (h.countTo hend).2, List.take_length]
    refine ⟨rfl, ?_, h.move hend (Nat.le_refl _) (Nat.le_refl _)⟩
    rw [rest, List.drop_length]
    rfl
  · have hfirst : t.counted ≤ (front ++ gap).length := by
      rw [List.length_append]
      omega
    have htext : front ++ (gap ++ (c :: more ++ after)) = front ++ gap ++ (c :: more ++ after) :=
      (List.append_assoc ..).symm
    rw [htext] at h ⊢
    rw [next_of_piece ht hgap hc hcut rfl, scan_gap hgap, ← lastLine_append, scan_piece hc hcut,
      (h.countTo hfirst).2, List.take_left]
    refine ⟨rfl, ?_, h.move hfirst ?_ ?_⟩
    · rw [← List.append_assoc, rest_append rfl, lastLine_append]
      rfl
    · simp only [List.length_append]
      omega
    · simp only [List.length_append]
      omega

theorem exact_after (cs : List Char) (i : Nat) : (after cs i).Exact cs := by
  induction i with
  | zero => exact exact_start cs
  | succ i ih => exact (next_spec ih).2.2

theorem rest_after (cs : List Char) (i : Nat) : (after cs i).rest cs = (scan 1 0 cs).drop i := by
  induction i with
  | zero => rfl
  | succ i ih =>
    show (((after cs i).next cs).2).rest cs = _
    rw [(next_spec (exact_after cs i)).2.1, ih, List.tail_drop]

end Tally

/-- The token that call number `i` hands out. -/
def pulled (source file : String) (i : Nat) : Token :=
  let handed := ((Tally.after source.toList i).next source.toList).1
  ⟨handed.1, ⟨file, handed.2⟩⟩

/-- **The tokens handed out one at a time are those of the stream.** -/
theorem pulled_eq (source file : String) (i : Nat) :
    pulled source file i = (TokenStream.ofSource source file).get i := by
  unfold pulled
  rw [(Tally.next_spec (Tally.exact_after source.toList i)).1, Tally.rest_after,
    List.headD_eq_head?_getD, List.head?_drop]
  unfold TokenStream.get TokenStream.ofSource TokenStream.final
  rw [List.getElem?_map]
  cases (scan 1 0 source.toList)[i]? <;> rfl

/-! ## Main result -/

/-- **Line numbers are exact.** A source falls into gaps and tokens. However it does, call number `i`
hands out the token number `i`, on the line that is one more than the number of line feeds before its
first character. Every call behind the last token hands out the end of the input, on the line that is
one more than the number of all line feeds. -/
theorem token_lines_exact (source file : String) :
    (∃ places, Located 0 places source.toList) ∧
    ∀ places, Located 0 places source.toList → ∀ i,
      pulled source file i = (TokenStream.ofSource source file).get i ∧
      pulled source file i = match places[i]? with
        | some (x, k) => ⟨x, ⟨file, 1 + (source.toList.take k).count '\n'⟩⟩
        | none => ⟨.eof, ⟨file, 1 + source.toList.count '\n'⟩⟩ := by
  refine ⟨(fallsInto_lexemes source.toList).exists_located 0, fun places h i => ?_⟩
  have hscan : scan 1 0 source.toList =
      places.map fun p => (p.1, 1 + (source.toList.take p.2).count '\n') := h.scan_eq [] rfl
  refine ⟨pulled_eq source file i, ?_⟩
  rw [pulled_eq]
  unfold TokenStream.get TokenStream.ofSource TokenStream.final
  rw [hscan, List.map_map, List.getElem?_map, lastLine_eq]
  cases places[i]? <;> rfl

/-- A string over two lines, a comment that ends at a carriage return, an illegal character, a string
that is left open, and the end of the input twice. -/
example : (List.range 7).map (fun i => (pulled "a\n\"b\nc\" # d\r\n@ \"e\n" "f" i).position.line) =
    [1, 2, 3, 4, 4, 5, 5] := by
  decide +kernel

end CurryLang
