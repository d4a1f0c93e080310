import CurryLang.Proofs.Cursor

/-!
# Readings along a row

What a reading does depends on the lexemes of its row only, whatever tape it goes along, and its bound
does not matter once it is large enough.

1. A `Track` says how a tape goes along a row: how it looks after so many moves and with such faults.
2. A `Trace` is a history of moves and faults in which every fault is one of the lexeme that it names.
   What one entry keeps, a whole history keeps.
3. Along two tracks of one row, readers do the same, and what they do has a trace
   (`Track.beside`, `Track.alike_of_meets`). A bound of eight for each lexeme is large enough.
-/

namespace CurryLang

/-- The lexeme number `i` of a row that goes on with ends of the input. -/
def lexemeAt (row : List Lexeme) (i : Nat) : Lexeme := row[i]?.getD .eof

theorem lexemeAt_eq_headD (row : List Lexeme) (i : Nat) :
    lexemeAt row i = (row.drop i).headD .eof := by
  rw [List.headD_eq_head?_getD, List.head?_drop]
  rfl

theorem lexemeAt_of_length_le {row : List Lexeme} {i : Nat} (h : row.length ≤ i) :
    lexemeAt row i = .eof := by
  rw [lexemeAt, List.getElem?_eq_none h]
  rfl

theorem lt_length_of_lexemeAt {row : List Lexeme} {i : Nat} (h : (lexemeAt row i).kind ≠ .eof) :
    i < row.length := by
  refine Nat.lt_of_not_le fun hi => h ?_
  rw [lexemeAt_of_length_le hi]
  rfl

/-! ## Histories -/

/-- What can have happened along a row after so many moves: the faults, the latest first. A fault is
noted at the lexeme that was reached, or at an assignment sign with the text of a tree. -/
inductive Trace (G : Growth) (row : List Lexeme) : Nat → List Fault → Prop
  | start : Trace G row 0 []
  | move {i : Nat} {fs : List Fault} (h : Trace G row i fs) : Trace G row (i + 1) fs
  | blame {i : Nat} {fs : List Fault} {a : Cause} (h : Trace G row i fs)
    (hhere : a.isTarget = false) (ha : a.Blames (lexemeAt row i)) : Trace G row i (⟨a, i⟩ :: fs)
  | target {i j : Nat} {fs : List Fault} {e : Expr} (h : Trace G row i fs)
    (hj : (lexemeAt row j).kind = .symbol .assign) (he : G.expr e) :
    Trace G row i (⟨.invalidTarget e.text, j⟩ :: fs)

/-- **A fault has the number of the lexeme that is to blame.** -/
theorem Trace.blames {G : Growth} {row : List Lexeme} {i : Nat} {fs : List Fault}
    (h : Trace G row i fs) : ∀ f ∈ fs, f.cause.Blames (lexemeAt row f.token) := by
  induction h with
  | start => exact nofun
  | move _ ih => exact ih
  | blame _ _ ha ih => exact List.forall_mem_cons.mpr ⟨ha, ih⟩
  | target _ hj _ ih => exact List.forall_mem_cons.mpr ⟨hj, ih⟩

/-! ## Tracks -/

/-- How a tape goes along a row. -/
structure Track (C : Type) {P : Type} [Tape C P] (row : List Lexeme) where
  /-- The tape after so many moves, with the faults met so far, the latest first. -/
  tape : Nat → List Fault → C
  /-- The place of a lexeme of the row. -/
  place : Nat → P
  current_tape : ∀ i fs, Tape.current (tape i fs) = lexemeAt row i
  place_tape : ∀ i fs, Tape.place (tape i fs) = place i
  nextPlace_tape : ∀ i fs, Tape.nextPlace (tape i fs) = place (i + 1)
  advance_tape : ∀ i fs, Tape.advance (tape i fs) = tape (i + 1) fs
  record_tape : ∀ i fs a j, Tape.record (tape i fs) a (place j) = tape i (⟨a, j⟩ :: fs)

namespace Track

variable {C D P Q α : Type} [Tape C P] [Tape D Q] {row : List Lexeme}

theorem next_tape (V : Track C row) (i : Nat) (fs : List Fault) :
    Tape.next (V.tape i fs) = lexemeAt row (i + 1) := by
  rw [← Tape.current_advance, V.advance_tape, V.current_tape]

/-- Two tracks of one row, side by side. A reader that has given up stands in front of the lexeme that
the next reader starts on, and may have noted a fault there. -/
def beside (G : Growth) (hword : ∀ i, G.word (lexemeAt row i).literal) (V : Track C row)
    (W : Track D row) : Lockstep C D where
  toGrowth := G
  length := row.length
  state i c d := ∃ fs, c = V.tape i fs ∧ d = W.tape i fs ∧ Trace G row i fs
  halted i c d := ∃ fs, c = V.tape i fs ∧ d = W.tape i fs ∧ Trace G row (i + 1) fs
  sign p q := ∃ j, p = V.place j ∧ q = W.place j ∧ (lexemeAt row j).kind = .symbol .assign
  room k n m := k ≤ n ∧ k ≤ m
  room_mono hj h := ⟨Nat.le_trans hj h.1, Nat.le_trans hj h.2⟩
  room_succ := by
    rintro k n (_ | m) ⟨hn, hm⟩
    · cases hm
    · exact ⟨m, rfl, Nat.le_of_succ_le_succ hn, Nat.le_of_succ_le_succ hm⟩
  room_zero h := absurd h.1 (Nat.not_succ_le_zero _)
  current_eq := by
    rintro i _ _ ⟨fs, rfl, rfl, -⟩
    rw [V.current_tape, W.current_tape]
  word_current := by
    rintro i _ _ ⟨fs, rfl, -⟩
    rw [V.current_tape]
    exact hword i
  inside := by
    rintro i _ _ ⟨fs, rfl, -⟩ hkind
    rw [V.current_tape] at hkind
    exact lt_length_of_lexemeAt hkind
  advance := by
    rintro i _ _ ⟨fs, rfl, rfl, h⟩
    exact ⟨fs, V.advance_tape i fs, W.advance_tape i fs, h.move⟩
  halt := by
    rintro i _ _ ⟨fs, rfl, rfl, h⟩
    exact ⟨fs, rfl, rfl, h.move⟩
  resume := by
    rintro i _ _ ⟨fs, rfl, rfl, h⟩
    exact ⟨fs, V.advance_tape i fs, W.advance_tape i fs, h⟩
  stop h _ := absurd h.1 (Nat.not_succ_le_zero _)
  blame := by
    rintro i _ _ a ⟨fs, rfl, rfl, h⟩ hhere ha
    rw [V.current_tape] at ha
    rw [V.place_tape, W.place_tape]
    exact ⟨⟨a, i⟩ :: fs, V.record_tape .., W.record_tape .., h.blame hhere ha⟩
  miss := by
    rintro i _ _ a ⟨fs, rfl, rfl, h⟩ hhere ha
    rw [V.next_tape] at ha
    rw [V.nextPlace_tape, W.nextPlace_tape]
    exact ⟨⟨a, i + 1⟩ :: fs, V.record_tape .., W.record_tape .., h.move.blame hhere ha⟩
  mark := by
    rintro i _ _ ⟨fs, rfl, rfl, -⟩ hkind
    rw [V.current_tape] at hkind
    exact ⟨i, V.place_tape i fs, W.place_tape i fs, hkind⟩
  target := by
    rintro i _ _ _ _ e ⟨fs, rfl, rfl, h⟩ ⟨j, rfl, rfl, hj⟩ he
    exact ⟨⟨.invalidTarget e.text, j⟩ :: fs, V.record_tape .., W.record_tape .., h.target hj he⟩

/-- Two readings of one row have the same result, after the same moves and with the same faults. -/
def Alike (G : Growth) (limit : Nat) (V : Track C row) (W : Track D row) (x : Option α × C)
    (y : Option α × D) : Prop :=
  ∃ a i fs, x = (a, V.tape i fs) ∧ y = (a, W.tape i fs) ∧ Trace G row (i + 1) fs ∧ i ≤ limit

variable {G : Growth} {hword : ∀ i, G.word (lexemeAt row i).literal} {V : Track C row}
  {W : Track D row}

theorem beside_state : (beside G hword V W).state 0 (V.tape 0 []) (W.tape 0 []) :=
  ⟨[], rfl, rfl, .start⟩

theorem alike_of_meets {R : α → Prop} {limit : Nat} {x : Option α × C} {y : Option α × D}
    (h : (beside G hword V W).Meets R limit 0 x y) : Alike G limit V W x y := by
  have hle {j : Nat} (hj : (beside G hword V W).reach j ≤ limit) : j ≤ limit :=
    Nat.le_trans (Nat.le_add_right j _) hj
  cases h with
  | result _ hlimit _ h =>
    obtain ⟨fs, rfl, rfl, htrace⟩ := h
    exact ⟨_, _, fs, rfl, rfl, htrace.move, hle hlimit⟩
  | failure _ hlimit h =>
    obtain ⟨fs, rfl, rfl, htrace⟩ := h
    exact ⟨_, _, fs, rfl, rfl, htrace, hle hlimit⟩

/-- **A row is read alike along two tracks**, with any bounds that are large enough. -/
theorem alike_statements (G : Growth) (hword : ∀ i, G.word (lexemeAt row i).literal)
    (V : Track C row) (W : Track D row) (around : Reader.Enclosure) {n m : Nat}
    (hn : 8 * row.length + 5 ≤ n) (hm : 8 * row.length + 5 ≤ m) :
    Alike G (2 * row.length + 1) V W (Reader.statements n around (V.tape 0 []))
      (Reader.statements m around (W.tape 0 [])) := by
  have hreach : (beside G hword V W).reach 0 = 2 * row.length := Nat.zero_add _
  exact alike_of_meets (((beside G hword V W).meetsAt n).statements around ⟨hn, hm⟩ beside_state
    (by omega) (.inr (by omega)))

end Track

/-! ## Cursors -/

def Fault.later (offset : Nat) (f : Fault) : Fault := { f with token := f.token + offset }

namespace Cursor

/-- The cursor `k` lexemes further, with more faults. -/
def after (c : Cursor) (k : Nat) (faults : List Fault) : Cursor :=
  { c with ahead := c.ahead.drop k, index := c.index + k, faults := faults ++ c.faults }

@[simp] theorem ahead_after (c : Cursor) (k : Nat) (fs : List Fault) :
    (c.after k fs).ahead = c.ahead.drop k := rfl

theorem after_zero (c : Cursor) : c.after 0 [] = c := rfl

theorem after_after (c : Cursor) (j k : Nat) (fs gs : List Fault) :
    (c.after j fs).after k gs = c.after (j + k) (gs ++ fs) := by
  unfold after
  rw [List.drop_drop, Nat.add_assoc, List.append_assoc]

theorem advance_after (c : Cursor) (k : Nat) (fs : List Fault) :
    (c.after k fs).advance = c.after (k + 1) fs := by
  unfold advance after
  rw [List.tail_drop, Nat.add_assoc]

/-- A cursor on its way along the lexemes that it has ahead. -/
def track (c : Cursor) {row : List Lexeme} (h : c.ahead = row) : Track Cursor row where
  tape k fs := c.after k (fs.map (Fault.later c.index))
  place k := k + c.index
  current_tape k _ := by
    subst h
    exact (lexemeAt_eq_headD c.ahead k).symm
  place_tape k _ := Nat.add_comm c.index k
  nextPlace_tape k fs := by
    show c.index + k + 1 = k + 1 + c.index
    omega
  advance_tape k _ := c.advance_after k _
  record_tape _ _ _ _ := rfl

/-- Behind a statement the cursor is the same, some lexemes further and with some more faults. -/
theorem exists_statement_eq (c : Cursor) {n : Nat} (hn : 8 * c.ahead.length + 4 ≤ n) :
    ∃ a k fs, Reader.statement n c = (a, c.after k fs) := by
  have hstate : (Track.beside .all (fun _ => trivial) (c.track rfl) (c.track rfl)).state 0 c c :=
    Track.beside_state
  obtain ⟨a, k, fs, hread, -⟩ := Track.alike_of_meets
    ((Lockstep.meetsAt _ n).statement ⟨hn, hn⟩ hstate (Nat.le_refl _))
  exact ⟨a, k, _, hread⟩

end Cursor

/-! ## Whole rows -/

namespace Program

theorem depth_bound (row : List Lexeme) : 8 * row.length + 5 ≤ Reader.depth row.length := by
  unfold Reader.depth
  omega

theorem ofLexemes_of_statements {row : List Lexeme} {a : Option Program} {k : Nat}
    {fs : List Fault}
    (h : Reader.statements (Reader.depth row.length) .source (((Cursor.start row).track rfl).tape 0 []) =
      (a, ((Cursor.start row).track rfl).tape k fs)) :
    ofLexemes row = (a.getD [], fs.reverse) := by
  have hfaults : (((Cursor.start row).track rfl).tape k fs).faults = fs := by
    show fs.map (Fault.later 0) ++ [] = fs
    rw [List.append_nil]
    exact List.map_id fs
  unfold ofLexemes read
  replace h : Reader.statements _ .source (Cursor.start row) = _ := h
  rw [h, hfaults]

theorem exists_trace (G : Growth) (row : List Lexeme)
    (hword : ∀ i, G.word (lexemeAt row i).literal) :
    ∃ i fs, Trace G row i fs ∧ (ofLexemes row).2 = fs.reverse := by
  obtain ⟨a, k, fs, hread, -, htrace, -⟩ := Track.alike_statements G hword
    ((Cursor.start row).track rfl) ((Cursor.start row).track rfl) .source (depth_bound row) (depth_bound row)
  exact ⟨k + 1, fs, htrace, congrArg Prod.snd (ofLexemes_of_statements hread)⟩

theorem blames_of_mem_faults {row : List Lexeme} {f : Fault} (hf : f ∈ (ofLexemes row).2) :
    f.cause.Blames (lexemeAt row f.token) := by
  obtain ⟨i, fs, htrace, heq⟩ := exists_trace .all row fun _ => trivial
  rw [heq, List.mem_reverse] at hf
  exact htrace.blames f hf

end Program

end CurryLang
