import CurryLang.Proofs.ParserExact
import CurryLang.Proofs.LineBreak
import CurryLang.Proofs.Application
import CurryLang.Session

/-!
# Source texts one after the other

A source text without errors whose last token is a semicolon and a second source text, on lines of
its own, are read and run as one text in the same way as one by one.

1. The tokens of the whole are those of the first text and those of the second one, further down: the
   first text has no string without its closing quote (`tokens_below_iff`).
2. No statement ends with a semicolon, so the last one of the first text stands behind a whole
   statement, whatever follows. The statements of the first text are read first
   (`Reader.statements_append`), and what is left is read as if it stood alone.
3. So the whole gives the statements of both texts and the errors of the second one, further down
   (`ofSource_below`).
4. Unless the first text fails or returns, the second one goes on from the state it leaves behind, in
   a run of its own as well as in one run (`Program.run_append`).
-/

namespace CurryLang

open Lexer Reader Eval

/-! ## Tokens -/

def ParseError.later (k : Nat) (e : ParseError) : ParseError :=
  { e with position := e.position.later k }

section Streams

variable {first file : String} (second : String)
  (hfirst : ∀ t ∈ (TokenStream.ofSource first file).tokens, ¬ t.lexeme.Unclosed)
include hfirst

theorem significant_below : (TokenStream.ofSource (below first second) file).significant =
    (TokenStream.ofSource first file).significant ++
      (TokenStream.ofSource second file).significant.map (Token.later (linesOf first)) := by
  simp only [TokenStream.significant]
  rw [tokens_below_iff.mpr hfirst, List.filter_append, List.filter_map]
  rfl

/-- Behind the tokens of the first text, the tokens stand further down. -/
theorem positionAt_below (i : Nat) :
    (TokenStream.ofSource (below first second) file).positionAt
        (i + (TokenStream.ofSource first file).significant.length) =
      ((TokenStream.ofSource second file).positionAt i).later (linesOf first) := by
  unfold TokenStream.positionAt
  rw [significant_below second hfirst, last_below, List.getElem?_append_right (Nat.le_add_left ..),
    Nat.add_sub_cancel, List.getElem?_map]
  cases (TokenStream.ofSource second file).significant[i]? <;> rfl

end Streams

/-! ## The end of a statement -/

/-- No semicolon stands at the end. -/
def Closed (w : List Lexeme) : Prop := ∀ x ∈ w.getLast?, x.kind ≠ .symbol .semicolon

section Closed

variable {x : Lexeme} {u v : List Lexeme}

theorem closed_nil : Closed [] := by
  intro x hx
  cases hx

theorem Closed.append (hu : Closed u) (hv : Closed v) : Closed (u ++ v) := by
  intro x hx
  rw [List.getLast?_append] at hx
  rcases Option.or_eq_some_iff.mp hx with hx | ⟨-, hx⟩
  · exact hv x hx
  · exact hu x hx

theorem closed_singleton (hx : x.kind ≠ .symbol .semicolon) : Closed [x] := by
  intro y hy
  rwa [← Option.some.inj hy]

theorem Closed.cons (hv : Closed v) (hx : x.kind ≠ .symbol .semicolon) : Closed (x :: v) :=
  (closed_singleton hx).append hv

/-- What stands before the last lexeme does not matter. -/
theorem Closed.append_cons (h : Closed (x :: v)) : Closed (u ++ x :: v) := by
  intro y hy
  rw [List.getLast?_append, List.getLast?_cons, Option.some_or] at hy
  exact h y (by rwa [List.getLast?_cons])

end Closed

/-- Phrases other than rows of statements. -/
def Phrase.isRow : Phrase → Bool
  | .statements _ => true
  | _ => false

/-- Only a row of statements ends with a semicolon. -/
theorem Derives.closed {φ : Phrase} {w : List Lexeme} (h : Derives φ w) (hφ : φ.isRow = false) :
    Closed w := by
  induction h with
  | noStatements | ended | bare => cases hφ
  | noItems | lastItem => exact closed_nil
  | tighten _ ih | expr _ ih => exact ih rfl
  | assign _ hs _ _ ih => exact ((ih rfl).cons (by simp [hs])).append_cons
  | @binary op _ _ _ _ _ _ hs _ _ ih =>
    exact ((ih rfl).cons (by cases op <;> simp [hs, BinaryOp.symbol])).append_cons
  | @unary op _ _ _ hs _ ih => exact (ih rfl).cons (by cases op <;> simp [hs, UnaryOp.symbol])
  | call _ _ _ hr | index _ _ _ hr =>
    exact ((closed_singleton (by simp [hr])).append_cons (u := _ :: _)).append_cons
  | ident h | int h | str h | trueWord h | falseWord h | nilWord h =>
    exact closed_singleton (by simp [h])
  | group _ _ hr | array _ _ hr | block _ _ hr =>
    exact (closed_singleton (by simp [hr])).append_cons (u := _ :: _)
  | ifThen _ _ _ hr _ _ ih | function _ _ _ hr _ ih =>
    exact ((ih rfl).cons (by simp [hr])).append_cons (u := _ :: _ :: _)
  | ifElse _ _ _ _ _ ho _ _ _ ih =>
    exact (((ih rfl).cons (by simp [ho])).append_cons (u := _ :: _)).append_cons (u := _ :: _ :: _)
  | items _ _ ih ih' => exact (ih rfl).append (ih' rfl)
  | moreItems hc _ _ ih ih' => exact ((ih rfl).append (ih' rfl)).cons (by simp [hc])
  | bind _ _ hs _ ih => exact ((ih rfl).cons (by simp [hs])).append_cons (u := [_, _])
  | ret hw _ ih => exact (ih rfl).cons (by simp [hw])

/-! ## Rows of statements -/

namespace Reader

theorem isSome_statements {n : Nat} (around : Enclosure) {c : Cursor} (hn : c.ahead.length < n) :
    (statements n around c).1.isSome = true := by
  induction n generalizing c with
  | zero => omega
  | succ n ih =>
    unfold statements
    show ((if around.ends c.current.kind then _ else _ : Reader Cursor (List Statement)) c).1.isSome = true
    split
    · rfl
    · next hgoes =>
      have hpos := c.length_pos_of_kind rfl (Lockstep.kind_ne_eof_of_ends hgoes)
      have hlength := ((forwardAt n).statement c).1
      have hadvance := (statement n c).2.length_advance
      have hrest := ih (c := (statement n c).2.advance) (by omega)
      show ((statements n around >>= fun rest => pure ((statement n c).1.toList ++ rest))
        (statement n c).2.advance).1.isSome = true
      rw [bind_apply]
      revert hrest
      rcases statements n around (statement n c).2.advance with ⟨_ | rest, d⟩
      · exact id
      · exact fun _ => rfl

theorem isSome_read (row : List Lexeme) : (Program.read row).1.isSome = true := by
  have hdepth := Program.depth_bound row
  have hlength : row.length < Reader.depth row.length := by omega
  exact isSome_statements .source hlength

variable {s : Statement} {n : Nat} {around : Enclosure} {c : Cursor}

/-- A statement is read first, and then what stands behind it. -/
theorem statements_cons {u w pre v : List Lexeme} (hs : Derives (.statement s) u) (hw : Quiet 0 w)
    (hafter : afterSemicolon w = v) (hv : v ≠ []) (hc : c.ahead = u ++ w)
    (hc' : c.ahead = pre ++ v) (hn : 8 * c.ahead.length + 5 ≤ n + 1) :
    statements (n + 1) around c =
      ((statements n around (c.after pre.length [])).1.map (s :: ·),
        (statements n around (c.after pre.length [])).2) := by
  obtain ⟨d, hd, hrest, hfaults⟩ := hs.reads n c w hw hc (by omega)
  obtain ⟨a, k, fs, hread⟩ := c.exists_statement_eq (n := n) (by omega)
  obtain ⟨rfl, rfl⟩ := Prod.mk.inj (hd.symm.trans hread)
  have hnone : fs = [] := by
    have hlength := congrArg List.length hfaults
    simpa [Cursor.after] using hlength
  subst hnone
  have hplace : k + 1 = pre.length := by
    have hpos := List.length_pos_iff.mpr hv
    have hleft : (c.ahead.drop k).length - 1 = v.length := by
      rw [← List.length_tail]
      exact congrArg List.length (hrest.trans hafter)
    rw [List.length_drop, hc', List.length_append] at hleft
    omega
  have hcurrent : around.ends c.current.kind = false := by
    obtain ⟨x, u', rfl, hx⟩ := hs.opens
    rw [Cursor.current_eq hc]
    exact ends_eq_false around hx
  rw [statements]
  show (if around.ends c.current.kind then _ else _ : Reader Cursor (List Statement)) c = _
  rw [if_neg (Bool.eq_false_iff.mp hcurrent), bind_apply, attempt, hread]
  show (statements n around >>= fun rest => pure ([s] ++ rest)) (c.after k []).advance = _
  rw [Cursor.advance_after, hplace, bind_apply]
  rcases statements n around (c.after pre.length []) with ⟨_ | rest, d⟩ <;> rfl

/-- A row of statements at the end of which a semicolon stands is read first, and then what stands
behind it, whatever that is. -/
theorem statements_append (around : Enclosure) {ss : List Statement} {w rest : List Lexeme}
    (h : Derives (.statements ss) w) (hlast : ∀ x ∈ w.getLast?, x.kind = .symbol .semicolon)
    (hrest : rest ≠ []) (hc : c.ahead = w ++ rest) (hn : 8 * c.ahead.length + 5 ≤ n) :
    ∃ m, 8 * rest.length + 5 ≤ m ∧ statements n around c =
      ((statements m around (c.after w.length [])).1.map (ss ++ ·),
        (statements m around (c.after w.length [])).2) := by
  induction ss generalizing w n c with
  | nil =>
    cases h
    refine ⟨n, by rwa [hc] at hn, ?_⟩
    rw [List.length_nil, Cursor.after_zero]
    simp
  | cons s ss ih =>
    obtain ⟨n, rfl⟩ : ∃ k, n = k + 1 := ⟨n - 1, by omega⟩
    -- the first statement with its semicolon is `pre`, and the others are `v`
    have hstep : ∃ pre v, w = pre ++ v ∧ pre ≠ [] ∧ Derives (.statements ss) v ∧
        statements (n + 1) around c =
          ((statements n around (c.after pre.length [])).1.map (s :: ·),
            (statements n around (c.after pre.length [])).2) := by
      cases h with
      | @ended _ _ semicolon u v hs hsemicolon hss =>
        refine ⟨u ++ [semicolon], v, by simp, by simp, hss, ?_⟩
        refine statements_cons hs (w := semicolon :: (v ++ rest)) (v := v ++ rest)
          (quiet_symbol hsemicolon (by decide)) ?_ (by simp [hrest]) (by simp [hc]) (by simp [hc]) hn
        rw [afterSemicolon, firstKind_cons, if_pos hsemicolon]
        rfl
      | @bare _ _ u v hs hv hss =>
        have hne : v ≠ [] := by
          rintro rfl
          obtain ⟨x, u', rfl, -⟩ := hs.opens
          obtain ⟨y, hy⟩ := Option.isSome_iff_exists.mp (List.getLast?_isSome.mpr
            (List.cons_ne_nil x u'))
          exact hs.closed rfl y hy (hlast y (by rwa [List.append_nil]))
        obtain ⟨hquiet, hafter⟩ := quiet_statement hss hne hv rest
        exact ⟨u, v, rfl, by obtain ⟨x, u', rfl, -⟩ := hs.opens; simp, hss,
          statements_cons hs hquiet hafter (by simp [hrest]) (by simp [hc]) (by simp [hc]) hn⟩
    obtain ⟨pre, v, rfl, hpre, hss, hfirst⟩ := hstep
    have hpos := List.length_pos_iff.mpr hpre
    have hahead : (c.after pre.length []).ahead = v ++ rest := by
      rw [Cursor.ahead_after, hc, List.append_assoc, List.drop_left]
    have hbound : 8 * (c.after pre.length []).ahead.length + 5 ≤ n := by
      rw [hc] at hn
      rw [hahead]
      simp only [List.length_append] at hn ⊢
      omega
    have hlast' : ∀ x ∈ v.getLast?, x.kind = .symbol .semicolon := by
      intro x hx
      refine hlast x ?_
      rw [List.getLast?_append, Option.mem_def.mp hx]
      rfl
    obtain ⟨m, hm, hothers⟩ := ih hss hlast' hahead hbound
    refine ⟨m, hm, ?_⟩
    rw [hfirst, hothers, Cursor.after_after, List.length_append, List.nil_append, Option.map_map]
    rfl

end Reader

/-- **A row of lexemes that follows the grammar and ends with a semicolon is read on its own**, and so
is what stands behind it. -/
theorem Program.ofLexemes_append {p : Program} {w : List Lexeme} (h : Derives (.statements p) w)
    (hlast : ∀ x ∈ w.getLast?, x.kind = .symbol .semicolon) (rest : List Lexeme) :
    Program.ofLexemes (w ++ rest) = (p ++ (Program.ofLexemes rest).1,
      (Program.ofLexemes rest).2.map (Fault.later w.length)) := by
  by_cases hrest : rest = []
  · subst hrest
    have hrow : beforeEnd w = w :=
      beforeEnd_eq (List.append_nil w).symm h.kind_ne_eof rfl
    have hread : Derives (.statements p) (beforeEnd w) := hrow.symm ▸ h
    obtain ⟨hp, hfaults⟩ := read_of_derives hread
    have hempty : Program.ofLexemes [] = ([], []) := rfl
    rw [List.append_nil, hempty, List.append_nil]
    show ((Program.read w).1.getD [], (Program.read w).2.faults.reverse) = _
    rw [hp, hfaults]
    rfl
  · have hbound := Program.depth_bound (w ++ rest)
    obtain ⟨m, hm, hwhole⟩ := Reader.statements_append .source (c := .start (w ++ rest)) h hlast
      hrest rfl hbound
    have hahead : ((Cursor.start (w ++ rest)).after w.length []).ahead = rest := List.drop_left
    obtain ⟨a, k, fs, hr, hs, -⟩ := Track.alike_statements .all (fun _ => trivial)
      ((Cursor.start rest).track rfl) (((Cursor.start (w ++ rest)).after w.length []).track hahead)
      .source (Program.depth_bound rest) hm
    have hbehind : Reader.statements m .source ((Cursor.start (w ++ rest)).after w.length []) =
        (a, ((Cursor.start (w ++ rest)).after w.length []).after k
          (fs.map (Fault.later (0 + w.length)))) := hs
    have hread : Program.read rest = (a, _) := hr
    have hsome := isSome_read rest
    rw [hread] at hsome
    obtain ⟨q, rfl⟩ := Option.isSome_iff_exists.mp hsome
    rw [hbehind, Nat.zero_add] at hwhole
    rw [Program.ofLexemes_of_statements hr]
    unfold Program.ofLexemes Program.read
    rw [hwhole]
    simp [Cursor.after, Cursor.start]

/-! ## Whole sources -/

theorem kind_ne_eof_of_mem_scan {line skip : Nat} {cs : List Char} {y : Lexeme × Nat}
    (h : y ∈ scan line skip cs) : y.1.kind ≠ .eof := by
  obtain ⟨c, rest, -, hcut⟩ := exists_cut_of_mem_scan h
  intro heof
  rw [hcut] at heof
  rcases Lexeme.cut_cases c rest with hk | hk | hk
  · rw [hk] at heof
    cases heof
  · rw [hk] at heof
    cases heof
  · rw [Lexeme.wellFormed, heof] at hk
    cases hk

/-- The sentence of a source text consists of all its tokens but the comments. -/
theorem sentence_eq_significant (source file : String) :
    (TokenStream.ofSource source file).sentence =
      (TokenStream.ofSource source file).significant.map Token.lexeme := by
  rw [TokenStream.sentence_eq]
  refine beforeEnd_eq (List.append_nil _).symm ?_ rfl
  intro x hx
  obtain ⟨t, ht, rfl⟩ := List.mem_map.mp hx
  obtain ⟨y, hy, rfl⟩ := List.mem_map.mp (List.mem_filter.mp ht).1
  exact kind_ne_eof_of_mem_scan hy

/-- A source text without errors has no illegal token. -/
theorem legal_of_ofSource {source file : String} {p : Program}
    (h : Program.ofSource source file = (p, [])) :
    ∀ y ∈ scan 1 0 source.toList, y.1.kind ≠ .illegal := by
  intro y hy hillegal
  have hderives : Derives (.statements p) (TokenStream.ofSource source file).sentence :=
    ofTokens_eq_iff.mp h
  have hmem : y.1 ∈ (TokenStream.ofSource source file).sentence := by
    rw [sentence_eq_significant]
    refine List.mem_map.mpr ⟨⟨y.1, ⟨file, y.2⟩⟩, List.mem_filter.mpr ⟨?_, ?_⟩, rfl⟩
    · exact List.mem_map.mpr ⟨y, hy, rfl⟩
    · simp [Lexeme.isComment, hillegal]
  have hphrase := hderives.inPhrases y.1 hmem
  rw [hillegal] at hphrase
  cases hphrase

theorem ofSource_eq (source file : String) : Program.ofSource source file =
    ((Program.ofLexemes ((TokenStream.ofSource source file).significant.map Token.lexeme)).1,
      (Program.ofLexemes ((TokenStream.ofSource source file).significant.map Token.lexeme)).2.map
        (Fault.locate (.ofSource source file))) := Program.ofTokens_eq _

/-- **Reading two texts as one.** The first text has no errors, and its last token is a semicolon. Then
the whole gives the statements of both texts, and the errors of the second one, further down. -/
theorem ofSource_below {first file : String} {p : Program} (second : String)
    (h : Program.ofSource first file = (p, []))
    (hlast : ∀ t ∈ (TokenStream.ofSource first file).significant.getLast?,
      t.lexeme.kind = .symbol .semicolon) :
    Program.ofSource (below first second) file = (p ++ (Program.ofSource second file).1,
      (Program.ofSource second file).2.map (ParseError.later (linesOf first))) := by
  have hclosed : ∀ t ∈ (TokenStream.ofSource first file).tokens, ¬ t.lexeme.Unclosed :=
    List.forall_mem_map.mpr fun y hy hy' => legal_of_ofSource h y hy hy'.1
  have hderives : Derives (.statements p) (TokenStream.ofSource first file).sentence :=
    ofTokens_eq_iff.mp h
  rw [sentence_eq_significant] at hderives
  have hlast' : ∀ x ∈ ((TokenStream.ofSource first file).significant.map Token.lexeme).getLast?,
      x.kind = .symbol .semicolon := by
    intro x hx
    rw [List.getLast?_map] at hx
    obtain ⟨t, ht, rfl⟩ := Option.map_eq_some_iff.mp hx
    exact hlast t ht
  have hlexemes : (TokenStream.ofSource (below first second) file).significant.map Token.lexeme =
      (TokenStream.ofSource first file).significant.map Token.lexeme ++
        (TokenStream.ofSource second file).significant.map Token.lexeme := by
    rw [significant_below second hclosed, List.map_append, List.map_map]
    rfl
  have hlocate (f : Fault) :
      (f.later (TokenStream.ofSource first file).significant.length).locate
          (.ofSource (below first second) file) =
        (f.locate (.ofSource second file)).later (linesOf first) := by
    rw [Fault.locate, Fault.later, positionAt_below second hclosed]
    rfl
  rw [ofSource_eq, ofSource_eq, hlexemes, Program.ofLexemes_append hderives hlast', List.map_map,
    List.map_map, List.length_map]
  exact congrArg (Prod.mk _) (List.map_congr_left fun f _ => hlocate f)

/-! ## Running -/

/-- The value before the first statement is forgotten. -/
theorem Statement.evalFrom_of_ne_nil (run : BodyRunner) (c : ScopeId) (v w : Value)
    {ss : List Statement} (h : ss ≠ []) :
    Statement.evalFrom run c v ss = Statement.evalFrom run c w ss := by
  obtain ⟨s, ss, rfl⟩ := List.exists_cons_of_ne_nil h
  rw [Statement.evalFrom, Statement.evalFrom]

namespace Program

variable {depth : Nat} {p q : Program} {c : ScopeId} {σ τ : State} {v : Value}

theorem run_eq (p : Program) (c : ScopeId) (σ : State) : p.run depth c σ =
    match Block.eval (bodies depth) c p σ with
    | .ok v τ => (.finished v.unwrap, τ)
    | .returned v τ => (.finished v.unwrap, τ)
    | .failed e τ => (.finished (.error e), τ)
    | .exhausted => (.exhausted, σ) := by
  unfold Program.run conclude Program.eval catchReturn
  cases Block.eval (bodies depth) c p σ <;> rfl

/-- Behind a program that neither returns nor fails, another one goes on from its state. -/
theorem block_append (h : Block.eval (bodies depth) c p σ = .ok v τ) :
    Block.eval (bodies depth) c (p ++ q) σ = Statement.evalFrom (bodies depth) c v q τ := by
  unfold Block.eval at h ⊢
  rw [Statement.evalFrom_append]
  exact bind_of_ok _ h

/-- A program that does not end is not followed by anything. -/
theorem block_append_of_exhausted (h : Block.eval (bodies depth) c p σ = .exhausted) :
    Block.eval (bodies depth) c (p ++ q) σ = .exhausted := by
  unfold Block.eval at h ⊢
  rw [Statement.evalFrom_append, Eval.bind_apply, h]

/-- Two programs one after the other, of which the first neither returns nor fails, run like both in
one. -/
theorem run_append {one two whole : RunResult × State} (hone : p.run depth c σ = one)
    (htwo : q.run depth c one.2 = two) (hwhole : (p ++ q).run depth c σ = whole)
    (hfailed : ∀ e τ, Block.eval (bodies depth) c p σ ≠ .failed e τ)
    (hreturned : ∀ v τ, Block.eval (bodies depth) c p σ ≠ .returned v τ) :
    (whole.1 = .exhausted ↔ one.1 = .exhausted ∨ two.1 = .exhausted) ∧
    (whole.1 ≠ .exhausted → whole.2 = two.2 ∧ (q ≠ [] → whole.1 = two.1)) := by
  rw [run_eq] at hone hwhole
  cases hp : Block.eval (bodies depth) c p σ with
  | failed e τ => exact absurd hp (hfailed e τ)
  | returned v τ => exact absurd hp (hreturned v τ)
  | exhausted =>
    rw [hp] at hone
    rw [block_append_of_exhausted hp] at hwhole
    subst hone hwhole
    exact ⟨iff_of_true rfl (.inl rfl), fun h => absurd rfl h⟩
  | ok v τ =>
    rw [hp] at hone
    rw [block_append hp] at hwhole
    subst hone
    by_cases hq : q = []
    · subst hq htwo hwhole
      exact ⟨iff_of_false nofun (not_or_intro nofun nofun), fun _ => ⟨rfl, fun h => absurd rfl h⟩⟩
    · rw [Statement.evalFrom_of_ne_nil _ _ v .nil hq] at hwhole
      rw [run_eq, Block.eval] at htwo
      subst htwo hwhole
      cases Statement.evalFrom (bodies depth) c .nil q τ with
      | exhausted => exact ⟨iff_of_true rfl (.inr rfl), fun h => absurd rfl h⟩
      | ok | returned | failed =>
        exact ⟨iff_of_false nofun (not_or_intro nofun nofun), fun _ => ⟨rfl, fun _ => rfl⟩⟩

end Program

/-! ## Main result -/

/-- **Splitting a source text into several changes nothing.** The text `first` is read without errors
and its last token, apart from comments, is a semicolon. Then `first` and below it `second` are read
as the statements of both, with the errors of `second` further down. And if `second` has no errors,
and the statements of `first` neither fail nor return, running one after the other comes to the same
as running the whole: the same state is left behind, and the same result if `second` has a statement.
Either ends within the allowed depth of calls if and only if the other does. -/
theorem splitting_changes_nothing (depth : Nat) (first second file : String) (p : Program)
    (hfirst : Program.ofSource first file = (p, []))
    (hlast : (TokenStream.ofSource first file).significant.getLast?.map (·.lexeme.kind) =
      some (.symbol .semicolon)) :
    Program.ofSource (first ++ "\n" ++ second) file = (p ++ (Program.ofSource second file).1,
      (Program.ofSource second file).2.map (ParseError.later (1 + first.toList.count '\n'))) ∧
    ∀ c σ, (Program.ofSource second file).2 = [] →
      (∀ e τ, Block.eval (bodies depth) c p σ ≠ .failed e τ) →
      (∀ v τ, Block.eval (bodies depth) c p σ ≠ .returned v τ) →
      let one := run depth first file c σ
      let two := run depth second file c one.2
      let whole := run depth (first ++ "\n" ++ second) file c σ
      (whole.1 = .exhausted ↔ one.1 = .exhausted ∨ two.1 = .exhausted) ∧
      (whole.1 ≠ .exhausted → whole.2 = two.2 ∧
        ((Program.ofSource second file).1 ≠ [] → whole.1 = two.1)) := by
  have hlast' : ∀ t ∈ (TokenStream.ofSource first file).significant.getLast?,
      t.lexeme.kind = .symbol .semicolon := by
    intro t ht
    rw [Option.mem_def.mp ht] at hlast
    exact Option.some.inj hlast
  have hread := ofSource_below second hfirst hlast'
  refine ⟨hread, fun c σ hsecond hfailed hreturned => ?_⟩
  have hwhole : run depth (below first second) file c σ =
      (p ++ (Program.ofSource second file).1).run depth c σ := by
    unfold run
    rw [hread, hsecond]
    rfl
  have hone : run depth first file c σ = p.run depth c σ := by
    unfold run
    rw [hfirst]
  have htwo (τ : State) : run depth second file c τ =
      (Program.ofSource second file).1.run depth c τ := by
    unfold run
    rw [Prod.ext (x := Program.ofSource second file) (y := (_, [])) rfl hsecond]
  exact Program.run_append hone.symm (htwo _).symm hwhole.symm hfailed hreturned

/-- A text that ends with a comment, and below it one that uses its name: the same result in the same
state. Errors of a text below it stand one line further down. -/
theorem binding_and_use_split :
    let two := run 0 "x + 1" "f" 0 (run 0 "let x = 1; # one" "f" 0 State.initial.2).2
    let whole := run 0 ("let x = 1; # one" ++ "\n" ++ "x + 1") "f" 0 State.initial.2
    whole.1 = two.1 ∧ whole.2 = two.2 ∧
    Program.ofSource ("let x = 1; # one" ++ "\n" ++ "x )") "f" =
      ([.bind "x" (.int 1), .expr (.ident "x")], [⟨.noOperand ")", ⟨"f", 2⟩⟩]) := by
  have hfirst : Program.ofSource "let x = 1; # one" "f" = ([.bind "x" (.int 1)], []) := rfl
  have hlast : (TokenStream.ofSource "let x = 1; # one" "f").significant.getLast?.map
      (·.lexeme.kind) = some (.symbol .semicolon) := rfl
  have hblock : Block.eval (bodies 0) 0 [.bind "x" (.int 1)] State.initial.2 = .ok (.int 1)
      { State.initial.2 with store := State.initial.2.store.insert 0 "x" (.int 1) } := rfl
  have hruns := (splitting_changes_nothing 0 "let x = 1; # one" "x + 1" "f" _ hfirst hlast).2 0
    State.initial.2 rfl (by simp [hblock]) (by simp [hblock])
  have hends := mt hruns.1.mp (not_or_intro nofun nofun)
  obtain ⟨hstate, hresult⟩ := hruns.2 hends
  refine ⟨hresult nofun, hstate, ?_⟩
  exact (splitting_changes_nothing 0 "let x = 1; # one" "x )" "f" _ hfirst hlast).1

end CurryLang
