import CurryLang.Program.ParseError

/-!
# Reading along a tape

The grammar sees the tokens through a tape: the lexeme that is being read, the one after it, and the
places of both, which it writes into the errors that it records but never looks at. A `Reader` is a
computation that moves along a tape and may stop without a result; what it moved over and recorded
stays. A reader that gives up because it has reached its bound leaves a mark, so that this can be told
from an error.
-/

namespace CurryLang

/-- Where a reading stands, with places of the type `P`. -/
class Tape (C : Type) (P : outParam Type) where
  /-- The lexeme that is being read. -/
  current : C → Lexeme
  /-- The lexeme after the current one. -/
  next : C → Lexeme
  /-- The place of the current lexeme. -/
  place : C → P
  /-- The place of the lexeme after the current one. -/
  nextPlace : C → P
  /-- On to the next lexeme. -/
  advance : C → C
  /-- One more error, with its cause and its place. -/
  record : C → Cause → P → C
  /-- The mark of a reader that has reached its bound. -/
  exhaust : C → C
  current_advance : ∀ c, current (advance c) = next c

/-- A computation along a tape. -/
def Reader (C α : Type) : Type := C → Option α × C

namespace Reader

variable {C P α β : Type}

@[inline] protected def pure (a : α) : Reader C α := fun c => (some a, c)

/-- One reader after another; the second runs only if the first has a result. -/
@[inline] protected def bind (r : Reader C α) (f : α → Reader C β) : Reader C β := fun c =>
  match r c with
  | (some a, d) => f a d
  | (none, d) => (none, d)

instance : Monad (Reader C) where
  pure := Reader.pure
  bind := Reader.bind

/-- Runs a reader and goes on even if it has no result. -/
def attempt (r : Reader C α) : Reader C (Option α) := fun c =>
  let (a, d) := r c
  (some a, d)

section Tape

variable [Tape C P]

/-- The reader that has reached its bound. -/
def stop : Reader C α := fun c => (none, Tape.exhaust c)

def current : Reader C Lexeme := fun c => (some (Tape.current c), c)

def next : Reader C Lexeme := fun c => (some (Tape.next c), c)

def place : Reader C P := fun c => (some (Tape.place c), c)

def advance : Reader C Unit := fun c => (some (), Tape.advance c)

def record (cause : Cause) (p : P) : Reader C Unit := fun c => (some (), Tape.record c cause p)

/-- Records an error and stops. -/
def refuse (cause : Cause) (p : P) : Reader C α := fun c => (none, Tape.record c cause p)

/-- Moves on to a lexeme of the given kind; any other is refused where it stands. -/
def expect (kind : TokenKind) : Reader C Unit := fun c =>
  if (Tape.next c).kind = kind then (some (), Tape.advance c)
  else (none, Tape.record c (.unexpected kind (Tape.next c).kind) (Tape.nextPlace c))

end Tape

theorem bind_apply (r : Reader C α) (f : α → Reader C β) (c : C) :
    (r >>= f) c = match r c with
      | (some a, d) => f a d
      | (none, d) => (none, d) := rfl

end Reader

end CurryLang
