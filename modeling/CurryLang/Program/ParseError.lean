import CurryLang.Token
import CurryLang.Text.Decimal

/-!
# Errors in a source text

Why a source is no program, and where. The wording of every message is in `Cause.message`.
-/

namespace CurryLang

/-- The text of a position: the file, a colon and the line. -/
def Position.text (p : Position) : String := p.file ++ ":" ++ Decimal.ofNat p.line

/-- What is wrong at a token. -/
inductive Cause where
  /-- Another kind of token has to stand here. -/
  | unexpected (expected found : TokenKind)
  /-- No expression starts with this token. -/
  | noOperand (literal : String)
  /-- The number is no 64-bit integer. -/
  | invalidInteger (literal : String)
  /-- A parameter is no identifier. -/
  | invalidParameter (literal : String)
  /-- The input ends inside a block. -/
  | unterminatedBlock (found : TokenKind)
  /-- Something else than an identifier stands before an assignment sign. -/
  | invalidTarget (target : String)
  deriving DecidableEq, Repr

def Cause.message : Cause → String
  | unexpected expected found =>
    "expected next token to be " ++ expected.label ++ ", got " ++ found.label ++ " instead"
  | noOperand literal => "prefix operation `" ++ literal ++ "` not recognized"
  | invalidInteger literal => "could not parse `" ++ literal ++ "` as integer"
  | invalidParameter literal =>
    "function parameters can only be identifiers, found `" ++ literal ++ "` instead"
  | unterminatedBlock found =>
    "expected \x7d at the end of the block, got " ++ found.label ++ " instead"
  | invalidTarget target =>
    "can't assign to `" ++ target ++ "`, only identifiers can be assigned"

/-- A cause at a position. -/
structure ParseError where
  cause : Cause
  position : Position
  deriving DecidableEq, Repr

namespace ParseError

def message (e : ParseError) : String := e.cause.message

/-- The message of an error after its position. -/
def report (e : ParseError) : String := e.position.text ++ ": " ++ e.message

/-- The line that lists an error. -/
def reportLine (e : ParseError) : String := "- " ++ e.report ++ "\n"

/-- The line above the listed errors. -/
def heading : String := "Oops! Something is wrong here:\n"

/-- The heading and one entry for each error. -/
def reportAll (errors : List ParseError) : String :=
  heading ++ String.join (errors.map reportLine)

end ParseError

end CurryLang
