import CurryLang.Program.Text
import CurryLang.Program.Precedence
import CurryLang.Program.Tape
import CurryLang.Token.Lexer
import CurryLang.Token.Window

/-!
# Reading a program

The grammar as readers along a tape. Every reader starts on the first lexeme of what it reads and
ends on the last one, so that `Tape.next` is what follows. A statement with an error is dropped and
reading goes on behind the lexeme at which it stopped.

A `Parser` is the tape of a token stream: it sees two tokens through a window, passes comments over
when it pulls, and takes the positions of errors from the tokens it sees. The readers recurse on a
bound for the depth of the recursion. `Program.ofTokens` takes a bound that grows with the row, so
that it is never reached.
-/

namespace CurryLang

namespace Reader

/-- What a row of statements stands in: a whole source or a pair of braces. -/
inductive Enclosure where
  | source | braces
  deriving DecidableEq, Repr

/-- A lexeme at which a row of statements ends. -/
def Enclosure.ends : Enclosure → TokenKind → Bool
  | .source, k => k == .eof
  | .braces, k => k == .eof || k == .symbol .rightBrace

section Grammar

variable {C P : Type} [Tape C P]

/-! ## Parts without expressions -/

/-- The integer of the current lexeme. -/
def integer : Reader C Expr := do
  let x ← current
  match Decimal.toInt64? x.literal with
  | some n => return .int n
  | none => refuse (.invalidInteger x.literal) (← place)

/-- The name of a parameter. Something else than an identifier is a fault, but its text is kept
and reading goes on. -/
def parameter : Reader C String := do
  let x ← current
  if x.kind != .ident then record (.invalidParameter x.literal) (← place)
  return x.literal

/-- The parameters after the first one. -/
def moreParameters : Nat → Reader C (List String)
  | 0 => stop
  | n + 1 => do
    if (← next).kind == .symbol .comma then
      advance
      advance
      let x ← parameter
      return x :: (← moreParameters n)
    else return []

/-- Parameters up to the closing parenthesis, from the opening one on. -/
def parameters (n : Nat) : Reader C (List String) := do
  if (← next).kind == .symbol .rightParen then
    advance
    return []
  else
    advance
    let first ← parameter
    let rest ← moreParameters n
    expect (.symbol .rightParen)
    return first :: rest

/-- Moves on to a semicolon that follows. -/
def skipSemicolon : Reader C Unit := do
  if (← next).kind == .symbol .semicolon then advance

/-! ## Expressions and statements -/

mutual

/-- An expression whose operators hold more tightly than `level`. -/
def expression : Nat → Precedence → Reader C Expr
  | 0, _ => stop
  | n + 1, level => do
    let left ← operand n
    operators n level left

/-- The operators after `left` that hold more tightly than `level`, with their operands. -/
def operators : Nat → Precedence → Expr → Reader C Expr
  | 0, _, _ => stop
  | n + 1, level, left => do
    if level.looser (Precedence.ofKind (← next).kind) then
      advance
      let larger ← extension n left
      operators n level larger
    else return left

/-- The expression that the current operator makes of `left`: a call, an index, an assignment or
an operation. -/
def extension : Nat → Expr → Reader C Expr
  | 0, _ => stop
  | n + 1, left => do
    match (← current).kind with
    | .symbol .leftParen => return .call left (← items n .rightParen)
    | .symbol .leftBracket =>
      advance
      let position ← expression n .lowest
      expect (.symbol .rightBracket)
      return .index left position
    | .symbol .assign =>
      let sign ← place
      advance
      let value ← expression n .lowest
      match left with
      | .ident name => return .assign name value
      | target => refuse (.invalidTarget target.text) sign
    | .symbol s =>
      match BinaryOp.ofSymbol? s with
      | some op =>
        advance
        let right ← expression n (Precedence.ofSymbol s)
        return .binary op left right
      | none => return left
    | _ => return left

/-- An expression without operators after it. -/
def operand : Nat → Reader C Expr
  | 0 => stop
  | n + 1 => do
    let x ← current
    match x.kind with
    | .ident => return .ident x.literal
    | .int => integer
    | .string => return .str x.literal
    | .keyword .trueWord => return .bool true
    | .keyword .falseWord => return .bool false
    | .keyword .nilWord => return .nil
    | .keyword .ifWord => conditional n
    | .keyword .funWord =>
      expect (.symbol .leftParen)
      let names ← parameters n
      expect (.symbol .leftBrace)
      let body ← block n
      return .function names body
    | .symbol .leftParen =>
      advance
      let inner ← expression n .lowest
      expect (.symbol .rightParen)
      return inner
    | .symbol .leftBracket => return .array (← items n .rightBracket)
    | .symbol s =>
      match UnaryOp.ofSymbol? s with
      | some op =>
        advance
        let inner ← expression n .unary
        return .unary op inner
      | none => refuse (.noOperand x.literal) (← place)
    | _ => refuse (.noOperand x.literal) (← place)

/-- A condition in parentheses and one or two blocks. -/
def conditional : Nat → Reader C Expr
  | 0 => stop
  | n + 1 => do
    expect (.symbol .leftParen)
    advance
    let condition ← expression n .lowest
    expect (.symbol .rightParen)
    expect (.symbol .leftBrace)
    let consequence ← block n
    if (← next).kind == .keyword .elseWord then
      advance
      expect (.symbol .leftBrace)
      let alternative ← block n
      return .ifElse condition consequence alternative
    else return .ifThen condition consequence

/-- Expressions with commas between them up to the symbol `close`, from the opening symbol on. -/
def items : Nat → Symbol → Reader C (List Expr)
  | 0, _ => stop
  | n + 1, close => do
    if (← next).kind == .symbol close then
      advance
      return []
    else
      advance
      let first ← expression n .lowest
      let rest ← moreItems n
      expect (.symbol close)
      return first :: rest

/-- The expressions after the first one, each behind its comma. -/
def moreItems : Nat → Reader C (List Expr)
  | 0 => stop
  | n + 1 => do
    if (← next).kind == .symbol .comma then
      advance
      advance
      let e ← expression n .lowest
      return e :: (← moreItems n)
    else return []

/-- The statements between the current brace and the closing one. -/
def block : Nat → Reader C Block
  | 0 => stop
  | n + 1 => do
    advance
    let body ← statements n .braces
    let x ← current
    if x.kind != .symbol .rightBrace then record (.unterminatedBlock x.kind) (← place)
    return body

/-- Statements up to the end of what encloses them, without those that have faults. -/
def statements : Nat → Enclosure → Reader C (List Statement)
  | 0, _ => stop
  | n + 1, around => do
    if around.ends (← current).kind then return []
    else
      let s ← attempt (statement n)
      advance
      let rest ← statements n around
      return s.toList ++ rest

/-- One statement and the semicolon after it, if there is one. -/
def statement : Nat → Reader C Statement
  | 0 => stop
  | n + 1 => do
    match (← current).kind with
    | .keyword .letWord =>
      expect .ident
      let name := (← current).literal
      expect (.symbol .assign)
      advance
      let value ← expression n .lowest
      skipSemicolon
      return .bind name value
    | .keyword .returnWord =>
      advance
      let value ← expression n .lowest
      skipSemicolon
      return .ret value
    | _ =>
      let value ← expression n .lowest
      skipSemicolon
      return .expr value

end

end Grammar

end Reader

/-! ## Whole sources -/

/-- A parser on its way along a stream: what it sees, the errors met so far, the latest first, and
whether some reader has reached its bound. -/
structure Parser (s : TokenStream) where
  window : Window
  errors : List ParseError
  exhausted : Bool

/-- A parser at the start of a stream. -/
def Parser.start (s : TokenStream) : Parser s := ⟨s.firstWindow, [], false⟩

instance (s : TokenStream) : Tape (Parser s) Position where
  current p := p.window.current.lexeme
  next p := p.window.peek.lexeme
  place p := p.window.current.position
  nextPlace p := p.window.peek.position
  advance p := { p with window := s.slide p.window }
  record p cause position := { p with errors := ⟨cause, position⟩ :: p.errors }
  exhaust p := { p with exhausted := true }
  current_advance _ := rfl

/-- A bound for the depth of the recursion over a row of `length` lexemes. -/
def Reader.depth (length : Nat) : Nat := 8 * (length + 1)

/-- The program of a token stream and its errors. -/
def Program.ofTokens (s : TokenStream) : Program × List ParseError :=
  let (program, parser) :=
    Reader.statements (Reader.depth s.tokens.length) .source (Parser.start s)
  (program.getD [], parser.errors.reverse)

/-- The program of a source text and its errors. With errors, the program holds the statements
that could be read. -/
def Program.ofSource (source file : String) : Program × List ParseError :=
  Program.ofTokens (.ofSource source file)

end CurryLang
