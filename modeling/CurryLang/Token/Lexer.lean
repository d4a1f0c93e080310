import CurryLang.Token
import CurryLang.Text.Blank

/-!
# Cutting a source text into tokens

`cut` decides which token starts at a character and how many of the following characters belong to
it; the longest possible token is taken. `scan` walks over the characters once: it skips the
characters of the token cut last, then separators, and starts the next token. A token's line is one
more than the number of line feeds before its first character.
-/

namespace CurryLang

namespace Lexer

/-! ## Character classes -/

/-- The characters that may stand between two tokens. -/
def isSpace (c : Char) : Bool :=
  c == ' ' || c == '\t' || c == '\r' || c == '\n' || c == '\x0c'

/-- The characters that start a word: ASCII letters and the underscore. -/
def isWordStart (c : Char) : Bool := c.isAlpha || c == '_'

/-- The characters that continue a word. -/
def isWordPart (c : Char) : Bool := isWordStart c || c.isDigit

/-- The characters of a comment: all up to the end of the line. -/
def isCommentPart (c : Char) : Bool := c != '\n' && c != '\r'

/-- The characters of a string: all up to the closing quote. -/
def isStringPart (c : Char) : Bool := c != '"'

/-- The symbol that starts with `c`, when the character after it is `next`. Two characters are
taken where they form a symbol. -/
def symbol? (c : Char) (next : Option Char) : Option Symbol :=
  match c with
  | '=' => some (if next = some '=' then .equal else .assign)
  | '!' => some (if next = some '=' then .notEqual else .bang)
  | '+' => some .plus
  | '-' => some .minus
  | '*' => some .star
  | '/' => some .slash
  | '<' => some .less
  | '>' => some .greater
  | ',' => some .comma
  | ';' => some .semicolon
  | '(' => some .leftParen
  | ')' => some .rightParen
  | '\x7b' => some .leftBrace
  | '\x7d' => some .rightBrace
  | '[' => some .leftBracket
  | ']' => some .rightBracket
  | _ => none

/-! ## One token -/

/-- A lexeme and the number of characters it takes after its first one. -/
structure Cut where
  lexeme : Lexeme
  more : Nat
  deriving DecidableEq, Repr

/-- The token that starts with `c` and is followed by `cs`; `c` is no separator. -/
def cut (c : Char) (cs : List Char) : Cut :=
  if isWordStart c then
    let more := cs.takeWhile isWordPart
    ⟨.ofWord (String.ofList (c :: more)), more.length⟩
  else if c.isDigit then
    let more := cs.takeWhile Char.isDigit
    ⟨⟨.int, String.ofList (c :: more)⟩, more.length⟩
  else if c == '"' then
    let body := cs.takeWhile isStringPart
    if body.length < cs.length then ⟨⟨.string, String.ofList body⟩, body.length + 1⟩
    else ⟨⟨.illegal, String.ofList (c :: cs)⟩, cs.length⟩
  else if c == '#' then
    let body := cs.takeWhile isCommentPart
    ⟨⟨.comment, String.ofList (Text.trim body)⟩, body.length⟩
  else
    match symbol? c cs.head? with
    | some s => ⟨⟨.symbol s, s.text⟩, s.text.length - 1⟩
    | none => ⟨⟨.illegal, String.ofList [c]⟩, 0⟩

/-! ## The whole text -/

/-- The line that follows after `c` has been read on line `line`. -/
def lineAfter (line : Nat) (c : Char) : Nat := if c == '\n' then line + 1 else line

/-- The tokens of a text with their lines. `skip` characters still belong to the token cut last,
and `line` is the line of the first character. -/
def scan (line : Nat) (skip : Nat) : List Char → List (Lexeme × Nat)
  | [] => []
  | c :: cs =>
    match skip with
    | k + 1 => scan (lineAfter line c) k cs
    | 0 =>
      if isSpace c then scan (lineAfter line c) 0 cs
      else
        let next := cut c cs
        (next.lexeme, line) :: scan (lineAfter line c) next.more cs

/-- The line on which a text that starts on line `line` ends. -/
def lastLine (line : Nat) (cs : List Char) : Nat := cs.foldl lineAfter line

/-- A text ends as many lines further down as it has line feeds. -/
theorem lastLine_eq (line : Nat) (cs : List Char) : lastLine line cs = line + cs.count '\n' := by
  induction cs generalizing line with
  | nil => rfl
  | cons c cs ih =>
    show lastLine (lineAfter line c) cs = _
    rw [ih, lineAfter, List.count_cons]
    split <;> omega

/-- Scanning goes on behind the characters of the token cut last, on the line reached there. -/
theorem scan_skip (line skip : Nat) (cs : List Char) :
    scan line skip cs = scan (lastLine line (cs.take skip)) 0 (cs.drop skip) := by
  induction cs generalizing line skip with
  | nil => cases skip <;> rfl
  | cons c cs ih =>
    cases skip with
    | zero => rfl
    | succ k =>
      rw [scan, ih]
      rfl

end Lexer

/-- The tokens of a source text; the end of the input stands on the text's last line. -/
def TokenStream.ofSource (source file : String) : TokenStream where
  tokens := (Lexer.scan 1 0 source.toList).map fun (x, line) => ⟨x, ⟨file, line⟩⟩
  last := ⟨file, Lexer.lastLine 1 source.toList⟩

end CurryLang
