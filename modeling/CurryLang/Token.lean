/-!
# Tokens

The pieces that a source text is cut into. A `Lexeme` is a kind with a literal text, a `Token` is a
lexeme that stands at a position, and a `TokenStream` is a finite row of tokens that goes on with
end-of-input tokens for ever.
-/

namespace CurryLang

/-! ## Reserved words and symbols -/

/-- The words that are no identifiers. -/
inductive Keyword where
  | letWord | returnWord | funWord | ifWord | elseWord | trueWord | falseWord | nilWord
  deriving DecidableEq, Repr

namespace Keyword

def text : Keyword → String
  | letWord => "let"
  | returnWord => "return"
  | funWord => "fun"
  | ifWord => "if"
  | elseWord => "else"
  | trueWord => "true"
  | falseWord => "false"
  | nilWord => "nil"

/-- How messages name a keyword. -/
def label : Keyword → String
  | letWord => "LET"
  | returnWord => "RETURN"
  | funWord => "FUNCTION"
  | ifWord => "IF"
  | elseWord => "ELSE"
  | trueWord => "TRUE"
  | falseWord => "FALSE"
  | nilWord => "NIL"

def all : List Keyword :=
  [letWord, returnWord, funWord, ifWord, elseWord, trueWord, falseWord, nilWord]

def ofText? (s : String) : Option Keyword := all.find? fun k => k.text == s

theorem mem_all (k : Keyword) : k ∈ all := by cases k <;> decide

end Keyword

/-- Operators and delimiters. -/
inductive Symbol where
  | assign | equal | bang | notEqual | plus | minus | star | slash | less | greater
  | comma | semicolon | leftParen | rightParen | leftBrace | rightBrace | leftBracket | rightBracket
  deriving DecidableEq, Repr

namespace Symbol

/-- How a symbol is written; messages name it the same way. -/
def text : Symbol → String
  | assign => "="
  | equal => "=="
  | bang => "!"
  | notEqual => "!="
  | plus => "+"
  | minus => "-"
  | star => "*"
  | slash => "/"
  | less => "<"
  | greater => ">"
  | comma => ","
  | semicolon => ";"
  | leftParen => "("
  | rightParen => ")"
  | leftBrace => "\x7b"
  | rightBrace => "\x7d"
  | leftBracket => "["
  | rightBracket => "]"

def all : List Symbol :=
  [assign, equal, bang, notEqual, plus, minus, star, slash, less, greater, comma, semicolon,
    leftParen, rightParen, leftBrace, rightBrace, leftBracket, rightBracket]

end Symbol

/-! ## Lexemes -/

/-- The kinds of tokens. An illegal token is a character that starts no other token, or a string
without its closing quote. -/
inductive TokenKind where
  | ident
  | int
  | string
  | comment
  | keyword (word : Keyword)
  | symbol (symbol : Symbol)
  | eof
  | illegal
  deriving DecidableEq, Repr

namespace TokenKind

/-- How messages name a kind of token. -/
def label : TokenKind → String
  | ident => "IDENT"
  | int => "INT"
  | string => "STRING"
  | comment => "COMMENT"
  | keyword k => k.label
  | symbol s => s.text
  | eof => "EOF"
  | illegal => "ILLEGAL"

def all : List TokenKind :=
  [ident, int, string, comment, eof, illegal] ++ Keyword.all.map keyword ++ Symbol.all.map symbol

def ofLabel? (s : String) : Option TokenKind := all.find? fun k => k.label == s

end TokenKind

/-- A token without its place: a kind and the text that matters. For a string that is the text
between its quotes, for a comment the trimmed text after its mark. -/
structure Lexeme where
  kind : TokenKind
  literal : String
  deriving DecidableEq, Repr

namespace Lexeme

def eof : Lexeme := ⟨.eof, ""⟩

/-- A comment, which no grammar rule sees. -/
def isComment (x : Lexeme) : Bool := x.kind == .comment

/-- The lexeme of a word: a keyword if it is one of the reserved words, else an identifier. -/
def ofWord (word : String) : Lexeme :=
  match Keyword.ofText? word with
  | some k => ⟨.keyword k, word⟩
  | none => ⟨.ident, word⟩

end Lexeme

/-! ## Placed tokens -/

/-- A line of a named file; lines count from one. -/
structure Position where
  file : String
  line : Nat
  deriving DecidableEq, Repr

/-- A lexeme at a position. -/
structure Token where
  lexeme : Lexeme
  position : Position
  deriving DecidableEq, Repr

/-- A finite row of tokens followed by end-of-input tokens, all of them at `last`. -/
structure TokenStream where
  tokens : List Token
  last : Position
  deriving Repr

namespace TokenStream

/-- The end-of-input token that a stream yields for ever after its row. -/
def final (s : TokenStream) : Token := ⟨.eof, s.last⟩

/-- The stream of a given row: its end stands where the row's last token does, and on line one
when the row is empty. -/
def ofTokens (file : String) (tokens : List Token) : TokenStream where
  tokens := tokens
  last := ⟨file, (tokens.getLast?.map fun t => t.position.line).getD 1⟩

end TokenStream

end CurryLang
