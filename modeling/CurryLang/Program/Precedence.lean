import CurryLang.Token

/-!
# Precedence

How tightly the token after an operand holds on to it. An expression read at some level goes on as
long as the next token holds more tightly than that level.
-/

namespace CurryLang

/-- Levels of precedence, the loosest first. -/
inductive Precedence where
  | lowest | assign | equals | lessGreater | sum | product | unary | call | index
  deriving DecidableEq, Repr

namespace Precedence

/-- The place of a level in the order, from the loosest up. -/
def rank : Precedence → Nat
  | lowest => 0
  | assign => 1
  | equals => 2
  | lessGreater => 3
  | sum => 4
  | product => 5
  | unary => 6
  | call => 7
  | index => 8

/-- A level holds less tightly than another. -/
def looser (p q : Precedence) : Bool := p.rank < q.rank

/-- The level of a symbol that follows an operand. -/
def ofSymbol : Symbol → Precedence
  | .assign => assign
  | .equal | .notEqual => equals
  | .less | .greater => lessGreater
  | .plus | .minus => sum
  | .star | .slash => product
  | .leftParen => call
  | .leftBracket => index
  | _ => lowest

/-- The level of a token that follows an operand; only symbols can continue an expression. -/
def ofKind : TokenKind → Precedence
  | .symbol s => ofSymbol s
  | _ => lowest

def compare (p q : Precedence) : Ordering := Ord.compare p.rank q.rank

end Precedence

end CurryLang
