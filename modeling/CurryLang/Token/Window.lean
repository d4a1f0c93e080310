import CurryLang.Token

/-!
# Tokens that are pulled one by one

A stream hands out its tokens one at a time. Whoever reads it pulls: tokens are drawn until one is no
comment, and past the row every pull draws one end-of-input token. A reading looks at two pulled
tokens through a `Window` that slides along the stream.
-/

namespace CurryLang

/-- What is left of a row of tokens, and how many tokens have been drawn. -/
structure Supply where
  rest : List Token
  drawn : Nat

/-- Two tokens that were pulled one after the other, and what is left behind them. -/
structure Window where
  current : Token
  peek : Token
  supply : Supply

namespace Supply

/-- Draws tokens from a row until one is no comment; behind the row that is `final`. -/
def drawFrom (final : Token) (drawn : Nat) : List Token → Token × Supply
  | [] => (final, ⟨[], drawn + 1⟩)
  | t :: rest =>
    if t.lexeme.isComment then drawFrom final (drawn + 1) rest else (t, ⟨rest, drawn + 1⟩)

/-- Pulls one token. -/
def pull (final : Token) (p : Supply) : Token × Supply := drawFrom final p.drawn p.rest

end Supply

namespace TokenStream

/-- The window on the first two tokens that are pulled. -/
def firstWindow (s : TokenStream) : Window :=
  let (current, first) := Supply.pull s.final ⟨s.tokens, 0⟩
  let (peek, second) := first.pull s.final
  ⟨current, peek, second⟩

/-- The window one token further: one token is pulled. -/
def slide (s : TokenStream) (w : Window) : Window :=
  let (next, left) := w.supply.pull s.final
  ⟨w.peek, next, left⟩

end TokenStream

end CurryLang
