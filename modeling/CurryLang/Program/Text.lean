import CurryLang.Program
import CurryLang.Text.Decimal
import CurryLang.Text.Quoted

/-!
# Canonical text

The text of a tree with parentheses around every operator expression. Statements follow each other
with nothing between them: a `let` or `return` statement ends in a semicolon, an expression
statement does not.
-/

namespace CurryLang

mutual

/-- The canonical text of an expression. -/
def Expr.text : Expr → String
  | .ident name => name
  | .int value => Decimal.ofInt64 value
  | .str text => "\"" ++ text ++ "\""
  | .bool true => "true"
  | .bool false => "false"
  | .nil => "nil"
  | .array elements => Text.bracketed (Expr.textEach elements)
  | .unary op operand => "(" ++ op.text ++ operand.text ++ ")"
  | .binary op left right => "(" ++ left.text ++ " " ++ op.text ++ " " ++ right.text ++ ")"
  | .ifThen condition consequence => "if" ++ condition.text ++ " " ++ Statement.textAll consequence
  | .ifElse condition consequence alternative =>
    "if" ++ condition.text ++ " " ++ Statement.textAll consequence ++ " else " ++ Statement.textAll alternative
  | .function parameters body =>
    "fun(" ++ Text.commaSeparated parameters ++ ") " ++ Statement.textAll body
  | .call callee arguments =>
    callee.text ++ "(" ++ Text.commaSeparated (Expr.textEach arguments) ++ ")"
  | .index collection position => collection.text ++ "[" ++ position.text ++ "]"
  | .assign name value => name ++ " = " ++ value.text

def Expr.textEach : List Expr → List String
  | [] => []
  | e :: es => e.text :: Expr.textEach es

def Statement.text : Statement → String
  | .bind name value => "let " ++ name ++ " = " ++ value.text ++ ";"
  | .ret value => "return " ++ value.text ++ ";"
  | .expr value => value.text

def Statement.textAll : List Statement → String
  | [] => ""
  | s :: rest => s.text ++ Statement.textAll rest

end

def Block.text (b : Block) : String := Statement.textAll b

def Program.text (p : Program) : String := Statement.textAll p

end CurryLang
