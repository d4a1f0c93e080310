import CurryLang.Token

/-!
# Programs

The trees that the grammar describes: expressions, statements, and the rows of statements that
blocks and whole programs are. Grouping parentheses leave no trace in a tree.
-/

namespace CurryLang

/-! ## Operators -/

/-- Operators before their operand. -/
inductive UnaryOp where
  | not | negate | plus
  deriving DecidableEq, Repr

def UnaryOp.text : UnaryOp → String
  | not => "!"
  | negate => "-"
  | plus => "+"

/-- The unary operator that a symbol writes. -/
def UnaryOp.ofSymbol? : Symbol → Option UnaryOp
  | .bang => some not
  | .minus => some negate
  | .plus => some plus
  | _ => none

/-- Operators between two operands. -/
inductive BinaryOp where
  | add | sub | mul | div | less | greater | equal | notEqual
  deriving DecidableEq, Repr

def BinaryOp.text : BinaryOp → String
  | add => "+"
  | sub => "-"
  | mul => "*"
  | div => "/"
  | less => "<"
  | greater => ">"
  | equal => "=="
  | notEqual => "!="

/-- The binary operator that a symbol writes. -/
def BinaryOp.ofSymbol? : Symbol → Option BinaryOp
  | .plus => some add
  | .minus => some sub
  | .star => some mul
  | .slash => some div
  | .less => some less
  | .greater => some greater
  | .equal => some equal
  | .notEqual => some notEqual
  | _ => none

/-! ## Trees -/

mutual

inductive Expr where
  | ident (name : String)
  | int (value : Int64)
  | str (text : String)
  | bool (value : Bool)
  | nil
  | array (elements : List Expr)
  | unary (op : UnaryOp) (operand : Expr)
  | binary (op : BinaryOp) (left right : Expr)
  | ifThen (condition : Expr) (consequence : List Statement)
  | ifElse (condition : Expr) (consequence alternative : List Statement)
  | function (parameters : List String) (body : List Statement)
  | call (callee : Expr) (arguments : List Expr)
  | index (collection position : Expr)
  | assign (name : String) (value : Expr)

/-- Statements: a new binding, a return, or an expression for its value. -/
inductive Statement where
  | bind (name : String) (value : Expr)
  | ret (value : Expr)
  | expr (value : Expr)

end

instance : Inhabited Expr := ⟨.nil⟩
instance : Inhabited Statement := ⟨.expr .nil⟩

/-- The statements between two braces. -/
abbrev Block := List Statement

/-- The statements of a whole source. -/
abbrev Program := List Statement

end CurryLang
