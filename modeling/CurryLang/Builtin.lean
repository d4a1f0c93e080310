/-!
# Built-in functions

The functions that every program can call without defining them: their names and how many
arguments each takes. What they compute is in `CurryLang.Eval.Builtins`.
-/

namespace CurryLang

inductive Builtin where
  | len | toString | puts | push | head | rest
  deriving DecidableEq, Repr

namespace Builtin

/-- The name by which programs call a built-in function. -/
def name : Builtin → String
  | len => "len"
  | toString => "to_string"
  | puts => "puts"
  | push => "push"
  | head => "head"
  | rest => "rest"

def arity : Builtin → Nat
  | push => 2
  | _ => 1

def all : List Builtin := [len, toString, puts, push, head, rest]

def ofName? (s : String) : Option Builtin := all.find? fun b => b.name == s

end Builtin

end CurryLang
