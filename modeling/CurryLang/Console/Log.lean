import CurryLang.Session

/-!
# The log

A log line has a level, the part of the program that it comes from, a message and fields. A filter
lets the lines through whose level is not more detailed than its own.
-/

namespace CurryLang.Console

/-- How detailed a log line is, or the most detailed lines that a filter lets through. -/
inductive Verbosity where
  | off | error | warn | info | debug | trace
  deriving DecidableEq, Repr

namespace Verbosity

/-- The place of a level in the order from the least detailed up. -/
def rank : Verbosity → Nat
  | off => 0
  | error => 1
  | warn => 2
  | info => 3
  | debug => 4
  | trace => 5

/-- How filters spell a level. -/
def name : Verbosity → String
  | off => "off"
  | error => "error"
  | warn => "warn"
  | info => "info"
  | debug => "debug"
  | trace => "trace"

/-- How log lines spell a level. -/
def label : Verbosity → String
  | off => "OFF"
  | error => "ERROR"
  | warn => "WARN"
  | info => "INFO"
  | debug => "DEBUG"
  | trace => "TRACE"

def all : List Verbosity := [off, error, warn, info, debug, trace]

/-- What a filter may write for a level: its name or its rank. -/
def spellings (v : Verbosity) : List String := [v.name, Decimal.ofNat v.rank]

/-- The level that a filter asks for, alone or behind the name of the program. -/
def ofFilter? (filter : String) : Option Verbosity :=
  all.find? fun v => v.spellings.any fun s => s == filter || "lainoa=" ++ s == filter

/-- A filter lets lines of a level through. -/
def admits (filter level : Verbosity) : Bool := level.rank ≤ filter.rank

end Verbosity

structure LogLine where
  level : Verbosity
  origin : String
  message : String
  fields : List (String × String)

def LogLine.text (l : LogLine) : String :=
  l.level.label ++ " " ++ l.origin ++ ": " ++ l.message ++
    String.join (l.fields.map fun (name, value) => " " ++ name ++ "=" ++ value) ++ "\n"

/-- The lines that a filter lets through. -/
def logText (filter : Verbosity) (lines : List LogLine) : String :=
  String.join ((lines.filter fun l => filter.admits l.level).map LogLine.text)

/-! ## The lines -/

def LogLine.running (file : String) : LogLine := ⟨.info, "lainoa", "running", [("file", file)]⟩

def LogLine.startingRepl : LogLine := ⟨.info, "lainoa", "starting repl", []⟩

/-- A program without errors is about to be evaluated. -/
def LogLine.evaluating (file : String) (p : Program) : LogLine :=
  ⟨.debug, "lainoa", "evaluating program",
    [("file", Text.quote file), ("statements", Decimal.ofNat p.length)]⟩

def LogLine.parseError (e : ParseError) : LogLine :=
  ⟨.debug, "lainoa::interpreter::parser::core", "parse error",
    [("position", e.position.text), ("error", e.message)]⟩

/-- Something happened during an evaluation. -/
def LogLine.event : Event → LogLine
  | .applying parameters arguments =>
    ⟨.trace, "lainoa::interpreter::evaluator::function::core", "applying function",
      [("parameters", Decimal.ofNat parameters), ("arguments", Decimal.ofNat arguments)]⟩
  | .currying remaining =>
    ⟨.trace, "lainoa::interpreter::evaluator::function::core", "currying",
      [("remaining", Decimal.ofNat remaining)]⟩
  | .calling function arguments =>
    ⟨.trace, "lainoa::interpreter::evaluator::function::core", "calling builtin",
      [("builtin", Text.quote function.name), ("arguments", Decimal.ofNat arguments)]⟩
  | .refusedBinding name =>
    ⟨.trace, "lainoa::interpreter::environment", "refusing to re-bind", [("name", Text.quote name)]⟩
  | .refusedAssignment name =>
    ⟨.trace, "lainoa::interpreter::environment", "refusing to assign unbound name",
      [("name", Text.quote name)]⟩

end CurryLang.Console
