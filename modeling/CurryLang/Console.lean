import CurryLang.Console.Draft
import CurryLang.Console.Log

/-!
# The command line

What each command prints and with which code it exits, as pure functions. A command evaluates a
text given on the command line, runs a file, or reads lines from the standard input and evaluates
each of them in one session.
-/

namespace CurryLang.Console

def version : String := "lainoa 0.1.0"

/-- What was printed on the two output channels. -/
structure Printed where
  stdout : String
  stderr : String

def Printed.append (a b : Printed) : Printed := ⟨a.stdout ++ b.stdout, a.stderr ++ b.stderr⟩

instance : Append Printed := ⟨Printed.append⟩

/-- What a finished command leaves behind. -/
structure Report where
  stdout : String
  stderr : String
  exit : Nat

/-- The report of a command that printed this and succeeded or not. -/
def Printed.report (p : Printed) (succeeded : Bool) : Report :=
  ⟨p.stdout, p.stderr, if succeeded then 0 else 1⟩

/-! ## Running one text -/

/-- Runs a source text: the result, the new state, and what was printed and logged on the way. -/
def runLogged (filter : Verbosity) (source file : String) (c : ScopeId) (σ : State) :
    RunResult × State × Printed :=
  match Program.ofSource source file with
  | (p, []) =>
    let (result, τ) := p.run callLimit c σ.flush
    let lines := LogLine.evaluating file p :: τ.events.reverse.map .event
    (result, τ.flush, ⟨τ.output, logText filter lines⟩)
  | (_, errors) => (.rejected errors, σ, ⟨"", logText filter (errors.map .parseError)⟩)

/-- The message for a program whose calls are too deep inside each other. -/
def exhaustedMessage : String := "ERROR: too many calls inside each other\n"

/-- What is wrong with a run, if it failed. -/
def complaint? : RunResult → Option String
  | .rejected errors => some (ParseError.reportAll errors)
  | .finished (.error e) => some ((Value.error e).inspect ++ "\n")
  | .finished _ => none
  | .exhausted => some exhaustedMessage

/-- What a run shows: its value unless that is `nil`, or what is wrong. -/
def showResult (result : RunResult) : Printed :=
  match complaint? result, result with
  | some message, _ => ⟨"", message⟩
  | none, .finished .nil => ⟨"", ""⟩
  | none, .finished v => ⟨v.inspect ++ "\n", ""⟩
  | none, _ => ⟨"", ""⟩

/-! ## Commands -/

/-- Evaluates a text and shows its value. -/
def evalText (filter : Verbosity) (source : String) : Report :=
  let (c, σ) := State.initial
  let (result, _, printed) := runLogged filter source "eval" c σ
  (printed ++ showResult result).report (complaint? result).isNone

inductive FileContents where
  | missing
  | bytes (data : ByteArray)

def unreadable (file reason : String) : Report :=
  ⟨"", "Error: failed to read the input file `" ++ file ++ "`\n\nCaused by:\n    " ++ reason ++ "\n", 1⟩

/-- Runs a file; only what it prints and what is wrong is shown. -/
def runFile (filter : Verbosity) (file : String) : FileContents → Report
  | .missing => unreadable file "No such file or directory (os error 2)"
  | .bytes data =>
    match String.fromUTF8? data with
    | none => unreadable file "stream did not contain valid UTF-8"
    | some source =>
      let (c, σ) := State.initial
      let (result, _, printed) := runLogged filter source file c σ
      let start : Printed := ⟨"", logText filter [.running file]⟩
      let problem : Printed := ⟨"", (complaint? result).getD ""⟩
      (start ++ printed ++ problem).report (complaint? result).isNone

/-- What an interactive session prints before its first line. -/
def greeting (filter : Verbosity) : Printed :=
  ⟨version ++ " (Ctrl-D to exit)\n", logText filter [.startingRepl]⟩

/-- Evaluates one line of an interactive session after its backspaces took effect; one that is blank
then is skipped. -/
def respond (filter : Verbosity) (c : ScopeId) (line : String) (σ : State) : Printed × State :=
  let source := edited line.toList
  if source.all Text.isBlank then (⟨"", ""⟩, σ)
  else
    let (result, τ, printed) := runLogged filter (String.ofList source) "repl" c σ
    (printed ++ showResult result, τ)

/-- Evaluates lines one after the other. -/
def respondAll (filter : Verbosity) (c : ScopeId) : List String → State → Printed
  | [], _ => ⟨"", ""⟩
  | line :: rest, σ =>
    let (printed, τ) := respond filter c line σ
    printed ++ respondAll filter c rest τ

/-- A line without the carriage return before its end. -/
def dropReturn (line : List Char) : List Char :=
  if line.getLast? = some '\r' then line.dropLast else line

/-- The lines of an input. A line ends at a line feed, alone or after a carriage return; the last
one may lack it. `line` is the part of the current line read so far, backwards. -/
def splitLines (line : List Char) : List Char → List String
  | [] => if line.isEmpty then [] else [String.ofList line.reverse]
  | c :: cs =>
    if c == '\n' then String.ofList (dropReturn line.reverse) :: splitLines [] cs
    else splitLines (c :: line) cs

/-- An interactive session on a given input. -/
def repl (filter : Verbosity) (input : String) : Report :=
  let (c, σ) := State.initial
  (greeting filter ++ respondAll filter c (splitLines [] input.toList) σ).report true

/-! ## The filter -/

/-- The filter of a command: the option wins over the environment, and `warn` is the default. -/
def chooseFilter (option environment : Option String) : String :=
  option.getD (environment.getD "warn")

/-- The reason why a filter is refused. -/
def filterHint : String :=
  "error parsing level filter: expected one of \"off\", \"error\", \"warn\", \"info\", \"debug\", " ++
    "\"trace\", or a number 0-5"

def invalidFilter (filter : String) : Report :=
  ⟨"", "Error: invalid log filter `" ++ filter ++ "`\n\nCaused by:\n    0: " ++ filterHint ++
    "\n    1: " ++ filterHint ++ "\n", 1⟩

/-- Runs a command with a filter, or refuses the filter before anything is run. -/
def withFilter (filter : String) (command : Verbosity → Report) : Report :=
  match Verbosity.ofFilter? filter with
  | some v => command v
  | none => invalidFilter filter

end CurryLang.Console
