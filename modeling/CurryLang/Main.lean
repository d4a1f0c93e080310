import CurryLang.Console

/-!
# The program

The outer layer of the command line: it reads arguments, files and lines, calls the pure commands
of `CurryLang.Console`, and prints what they report.
-/

namespace CurryLang.Console

/-- Prints both channels at once. -/
def Printed.write (p : Printed) : IO Unit := do
  IO.print p.stdout
  IO.eprint p.stderr
  (← IO.getStdout).flush

/-- Prints a report; the result is the exit code. -/
def Report.write (r : Report) : IO UInt32 := do
  Printed.write ⟨r.stdout, r.stderr⟩
  return UInt32.ofNat r.exit

/-- Reads lines from the standard input and answers each before the next is read. -/
partial def interact (filter : Verbosity) (c : ScopeId) (σ : State) : IO Unit := do
  let line ← (← IO.getStdin).getLine
  if !line.isEmpty then
    let stripped := (splitLines [] line.toList).headD ""
    let (printed, τ) := respond filter c stripped σ
    printed.write
    interact filter c τ

def readContents (file : String) : IO FileContents := do
  try
    return .bytes (← IO.FS.readBinFile file)
  catch _ =>
    return .missing

/-- Splits the log option off the arguments. -/
def takeLogOption : List String → Option String × List String
  | "--" :: rest => (none, "--" :: rest)
  | "--log" :: filter :: rest => (some filter, (takeLogOption rest).2)
  | x :: rest =>
    if x.startsWith "--log=" then (some (x.drop 6).toString, (takeLogOption rest).2)
    else
      let (option, others) := takeLogOption rest
      (option, x :: others)
  | [] => (none, [])

def usage : String :=
  "Usage: lainoa [--log FILTER] (run FILE | repl | eval SOURCE)\n"

/-- Carries out the command that the arguments ask for. -/
def dispatch (arguments : List String) : IO UInt32 := do
  let (option, rest) := takeLogOption arguments
  let filter := chooseFilter option (← IO.getEnv "LAINOA_LOG")
  match rest with
  | ["--version"] | ["-V"] => Report.write ⟨version ++ "\n", "", 0⟩
  | ["eval", "--", source] | ["eval", source] => (withFilter filter fun v => evalText v source).write
  | ["run", "--", file] | ["run", file] =>
    let contents ← readContents file
    (withFilter filter fun v => runFile v file contents).write
  | ["repl"] =>
    match Verbosity.ofFilter? filter with
    | some v =>
      let (c, σ) := State.initial
      (greeting v).write
      interact v c σ
      return 0
    | none => (invalidFilter filter).write
  | _ => Report.write ⟨"", usage, 2⟩

end CurryLang.Console

def main (arguments : List String) : IO UInt32 := CurryLang.Console.dispatch arguments
