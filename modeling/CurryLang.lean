import CurryLang.Builtin
import CurryLang.Console
import CurryLang.Console.Draft
import CurryLang.Console.Log
import CurryLang.Eval
import CurryLang.Eval.Builtins
import CurryLang.Eval.Evaluator
import CurryLang.Eval.Operators
import CurryLang.Main
import CurryLang.Program
import CurryLang.Program.ParseError
import CurryLang.Program.Parser
import CurryLang.Program.Precedence
import CurryLang.Program.Tape
import CurryLang.Program.Text
import CurryLang.Proofs.Account
import CurryLang.Proofs.Application
import CurryLang.Proofs.Arithmetic
import CurryLang.Proofs.Arrays
import CurryLang.Proofs.BlockScope
import CurryLang.Proofs.CleanValues
import CurryLang.Proofs.Comparison
import CurryLang.Proofs.Copying
import CurryLang.Proofs.Correspondence
import CurryLang.Proofs.Course
import CurryLang.Proofs.Currying
import CurryLang.Proofs.Cursor
import CurryLang.Proofs.Decomposition
import CurryLang.Proofs.Discipline
import CurryLang.Proofs.ErrorOrder
import CurryLang.Proofs.FirstOrder
import CurryLang.Proofs.Grammar
import CurryLang.Proofs.Identity
import CurryLang.Proofs.IntegerLiterals
import CurryLang.Proofs.Layout
import CurryLang.Proofs.LineBreak
import CurryLang.Proofs.Lines
import CurryLang.Proofs.Locality
import CurryLang.Proofs.Lockstep
import CurryLang.Proofs.MergedScopes
import CurryLang.Proofs.Moments
import CurryLang.Proofs.Numbering
import CurryLang.Proofs.Parameters
import CurryLang.Proofs.ParserExact
import CurryLang.Proofs.PartialApplications
import CurryLang.Proofs.PrintedData
import CurryLang.Proofs.Purity
import CurryLang.Proofs.ReadBack
import CurryLang.Proofs.ReaderComplete
import CurryLang.Proofs.ReaderEnds
import CurryLang.Proofs.ReaderSound
import CurryLang.Proofs.Rendering
import CurryLang.Proofs.ReportLines
import CurryLang.Proofs.Resolution
import CurryLang.Proofs.SameText
import CurryLang.Proofs.ScopeMaps
import CurryLang.Proofs.Sequencing
import CurryLang.Proofs.Shadowing
import CurryLang.Proofs.SharedScopes
import CurryLang.Proofs.Spelling
import CurryLang.Proofs.Subterms
import CurryLang.Proofs.Track
import CurryLang.Proofs.UnusedNames
import CurryLang.Proofs.Unwinding
import CurryLang.Proofs.Usage
import CurryLang.Proofs.Window
import CurryLang.RuntimeError
import CurryLang.Session
import CurryLang.Store
import CurryLang.Store.Lemmas
import CurryLang.Store.Listing
import CurryLang.Text.Blank
import CurryLang.Text.CodeRange
import CurryLang.Text.Decimal
import CurryLang.Text.Grapheme
import CurryLang.Text.Grapheme.BreakClass
import CurryLang.Text.Grapheme.Extend
import CurryLang.Text.Quoted
import CurryLang.Text.Unprintable
import CurryLang.Token
import CurryLang.Token.Lexer
import CurryLang.Token.Window
import CurryLang.Value
import CurryLang.Value.Equality
import CurryLang.Value.Inspect
