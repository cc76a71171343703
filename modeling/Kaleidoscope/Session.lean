import Kaleidoscope.Batch
import Kaleidoscope.Source.Reading
import Kaleidoscope.Syntax.Program

/-!
# Sessions

A session runs sources one after the other, each as one batch. The operators, the registry and the
calls of host functions go from one source to the next. A lexical error stops a source before
anything is run; malformed statements and forms that fail are reported, and the rest of the source
is run all the same.
-/
namespace Kaleidoscope

/-- An error as the programmer meets it: where it comes from, and for all but unreadable files the
name and text of the source. -/
inductive Failure where
  /-- A malformed number. -/
  | lexical (path source : String) (error : LexicalError)
  /-- A malformed statement. -/
  | grammatical (path source : String) (error : ParseError)
  /-- A form that cannot be turned into code, or an expression that fails. -/
  | evaluation (path source : String) (error : FormError)
  /-- A file that cannot be read. -/
  | reading (error : ReadError)

namespace Failure

/-- The error in a few words. -/
def message : Failure → String
  | lexical .. => "failed to tokenize source code"
  | grammatical .. => "failed to parse source code"
  | evaluation .. => "failed to evaluate source code"
  | reading _ => "IO operation failed"

end Failure

/-- What goes from one source to the next. -/
structure Session where
  /-- The name of the sources in messages. -/
  path : String
  /-- The operators declared so far. -/
  operators : OperatorTable
  /-- The state of evaluation. -/
  evaluator : Evaluator

/-- What running a source gives. -/
structure Answer where
  /-- The values of its expressions in order. -/
  values : List Float
  /-- The errors: first those of malformed statements, then those of forms. -/
  failures : List Failure

namespace Session

/-- The name of sources that come from no file. -/
def interactive : String := "<repl>"

/-- A new session. -/
def new (path : String) (keepListing : Bool) (faults : FaultPlan) : Session :=
  ⟨path, .empty, .new keepListing faults⟩

/-- Read a source. The operators that it declares are known from here on. -/
def parse (session : Session) (source : String) : Except Failure (Program × Session) :=
  match Token.scan source with
  | .error error => .error (.lexical session.path source error)
  | .ok tokens =>
    let (program, operators) := Program.ofTokens tokens session.operators
    .ok (program, { session with operators := operators })

/-- Run the program of a source that has been read. -/
def runProgram (execution : Execution) (session : Session) (source : String) (program : Program) :
    Option (Answer × Session) := do
  let (report, evaluator) ← session.evaluator.runBatch execution program.forms
  let failures :=
    program.errors.map (Failure.grammatical session.path source) ++
      report.errors.map (Failure.evaluation session.path source)
  some (⟨report.values, failures⟩, { session with evaluator := evaluator })

/-- Read and run a source. -/
def run (execution : Execution) (session : Session) (source : String) :
    Option (Answer × Session) :=
  match session.parse source with
  | .error failure => some (⟨[], [failure]⟩, session)
  | .ok (program, session) => session.runProgram execution source program

end Session

end Kaleidoscope
