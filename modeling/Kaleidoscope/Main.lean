import Kaleidoscope.Command.Basic

/-!
# The program

Carries out what the arguments ask for: reads files and lines, and writes what the command says.
The exit code is zero unless a run has failed or the arguments cannot be understood.
-/
open Kaleidoscope

namespace Kaleidoscope.Terminal

/-- Seconds with two digits after the point. -/
def seconds (milliseconds : Nat) : String :=
  let hundredths := (milliseconds + 5) / 10
  let rest := hundredths % 100
  Nat.repr (hundredths / 100) ++ "." ++ (if rest < 10 then "0" else "") ++ Nat.repr rest ++ "s"

/-- Write outputs in order. -/
def emit (colour : Bool) (started : Nat) (outputs : List Output) : IO Unit := do
  for output in outputs do
    match output with
    | .out text =>
      IO.print text
      (← IO.getStdout).flush
    | .err inks => IO.eprint (Ink.write colour inks)
    | .finished =>
      let now ← IO.monoMsNow
      IO.eprint (Ink.write colour (Output.finishedLine (seconds (now - started))))

/-- The content of a file. A directory can be opened and fails when it is read, without naming its
path; a path that leads through a file cannot be opened at all. -/
def readFile (path : String) : IO (Except ReadError String) := do
  try
    let bytes ← IO.FS.readBinFile path
    return Reading.decode bytes.toList
  catch
    | .noFileOrDirectory .. => return .error .notFound
    | .inappropriateType (some _) .. => return .error .notDirectory
    | .invalidArgument .. => return .error .nameTooLong
    | _ => return .error .isDirectory

/-- Hold a conversation over the standard streams. -/
partial def converse (settings : Settings) (colour : Bool) (shell : Shell) : IO UInt32 := do
  emit colour 0 [.out shell.prompt]
  let line ← (← IO.getStdin).getLine
  match shell.feed settings Execution.ampleSteps (if line.isEmpty then none else some line) with
  | none => return 1
  | some (outputs, next) =>
    emit colour 0 outputs
    match next with
    | none => return 0
    | some next => converse settings colour next

/-- Carry out a plan. -/
def carryOut (settings : Settings) (colour : Bool) : Plan → IO UInt32
  | .refused => do
    emit colour 0 [Settings.refusal]
    return 1
  | .conversation shell => converse settings colour shell
  | .file path => do
    emit colour 0 [Settings.running path]
    let started ← IO.monoMsNow
    let content ← readFile path
    match settings.runFile Execution.ampleSteps path content with
    | none => return 1
    | some (outputs, succeeded) =>
      emit colour started outputs
      return if succeeded then 0 else 1

end Kaleidoscope.Terminal

/-- Read the arguments and do what they ask for. -/
def main (arguments : List String) : IO UInt32 := do
  let colour := ((← IO.getEnv "FORCE_COLOR").getD "") ≠ ""
  match Request.ofArguments? arguments with
  | none =>
    IO.eprintln "error: the arguments cannot be understood"
    return 2
  | some (activity, settings) =>
    Kaleidoscope.Terminal.carryOut settings colour (activity.plan settings)
