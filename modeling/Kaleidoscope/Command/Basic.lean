import Kaleidoscope.Command.Settings
import Kaleidoscope.Diagnostic.Basic
import Kaleidoscope.Syntax.Outline
import Kaleidoscope.Syntax.Printer

/-!
# The command

Values and trees go to the standard output, everything about the run goes to the standard error.
The command either runs one file or converses: it shows a prompt, takes a line, answers and shows
the prompt again, until the lines end or one of them asks to leave. What it does is a list of
outputs; the time that a run has taken is filled in when they are written.
-/
namespace Kaleidoscope

/-- Something the command writes. -/
inductive Output where
  /-- Text on the standard output. -/
  | out (text : String)
  /-- Styled text on the standard error. -/
  | err (inks : List Ink)
  /-- The line on the standard error that tells how long a run has taken. -/
  | finished

namespace Output

/-- A line of progress: a word, right-aligned and coloured, and what it is about. -/
def progress (hue : Hue) (word text : String) : List Ink :=
  let padding := String.ofList (List.replicate (11 - word.length) ' ')
  Ink.painted (.vivid hue) (padding ++ word) ++ [.text (" " ++ text ++ "\n")]

/-- The line that tells how long a run has taken. -/
def finishedLine (duration : String) : List Ink := progress .green "Finished" ("in " ++ duration)

/-- A line on the standard output. -/
def line (text : String) : Output := out (text ++ "\n")

end Output

namespace Settings

/-- What code is run with. -/
def execution (settings : Settings) (steps : Nat) : Execution :=
  ⟨⟨Host.standard, settings.limit⟩, steps⟩

/-- Evaluate a source: what is written, whether all went well, and the session afterwards. -/
def evaluate (settings : Settings) (steps : Nat) (session : Session) (source : String) :
    Option (List Output × Bool × Session) :=
  match session.parse source with
  | .error failure => some ([.err failure.render], false, session)
  | .ok (program, session) => do
    let outlines :=
      if settings.outline then
        .err (Output.progress .cyan "Parsed"
          (Nat.repr program.forms.length ++ " top-level form(s)")) ::
          program.forms.map (Output.out ·.outlineText)
      else []
    let earlier := session.evaluator.calls.size
    let (answer, session) ← session.runProgram (settings.execution steps) source program
    let written := Host.standard.output (session.evaluator.calls.toList.drop earlier)
    let listing := match session.evaluator.listing with
      | some listing =>
        [.err (Output.progress .cyan "Unit" "listing follows" ++ [.text (listing ++ "\n")])]
      | none => []
    let values := answer.values.map fun value => Output.line ("> " ++ NumberFormat.plain.text value)
    let errors := answer.failures.map fun failure => Output.err failure.render
    some (outlines ++ [.out written] ++ listing ++ values ++ errors, answer.failures.isEmpty, session)

/-- A new session. -/
def session (settings : Settings) (path : String) : Session := .new path settings.listing []

/-- What is written before a file is read. -/
def running (path : String) : Output := .err (Output.progress .magenta "Running" path)

/-- Run a file that has been read, or report that it cannot be: what is written and whether all
went well. -/
def runFile (settings : Settings) (steps : Nat) (path : String) (content : Except ReadError String) :
    Option (List Output × Bool) :=
  match content with
  | .error error => some ([.err (Failure.reading error).render], false)
  | .ok source => do
    let (outputs, succeeded, _) ← settings.evaluate steps (settings.session path) source
    some (outputs ++ [.finished], succeeded)

/-- What is written when code would have to be run by a compiler. -/
def refusal : Output :=
  .err (Output.progress .red "Error" "kscope was built without the `compiler` feature")

end Settings

/-- A conversation, line by line. -/
inductive Shell where
  /-- Lines are evaluated. -/
  | evaluation (session : Session)
  /-- Lines are cut into tokens. -/
  | tokens
  /-- Lines are parsed. -/
  | forms (operators : OperatorTable)

namespace Shell

/-- What is shown before each line. -/
def prompt : Shell → String
  | evaluation _ => "> "
  | tokens | forms _ => ">> "

/-- What is shown at the end. -/
def farewell : Shell → List Output
  | evaluation _ => [.line "See you soon!"]
  | tokens | forms _ => []

/-- The tokens of a line up to its first error. -/
def showTokens : List (Except LexicalError Token) → List Output
  | [] => []
  | .ok token :: rest => .line token.display :: showTokens rest
  | .error error :: _ =>
    .line ("[at " ++ Nat.repr error.span.start.toNat ++ "] Lexical Error: " ++ error.cause.title) ::
      if error.cause.notes.isEmpty then []
      else [.line (String.intercalate "\n" error.cause.notes)]

/-- A title with its notes below. -/
def complaint (kind title : String) (notes : List String) : Output :=
  .line (kind ++ ": " ++ title ++ ".\n\t" ++ String.intercalate ";\n\t" notes)

/-- The forms and errors of a parsed line. -/
def showForms (settings : Settings) (program : Program) : List Output :=
  (program.forms.map fun form =>
    if settings.outline then Output.out form.outlineText else Output.line form.render) ++
  program.errors.map fun error => complaint "Parse error" error.cause.title error.cause.notes

/-- Answer a line. -/
def answer (settings : Settings) (steps : Nat) (line : String) :
    Shell → Option (List Output × Shell)
  | evaluation session => do
    let (outputs, _, session) ← settings.evaluate steps session line
    some (outputs, evaluation session)
  | tokens => some (showTokens ((Lexer.ofSource line).items.map (·.2)), tokens)
  | forms operators =>
    match Token.scan line with
    | .error error =>
      some ([complaint "Lexical error" error.cause.title error.cause.notes], forms operators)
    | .ok scanned =>
      let (program, operators) := Program.ofTokens scanned operators
      some (showForms settings program, forms operators)

/-- A line without the line break at its end. -/
def trimmed (line : String) : String :=
  let dropEnd (c : Char) : List Char → List Char
    | last :: rest => if last = c then rest else last :: rest
    | [] => []
  String.ofList (dropEnd '\r' (dropEnd '\n' line.toList.reverse)).reverse

/-- Take a line, or the end of all lines: what is written, and the conversation if it goes on. -/
def feed (settings : Settings) (steps : Nat) (shell : Shell) (line : Option String) :
    Option (List Output × Option Shell) :=
  match line.map trimmed with
  | none | some ".exit" => some (shell.farewell, none)
  | some "" => some ([], some shell)
  | some line => do
    let (outputs, shell) ← shell.answer settings steps line
    some (outputs, some shell)

/-- A whole conversation: everything that is written, prompts included. -/
def converse (settings : Settings) (steps : Nat) (shell : Shell) :
    List String → Option (List Output)
  | [] => do
    let (outputs, _) ← shell.feed settings steps none
    some (.out shell.prompt :: outputs)
  | line :: rest => do
    let (outputs, next) ← shell.feed settings steps (some line)
    match next with
    | none => some (.out shell.prompt :: outputs)
    | some next => do
      let later ← next.converse settings steps rest
      some (.out shell.prompt :: outputs ++ later)

end Shell

/-- How an activity is carried out. -/
inductive Plan where
  /-- A file is run. -/
  | file (path : String)
  /-- A conversation is held. -/
  | conversation (shell : Shell)
  /-- Nothing can be done. -/
  | refused

/-- How an activity is carried out under some settings. Only evaluation needs something that runs
code. -/
def Activity.plan (settings : Settings) : Activity → Plan
  | .tokens => .conversation .tokens
  | .forms => .conversation (.forms .empty)
  | .file path => if settings.engine = .machine then .file path else .refused
  | .evaluate =>
    if settings.engine = .machine then
      .conversation (.evaluation (settings.session Session.interactive))
    else .refused

end Kaleidoscope
