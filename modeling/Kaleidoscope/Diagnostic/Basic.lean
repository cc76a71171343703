import Kaleidoscope.Diagnostic.Snippet
import Kaleidoscope.Session

/-!
# Diagnostics

A diagnostic is what the programmer sees of an error: a title after the word for its severity, the
snippet of source it belongs to, if there is one, and some text below. Errors that cannot be the
program's fault are called bugs. Errors at the end of the input are shown at the very end of the
source, and an error without a place says in its text what its snippet would have said.
-/
namespace Kaleidoscope

/-- Whose fault an error is. -/
inductive Severity where
  /-- The program's. -/
  | error
  /-- The compiler's. -/
  | bug
deriving DecidableEq

namespace Severity

/-- The word before the title. -/
def text : Severity → String
  | error => "error"
  | bug => "bug"

/-- The colour of a title that stands alone. -/
def hue : Severity → Hue
  | error => .red
  | bug => .magenta

end Severity

/-- An error as it is shown. -/
structure Diagnostic where
  /-- What happened. -/
  title : String
  /-- Explanations. -/
  text : String
  /-- Whose fault it is. -/
  severity : Severity
  /-- Where it happened. -/
  snippet : Option Snippet

namespace Diagnostic

/-- The title above a snippet. -/
def header (diagnostic : Diagnostic) : List Ink :=
  [.style (.vivid .red), .text diagnostic.severity.text, .style .strong,
    .text (": " ++ diagnostic.title), .style .usual, .newline]

/-- The title on its own, and an empty line. -/
def heading (diagnostic : Diagnostic) : List Ink :=
  [.style ⟨some diagnostic.severity.hue, false, true⟩, .text diagnostic.severity.text,
    .style .strong, .text (": " ++ diagnostic.title ++ "\n\n"), .style .usual]

/-- A diagnostic as styled text. -/
def render (diagnostic : Diagnostic) : List Ink :=
  let top := match diagnostic.snippet with
    | some snippet => diagnostic.header ++ snippet.render ++ [.newline]
    | none => diagnostic.heading
  if diagnostic.text.isEmpty then top else top ++ [.text (diagnostic.text ++ "\n")]

end Diagnostic

namespace FormError

/-- The title of an error of a form. -/
def title (error : FormError) : String :=
  match error.error with
  | .code (.unresolvedSymbol _) | .code (.callDepthExceeded _) => "Runtime error"
  | .code _ => "Backend failure"
  | _ => "Code generation error"

/-- Whose fault an error of a form is. -/
def severity (error : FormError) : Severity :=
  match error.error with
  | .code (.unresolvedSymbol _) | .code (.callDepthExceeded _) => .error
  | .code _ => .bug
  | _ => .error

/-- An error of a form in a source. -/
def diagnostic (path source : String) (error : FormError) : Diagnostic :=
  let message := error.error.message
  let hint := error.error.hint?.getD ""
  match error.span with
  | some span => ⟨error.title, hint, error.severity, some ⟨path, source, ⟨span, message⟩, []⟩⟩
  | none =>
    let text := if hint.isEmpty then message else message ++ "\n" ++ hint
    ⟨error.title, text, error.severity, none⟩

end FormError

namespace Failure

/-- The place of a syntax error in a source: errors at the end of the input belong to its very
end. -/
def placeOf (source : String) (error : ParseError) : Span :=
  if error.cause.isEof then .point (.ofNat source.utf8ByteSize) else error.span

/-- An error as it is shown. -/
def diagnostic : Failure → Diagnostic
  | lexical path source error =>
    ⟨"Lexical error", String.intercalate "\n" error.cause.notes, .error,
      some ⟨path, source, ⟨error.span, error.cause.title⟩, []⟩⟩
  | grammatical path source error =>
    ⟨"Syntax error", String.intercalate "\n" error.cause.notes, .error,
      some ⟨path, source, ⟨placeOf source error, error.cause.title⟩, []⟩⟩
  | evaluation path source error => error.diagnostic path source
  | reading error => ⟨"Standard IO error", error.message, .error, none⟩

/-- An error as styled text, and an empty line. -/
def render (failure : Failure) : List Ink := failure.diagnostic.render ++ [.newline]

end Failure

end Kaleidoscope
