import Kaleidoscope.Code.Error
import Kaleidoscope.Source.Span

/-!
# Errors of lowering

What can be wrong with a well-formed form. Each error but those of code has a place in the source.
When a definition of an earlier batch is turned into code again and that fails, its error is
wrapped, and the place is that of the call that needed it, since places inside the definition
belong to another source. Some errors come with a hint.
-/
namespace Kaleidoscope

/-- An error of turning a form into code, or of running it. -/
inductive LowerError where
  /-- A variable that is not visible. -/
  | unboundVariable (name : String) (span : Span)
  /-- A function that is neither defined nor declared. -/
  | unknownFunction (name : String) (span : Span)
  /-- A call with the wrong number of arguments. -/
  | argumentCount (name : String) (expected found : Nat) (span : Span)
  /-- A name used again with another number of parameters. -/
  | redefinitionArity (name : String) (previous found : Nat) (span : Span)
  /-- A name defined again within its unit. -/
  | redefinition (name : String) (span : Span)
  /-- An assignment to something other than a variable. -/
  | assignToNonVariable (span : Span)
  /-- Two parameters of the same name. -/
  | duplicateParameter (routine name : String) (span : Span)
  /-- A form where a number is needed. -/
  | expectedValue (span : Span)
  /-- An expression where a form is needed. -/
  | expectedFunction (span : Span)
  /-- An earlier definition that can no longer be turned into code. -/
  | inDefinition (name : String) (span : Span) (error : LowerError)
  /-- An error of the code itself. -/
  | code (error : CodeError)
deriving DecidableEq

namespace LowerError

/-- The error in words. -/
def message : LowerError → String
  | unboundVariable name _ => "unbound variable `" ++ name ++ "`"
  | unknownFunction name _ => "unknown function `" ++ name ++ "`"
  | argumentCount name expected found _ =>
    "`" ++ name ++ "` takes " ++ Nat.repr expected ++ " argument(s) but " ++ Nat.repr found ++
      " were supplied"
  | redefinitionArity name _ _ _ =>
    "redefinition of `" ++ name ++ "` with a different number of parameters"
  | redefinition name _ => "redefinition of function `" ++ name ++ "`"
  | assignToNonVariable _ => "destination of `=` must be a variable"
  | duplicateParameter routine name _ =>
    "parameter `" ++ name ++ "` of `" ++ routine ++ "` is declared more than once"
  | expectedValue _ => "expected an expression producing a value"
  | expectedFunction _ => "expected a definition or an extern"
  | inDefinition name _ error => "`" ++ name ++ "` can no longer be lowered: " ++ error.message
  | code error => error.message

/-- The place of the error in the source of its batch. -/
def span? : LowerError → Option Span
  | unboundVariable _ span | unknownFunction _ span | argumentCount _ _ _ span
  | redefinitionArity _ _ _ span | redefinition _ span | assignToNonVariable span
  | duplicateParameter _ _ span | expectedValue span | expectedFunction span
  | inDefinition _ span _ => some span
  | code _ => none

/-- Advice to the programmer. -/
def hint? : LowerError → Option String
  | unknownFunction name _ =>
    if "binary_".isPrefixOf name || "unary_".isPrefixOf name then
      some "Operators are defined with `def binary` or `def unary`"
    else some "Declare it with `def` or `extern` first"
  | redefinitionArity _ previous _ _ =>
    some ("It was declared with " ++ Nat.repr previous ++ " parameter(s)")
  | inDefinition name _ error =>
    let origin := "`" ++ name ++ "` was defined in an earlier input"
    match error.hint? with
    | some hint => some (origin ++ ". " ++ hint)
    | none => some origin
  | code (.unresolvedSymbol _) => some "The host provides only `putchard` and `printd`"
  | _ => none

end LowerError

end Kaleidoscope
