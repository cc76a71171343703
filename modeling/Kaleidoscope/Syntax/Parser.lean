import Kaleidoscope.Syntax.Error
import Kaleidoscope.Syntax.Operators

/-!
# The state of parsing

A parser looks at one token at a time; past the last one it sees the end of the input for ever. It
remembers the kind of the token it has just left, where recovery from an error stops, and carries
the table of operators, which prototypes extend while they are parsed. An action of the parser
either yields a value or a syntax error, and both leave the parser where it has come to.

The number of tokens still to be left before the end is the measure of all loops of the grammar:
leaving a token other than the end lowers it (`remaining_advance_lt`).
-/
namespace Kaleidoscope

/-- A place among the tokens of a program. -/
structure Parser where
  /-- The token looked at. -/
  current : Token
  /-- The tokens after it. -/
  ahead : List Token
  /-- The kind of the token before it, once one has been left. -/
  previous : Option Token.Kind
  /-- The operators declared so far. -/
  operators : OperatorTable

/-- An action of the parser. -/
abbrev Parse (α : Type) := EStateM ParseError Parser α

namespace Parser

/-- The first of some tokens. -/
def start (tokens : List Token) (operators : OperatorTable) : Parser :=
  match tokens with
  | [] => ⟨.endOfInput 1 0, [], none, operators⟩
  | token :: rest => ⟨token, rest, none, operators⟩

/-- Leave the current token. -/
def advance (parser : Parser) : Parser :=
  match parser.ahead with
  | [] =>
    { parser with
      current := .endOfInput parser.current.line parser.current.span.stop
      previous := some parser.current.kind }
  | token :: rest =>
    { parser with current := token, ahead := rest, previous := some parser.current.kind }

/-- Whether the current token is of a kind. -/
def isAt (parser : Parser) (kind : Token.Kind) : Bool := parser.current.kind = kind

/-- How strongly the current token binds between two operands, if it can stand there. -/
def precedence? (parser : Parser) : Option Float :=
  parser.operators.precedence? parser.current

/-- A bound on the number of tokens before the end of the input. -/
def remaining (parser : Parser) : Nat :=
  parser.ahead.length + bif parser.isAt .eof then 0 else 1

/-- Leaving a token other than the end of the input leaves fewer of them. -/
theorem remaining_advance_lt {parser : Parser} (before : parser.isAt .eof = false) :
    parser.advance.remaining < parser.remaining := by
  obtain ⟨current, ahead, previous, operators⟩ := parser
  cases ahead with
  | nil => simp_all [remaining, advance, isAt, Token.endOfInput]
  | cons token rest =>
    simp only [remaining, before, advance, List.length_cons]
    generalize Parser.isAt _ _ = ended
    cases ended <;> simp only [cond_true, cond_false] <;> omega

end Parser

namespace Parse

/-- The current token. -/
def current : Parse Token := do return (← get).current

/-- Whether the current token is of a kind. -/
def isAt (kind : Token.Kind) : Parse Bool := do return (← get).isAt kind

/-- Leave the current token and yield it. -/
def step : Parse Token := fun parser => .ok parser.current parser.advance

/-- Fail at the current token. -/
def failHere {α : Type} (cause : ParseCause) : Parse α := fun parser =>
  .error ⟨cause, parser.current.span, parser.current.line⟩ parser

/-- Fail because the current token is none of those expected. -/
def unexpected {α : Type} (expected : List Expectation) : Parse α := do
  failHere (.unexpectedToken (← current) expected)

/-- Leave a token of the given kind and yield it. -/
def expect (kind : Token.Kind) : Parse Token := do
  if ← isAt kind then step
  else if ← isAt .eof then failHere .unexpectedEof
  else unexpected [.token kind]

/-- Leave an identifier and yield its name and place. -/
def expectIdent : Parse (String × Span) := do
  let token ← current
  match token.kind, token.name? with
  | .ident, some name =>
    if name.isEmpty then failHere .expectedIdent
    else
      let token ← step
      return (name, token.span)
  | .eof, _ => failHere .unexpectedEof
  | _, _ => failHere .expectedIdent

/-- Leave an identifier or an operator sign and yield its name and place. -/
def expectOperatorName : Parse (String × Span) := do
  let token ← current
  match token.name? with
  | some name =>
    if (token.kind = .ident ∨ token.kind = .operator) ∧ !name.isEmpty then
      let token ← step
      return (name, token.span)
    else failHere .expectedOperatorName
  | none => failHere .expectedOperatorName

/-- Leave a number and yield its value and place. -/
def expectNumber : Parse (Float × Span) := do
  let token ← current
  match token.kind, token.number? with
  | .number, some value =>
    let token ← step
    return (value, token.span)
  | _, _ => unexpected [.number]

/-- Leave a positive finite number and yield its value. -/
def expectPrecedence : Parse Float := do
  let token ← current
  if token.kind = .number then
    let (value, span) ← expectNumber
    if value.isFinite && 0 < value then return value
    else throw ⟨.invalidPrecedence value, span, token.line⟩
  else failHere .expectedPrecedence

end Parse

end Kaleidoscope
