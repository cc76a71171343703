import Kaleidoscope.Syntax.Expr

/-!
# Syntax errors

An error names its cause, the place where it was noticed and the line. Each cause has a title and
notes. Errors noticed at the end of the input are told apart, because they are shown at the very
end of the source.
-/
namespace Kaleidoscope

/-- What a parser would have accepted. -/
inductive Expectation where
  /-- A token of a given kind. -/
  | token (kind : Token.Kind)
  /-- An identifier. -/
  | identifier
  /-- A number. -/
  | number
  /-- A conditional, a loop or local variables. -/
  | construct
  /-- One more parameter. -/
  | parameterName
deriving DecidableEq

/-- An expectation in words. -/
def Expectation.text : Expectation → String
  | token kind => "`" ++ kind.text ++ "`"
  | identifier => "an identifier"
  | number => "a number"
  | construct => "`if`, `for` or `var`"
  | parameterName => "a parameter name"

/-- What is wrong with a statement. -/
inductive ParseCause where
  /-- Something other than an identifier. -/
  | expectedIdent
  /-- Something that cannot name an operator. -/
  | expectedOperatorName
  /-- Something other than the number that a binary operator needs. -/
  | expectedPrecedence
  /-- The input ends too early. -/
  | unexpectedEof
  /-- A token that cannot stand here. -/
  | unexpectedToken (token : Token) (expected : List Expectation)
  /-- An operator between operands that no prototype has introduced. -/
  | undeclaredOperator (name : String)
  /-- A prototype for a built-in operator. -/
  | builtinOperator (name : String)
  /-- A precedence that is not positive and finite. -/
  | invalidPrecedence (value : Float)
  /-- An operator with the wrong number of parameters. -/
  | operatorArity (fixity : Fixity) (found : Nat)
  /-- A token that cannot stand between two operands. -/
  | invalidBinaryOperator (token : Token)
deriving DecidableEq

namespace ParseCause

/-- What the programmer is told. -/
def title : ParseCause → String
  | expectedIdent => "Expected identifier"
  | expectedOperatorName => "Expected operator name"
  | expectedPrecedence => "Expected operator precedence"
  | unexpectedEof => "Unexpected end of input"
  | unexpectedToken _ _ => "Not expected this"
  | undeclaredOperator _ => "Unknown binary operator"
  | builtinOperator _ => "Built-in operator cannot be redefined"
  | invalidPrecedence _ => "Invalid operator precedence"
  | operatorArity _ _ => "Wrong number of operator parameters"
  | invalidBinaryOperator _ => "Invalid binary operator"

/-- Explanations that follow the title. -/
def notes : ParseCause → List String
  | expectedIdent | unexpectedEof => []
  | expectedOperatorName => ["An operator is named by a single character or an identifier"]
  | expectedPrecedence => ["Write it as a number: `def binary | 5 (a b) ...`"]
  | unexpectedToken token expected =>
    ("Found " ++ token.describe ++ ", expected one of: ") :: expected.map ("- " ++ ·.text)
  | undeclaredOperator name =>
    ["`" ++ name ++ "` is used before a `def binary " ++ name ++ "` declaration"]
  | builtinOperator name => ["`" ++ name ++ "` already has a built-in meaning"]
  | invalidPrecedence value =>
    ["Precedence must be a positive number, got " ++ NumberFormat.plain.text value]
  | operatorArity fixity found =>
    let plural := if fixity.operands = 1 then "" else "s"
    ["A " ++ fixity.word ++ " operator accepts exactly " ++ Nat.repr fixity.operands ++
      " parameter" ++ plural ++ ", found " ++ Nat.repr found]
  | invalidBinaryOperator token => [token.describe ++ " cannot be used as a binary operator"]

/-- Whether the error is the end of the input. -/
def isEof : ParseCause → Bool
  | unexpectedEof => true
  | unexpectedToken token _ => token.kind = .eof
  | _ => false

end ParseCause

/-- A malformed statement and where that was noticed. -/
structure ParseError where
  /-- What is wrong. -/
  cause : ParseCause
  /-- The offending text. -/
  span : Span
  /-- Its line, counted from one. -/
  line : UInt32
deriving DecidableEq

/-- A binary node over two operands; it covers both. An operator token that cannot stand between
operands is refused. -/
def Expr.binary? (operator : Token) (left right : Expr) : Except ParseError Expr :=
  match BinaryMeaning.ofToken? operator with
  | some meaning => .ok (.binary operator meaning left right (left.span.join right.span))
  | none => .error ⟨.invalidBinaryOperator operator, operator.span, operator.line⟩

end Kaleidoscope
