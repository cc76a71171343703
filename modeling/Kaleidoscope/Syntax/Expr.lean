import Kaleidoscope.Token.Basic

/-!
# Syntax trees

A program is a list of forms: definitions, declarations of host functions, and expressions to run,
each of the last wrapped into a definition without a name of its own. All of them are trees of one
type. Every tree knows its place in the source.

A definition is linked under its name; the function behind an operator is linked under the
operator's name with `unary_` or `binary_` before it.
-/
namespace Kaleidoscope

/-- The operators that compute with their operands themselves. -/
inductive BuiltinOperator where
  /-- Sum. -/
  | add
  /-- Difference. -/
  | subtract
  /-- Product. -/
  | multiply
  /-- One if the left operand is smaller, else zero. -/
  | lessThan
  /-- One if the operands are equal, else zero. -/
  | equal
deriving DecidableEq

namespace BuiltinOperator

/-- All of them. -/
def all : List BuiltinOperator := [add, subtract, multiply, lessThan, equal]

/-- The sign of an operator. -/
def symbol : BuiltinOperator → String
  | add => "+"
  | subtract => "-"
  | multiply => "*"
  | lessThan => "<"
  | equal => "=="

/-- The operator with a given sign. -/
def ofSymbol? (sign : String) : Option BuiltinOperator := all.find? (·.symbol = sign)

/-- Only the sign of an operator finds it. -/
theorem symbol_of_ofSymbol? {sign : String} {operator : BuiltinOperator}
    (found : ofSymbol? sign = some operator) : operator.symbol = sign := by
  simpa using List.find?_some found

end BuiltinOperator

/-- What a binary operator does, decided once from its token. -/
inductive BinaryMeaning where
  /-- Computes with its operands. -/
  | builtin (operator : BuiltinOperator)
  /-- Stores the right operand in the variable on the left. -/
  | assign
  /-- A call of the function behind a declared operator. -/
  | user (name : String)
deriving DecidableEq

namespace BinaryMeaning

/-- The name of the operator. -/
def symbol : BinaryMeaning → String
  | builtin operator => operator.symbol
  | assign => "="
  | user name => name

/-- The function behind a declared operator. -/
def callee? : BinaryMeaning → Option String
  | user name => some ("binary_" ++ name)
  | _ => none

/-- The meaning of an operator token between two operands, if it can stand there. -/
def ofToken? (operator : Token) : Option BinaryMeaning :=
  match operator.kind with
  | .equal => some assign
  | .operator =>
    match BuiltinOperator.ofSymbol? operator.lexeme with
    | some found => some (builtin found)
    | none => some (user operator.lexeme)
  | .ident => (operator.name?.filter (!·.isEmpty)).map user
  | _ => none

end BinaryMeaning

/-- How the operator of a prototype is used. -/
inductive Fixity where
  /-- Before its operand. -/
  | unary
  /-- Between its operands. -/
  | binary
deriving DecidableEq

namespace Fixity

/-- The word for it in messages. -/
def word : Fixity → String
  | unary => "unary"
  | binary => "binary"

/-- How many operands it takes. -/
def operands : Fixity → Nat
  | unary => 1
  | binary => 2

end Fixity

/-- What a prototype introduces. -/
inductive PrototypeKind where
  /-- A function called by name. -/
  | function
  /-- An operator before its operand. -/
  | unary
  /-- An operator between its operands, and how strongly it binds. -/
  | binary (precedence : Float)
deriving DecidableEq

namespace PrototypeKind

/-- The use of the operator, if one is introduced. -/
def fixity? : PrototypeKind → Option Fixity
  | function => none
  | unary => some .unary
  | binary _ => some .binary

end PrototypeKind

/-- The name of the wrapper of an expression to run; no identifier can be spelled like it. -/
def anonymousName : String := "__anon_expr"

/-- The name, parameters and use of a function. -/
structure Prototype where
  /-- The name as written. -/
  name : String
  /-- The names of the parameters in order. -/
  parameters : List String
  /-- What is introduced. -/
  kind : PrototypeKind
  /-- Its place in the source. -/
  span : Span
deriving DecidableEq

namespace Prototype

/-- The prototype of the wrapper of an expression to run. -/
def anonymous (span : Span) : Prototype := ⟨anonymousName, [], .function, span⟩

/-- Whether it wraps an expression to run. -/
def isAnonymous (prototype : Prototype) : Bool := prototype.name = anonymousName

/-- The name that calls go to. -/
def linkedName (prototype : Prototype) : String :=
  match prototype.kind with
  | .function => prototype.name
  | .unary => "unary_" ++ prototype.name
  | .binary _ => "binary_" ++ prototype.name

end Prototype

/-- Expressions and forms. -/
inductive Expr where
  /-- A number. -/
  | number (value : Float) (span : Span)
  /-- The value of a variable. -/
  | var (name : String) (span : Span)
  /-- An operator between two operands. -/
  | binary (operator : Token) (meaning : BinaryMeaning) (left right : Expr) (span : Span)
  /-- An operator before its operand. -/
  | unary (operator : Token) (operand : Expr) (span : Span)
  /-- A call of a function. -/
  | call (callee : String) (arguments : List Expr) (span : Span)
  /-- A choice between two values. -/
  | conditional (condition consequent alternative : Expr) (span : Span)
  /-- A counted loop. -/
  | loop (counter : String) (start limit : Expr) (step : Option Expr) (body : Expr) (span : Span)
  /-- A local variable and the expression it is visible in. -/
  | binding (name : String) (initializer : Option Expr) (body : Expr) (span : Span)
  /-- A prototype on its own. -/
  | prototype (prototype : Prototype)
  /-- A definition. -/
  | function (prototype : Prototype) (body : Expr) (span : Span)
  /-- A declaration of a function of the host. -/
  | declaration (prototype : Prototype) (span : Span)

namespace Expr

/-- The place of a tree in the source. -/
def span : Expr → Span
  | number _ span | var _ span | binary _ _ _ _ span | unary _ _ span | call _ _ span
  | conditional _ _ _ span | loop _ _ _ _ _ span | binding _ _ _ span
  | function _ _ span | declaration _ span => span
  | prototype signature => signature.span

/-- The prototype of a form. -/
def prototype? : Expr → Option Prototype
  | prototype signature | function signature _ _ | declaration signature _ => some signature
  | _ => none

/-- The name that a form is linked under. -/
def linkedName? (form : Expr) : Option String := form.prototype?.map Prototype.linkedName

/-- Whether a form is an expression to run. -/
def isAnonymous : Expr → Bool
  | function signature _ _ => signature.isAnonymous
  | _ => false

/-- The form that runs an expression. -/
def anonymous (body : Expr) : Expr := .function (.anonymous body.span) body body.span

/-- The name of an operator before its operand: what its token carries, or else its text. -/
def unaryName (operator : Token) : String := operator.name?.getD operator.lexeme

/-- The function behind an operator before its operand. -/
def unaryCallee (operator : Token) : String := "unary_" ++ unaryName operator

end Expr

end Kaleidoscope
