import Kaleidoscope.Syntax.Expr

/-!
# Operators

Which tokens may stand between two operands, and how strongly they bind. The six built-in
operators are fixed. A program declares further ones, and operators before an operand, with
prototypes; declarations stay known for the rest of a session, and a later declaration of a name
replaces the earlier one. A built-in operator is found by the text of its token, a declared one by
its name, which also a word can carry.
-/
namespace Kaleidoscope

/-- The operators declared so far. -/
structure OperatorTable where
  /-- Binary operators and their precedences, the latest declaration first. -/
  binary : List (String × Float)
  /-- Names of unary operators. -/
  unary : List String

namespace OperatorTable

/-- The table of a new session. -/
def empty : OperatorTable := ⟨[], []⟩

/-- The built-in operators and their precedences. -/
def builtin : List (String × Float) :=
  [("=", 2), ("<", 10), ("+", 20), ("-", 20), ("*", 40), ("==", 50)]

/-- The precedence of the declared binary operator that a token names. -/
def declared? (table : OperatorTable) (token : Token) : Option Float :=
  token.name?.bind fun name => table.binary.lookup name

/-- How strongly a token binds between two operands, if it can stand there. -/
def precedence? (table : OperatorTable) (token : Token) : Option Float :=
  match token.kind with
  | .equal | .operator => (builtin.lookup token.lexeme).or (table.declared? token)
  | .ident => table.declared? token
  | _ => none

/-- Whether an operator takes everything of its own precedence into its right operand. -/
def isRightAssociative (token : Token) : Bool := token.kind = .equal

/-- Whether a name belongs to a built-in operator. -/
def isBuiltin (name : String) : Bool := (builtin.lookup name).isSome

/-- Whether a token is an operator before an operand. -/
def isUnary (table : OperatorTable) (token : Token) : Bool :=
  (token.kind = .operator || token.kind = .ident) && token.name?.any table.unary.contains

/-- The table with one more unary operator. -/
def declareUnary (table : OperatorTable) (name : String) : OperatorTable :=
  { table with unary := name :: table.unary }

/-- The table with one more binary operator, or with a new precedence for it. -/
def declareBinary (table : OperatorTable) (name : String) (precedence : Float) : OperatorTable :=
  { table with binary := (name, precedence) :: table.binary }

/-- The table after a prototype has been accepted. -/
def declare (table : OperatorTable) (prototype : Prototype) : OperatorTable :=
  match prototype.kind with
  | .function => table
  | .unary => table.declareUnary prototype.name
  | .binary precedence => table.declareBinary prototype.name precedence

/-- A declared binary operator has the precedence of its latest declaration. -/
theorem lookup_declareBinary (table : OperatorTable) (name other : String) (precedence : Float) :
    (table.declareBinary name precedence).binary.lookup other =
      if other = name then some precedence else table.binary.lookup other := by
  simp only [declareBinary, List.lookup_cons]
  by_cases same : other = name
  · simp [same]
  · simp [same, beq_eq_false_iff_ne.2 same]

end OperatorTable

end Kaleidoscope
