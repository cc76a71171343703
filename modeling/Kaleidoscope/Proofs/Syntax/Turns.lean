import Kaleidoscope.Syntax.Grammar

/-!
# One turn of each loop

Every loop of the grammar is bounded by the number of tokens left. Here is what one turn of each
does, over the action for the turns after it. A bounded loop is its turn over the loop with a bound
that is one less; without any bound it would be a solution of the equation that says the same of the
loop itself.
-/
namespace Kaleidoscope.Parse

variable (nested : Float → Bool → Parse Expr)

/-- An argument, and behind a comma the others. -/
def argumentsTurn (others : Parse (List Expr)) : Parse (List Expr) := do
  let argument ← nested 0 false
  if ← isAt .comma then
    let _ ← step
    return argument :: (← others)
  else return [argument]

/-- A local variable, perhaps with its first value, and behind a comma the others. -/
def bindingsTurn (others : Parse (List (String × Option Expr))) :
    Parse (List (String × Option Expr)) := do
  let (name, _) ← expectIdent
  let initializer ← if ← isAt .equal then do
      let _ ← step
      some <$> nested 0 false
    else pure none
  if ← isAt .comma then
    let _ ← step
    return (name, initializer) :: (← others)
  else return [(name, initializer)]

/-- A unary operator and the operand behind it, or an operand without one. -/
def operandTurn (inside : Parse Expr) : Parse Expr := do
  let parser ← get
  if parser.operators.isUnary parser.current then
    let operator ← step
    let inner ← inside
    return .unary operator inner (operator.span.join inner.span)
  else primary nested

/-- An operator and its right operand, if the expression takes them in, and what it takes in after
them. -/
def climbTurn (least : Float) (inclusive : Bool) (onward : Expr → Parse Expr) (left : Expr) :
    Parse Expr := do
  match (← get).precedence? with
  | some precedence =>
    if least < precedence || (inclusive && precedence == least) then
      onward (← infixed nested left (some precedence))
    else return left
  | none =>
    if ← isAt .operator then
      failHere (.undeclaredOperator (← current).lexeme)
    else return left

/-- A parameter and the others, or the closing parenthesis. -/
def parametersTurn (others : Parse (List String)) : Parse (List String) := do
  match (← current).kind with
  | .ident =>
    let (name, _) ← expectIdent
    if ← isAt .comma then
      let _ ← step
    return name :: (← others)
  | .rightParen => return []
  | _ => unexpected [.parameterName, .token .rightParen]

/-- Arguments with a bound. -/
theorem arguments_succ (bound : Nat) :
    arguments nested (bound + 1) = argumentsTurn nested (arguments nested bound) := rfl

/-- Local variables with a bound. -/
theorem bindings_succ (bound : Nat) :
    bindings nested (bound + 1) = bindingsTurn nested (bindings nested bound) := rfl

/-- Unary operators with a bound. -/
theorem operand_succ (bound : Nat) :
    operand nested (bound + 1) = operandTurn nested (operand nested bound) := rfl

/-- Binary operators with a bound. -/
theorem climb_succ (least : Float) (inclusive : Bool) (bound : Nat) :
    climb nested least inclusive (bound + 1) =
      climbTurn nested least inclusive (climb nested least inclusive bound) := rfl

/-- Parameters with a bound. -/
theorem parameters_succ (bound : Nat) :
    parameters (bound + 1) = parametersTurn (parameters bound) := rfl

end Kaleidoscope.Parse
