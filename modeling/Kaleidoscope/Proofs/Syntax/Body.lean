import Kaleidoscope.Syntax.Expr

/-!
# Bodies of definitions

The parser nests forms in no expression, so a body is built from the other trees alone
(`Expr.IsBody`); the forms around them have names that no expression to run is given
(`Expr.IsForm`). What a body needs in order to make sense is stated on its tree: the variables that
must be visible, with assignments to variables only (`Expr.Scoped`), and the names that it calls,
each with a number of arguments (`Expr.calls`). A visible variable is a parameter, the counter of a
loop within its step, limit and body, or a local variable within its body.
-/
namespace Kaleidoscope

/-- A name that is not one of those that expressions to run are given. -/
def IsOrdinary (name : String) : Prop :=
  ∀ number : Nat, name ≠ anonymousName ++ "." ++ Nat.repr number

/-- A name that does not start like those of expressions to run is ordinary. -/
theorem isOrdinary_of_head? {name : String} (other : name.toList.head? ≠ some '_') :
    IsOrdinary name := by
  rintro number rfl
  apply other
  rw [String.toList_append, String.toList_append]
  rfl

namespace Expr

mutual

/-- An expression in which no form is nested. -/
def IsBody : Expr → Prop
  | number _ _ | var _ _ => True
  | binary _ _ left right _ => left.IsBody ∧ right.IsBody
  | unary _ operand _ => operand.IsBody
  | call _ arguments _ => AreBodies arguments
  | conditional condition consequent alternative _ =>
    condition.IsBody ∧ consequent.IsBody ∧ alternative.IsBody
  | loop _ start limit step body _ =>
    start.IsBody ∧ limit.IsBody ∧ IsOptionalBody step ∧ body.IsBody
  | binding _ initializer body _ => IsOptionalBody initializer ∧ body.IsBody
  | prototype _ | function _ _ _ | declaration _ _ => False

/-- Expressions in which no form is nested. -/
def AreBodies : List Expr → Prop
  | [] => True
  | expr :: rest => expr.IsBody ∧ AreBodies rest

/-- An expression that may be left out, in which no form is nested. -/
def IsOptionalBody : Option Expr → Prop
  | none => True
  | some expr => expr.IsBody

end

mutual

/-- An expression whose variables are visible and whose assignments are to variables. -/
def Scoped (visible : List String) : Expr → Prop
  | number _ _ => True
  | var name _ => name ∈ visible
  | binary _ .assign (.var name _) right _ => right.Scoped visible ∧ name ∈ visible
  | binary _ .assign _ _ _ => False
  | binary _ (.user _) left right _ | binary _ (.builtin _) left right _ =>
    left.Scoped visible ∧ right.Scoped visible
  | unary _ operand _ => operand.Scoped visible
  | call _ arguments _ => AreScoped visible arguments
  | conditional condition consequent alternative _ =>
    condition.Scoped visible ∧ consequent.Scoped visible ∧ alternative.Scoped visible
  | loop counter start limit step body _ =>
    start.Scoped visible ∧ body.Scoped (counter :: visible) ∧
      IsOptionalScoped (counter :: visible) step ∧ limit.Scoped (counter :: visible)
  | binding name initializer body _ =>
    IsOptionalScoped visible initializer ∧ body.Scoped (name :: visible)
  | prototype _ | function _ _ _ | declaration _ _ => False

/-- Expressions whose variables are visible and whose assignments are to variables. -/
def AreScoped (visible : List String) : List Expr → Prop
  | [] => True
  | expr :: rest => expr.Scoped visible ∧ AreScoped visible rest

/-- An expression that may be left out, whose variables are visible and whose assignments are to
variables. -/
def IsOptionalScoped (visible : List String) : Option Expr → Prop
  | none => True
  | some expr => expr.Scoped visible

end

mutual

/-- The names that an expression calls, each with the number of arguments. -/
def calls : Expr → List (String × Nat)
  | number _ _ | var _ _ | prototype _ | function _ _ _ | declaration _ _ => []
  | binary _ .assign _ right _ => right.calls
  | binary _ (.user name) left right _ => ("binary_" ++ name, 2) :: (left.calls ++ right.calls)
  | binary _ (.builtin _) left right _ => left.calls ++ right.calls
  | unary operator operand _ => (unaryCallee operator, 1) :: operand.calls
  | call name arguments _ => (name, arguments.length) :: callsOfAll arguments
  | conditional condition consequent alternative _ =>
    condition.calls ++ (consequent.calls ++ alternative.calls)
  | loop _ start limit step body _ =>
    start.calls ++ (body.calls ++ (callsOfOptional step ++ limit.calls))
  | binding _ initializer body _ => callsOfOptional initializer ++ body.calls

/-- The names that some expressions call. -/
def callsOfAll : List Expr → List (String × Nat)
  | [] => []
  | expr :: rest => expr.calls ++ callsOfAll rest

/-- The names that an expression calls that may be left out. -/
def callsOfOptional : Option Expr → List (String × Nat)
  | none => []
  | some expr => expr.calls

end

/-- The names that an expression calls are ordinary. -/
def CallsOrdinary (expr : Expr) : Prop := ∀ call ∈ expr.calls, IsOrdinary call.1

/-- A form as the parser builds it. -/
inductive IsForm : Expr → Prop
  /-- An expression to run. -/
  | job {signature : Prototype} {body : Expr} (span : Span)
      (anonymous : signature.isAnonymous = true) (closed : signature.parameters = [])
      (isBody : body.IsBody) (calls : body.CallsOrdinary) : IsForm (.function signature body span)
  /-- A definition. -/
  | definition {signature : Prototype} {body : Expr} (span : Span)
      (named : signature.isAnonymous = false) (ordinary : IsOrdinary signature.linkedName)
      (isBody : body.IsBody) (calls : body.CallsOrdinary) : IsForm (.function signature body span)
  /-- A declaration. -/
  | declaration {signature : Prototype} (span : Span) (named : signature.isAnonymous = false)
      (ordinary : IsOrdinary signature.linkedName) : IsForm (.declaration signature span)

/-- The form that runs an expression is a form. -/
theorem isForm_anonymous {body : Expr} (isBody : body.IsBody) (calls : body.CallsOrdinary) :
    body.anonymous.IsForm :=
  .job body.span (decide_eq_true rfl) rfl isBody calls

end Expr

end Kaleidoscope
