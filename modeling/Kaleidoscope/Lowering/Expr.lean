import Kaleidoscope.Lowering.Basic

/-!
# Lowering of trees

Every operand is lowered before its operator, from left to right. Variables live in slots: those
of parameters, loops and local variables each get a slot of their own. A conditional becomes two
blocks that meet in a third, where a phi picks the value; a loop becomes one block that repeats.

A call goes to the routine of its name in the current unit if that has a body. Otherwise the
registry is asked, and a definition found there is lowered at this point, in the middle of the
routine being filled; how is a parameter of the rules (`revive`). Since a routine has a body as
soon as its filling starts, each definition is entered at most once, and the number of definitions
bounds how deeply they nest (`recallWithin`).
-/
namespace Kaleidoscope.Lower

open Code (Operand SlotRef BlockRef)

section Rules

variable (revive : Prototype → Expr → Lower Nat)

/-- The routine that a call goes to. -/
def resolve (name : String) (span : Span) : Lower Nat := do
  let state ← get
  let found := state.builder.lookup? name
  match found.filter state.builder.hasBody with
  | some id => return id
  | none =>
    match state.registry.lookup? name with
    | some (.function prototype body) =>
      let saved ← build .insertBlock
      inDefinition name span saved (revive prototype body)
    | some (.declaration prototype) =>
      match found with
      | some id => return id
      | none => declare prototype
    | none => throw (.unknownFunction name span)

/-- The routine that a call with some number of arguments goes to. -/
def callee (name : String) (count : Nat) (span : Span) : Lower Nat := do
  let id ← resolve revive name span
  let expected := (← get).builder.parameterCount id
  if expected ≠ count then throw (.argumentCount name expected count span)
  else return id

/-- Arithmetic and comparisons. -/
def operate (operator : BuiltinOperator) (left right : Operand) : Build Operand :=
  match operator with
  | .add => .arith .add left right
  | .subtract => .arith .subtract left right
  | .multiply => .arith .multiply left right
  | .lessThan => .compare .lessThan left right
  | .equal => .compare .equal left right

mutual

/-- Lower a tree in a scope. -/
def lower (scope : Scope SlotRef) : Expr → Lower Artifact
  | .number value _ => return .value (.number value)
  | .var name span => do
    let slot ← slotOf scope name span
    return .value (← build (.load slot))
  | .binary _ .assign (.var name place) right _ => do
    let value ← asValue right.span (← lower scope right)
    let slot ← slotOf scope name place
    build (.store slot value)
    return .value value
  | .binary _ .assign left _ _ => throw (.assignToNonVariable left.span)
  | .binary _ (.user name) left right span => do
    let id ← callee revive ("binary_" ++ name) 2 span
    let first ← asValue left.span (← lower scope left)
    let second ← asValue right.span (← lower scope right)
    return .value (← build (.call id [first, second]))
  | .binary _ (.builtin operator) left right _ => do
    let first ← asValue left.span (← lower scope left)
    let second ← asValue right.span (← lower scope right)
    return .value (← build (operate operator first second))
  | .unary operator operand span => do
    let id ← callee revive (Expr.unaryCallee operator) 1 span
    let value ← asValue operand.span (← lower scope operand)
    return .value (← build (.call id [value]))
  | .call name arguments span => do
    let id ← callee revive name arguments.length span
    let values ← lowerArguments scope arguments
    return .value (← build (.call id values))
  | .conditional condition consequent alternative _ => do
    let chosen ← asValue condition.span (← lower scope condition)
    let chosen ← build (.truthTest chosen)
    let id ← currentFunction
    let first ← build (.appendBlock id "then")
    let second ← build (.appendBlock id "else")
    let merge ← build (.appendBlock id "ifcont")
    build (.conditionalBranch chosen first second)
    build (.moveTo first)
    let firstValue ← asValue consequent.span (← lower scope consequent)
    build (.branch merge)
    let firstEnd := (← build .insertBlock).getD first
    build (.moveTo second)
    let secondValue ← asValue alternative.span (← lower scope alternative)
    build (.branch merge)
    let secondEnd := (← build .insertBlock).getD second
    build (.moveTo merge)
    return .value (← build (.phi [(firstValue, firstEnd), (secondValue, secondEnd)]))
  | .loop counter start limit step body _ => do
    let id ← currentFunction
    let first ← asValue start.span (← lower scope start)
    let slot ← build (.slot id counter)
    build (.store slot first)
    let inner := scope.bind counter slot
    let repeated ← build (.appendBlock id "loop")
    build (.branch repeated)
    build (.moveTo repeated)
    let _ ← asValue body.span (← lower inner body)
    let current ← build (.load slot)
    let increment ← lowerOptional inner 1 step
    let next ← build (.arith .add current increment)
    build (.store slot next)
    let condition ← asValue limit.span (← lower inner limit)
    let condition ← build (.truthTest condition)
    let after ← build (.appendBlock id "afterloop")
    build (.conditionalBranch condition repeated after)
    build (.moveTo after)
    return .value (.number 0)
  | .binding name initializer body _ => do
    let id ← currentFunction
    let initial ← lowerOptional scope 0 initializer
    let slot ← build (.slot id name)
    build (.store slot initial)
    let value ← asValue body.span (← lower (scope.bind name slot) body)
    return .value value
  | .prototype signature => return .routine (← declare signature)
  | .function signature body _ => do
    if !signature.isAnonymous then
      register signature.linkedName (.function signature body)
    return .routine (← define signature fun inner => do asValue body.span (← lower inner body))
  | .declaration signature _ => do
    register signature.linkedName (.declaration signature)
    return .routine (← declare signature)

/-- Lower the arguments of a call in order. -/
def lowerArguments (scope : Scope SlotRef) : List Expr → Lower (List Operand)
  | [] => return []
  | argument :: rest => do
    let value ← asValue argument.span (← lower scope argument)
    return value :: (← lowerArguments scope rest)

/-- Lower a tree that may be left out, which stands for a fixed number then. -/
def lowerOptional (scope : Scope SlotRef) (absent : Float) : Option Expr → Lower Operand
  | none => return .number absent
  | some expr => do asValue expr.span (← lower scope expr)

end

/-- A number is an operand already. -/
theorem lower_number (scope : Scope SlotRef) (value : Float) (span : Span) :
    lower revive scope (.number value span) = pure (.value (.number value)) := by
  simp only [lower]

end Rules

/-- Lower a definition of the registry in which at most `depth` others are nested. -/
def recallWithin : Nat → Prototype → Expr → Lower Nat
  | 0, prototype, _ => throw (.unknownFunction prototype.linkedName prototype.span)
  | depth + 1, prototype, body =>
    define prototype fun scope => do
      asValue body.span (← lower (recallWithin depth) scope body)

end Kaleidoscope.Lower
