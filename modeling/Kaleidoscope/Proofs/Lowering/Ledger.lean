import Kaleidoscope.Lowering.Form
import Kaleidoscope.Proofs.Syntax.Body
import Kaleidoscope.Proofs.Lowering.Actions

/-!
# What lowering decides

Whether a form can be lowered, and with which error it fails, does not depend on the code written
so far, only on the registry and on what the names of the unit mean: how many parameters the
routine of a name has, and which definition it was filled from. A ledger holds just that, and
`Check` follows the rules of lowering on ledgers alone. What checking does to a ledger comes next
(`Check.yields_expr`); that lowering and checking agree is proved where lowering is followed.
-/
namespace Kaleidoscope

/-- What a unit holds for a name that means a routine. -/
structure Status where
  /-- How many parameters the routine has. -/
  arity : Nat
  /-- The parameters and the body that it is filled from, if it has a body. -/
  source : Option (List String × Expr)

/-- What a unit holds for each name. -/
structure Ledger where
  /-- The names that mean a routine. -/
  known : String → Option Status
  /-- The names called by definitions that are complete. -/
  used : List String

namespace Ledger

/-- The ledger of a new unit. -/
def empty : Ledger := ⟨fun _ => none, []⟩

/-- How many parameters the routine of a name has. -/
def arity? (ledger : Ledger) (name : String) : Option Nat := (ledger.known name).map (·.arity)

/-- The definition that the routine of a name is filled from. -/
def source? (ledger : Ledger) (name : String) : Option (List String × Expr) :=
  (ledger.known name).bind (·.source)

/-- A name that means a routine has as many parameters as that. -/
theorem arity?_of_known {ledger : Ledger} {name : String} {status : Status}
    (known : ledger.known name = some status) : ledger.arity? name = some status.arity := by
  rw [arity?, known, Option.map_some]

/-- A name that means a routine has the definition of that. -/
theorem source?_of_known {ledger : Ledger} {name : String} {status : Status}
    (known : ledger.known name = some status) : ledger.source? name = status.source := by
  rw [source?, known, Option.bind_some]

/-- A name that means nothing has no definition. -/
theorem source?_of_unknown {ledger : Ledger} {name : String} (unknown : ledger.known name = none) :
    ledger.source? name = none := by
  rw [source?, unknown, Option.bind_none]

/-- Change what is held for a name. -/
def set (ledger : Ledger) (name : String) (status : Option Status) : Ledger :=
  { ledger with known := fun other => if other = name then status else ledger.known other }

/-- What is changed is held; what is held for other names stays. -/
theorem known_set (ledger : Ledger) (name other : String) (status : Option Status) :
    (ledger.set name status).known other = if other = name then status else ledger.known other :=
  rfl

/-- Note the names called by a definition that is complete. -/
def note (ledger : Ledger) (body : Expr) : Ledger :=
  { ledger with used := body.calls.map (·.1) ++ ledger.used }

end Ledger

/-- An action of checking. -/
abbrev Check (α : Type) := EStateM LowerError Ledger α

namespace Check

/-- A routine for a prototype. -/
def declare (prototype : Prototype) : Check PUnit := do
  match Lower.duplicate? [] prototype.parameters with
  | some name => throw (.duplicateParameter prototype.linkedName name prototype.span)
  | none =>
    let name := prototype.linkedName
    match (← get).known name with
    | none => modify (·.set name (some ⟨prototype.parameters.length, none⟩))
    | some status =>
      if status.arity ≠ prototype.parameters.length then
        throw (.redefinitionArity name status.arity prototype.parameters.length prototype.span)
      else if status.source.isSome then throw (.redefinition name prototype.span)
      else return

/-- Check the body of a definition, given what changes when its routine gets a body and what
changes back if that fails. -/
def fillWith (start discard : Ledger → Ledger) (body : Expr) (inner : Check PUnit) : Check PUnit :=
  fun ledger =>
    match inner (start ledger) with
    | .ok _ after => .ok ⟨⟩ (after.note body)
    | .error error after => .error error (discard after)

/-- Fill the routine of a name from a definition; it is without a body again if that fails. -/
def fill (prototype : Prototype) (body : Expr) (inner : Check PUnit) : Check PUnit :=
  let status (source : Option (List String × Expr)) (ledger : Ledger) : Ledger :=
    ledger.set prototype.linkedName (some ⟨prototype.parameters.length, source⟩)
  fillWith (status (some (prototype.parameters, body))) (status none) body inner

/-- The routine of a definition, filled from its body. -/
def define (prototype : Prototype) (body : Expr) (inner : List String → Check PUnit) :
    Check PUnit := do
  declare prototype
  fill prototype body (inner prototype.parameters.reverse)

/-- The error of a definition of an earlier batch. -/
def wrap (name : String) (span : Span) : LowerError → LowerError
  | .code error => .code error
  | error => .inDefinition name span error

/-- Do something for a definition of an earlier batch. -/
def inDefinition (name : String) (span : Span) (action : Check PUnit) : Check PUnit := fun ledger =>
  match action ledger with
  | .ok _ after => .ok ⟨⟩ after
  | .error error after => .error (wrap name span error) after

/-- A visible variable. -/
def visible (names : List String) (name : String) (span : Span) : Check PUnit :=
  if name ∈ names then return else throw (.unboundVariable name span)

section Rules

variable (registry : Registry) (revive : Prototype → Expr → Check PUnit)

/-- The routine that a call goes to. -/
def resolve (name : String) (span : Span) : Check PUnit := do
  let found := (← get).known name
  match found.filter (·.source.isSome) with
  | some _ => return
  | none =>
    match registry.lookup? name with
    | some (.function prototype body) => inDefinition name span (revive prototype body)
    | some (.declaration prototype) =>
      match found with
      | some _ => return
      | none => declare prototype
    | none => throw (.unknownFunction name span)

/-- The routine that a call with some number of arguments goes to. -/
def callee (name : String) (count : Nat) (span : Span) : Check PUnit := do
  resolve registry revive name span
  let expected := ((← get).arity? name).getD 0
  if expected ≠ count then throw (.argumentCount name expected count span) else return

mutual

/-- Check a tree in which some variables are visible. -/
def expr (names : List String) : Expr → Check PUnit
  | .number _ _ => return
  | .var name span => visible names name span
  | .binary _ .assign (.var name place) right _ => do
    expr names right
    visible names name place
  | .binary _ .assign left _ _ => throw (.assignToNonVariable left.span)
  | .binary _ (.user name) left right span => do
    callee registry revive ("binary_" ++ name) 2 span
    expr names left
    expr names right
  | .binary _ (.builtin _) left right _ => do
    expr names left
    expr names right
  | .unary operator operand span => do
    callee registry revive (Expr.unaryCallee operator) 1 span
    expr names operand
  | .call name arguments span => do
    callee registry revive name arguments.length span
    exprs names arguments
  | .conditional condition consequent alternative _ => do
    expr names condition
    expr names consequent
    expr names alternative
  | .loop counter start limit step body _ => do
    expr names start
    expr (counter :: names) body
    optional (counter :: names) step
    expr (counter :: names) limit
  | .binding name initializer body _ => do
    optional names initializer
    expr (name :: names) body
  | .prototype _ | .function _ _ _ | .declaration _ _ => return

/-- Check the arguments of a call in order. -/
def exprs (names : List String) : List Expr → Check PUnit
  | [] => return
  | argument :: rest => do
    expr names argument
    exprs names rest

/-- Check a tree that may be left out. -/
def optional (names : List String) : Option Expr → Check PUnit
  | none => return
  | some tree => expr names tree

end

/-- A number is always in order. -/
theorem expr_number (names : List String) (value : Float) (span : Span) :
    expr registry revive names (.number value span) = pure ⟨⟩ := by
  simp only [expr]

end Rules

/-- Check a definition of the registry in which at most `depth` others are nested. -/
def recallWithin (registry : Registry) : Nat → Prototype → Expr → Check PUnit
  | 0, prototype, _ => throw (.unknownFunction prototype.linkedName prototype.span)
  | depth + 1, prototype, body =>
    define prototype body fun names => expr registry (recallWithin registry depth) names body

end Check

end Kaleidoscope
