import Kaleidoscope.Code.Builder
import Kaleidoscope.Lowering.Error
import Kaleidoscope.Lowering.Registry
import Kaleidoscope.Lowering.Scope

/-!
# The state of lowering

Lowering turns the forms of a batch into the code of one unit. Its state is the builder of the
unit, the registry, and the number of expressions to run met so far, which gives each of them a
name of its own. An action either yields a value or fails, and leaves the state where it has come
to; only the rules that undo a failure say otherwise.
-/
namespace Kaleidoscope

open Code (Operand SlotRef BlockRef)

/-- The state of lowering a batch. -/
structure Lowering where
  /-- The unit being built. -/
  builder : Builder
  /-- The definitions and declarations known. -/
  registry : Registry
  /-- How many expressions to run have been declared. -/
  anonymous : Nat

/-- An action of lowering. -/
abbrev Lower (α : Type) := EStateM LowerError Lowering α

/-- What a tree is lowered to. -/
inductive Artifact where
  /-- The number an expression yields. -/
  | value (operand : Operand)
  /-- The routine of a form. -/
  | routine (id : Nat)

namespace Lower

/-- An action of the builder, whose errors are errors of code. -/
def build {α : Type} (action : Build α) : Lower α := fun state =>
  match action state.builder with
  | .ok value builder => .ok value { state with builder := builder }
  | .error error builder => .error (.code error) { state with builder := builder }

/-- Change the registry. -/
def register (name : String) (entry : Entry) : Lower PUnit :=
  modify fun state => { state with registry := state.registry.insert name entry }

/-- The routine being filled. -/
def currentFunction : Lower Nat := do
  match ← build .currentFunction with
  | some id => return id
  | none => throw (.code .noInsertionPoint)

/-- The number that a tree yields; a form yields none. -/
def asValue (span : Span) : Artifact → Lower Operand
  | .value operand => return operand
  | .routine _ => throw (.expectedValue span)

/-- The slot of a visible variable. -/
def slotOf (scope : Scope SlotRef) (name : String) (span : Span) : Lower SlotRef :=
  match scope.lookup? name with
  | some slot => return slot
  | none => throw (.unboundVariable name span)

/-- The first parameter that has the name of an earlier one. -/
def duplicate? (earlier : List String) : List String → Option String
  | [] => none
  | name :: rest => if earlier.contains name then some name else duplicate? (name :: earlier) rest

/-- The routine of a prototype. A routine of its name is taken if it has as many parameters and no
body; expressions to run are numbered and always get a routine of their own. -/
def declare (prototype : Prototype) : Lower Nat := do
  match duplicate? [] prototype.parameters with
  | some name => throw (.duplicateParameter prototype.linkedName name prototype.span)
  | none =>
    if prototype.isAnonymous then
      let number := (← get).anonymous
      modify fun state => { state with anonymous := number + 1 }
      build (.declareFunction (anonymousName ++ "." ++ Nat.repr number) prototype.parameters)
    else
      let name := prototype.linkedName
      let builder := (← get).builder
      match builder.lookup? name with
      | none => build (.declareFunction name prototype.parameters)
      | some id =>
        let previous := builder.parameterCount id
        if previous ≠ prototype.parameters.length then
          throw (.redefinitionArity name previous prototype.parameters.length prototype.span)
        else if builder.hasBody id then throw (.redefinition name prototype.span)
        else return id

/-- Give every parameter a slot that starts with its argument. -/
def bindParameters (id : Nat) : Nat → List String → Scope SlotRef → Lower (Scope SlotRef)
  | _, [], scope => return scope
  | index, name :: rest, scope => do
    let slot ← build (.slot id name)
    let value ← build (.parameter id index)
    build (.store slot value)
    bindParameters id (index + 1) rest (scope.bind name slot)

/-- Fill a routine: its parameters, the body and the return of what the body yields. -/
def fill (id : Nat) (parameters : List String) (body : Scope SlotRef → Lower Operand) :
    Lower PUnit := do
  let entry ← build (.appendBlock id "entry")
  build (.moveTo entry)
  let scope ← bindParameters id 0 parameters .empty
  let value ← body scope
  build (.ret value)

/-- Do something, and strip a routine of its body if that fails. -/
def discardingOnError (id : Nat) (action : Lower PUnit) : Lower PUnit := fun state =>
  match action state with
  | .ok _ state => .ok ⟨⟩ state
  | .error error state => .error error { state with builder := state.builder.discardBody id }

/-- The routine of a definition, filled from its body. -/
def define (prototype : Prototype) (body : Scope SlotRef → Lower Operand) : Lower Nat := do
  let id ← declare prototype
  discardingOnError id (fill id prototype.parameters body)
  return id

/-- Do something, go on with the block filled before it in any case, and wrap an error that is not
one of code. -/
def inDefinition {α : Type} (name : String) (span : Span) (saved : Option BlockRef)
    (action : Lower α) : Lower α := fun state =>
  let back (state : Lowering) : Lowering :=
    match saved with
    | some block => { state with builder := state.builder.moveTo block }
    | none => state
  match action state with
  | .ok value state => .ok value (back state)
  | .error (.code error) state => .error (.code error) (back state)
  | .error error state => .error (.inDefinition name span error) (back state)

end Lower

end Kaleidoscope
