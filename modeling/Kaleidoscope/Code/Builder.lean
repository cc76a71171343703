import Kaleidoscope.Code.Error
import Kaleidoscope.Code.Unit

/-!
# Building code

A builder holds at most one open unit and the block that instructions are added to. Its actions
either yield a value or fail, and leave the builder where it has come to.

A builder can be given a plan of faults: for chosen calls of chosen operations, counted from one,
the operation has no effect and fails with a given error, or, where it can only answer that there
is nothing, answers so. Without a plan no operation fails for that reason. The plan makes it
possible to say what holds whatever building may fail at.
-/
namespace Kaleidoscope

/-- The operations that can be made to fail. -/
inductive Operation where
  /-- Open a unit. -/
  | beginUnit
  /-- Declare a routine. -/
  | declareFunction
  /-- Add a block. -/
  | appendBlock
  /-- Use a parameter. -/
  | parameter
  /-- Add arithmetic. -/
  | arith
  /-- Add a comparison. -/
  | compare
  /-- Add a test. -/
  | truthTest
  /-- Add a slot. -/
  | slot
  /-- Add a load. -/
  | load
  /-- Add a store. -/
  | store
  /-- End a block with a branch. -/
  | branch
  /-- End a block with a choice. -/
  | conditionalBranch
  /-- Add a phi. -/
  | phi
  /-- Add a call. -/
  | call
  /-- End a block with a return. -/
  | ret
  /-- Complete a unit. -/
  | finishUnit
  /-- Run a routine. -/
  | execute
  /-- Ask which routine is being filled. -/
  | currentFunction
  /-- Ask which block is being filled. -/
  | insertBlock
deriving DecidableEq

/-- A fault that strikes at a coming call of an operation. -/
structure Fault where
  /-- The operation that fails. -/
  operation : Operation
  /-- At which of its coming calls, counted from one; none if zero. -/
  call : Nat
  /-- The error it fails with. -/
  error : CodeError
deriving DecidableEq

/-- Faults to come; of several at one call the first counts. -/
abbrev FaultPlan := List Fault

namespace FaultPlan

/-- The error that strikes at this call of an operation, if any. -/
def strike? (plan : FaultPlan) (operation : Operation) : Option CodeError :=
  (plan.find? fun fault => fault.operation = operation ∧ fault.call = 1).map (·.error)

/-- The faults that remain after this call of an operation. -/
def after (plan : FaultPlan) (operation : Operation) : FaultPlan :=
  plan.filterMap fun fault =>
    if fault.operation ≠ operation then some fault
    else if fault.call ≤ 1 then none
    else some { fault with call := fault.call - 1 }

end FaultPlan

/-- The open unit and the place where instructions are added. -/
structure Builder where
  /-- The open unit. -/
  unit : Option CodeUnit
  /-- The block being filled. -/
  cursor : Option Code.BlockRef
  /-- The faults to come. -/
  faults : FaultPlan

/-- An action of the builder. -/
abbrev Build (α : Type) := EStateM CodeError Builder α

namespace Builder

open Code (Operand Instruction Terminator Routine Block BlockRef SlotRef Arithmetic Comparison)

/-- A builder without an open unit. -/
def idle (faults : FaultPlan) : Builder := ⟨none, none, faults⟩

/-- The routine that a name means in the open unit. -/
def lookup? (builder : Builder) (name : String) : Option Nat :=
  builder.unit.bind (·.lookup? name)

/-- A routine of the open unit. -/
def routine? (builder : Builder) (id : Nat) : Option Routine :=
  builder.unit.bind (·.routines[id]?)

/-- Whether a routine has a body; one that does not exist has none. -/
def hasBody (builder : Builder) (id : Nat) : Bool := (builder.routine? id).any Routine.hasBody

/-- How many parameters a routine has; one that does not exist has none. -/
def parameterCount (builder : Builder) (id : Nat) : Nat :=
  match builder.routine? id with
  | some routine => routine.parameters.length
  | none => 0

/-- Close the unit, if one is open. -/
def dispose (builder : Builder) : Builder := { builder with unit := none, cursor := none }

/-- Strip a routine of its body. If the block being filled belongs to it, none is from here on. -/
def discardBody (builder : Builder) (id : Nat) : Builder :=
  { builder with
    unit := builder.unit.map (·.update id Routine.withoutBody)
    cursor := builder.cursor.filter (·.routine ≠ id) }

/-- Whether a routine of the open unit can be forgotten. -/
def isForgettable (builder : Builder) (id : Nat) : Bool := builder.unit.any (·.isForgettable id)

/-- Forget a routine, if that is possible. -/
def forget (builder : Builder) (id : Nat) : Builder :=
  { builder with unit := builder.unit.map (·.forget id) }

/-- Fill a block from here on. -/
def moveTo (builder : Builder) (block : BlockRef) : Builder := { builder with cursor := some block }

/-- Change a routine of the open unit. -/
def changeRoutine (builder : Builder) (id : Nat) (change : Routine → Routine) : Builder :=
  { builder with unit := builder.unit.map (·.update id change) }

end Builder

namespace Build

open Code (Operand Instruction Terminator Routine Block BlockRef SlotRef Arithmetic Comparison)

/-- Count a call of an operation, and fail if the plan says so. -/
def attempt (operation : Operation) : Build PUnit := fun builder =>
  let next := { builder with faults := builder.faults.after operation }
  match builder.faults.strike? operation with
  | some error => .error error next
  | none => .ok ⟨⟩ next

/-- Count a call of an operation that only asks, which a fault makes answer that there is
nothing. -/
def ask {α : Type} (operation : Operation) (answer : Builder → Option α) : Build (Option α) :=
  fun builder =>
    let next := { builder with faults := builder.faults.after operation }
    match builder.faults.strike? operation with
    | some _ => .ok none next
    | none => .ok (answer builder) next

/-- A routine of the open unit. -/
def routine (id : Nat) : Build Routine := do
  match (← get).unit with
  | none => throw .noUnit
  | some unit =>
    match unit.routines[id]? with
    | some routine => return routine
    | none => throw (.invalidHandle .routine)

/-- The block being filled, which exists, and its routine. -/
def target : Build (BlockRef × Routine) := do
  match (← get).cursor with
  | none => throw .noInsertionPoint
  | some cursor =>
    let found ← routine cursor.routine
    if cursor.index < found.blocks.size then return (cursor, found)
    else throw (.invalidHandle .block)

/-- Change a routine. -/
def changeRoutine (id : Nat) (change : Routine → Routine) : Build PUnit :=
  modify (·.changeRoutine id change)

/-- Change a block of a routine. -/
def changeBlock (block : BlockRef) (change : Block → Block) : Build PUnit :=
  changeRoutine block.routine fun routine =>
    { routine with blocks := routine.blocks.modify block.index change }

/-- Add an instruction that yields nothing. -/
def emitEffect (instruction : Instruction) : Build PUnit := do
  let (block, _) ← target
  changeBlock block fun content =>
    { content with instructions := content.instructions.push instruction }

/-- Add an instruction that writes to a new register, and yield this register. -/
def emit (make : Nat → Instruction) : Build Operand := do
  let (block, found) ← target
  changeRoutine block.routine fun routine => { routine with registers := routine.registers + 1 }
  changeBlock block fun content =>
    { content with instructions := content.instructions.push (make found.registers) }
  return .register found.registers

/-- End the block being filled; a later end replaces an earlier one. -/
def terminate (terminator : Terminator) : Build PUnit := do
  let (block, _) ← target
  changeBlock block fun content => { content with terminator := some terminator }

/-- Open a unit; one that is open is lost. -/
def beginUnit (name : String) : Build PUnit := do
  attempt .beginUnit
  modify fun builder => { builder with unit := some (.new name), cursor := none }

/-- Declare a routine. -/
def declareFunction (name : String) (parameters : List String) : Build Nat := do
  attempt .declareFunction
  match (← get).unit with
  | none => throw .noUnit
  | some unit =>
    let (id, unit) := unit.declare name parameters
    modify fun builder => { builder with unit := some unit }
    return id

/-- An argument of a routine as an operand. -/
def parameter (id index : Nat) : Build Operand := do
  attempt .parameter
  let found ← routine id
  if index < found.parameters.length then return .parameter index
  else throw (.missingParameter found.name index)

/-- Add an empty block to a routine. -/
def appendBlock (id : Nat) (name : String) : Build BlockRef := do
  attempt .appendBlock
  let found ← routine id
  changeRoutine id fun routine => { routine with blocks := routine.blocks.push ⟨name, #[], none⟩ }
  return ⟨id, found.blocks.size⟩

/-- The block being filled. -/
def insertBlock : Build (Option BlockRef) := ask .insertBlock (·.cursor)

/-- The routine being filled. -/
def currentFunction : Build (Option Nat) :=
  ask .currentFunction fun builder => builder.cursor.map (·.routine)

/-- Fill a block from here on. -/
def moveTo (block : BlockRef) : Build PUnit := modify (·.moveTo block)

/-- Add arithmetic. -/
def arith (operation : Arithmetic) (left right : Operand) : Build Operand := do
  attempt .arith
  emit fun register => .arith register operation left right

/-- Add a comparison. -/
def compare (comparison : Comparison) (left right : Operand) : Build Operand := do
  attempt .compare
  emit fun register => .compare register comparison left right

/-- Add a test of whether a number counts as true. -/
def truthTest (value : Operand) : Build Operand := do
  attempt .truthTest
  emit fun register => .truth register value

/-- Add a slot to a routine. -/
def slot (id : Nat) (name : String) : Build SlotRef := do
  attempt .slot
  let found ← routine id
  changeRoutine id fun routine => { routine with slots := routine.slots.push name }
  return ⟨id, found.slots.size⟩

/-- Add a load from a slot. -/
def load (slot : SlotRef) : Build Operand := do
  attempt .load
  emit fun register => .load register slot.index

/-- Add a store to a slot. -/
def store (slot : SlotRef) (value : Operand) : Build PUnit := do
  attempt .store
  emitEffect (.store slot.index value)

/-- End the block with a branch. -/
def branch (block : BlockRef) : Build PUnit := do
  attempt .branch
  terminate (.branch block.index)

/-- End the block with a choice between two blocks. -/
def conditionalBranch (condition : Operand) (consequent alternative : BlockRef) : Build PUnit := do
  attempt .conditionalBranch
  terminate (.choose condition consequent.index alternative.index)

/-- Add a choice by the block that led here. -/
def phi (incoming : List (Operand × BlockRef)) : Build Operand := do
  attempt .phi
  emit fun register => .phi register (incoming.map fun (value, block) => (value, block.index))

/-- Add a call. -/
def call (callee : Nat) (arguments : List Operand) : Build Operand := do
  attempt .call
  emit fun register => .call register callee arguments

/-- End the block with a return. -/
def ret (value : Operand) : Build PUnit := do
  attempt .ret
  terminate (.ret value)

/-- Complete the unit: every block of it must have an end. -/
def finishUnit : Build PUnit := do
  attempt .finishUnit
  match (← get).unit with
  | none => throw .noUnit
  | some unit =>
    match unit.routines.toList.findSome? fun routine =>
      routine.unterminated?.map fun block => (routine.name, block.name) with
    | some (routine, block) => throw (.unterminatedBlock routine block)
    | none => return

end Build

end Kaleidoscope
