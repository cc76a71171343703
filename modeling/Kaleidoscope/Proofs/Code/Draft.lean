import Kaleidoscope.Code.Unit
import Kaleidoscope.Lowering.Scope
import Kaleidoscope.Syntax.Expr

/-!
# Drafts of routines

The code of one definition depends on the definition and on which routines its calls go to, and on
nothing else. A draft is a routine together with the block being filled; `Draft.lower` writes the
code of an expression into it as a pure function, and `Draft.compile` that of a whole definition.
Lowering with its builder, its registry and its detours into other definitions produces exactly
this code, which is proved where lowering is.

What a routine holds is read by place: the instruction at a position of a block, the end of a
block, and how many instructions a block has. Every operation on a draft changes these readings at
one place only.
-/
namespace Kaleidoscope.Code

namespace Routine

/-- The instruction at a position of a block. -/
def instruction? (routine : Routine) (block position : Nat) : Option Instruction :=
  routine.blocks[block]?.bind (·.instructions[position]?)

/-- The end of a block, once that is known. -/
def terminator? (routine : Routine) (block : Nat) : Option Terminator :=
  routine.blocks[block]?.bind (·.terminator)

/-- How many instructions a block has. -/
def extent (routine : Routine) (block : Nat) : Nat :=
  (routine.blocks[block]?.map (·.instructions.size)).getD 0

/-- Positions with an instruction lie below the extent of their block. -/
theorem instruction?_isSome_iff (routine : Routine) (block position : Nat) :
    (routine.instruction? block position).isSome ↔ position < routine.extent block := by
  unfold instruction? extent
  cases found : routine.blocks[block]? with
  | none => simp
  | some content => simp

/-- No instruction stands beyond the extent of a block. -/
theorem instruction?_eq_none_of_le {routine : Routine} {block position : Nat}
    (beyond : routine.extent block ≤ position) : routine.instruction? block position = none := by
  rw [← Option.not_isSome_iff_eq_none, instruction?_isSome_iff]
  omega

/-- An instruction stands below the extent of its block. -/
theorem lt_extent_of_instruction? {routine : Routine} {block position : Nat}
    {instruction : Instruction} (found : routine.instruction? block position = some instruction) :
    position < routine.extent block := by
  rw [← instruction?_isSome_iff, found]
  rfl

/-- An instruction stands in a block that exists. -/
theorem lt_size_of_instruction? {routine : Routine} {block position : Nat}
    {instruction : Instruction} (found : routine.instruction? block position = some instruction) :
    block < routine.blocks.size := by
  by_cases inside : block < routine.blocks.size
  · exact inside
  · simp [instruction?, Array.getElem?_eq_none (Nat.le_of_not_lt inside)] at found

/-- Only a block that exists has an end. -/
theorem lt_size_of_terminator? {routine : Routine} {block : Nat} {terminator : Terminator}
    (found : routine.terminator? block = some terminator) : block < routine.blocks.size := by
  by_cases inside : block < routine.blocks.size
  · exact inside
  · simp [terminator?, Array.getElem?_eq_none (Nat.le_of_not_lt inside)] at found

end Routine

/-- A routine being filled and the block that instructions are added to. -/
structure Draft where
  /-- The routine. -/
  routine : Routine
  /-- The block. -/
  block : Nat

namespace Draft

/-- Change the block being filled. -/
def change (draft : Draft) (change : Block → Block) : Draft :=
  { draft with routine :=
      { draft.routine with blocks := draft.routine.blocks.modify draft.block change } }

/-- Add an instruction. -/
def push (draft : Draft) (instruction : Instruction) : Draft :=
  draft.change fun content =>
    { content with instructions := content.instructions.push instruction }

/-- End the block. -/
def finish (draft : Draft) (terminator : Terminator) : Draft :=
  draft.change fun content => { content with terminator := some terminator }

/-- Reserve a register. -/
def count (draft : Draft) : Draft :=
  { draft with routine := { draft.routine with registers := draft.routine.registers + 1 } }

/-- Add an instruction that writes to a new register, and yield this register. -/
def emit (draft : Draft) (make : Nat → Instruction) : Operand × Draft :=
  (.register draft.routine.registers, draft.count.push (make draft.routine.registers))

/-- Add an empty block. -/
def append (draft : Draft) (name : String) : Draft :=
  { draft with routine :=
      { draft.routine with blocks := draft.routine.blocks.push ⟨name, #[], none⟩ } }

/-- Add a slot. -/
def reserve (draft : Draft) (name : String) : Draft :=
  { draft with routine := { draft.routine with slots := draft.routine.slots.push name } }

/-- Fill another block from here on. -/
def moveTo (draft : Draft) (block : Nat) : Draft := { draft with block := block }

/-- How many blocks there are, which is the position of the next one. -/
abbrev size (draft : Draft) : Nat := draft.routine.blocks.size

/-- How many slots there are, which is the position of the next one. -/
abbrev slotCount (draft : Draft) : Nat := draft.routine.slots.size

/-- Add the three blocks of a conditional and choose between the first two of them; the first is
filled next. -/
def fork (draft : Draft) (condition : Operand) : Draft :=
  ((((draft.append "then").append "else").append "ifcont").finish
    (.choose condition draft.size (draft.size + 1))).moveTo draft.size

/-- Go on to a block, and fill another one next. -/
def leaveTo (draft : Draft) (target next : Nat) : Draft :=
  (draft.finish (.branch target)).moveTo next

/-- Add the block of a loop and enter it. -/
def enterLoop (draft : Draft) : Draft := (draft.append "loop").leaveTo draft.size draft.size

/-- Repeat a loop under a condition, and fill the block after it next. -/
def leaveLoop (draft : Draft) (condition : Operand) (head : Nat) : Draft :=
  ((draft.append "afterloop").finish (.choose condition head draft.size)).moveTo draft.size

/-- Add arithmetic or a comparison. -/
def operate (draft : Draft) (operator : BuiltinOperator) (left right : Operand) : Operand × Draft :=
  draft.emit fun target =>
    match operator with
    | .add => .arith target .add left right
    | .subtract => .arith target .subtract left right
    | .multiply => .arith target .multiply left right
    | .lessThan => .compare target .lessThan left right
    | .equal => .compare target .equal left right

/-- The slot of a variable; one that is not visible has none, and stands for the first. -/
def slotOf (scope : Scope Nat) (name : String) : Nat := (scope.lookup? name).getD 0

section Lowering

variable (callee : String → Nat)

mutual

/-- Write the code of an expression, given which routine each called name means. Trees that yield
no number, and assignments to something other than a variable, have no code. -/
def lower (scope : Scope Nat) : Expr → Draft → Operand × Draft
  | .number value _, draft => (.number value, draft)
  | .var name _, draft => draft.emit (.load · (slotOf scope name))
  | .binary _ .assign (.var name _) right _, draft =>
    let value := lower scope right draft
    (value.1, value.2.push (.store (slotOf scope name) value.1))
  | .binary _ .assign _ _ _, draft => (.number 0, draft)
  | .binary _ (.user name) left right _, draft =>
    let first := lower scope left draft
    let second := lower scope right first.2
    second.2.emit (.call · (callee ("binary_" ++ name)) [first.1, second.1])
  | .binary _ (.builtin operator) left right _, draft =>
    let first := lower scope left draft
    let second := lower scope right first.2
    second.2.operate operator first.1 second.1
  | .unary operator operand _, draft =>
    let value := lower scope operand draft
    value.2.emit (.call · (callee (Expr.unaryCallee operator)) [value.1])
  | .call name arguments _, draft =>
    let values := lowerArguments scope arguments draft
    values.2.emit (.call · (callee name) values.1)
  | .conditional condition consequent alternative _, draft =>
    let chosen := lower scope condition draft
    let tested := chosen.2.emit (.truth · chosen.1)
    let merge := tested.2.size + 2
    let first := lower scope consequent (tested.2.fork tested.1)
    let second := lower scope alternative (first.2.leaveTo merge (tested.2.size + 1))
    (second.2.leaveTo merge merge).emit
      (.phi · [(first.1, first.2.block), (second.1, second.2.block)])
  | .loop counter start limit step body _, draft =>
    let first := lower scope start draft
    let slot := first.2.slotCount
    let stored := (first.2.reserve counter).push (.store slot first.1)
    let inner := scope.bind counter slot
    let repeated := lower inner body stored.enterLoop
    let current := repeated.2.emit (.load · slot)
    let increment := lowerOptional inner 1 step current.2
    let next := increment.2.emit (.arith · .add current.1 increment.1)
    let condition := lower inner limit (next.2.push (.store slot next.1))
    let tested := condition.2.emit (.truth · condition.1)
    (.number 0, tested.2.leaveLoop tested.1 stored.size)
  | .binding name initializer body _, draft =>
    let initial := lowerOptional scope 0 initializer draft
    let slot := initial.2.slotCount
    lower (scope.bind name slot) body
      ((initial.2.reserve name).push (.store slot initial.1))
  | .prototype _, draft | .function _ _ _, draft | .declaration _ _, draft => (.number 0, draft)

/-- Write the code of the arguments of a call in order. -/
def lowerArguments (scope : Scope Nat) : List Expr → Draft → List Operand × Draft
  | [], draft => ([], draft)
  | argument :: rest, draft =>
    let value := lower scope argument draft
    let values := lowerArguments scope rest value.2
    (value.1 :: values.1, values.2)

/-- Write the code of an expression that may be left out, which stands for a fixed number then. -/
def lowerOptional (scope : Scope Nat) (absent : Float) : Option Expr → Draft → Operand × Draft
  | none, draft => (.number absent, draft)
  | some expr, draft => lower scope expr draft

end

end Lowering

/-- Give every parameter a slot that starts with its argument. -/
def bindParameters : Nat → List String → Scope Nat → Draft → Scope Nat × Draft
  | _, [], scope, draft => (scope, draft)
  | index, name :: rest, scope, draft =>
    bindParameters (index + 1) rest (scope.bind name draft.slotCount)
      ((draft.reserve name).push (.store draft.slotCount (.parameter index)))

/-- A routine that has just been given its first block. -/
def opened (routine : Routine) : Draft := (Draft.mk routine 0).append "entry"

/-- Fill a routine that has no body with the code of a definition. -/
def compile (callee : String → Nat) (parameters : List String) (body : Expr) (routine : Routine) :
    Routine :=
  let bound := bindParameters 0 parameters .empty (opened routine)
  let result := lower callee bound.1 body bound.2
  (result.2.finish (.ret result.1)).routine

/-! ## What the operations change -/

section Readings

variable (draft : Draft)

@[simp] theorem block_push (instruction : Instruction) :
    (draft.push instruction).block = draft.block := rfl

@[simp] theorem block_finish (terminator : Terminator) :
    (draft.finish terminator).block = draft.block := rfl

@[simp] theorem block_count : draft.count.block = draft.block := rfl

@[simp] theorem block_append (name : String) : (draft.append name).block = draft.block := rfl

@[simp] theorem block_reserve (name : String) : (draft.reserve name).block = draft.block := rfl

@[simp] theorem block_moveTo (block : Nat) : (draft.moveTo block).block = block := rfl

@[simp] theorem size_push (instruction : Instruction) :
    (draft.push instruction).size = draft.size := Array.size_modify

@[simp] theorem size_finish (terminator : Terminator) :
    (draft.finish terminator).size = draft.size := Array.size_modify

@[simp] theorem size_count : draft.count.size = draft.size := rfl

@[simp] theorem size_append (name : String) : (draft.append name).size = draft.size + 1 :=
  Array.size_push _

@[simp] theorem size_reserve (name : String) : (draft.reserve name).size = draft.size := rfl

@[simp] theorem size_moveTo (block : Nat) : (draft.moveTo block).size = draft.size := rfl

@[simp] theorem routine_moveTo (block : Nat) : (draft.moveTo block).routine = draft.routine := rfl

@[simp] theorem registers_push (instruction : Instruction) :
    (draft.push instruction).routine.registers = draft.routine.registers := rfl

@[simp] theorem registers_finish (terminator : Terminator) :
    (draft.finish terminator).routine.registers = draft.routine.registers := rfl

@[simp] theorem registers_count :
    draft.count.routine.registers = draft.routine.registers + 1 := rfl

@[simp] theorem registers_append (name : String) :
    (draft.append name).routine.registers = draft.routine.registers := rfl

@[simp] theorem registers_reserve (name : String) :
    (draft.reserve name).routine.registers = draft.routine.registers := rfl

@[simp] theorem slots_push (instruction : Instruction) :
    (draft.push instruction).routine.slots = draft.routine.slots := rfl

@[simp] theorem slots_finish (terminator : Terminator) :
    (draft.finish terminator).routine.slots = draft.routine.slots := rfl

@[simp] theorem slots_count : draft.count.routine.slots = draft.routine.slots := rfl

@[simp] theorem slots_append (name : String) :
    (draft.append name).routine.slots = draft.routine.slots := rfl

@[simp] theorem slots_reserve (name : String) :
    (draft.reserve name).routine.slots = draft.routine.slots.push name := rfl

/-- An instruction is added at the end of the block being filled. -/
theorem instruction?_push (inside : draft.block < draft.size) (instruction : Instruction)
    (block position : Nat) :
    (draft.push instruction).routine.instruction? block position =
      if block = draft.block ∧ position = draft.routine.extent draft.block then some instruction
      else draft.routine.instruction? block position := by
  have found : draft.routine.blocks[draft.block]? = some draft.routine.blocks[draft.block] :=
    Array.getElem?_eq_getElem inside
  simp only [push, change, Routine.instruction?, Routine.extent, Array.getElem?_modify]
  by_cases same : draft.block = block
  · subst same
    simp only [found, if_true, Option.map_some, Option.bind_some, true_and, Option.getD_some,
      Array.getElem?_push]
  · simp [same, Ne.symm same]

/-- Adding an instruction ends no block. -/
@[simp] theorem terminator?_push (instruction : Instruction) (block : Nat) :
    (draft.push instruction).routine.terminator? block = draft.routine.terminator? block := by
  simp only [push, change, Routine.terminator?, Array.getElem?_modify]
  split
  · cases draft.routine.blocks[block]? <;> rfl
  · rfl

/-- Adding an instruction makes the block being filled longer by one. -/
theorem extent_push (inside : draft.block < draft.size) (instruction : Instruction) (block : Nat) :
    (draft.push instruction).routine.extent block =
      if block = draft.block then draft.routine.extent block + 1
      else draft.routine.extent block := by
  have found : draft.routine.blocks[draft.block]? = some draft.routine.blocks[draft.block] :=
    Array.getElem?_eq_getElem inside
  simp only [push, change, Routine.extent, Array.getElem?_modify]
  by_cases same : draft.block = block
  · subst same
    simp [found]
  · simp [same, Ne.symm same]

/-- Ending a block changes no instruction. -/
@[simp] theorem instruction?_finish (terminator : Terminator) (block position : Nat) :
    (draft.finish terminator).routine.instruction? block position =
      draft.routine.instruction? block position := by
  simp only [finish, change, Routine.instruction?, Array.getElem?_modify]
  split
  · cases draft.routine.blocks[block]? <;> rfl
  · rfl

/-- Only the block being filled gets an end. -/
theorem terminator?_finish (inside : draft.block < draft.size) (terminator : Terminator)
    (block : Nat) :
    (draft.finish terminator).routine.terminator? block =
      if block = draft.block then some terminator else draft.routine.terminator? block := by
  have found : draft.routine.blocks[draft.block]? = some draft.routine.blocks[draft.block] :=
    Array.getElem?_eq_getElem inside
  simp only [finish, change, Routine.terminator?, Array.getElem?_modify]
  by_cases same : draft.block = block
  · subst same
    simp [found]
  · simp [same, Ne.symm same]

/-- Ending a block does not make it longer. -/
@[simp] theorem extent_finish (terminator : Terminator) (block : Nat) :
    (draft.finish terminator).routine.extent block = draft.routine.extent block := by
  simp only [finish, change, Routine.extent, Array.getElem?_modify]
  split
  · cases draft.routine.blocks[block]? <;> rfl
  · rfl

@[simp] theorem instruction?_count (block position : Nat) :
    draft.count.routine.instruction? block position =
      draft.routine.instruction? block position := rfl

@[simp] theorem terminator?_count (block : Nat) :
    draft.count.routine.terminator? block = draft.routine.terminator? block := rfl

@[simp] theorem extent_count (block : Nat) :
    draft.count.routine.extent block = draft.routine.extent block := rfl

@[simp] theorem instruction?_reserve (name : String) (block position : Nat) :
    (draft.reserve name).routine.instruction? block position =
      draft.routine.instruction? block position := rfl

@[simp] theorem terminator?_reserve (name : String) (block : Nat) :
    (draft.reserve name).routine.terminator? block = draft.routine.terminator? block := rfl

@[simp] theorem extent_reserve (name : String) (block : Nat) :
    (draft.reserve name).routine.extent block = draft.routine.extent block := rfl

/-- A new block is empty. -/
@[simp] theorem instruction?_append (name : String) (block position : Nat) :
    (draft.append name).routine.instruction? block position =
      draft.routine.instruction? block position := by
  simp only [append, Routine.instruction?, Array.getElem?_push]
  split
  · next last => simp [last]
  · rfl

/-- A new block has no end. -/
@[simp] theorem terminator?_append (name : String) (block : Nat) :
    (draft.append name).routine.terminator? block = draft.routine.terminator? block := by
  simp only [append, Routine.terminator?, Array.getElem?_push]
  split
  · next last => simp [last]
  · rfl

@[simp] theorem extent_append (name : String) (block : Nat) :
    (draft.append name).routine.extent block = draft.routine.extent block := by
  simp only [append, Routine.extent, Array.getElem?_push]
  split
  · next last => simp [last]
  · rfl

@[simp] theorem block_fork (condition : Operand) : (draft.fork condition).block = draft.size := rfl

@[simp] theorem size_fork (condition : Operand) : (draft.fork condition).size = draft.size + 3 := by
  simp [fork]

@[simp] theorem registers_fork (condition : Operand) :
    (draft.fork condition).routine.registers = draft.routine.registers := rfl

@[simp] theorem slots_fork (condition : Operand) :
    (draft.fork condition).routine.slots = draft.routine.slots := rfl

@[simp] theorem instruction?_fork (condition : Operand) (block position : Nat) :
    (draft.fork condition).routine.instruction? block position =
      draft.routine.instruction? block position := by
  simp [fork]

@[simp] theorem extent_fork (condition : Operand) (block : Nat) :
    (draft.fork condition).routine.extent block = draft.routine.extent block := by
  simp [fork]

/-- A fork ends the block that was being filled. -/
theorem terminator?_fork (inside : draft.block < draft.size) (condition : Operand) (block : Nat) :
    (draft.fork condition).routine.terminator? block =
      if block = draft.block then some (.choose condition draft.size (draft.size + 1))
      else draft.routine.terminator? block := by
  rw [fork, routine_moveTo, terminator?_finish _ (by simp; omega)]
  simp

@[simp] theorem block_leaveTo (target next : Nat) : (draft.leaveTo target next).block = next := rfl

@[simp] theorem size_leaveTo (target next : Nat) : (draft.leaveTo target next).size = draft.size := by
  simp [leaveTo]

@[simp] theorem registers_leaveTo (target next : Nat) :
    (draft.leaveTo target next).routine.registers = draft.routine.registers := rfl

@[simp] theorem slots_leaveTo (target next : Nat) :
    (draft.leaveTo target next).routine.slots = draft.routine.slots := rfl

@[simp] theorem instruction?_leaveTo (target next block position : Nat) :
    (draft.leaveTo target next).routine.instruction? block position =
      draft.routine.instruction? block position := by
  simp [leaveTo]

@[simp] theorem extent_leaveTo (target next block : Nat) :
    (draft.leaveTo target next).routine.extent block = draft.routine.extent block := by
  simp [leaveTo]

/-- Leaving a block ends it. -/
theorem terminator?_leaveTo (inside : draft.block < draft.size) (target next block : Nat) :
    (draft.leaveTo target next).routine.terminator? block =
      if block = draft.block then some (.branch target)
      else draft.routine.terminator? block := by
  rw [leaveTo, routine_moveTo, terminator?_finish _ inside]

@[simp] theorem block_enterLoop : draft.enterLoop.block = draft.size := rfl

@[simp] theorem size_enterLoop : draft.enterLoop.size = draft.size + 1 := by simp [enterLoop]

@[simp] theorem registers_enterLoop :
    draft.enterLoop.routine.registers = draft.routine.registers := rfl

@[simp] theorem slots_enterLoop : draft.enterLoop.routine.slots = draft.routine.slots := rfl

@[simp] theorem instruction?_enterLoop (block position : Nat) :
    draft.enterLoop.routine.instruction? block position =
      draft.routine.instruction? block position := by
  simp [enterLoop]

@[simp] theorem extent_enterLoop (block : Nat) :
    draft.enterLoop.routine.extent block = draft.routine.extent block := by
  simp [enterLoop]

/-- Entering a loop ends the block that was being filled. -/
theorem terminator?_enterLoop (inside : draft.block < draft.size) (block : Nat) :
    draft.enterLoop.routine.terminator? block =
      if block = draft.block then some (.branch draft.size)
      else draft.routine.terminator? block := by
  rw [enterLoop, terminator?_leaveTo _ (by simp; omega)]
  simp

@[simp] theorem block_leaveLoop (condition : Operand) (head : Nat) :
    (draft.leaveLoop condition head).block = draft.size := rfl

@[simp] theorem size_leaveLoop (condition : Operand) (head : Nat) :
    (draft.leaveLoop condition head).size = draft.size + 1 := by
  simp [leaveLoop]

@[simp] theorem registers_leaveLoop (condition : Operand) (head : Nat) :
    (draft.leaveLoop condition head).routine.registers = draft.routine.registers := rfl

@[simp] theorem slots_leaveLoop (condition : Operand) (head : Nat) :
    (draft.leaveLoop condition head).routine.slots = draft.routine.slots := rfl

@[simp] theorem instruction?_leaveLoop (condition : Operand) (head block position : Nat) :
    (draft.leaveLoop condition head).routine.instruction? block position =
      draft.routine.instruction? block position := by
  simp [leaveLoop]

@[simp] theorem extent_leaveLoop (condition : Operand) (head block : Nat) :
    (draft.leaveLoop condition head).routine.extent block = draft.routine.extent block := by
  simp [leaveLoop]

/-- Leaving a loop ends the block that was being filled. -/
theorem terminator?_leaveLoop (inside : draft.block < draft.size) (condition : Operand)
    (head block : Nat) :
    (draft.leaveLoop condition head).routine.terminator? block =
      if block = draft.block then some (.choose condition head draft.size)
      else draft.routine.terminator? block := by
  rw [leaveLoop, routine_moveTo, terminator?_finish _ (by simp; omega)]
  simp

end Readings

/-- There is no end of a block that does not exist. -/
theorem terminator?_size (draft : Draft) {block : Nat} (beyond : draft.size ≤ block) :
    draft.routine.terminator? block = none := by
  simp [Routine.terminator?, Array.getElem?_eq_none beyond]

/-- A block that does not exist holds nothing. -/
theorem extent_size (draft : Draft) {block : Nat} (beyond : draft.size ≤ block) :
    draft.routine.extent block = 0 := by
  simp [Routine.extent, Array.getElem?_eq_none beyond]

end Draft

end Kaleidoscope.Code
