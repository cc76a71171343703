import Kaleidoscope.Decimal.Notation

/-!
# Units of code

Forms are turned into code in units. A unit holds routines; a routine without blocks is a mere
declaration, and its calls go to the host. A block is a run of instructions followed by a
terminator that names the next block or returns. Every instruction that yields a number writes it
to a register of its own; variables live in slots, which can be stored to again and again.

A unit finds routines by name. Declaring a name again makes the name mean the new routine; a
routine that is not called and has no body can be forgotten, so that its name is free again.
-/
namespace Kaleidoscope

namespace Code

/-- A number that an instruction uses. -/
inductive Operand where
  /-- A fixed number. -/
  | number (value : Float)
  /-- The content of a register. -/
  | register (index : Nat)
  /-- An argument of the routine. -/
  | parameter (index : Nat)
deriving DecidableEq

/-- The operations of arithmetic. -/
inductive Arithmetic where
  /-- Sum. -/
  | add
  /-- Difference. -/
  | subtract
  /-- Product. -/
  | multiply
deriving DecidableEq

namespace Arithmetic

/-- The result of an operation. -/
def apply : Arithmetic → Float → Float → Float
  | add, left, right => left + right
  | subtract, left, right => left - right
  | multiply, left, right => left * right

/-- The name in listings. -/
def text : Arithmetic → String
  | add => "add"
  | subtract => "sub"
  | multiply => "mul"

end Arithmetic

/-- The comparisons. -/
inductive Comparison where
  /-- Whether the left operand is smaller. -/
  | lessThan
  /-- Whether the operands are equal. -/
  | equal
deriving DecidableEq

namespace Comparison

/-- Whether a comparison holds. What is not a number is neither smaller than nor equal to
anything. -/
def holds : Comparison → Float → Float → Bool
  | lessThan, left, right => left < right
  | equal, left, right => left == right

/-- The name in listings. -/
def text : Comparison → String
  | lessThan => "lt"
  | equal => "eq"

end Comparison

/-- The number that stands for a truth value. -/
def ofTruth (holds : Bool) : Float := if holds then 1 else 0

/-- Whether a number counts as true: it is a number and not zero. -/
def isTrue (value : Float) : Bool := value != 0 && !value.isNaN

/-- One step of a block. -/
inductive Instruction where
  /-- Arithmetic on two operands. -/
  | arith (target : Nat) (operation : Arithmetic) (left right : Operand)
  /-- A comparison of two operands. -/
  | compare (target : Nat) (comparison : Comparison) (left right : Operand)
  /-- One if the operand counts as true, else zero. -/
  | truth (target : Nat) (value : Operand)
  /-- The content of a slot. -/
  | load (target : Nat) (slot : Nat)
  /-- Fill a slot. -/
  | store (slot : Nat) (value : Operand)
  /-- A call of a routine of the unit. -/
  | call (target : Nat) (callee : Nat) (arguments : List Operand)
  /-- The operand that belongs to the block from which this one was reached. -/
  | phi (target : Nat) (incoming : List (Operand × Nat))
deriving DecidableEq

/-- The end of a block. -/
inductive Terminator where
  /-- Go on with a block. -/
  | branch (target : Nat)
  /-- Go on with the first block if the condition is not zero, else with the second. -/
  | choose (condition : Operand) (consequent alternative : Nat)
  /-- Return to the caller. -/
  | ret (value : Operand)
deriving DecidableEq

/-- A run of instructions with one way in and one way out. -/
structure Block where
  /-- Its name in listings. -/
  name : String
  /-- The instructions in order. -/
  instructions : Array Instruction
  /-- How it ends, once that is known. -/
  terminator : Option Terminator
deriving DecidableEq

/-- A function in code. -/
structure Routine where
  /-- The name it is called by. -/
  name : String
  /-- The names of its parameters. -/
  parameters : List String
  /-- Its blocks; execution starts with the first. -/
  blocks : Array Block
  /-- The names of its slots. -/
  slots : Array String
  /-- How many registers it uses. -/
  registers : Nat
deriving DecidableEq

/-- A block of a routine. -/
structure BlockRef where
  /-- The routine. -/
  routine : Nat
  /-- The position among its blocks. -/
  index : Nat
deriving DecidableEq

/-- A slot of a routine. -/
structure SlotRef where
  /-- The routine. -/
  routine : Nat
  /-- The position among its slots. -/
  index : Nat
deriving DecidableEq

namespace Routine

/-- A routine without a body. -/
def declared (name : String) (parameters : List String) : Routine := ⟨name, parameters, #[], #[], 0⟩

/-- Whether a routine has blocks. -/
def hasBody (routine : Routine) : Bool := !routine.blocks.isEmpty

/-- A routine stripped of its blocks, slots and registers. -/
def withoutBody (routine : Routine) : Routine := declared routine.name routine.parameters

/-- A routine calls another if one of its instructions does. -/
def calls (routine : Routine) (callee : Nat) : Bool :=
  routine.blocks.any fun block => block.instructions.any fun
    | .call _ other _ => other == callee
    | _ => false

/-- The first block that has no end. -/
def unterminated? (routine : Routine) : Option Block :=
  routine.blocks.find? (·.terminator.isNone)

end Routine

end Code

/-- The code of one batch of forms. -/
structure CodeUnit where
  /-- Its name in listings. -/
  name : String
  /-- All routines ever declared in it. -/
  routines : Array Code.Routine
  /-- The names in use and the routines they mean, the latest first. -/
  names : List (String × Nat)
deriving DecidableEq

namespace CodeUnit

/-- A unit without routines. -/
def new (name : String) : CodeUnit := ⟨name, #[], []⟩

/-- The routine that a name means. -/
def lookup? (unit : CodeUnit) (name : String) : Option Nat := unit.names.lookup name

/-- Add a routine without a body; its name means it from here on. -/
def declare (unit : CodeUnit) (name : String) (parameters : List String) : Nat × CodeUnit :=
  (unit.routines.size,
    { unit with
      routines := unit.routines.push (.declared name parameters)
      names := (name, unit.routines.size) :: unit.names })

/-- Change one routine. -/
def update (unit : CodeUnit) (id : Nat) (change : Code.Routine → Code.Routine) : CodeUnit :=
  { unit with routines := unit.routines.modify id change }

/-- Whether a routine can be forgotten: it has no body, its name means it, and no routine calls
it. -/
def isForgettable (unit : CodeUnit) (id : Nat) : Bool :=
  match unit.routines[id]? with
  | none => false
  | some routine =>
    !routine.hasBody && unit.lookup? routine.name = some id && !unit.routines.any (·.calls id)

/-- Free the name of a routine that can be forgotten. -/
def forget (unit : CodeUnit) (id : Nat) : CodeUnit :=
  match unit.routines[id]? with
  | none => unit
  | some routine =>
    if unit.isForgettable id then
      { unit with names := unit.names.filter (·.1 ≠ routine.name) }
    else unit

end CodeUnit

end Kaleidoscope
