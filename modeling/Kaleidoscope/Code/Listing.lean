import Kaleidoscope.Code.Builder

/-!
# Listings

A unit is listed routine by routine, in the order of declaration; routines that their name no
longer means are left out. Blocks and slots are numbered within their routine.
-/
namespace Kaleidoscope

namespace Code

/-- An operand in a listing. -/
def Operand.text : Operand → String
  | number value => NumberFormat.marked.text value
  | register index => "%" ++ Nat.repr index
  | parameter index => "$" ++ Nat.repr index

namespace Routine

/-- The name of a block together with its number. -/
def label (routine : Routine) (index : Nat) : String :=
  match routine.blocks[index]? with
  | some block => block.name ++ "." ++ Nat.repr index
  | none => "?." ++ Nat.repr index

end Routine

/-- An instruction of a routine in a listing; `nameOf` names the routines that are called. -/
def Instruction.text (nameOf : Nat → String) (routine : Routine) : Instruction → String
  | arith target operation left right =>
    "%" ++ Nat.repr target ++ " = " ++ operation.text ++ " " ++ left.text ++ ", " ++ right.text
  | compare target comparison left right =>
    "%" ++ Nat.repr target ++ " = " ++ comparison.text ++ " " ++ left.text ++ ", " ++ right.text
  | truth target value => "%" ++ Nat.repr target ++ " = test " ++ value.text
  | load target slot => "%" ++ Nat.repr target ++ " = load s" ++ Nat.repr slot
  | store slot value => "store " ++ value.text ++ ", s" ++ Nat.repr slot
  | call target callee arguments =>
    "%" ++ Nat.repr target ++ " = call " ++ nameOf callee ++ "(" ++
      String.intercalate ", " (arguments.map Operand.text) ++ ")"
  | phi target incoming =>
    "%" ++ Nat.repr target ++ " = phi " ++ String.intercalate ", " (incoming.map fun (value, block) =>
      "[" ++ value.text ++ ", " ++ routine.label block ++ "]")

/-- The end of a block in a listing. -/
def Terminator.text (routine : Routine) : Terminator → String
  | branch target => "br " ++ routine.label target
  | choose condition consequent alternative =>
    "br " ++ condition.text ++ ", " ++ routine.label consequent ++ ", " ++ routine.label alternative
  | ret value => "ret " ++ value.text

namespace Routine

/-- The lines of one block. -/
def blockLines (nameOf : Nat → String) (routine : Routine) (index : Nat) (block : Block) :
    List String :=
  let finish := match block.terminator with
    | some terminator => terminator.text routine
    | none => "; unterminated"
  (routine.label index ++ ":") ::
    (block.instructions.toList.map (·.text nameOf routine) ++ [finish]).map ("  " ++ ·)

/-- The lines between the braces of a definition. -/
def bodyLines (nameOf : Nat → String) (routine : Routine) : List String :=
  routine.slots.toList.mapIdx (fun index slot => "  s" ++ Nat.repr index ++ " = slot " ++ slot) ++
    (routine.blocks.toList.mapIdx (routine.blockLines nameOf)).flatten

/-- The lines of a routine, after an empty one. -/
def lines (nameOf : Nat → String) (routine : Routine) : List String :=
  let heading := routine.name ++ "(" ++ String.intercalate " " routine.parameters ++ ")"
  if routine.hasBody then
    "" :: ("define " ++ heading ++ " \x7b") :: (routine.bodyLines nameOf ++ ["\x7d"])
  else ["", "declare " ++ heading]

end Routine

end Code

namespace CodeUnit

/-- The name that a call in a listing goes to. -/
def nameOf (unit : CodeUnit) (id : Nat) : String :=
  match unit.routines[id]? with
  | some routine => routine.name
  | none => "?"

/-- The lines of a unit. -/
def lines (unit : CodeUnit) : List String :=
  ("; unit " ++ unit.name) ::
    (unit.routines.toList.mapIdx fun id routine =>
      if unit.lookup? routine.name = some id then routine.lines unit.nameOf else []).flatten

/-- The listing of a unit. -/
def listing (unit : CodeUnit) : String := String.join (unit.lines.map (· ++ "\n"))

end CodeUnit

namespace Builder

/-- The listing of the open unit; empty if none is open. -/
def listing (builder : Builder) : String :=
  match builder.unit with
  | some unit => unit.listing
  | none => ""

end Builder

end Kaleidoscope
