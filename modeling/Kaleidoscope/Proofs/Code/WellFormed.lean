import Kaleidoscope.Proofs.Code.Flow
import Mathlib.Logic.ExistsUnique

/-!
# Well-formed routines

A routine is well formed within a unit if it can be run without ever meeting something that is not
there (`Routine.WellFormed`): blocks end and lead to blocks, a phi names exactly the blocks that
lead to its own, every register is written by one instruction, and on every walk through the blocks
from the first one it is written before it is read.

Walks are without number, so this is not checked walk by walk. Instead each block is given a list
of registers that are written on every walk to it, and what has to hold is then local to a block
and to the blocks it leads to (`Routine.Certified`). Such lists grow with a draft
(`Draft.Flow.certified`).
-/
namespace Kaleidoscope.Code

/-- The operands that an instruction reads when its block was reached from a source: a phi reads
the one that belongs to the source. -/
def Instruction.reads (source : Option Nat) : Instruction → List Operand
  | .phi _ incoming => (incoming.filter fun entry => some entry.2 = source).map (·.1)
  | other => other.operands

namespace Routine

/-- One block may lead to another. -/
def Leads (routine : Routine) (source target : Nat) : Prop :=
  ∃ terminator, routine.terminator? source = some terminator ∧ target ∈ terminator.targets

/-- A walk from the first block: the blocks passed, the latest first, and the block reached. -/
inductive Walk (routine : Routine) : List Nat → Nat → Prop
  /-- A walk starts at the first block. -/
  | start : Walk routine [] 0
  /-- It goes on to a block that the one reached leads to. -/
  | step {passed : List Nat} {block next : Nat} (walk : Walk routine passed block)
      (leads : routine.Leads block next) : Walk routine (block :: passed) next

/-- The instruction at a place writes to a register. -/
def Writes (routine : Routine) (block position register : Nat) : Prop :=
  ∃ instruction, routine.instruction? block position = some instruction ∧
    instruction.target? = some register

/-- A register is written in a block before a position. -/
def WrittenBelow (routine : Routine) (block position register : Nat) : Prop :=
  ∃ earlier < position, routine.Writes block earlier register

/-- A register is written on a walk before a position of the block reached. -/
def WrittenOn (routine : Routine) (passed : List Nat) (block position register : Nat) : Prop :=
  routine.WrittenBelow block position register ∨
    ∃ earlier ∈ passed, routine.WrittenBelow earlier (routine.extent earlier) register

/-- What is written before a position is written before later ones. -/
theorem WrittenOn.mono {routine : Routine} {passed : List Nat} {block position later register : Nat}
    (written : routine.WrittenOn passed block position register) (le : position ≤ later) :
    routine.WrittenOn passed block later register := by
  rcases written with ⟨earlier, bound, writes⟩ | before
  · exact .inl ⟨earlier, Nat.lt_of_lt_of_le bound le, writes⟩
  · exact .inr before

/-- A routine that can be run within a unit. -/
structure WellFormed (unit : CodeUnit) (routine : Routine) : Prop where
  /-- Every block has an end. -/
  terminated : ∀ block < routine.blocks.size, ∃ terminator,
    routine.terminator? block = some terminator
  /-- Blocks lead to blocks of the same routine. -/
  target_lt : ∀ {source target : Nat}, routine.Leads source target →
    target < routine.blocks.size
  /-- A phi names exactly the blocks that lead to its own, each once. -/
  phi_sources : ∀ {block position target : Nat} {incoming : List (Operand × Nat)},
    routine.instruction? block position = some (.phi target incoming) →
    (incoming.map (·.2)).Nodup ∧ ∀ source, source ∈ incoming.map (·.2) ↔ routine.Leads source block
  /-- Every register is written by exactly one instruction. -/
  written_once : ∀ register < routine.registers,
    ∃! place : Nat × Nat, routine.Writes place.1 place.2 register
  /-- Registers that are written exist. -/
  target_register_lt : ∀ {block position register : Nat},
    routine.Writes block position register → register < routine.registers
  /-- Registers that instructions read exist. -/
  operand_register_lt : ∀ {block position register : Nat} {instruction : Instruction},
    routine.instruction? block position = some instruction →
    .register register ∈ instruction.operands → register < routine.registers
  /-- Registers that ends of blocks read exist. -/
  end_register_lt : ∀ {block register : Nat} {terminator : Terminator},
    routine.terminator? block = some terminator →
    .register register ∈ terminator.operands → register < routine.registers
  /-- On every walk, registers are written before an instruction reads them. -/
  written_before : ∀ {passed : List Nat} {block position register : Nat}
    {instruction : Instruction}, routine.Walk passed block →
    routine.instruction? block position = some instruction →
    .register register ∈ instruction.reads passed.head? →
    routine.WrittenOn passed block position register
  /-- On every walk, registers are written before the end of a block reads them. -/
  written_before_end : ∀ {passed : List Nat} {block register : Nat} {terminator : Terminator},
    routine.Walk passed block → routine.terminator? block = some terminator →
    .register register ∈ terminator.operands →
    routine.WrittenOn passed block (routine.extent block) register
  /-- Slots that are filled or read exist. -/
  slot_lt : ∀ {block position slot : Nat} {instruction : Instruction},
    routine.instruction? block position = some instruction →
    (∃ target, instruction = .load target slot) ∨ (∃ value, instruction = .store slot value) →
    slot < routine.slots.size
  /-- Arguments that instructions use exist. -/
  parameter_lt : ∀ {block position index : Nat} {instruction : Instruction},
    routine.instruction? block position = some instruction →
    .parameter index ∈ instruction.operands → index < routine.parameters.length
  /-- Arguments that ends of blocks use exist. -/
  end_parameter_lt : ∀ {block index : Nat} {terminator : Terminator},
    routine.terminator? block = some terminator →
    .parameter index ∈ terminator.operands → index < routine.parameters.length
  /-- The first block has no phi, since it is not reached from another one at first. -/
  entry_plain : ∀ {position : Nat} {instruction : Instruction},
    routine.instruction? 0 position = some instruction → instruction.isPhi = false
  /-- Calls go to routines of the unit, with as many arguments as these have parameters. -/
  call_fits : ∀ {block position target callee : Nat} {arguments : List Operand},
    routine.instruction? block position = some (.call target callee arguments) →
    ∃ called, unit.routines[callee]? = some called ∧
      called.parameters.length = arguments.length

/-- A walk to a block with a phi comes from one of the blocks that the phi names. -/
theorem WellFormed.exists_source {unit : CodeUnit} {routine : Routine}
    (wellFormed : routine.WellFormed unit) {passed : List Nat} {block position target : Nat}
    {incoming : List (Operand × Nat)} (walk : routine.Walk passed block)
    (found : routine.instruction? block position = some (.phi target incoming)) :
    ∃ source, passed.head? = some source ∧ source ∈ incoming.map (·.2) := by
  cases walk with
  | start =>
    have plain := wellFormed.entry_plain found
    contradiction
  | @step passed source _ walk leads =>
    exact ⟨source, rfl, ((wellFormed.phi_sources found).2 source).2 leads⟩

/-- A register is sure to be written before a position of a block, given the registers that are
sure to be written when each block is entered. -/
def Sure (entry : Nat → List Nat) (routine : Routine) (block position register : Nat) : Prop :=
  register ∈ entry block ∨ routine.WrittenBelow block position register

/-- An operand that can be used at a position of a block. -/
def Usable (entry : Nat → List Nat) (parameters : Nat) (routine : Routine) (block position : Nat) :
    Operand → Prop
  | .number _ => True
  | .register register => routine.Sure entry block position register
  | .parameter index => index < parameters

/-- Local conditions under which registers are written before they are read: `entry` lists for
each block registers that are written on every walk to it. -/
structure Certified (parameters : Nat) (allowed : Nat → Nat → Prop) (entry : Nat → List Nat)
    (routine : Routine) : Prop where
  /-- Nothing is written when the first block is entered. -/
  start : entry 0 = []
  /-- Only registers that exist are listed. -/
  known : ∀ {block register : Nat}, block < routine.blocks.size → register ∈ entry block →
    register < routine.registers
  /-- A block leads to blocks, and writes on the way what their lists promise. -/
  leads : ∀ {source target : Nat}, routine.Leads source target → target < routine.blocks.size ∧
    ∀ register ∈ entry target, routine.Sure entry source (routine.extent source) register
  /-- Instructions use what is written. -/
  usable : ∀ {block position : Nat} {instruction : Instruction},
    routine.instruction? block position = some instruction → instruction.isPhi = false →
    ∀ operand ∈ instruction.operands, routine.Usable entry parameters block position operand
  /-- A phi names exactly the blocks that lead to its own, and uses what is written at their
  ends. -/
  phi : ∀ {block position target : Nat} {incoming : List (Operand × Nat)},
    routine.instruction? block position = some (.phi target incoming) →
    (incoming.map (·.2)).Nodup ∧
      (∀ source, source ∈ incoming.map (·.2) ↔ routine.Leads source block) ∧
      ∀ value ∈ incoming,
        routine.Usable entry parameters value.2 (routine.extent value.2) value.1
  /-- Ends of blocks use what is written. -/
  usable_end : ∀ {block : Nat} {terminator : Terminator},
    routine.terminator? block = some terminator →
    ∀ operand ∈ terminator.operands,
      routine.Usable entry parameters block (routine.extent block) operand
  /-- Slots exist, and calls are allowed. -/
  fits : ∀ {block position : Nat} {instruction : Instruction},
    routine.instruction? block position = some instruction →
    instruction.Fits routine.slots.size allowed
  /-- Every register is written by exactly one instruction. -/
  written_once : ∀ register < routine.registers,
    ∃! place : Nat × Nat, routine.Writes place.1 place.2 register
  /-- Registers that are written exist. -/
  target_lt : ∀ {block position register : Nat},
    routine.Writes block position register → register < routine.registers
  /-- The first block has no phi. -/
  entry_plain : ∀ {position : Nat} {instruction : Instruction},
    routine.instruction? 0 position = some instruction → instruction.isPhi = false

namespace Certified

variable {parameters : Nat} {allowed : Nat → Nat → Prop} {entry : Nat → List Nat}
  {routine : Routine}

/-- What is sure to be written exists. -/
theorem lt_of_sure (certified : routine.Certified parameters allowed entry)
    {block position register : Nat} (inside : block < routine.blocks.size)
    (sure : routine.Sure entry block position register) : register < routine.registers := by
  rcases sure with listed | ⟨earlier, _, writes⟩
  · exact certified.known inside listed
  · exact certified.target_lt writes

/-- On every walk to a block, all that its list promises is written. -/
theorem written_of_walk (certified : routine.Certified parameters allowed entry)
    {passed : List Nat} {block : Nat} (walk : routine.Walk passed block) :
    ∀ register ∈ entry block, ∃ earlier ∈ passed,
      routine.WrittenBelow earlier (routine.extent earlier) register := by
  induction walk with
  | start =>
    intro register listed
    rw [certified.start] at listed
    contradiction
  | @step passed block next walk leads hypothesis =>
    intro register listed
    rcases (certified.leads leads).2 register listed with before | here
    · obtain ⟨earlier, member, written⟩ := hypothesis register before
      exact ⟨earlier, List.mem_cons_of_mem _ member, written⟩
    · exact ⟨block, List.mem_cons_self, here⟩

/-- On every walk to a block, what is sure there is written. -/
theorem writtenOn_of_sure (certified : routine.Certified parameters allowed entry)
    {passed : List Nat} {block position register : Nat} (walk : routine.Walk passed block)
    (sure : routine.Sure entry block position register) :
    routine.WrittenOn passed block position register := by
  rcases sure with listed | here
  · exact .inr (certified.written_of_walk walk register listed)
  · exact .inl here

/-- A certified routine whose blocks all have an end is well formed in a unit whose routines have
as many parameters as allowed calls have arguments. -/
theorem wellFormed {unit : CodeUnit} (certified : routine.Certified parameters allowed entry)
    (terminated : ∀ block < routine.blocks.size, ∃ terminator,
      routine.terminator? block = some terminator)
    (count : routine.parameters.length = parameters)
    (callable : ∀ callee arguments, allowed callee arguments →
      ∃ called, unit.routines[callee]? = some called ∧ called.parameters.length = arguments) :
    routine.WellFormed unit where
  terminated := terminated
  target_lt leads := (certified.leads leads).1
  phi_sources found := ⟨(certified.phi found).1, (certified.phi found).2.1⟩
  written_once := certified.written_once
  target_register_lt := certified.target_lt
  operand_register_lt := by
    intro block position register instruction found member
    have inside := lt_size_of_instruction? found
    cases instruction with
    | phi target incoming =>
      obtain ⟨value, listed, same⟩ := List.mem_map.1 member
      have usable := (certified.phi found).2.2 value listed
      have leads := ((certified.phi found).2.1 value.2).1 (List.mem_map_of_mem listed)
      obtain ⟨terminator, ended, _⟩ := leads
      rw [same] at usable
      exact certified.lt_of_sure (lt_size_of_terminator? ended) usable
    | _ => exact certified.lt_of_sure inside (certified.usable found rfl _ member)
  end_register_lt := by
    intro block register terminator found member
    exact certified.lt_of_sure (lt_size_of_terminator? found)
      (certified.usable_end found _ member)
  written_before := by
    intro passed block position register instruction walk found member
    cases instruction with
    | phi target incoming =>
      obtain ⟨value, listed, same⟩ := List.mem_map.1 member
      obtain ⟨listed, source⟩ := List.mem_filter.1 listed
      have usable := (certified.phi found).2.2 value listed
      rw [same] at usable
      cases walk with
      | start => simp at source
      | @step passed previous _ walk leads =>
        simp only [List.head?_cons, Option.some.injEq, decide_eq_true_eq] at source
        rw [source] at usable
        rcases certified.writtenOn_of_sure walk usable with here | ⟨earlier, member, before⟩
        · exact .inr ⟨previous, List.mem_cons_self, here⟩
        · exact .inr ⟨earlier, List.mem_cons_of_mem _ member, before⟩
    | _ => exact certified.writtenOn_of_sure walk (certified.usable found rfl _ member)
  written_before_end := by
    intro passed block register terminator walk found member
    exact certified.writtenOn_of_sure walk (certified.usable_end found _ member)
  slot_lt := by
    intro block position slot instruction found shape
    have fits := certified.fits found
    rcases shape with ⟨target, rfl⟩ | ⟨value, rfl⟩
    · exact fits
    · exact fits
  parameter_lt := by
    intro block position index instruction found member
    rw [count]
    cases instruction with
    | phi target incoming =>
      obtain ⟨value, listed, same⟩ := List.mem_map.1 member
      have usable := (certified.phi found).2.2 value listed
      rwa [same] at usable
    | _ => exact certified.usable found rfl _ member
  end_parameter_lt := by
    intro block index terminator found member
    rw [count]
    exact certified.usable_end found _ member
  entry_plain := certified.entry_plain
  call_fits := by
    intro block position target callee arguments found
    exact callable callee arguments.length (certified.fits found)

end Certified

end Routine

end Kaleidoscope.Code
