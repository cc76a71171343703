import Kaleidoscope.Lowering.Expr
import Kaleidoscope.Proofs.Code.Draft
import Kaleidoscope.Proofs.Lowering.Actions

/-!
# Building as a change of a draft

While a routine is filled and nothing fails, the builder holds a draft of it
(`Builder.Filling`), and every action of the builder puts another draft in its place
(`Builder.hold`). There is one equation for each action, whose right-hand side is the operation on
drafts of the same effect.
-/
namespace Kaleidoscope

open Code

namespace CodeUnit

/-- A routine that has been changed. -/
theorem routines_update {unit : CodeUnit} {id : Nat} {routine : Routine}
    (found : unit.routines[id]? = some routine) (change : Routine → Routine) (other : Nat) :
    (unit.update id change).routines[other]? =
      if other = id then some (change routine) else unit.routines[other]? := by
  simp only [update, Array.getElem?_modify]
  by_cases same : id = other
  · subst same
    simp [found]
  · simp [same, Ne.symm same]

/-- Changing a routine is putting the changed one in its place. -/
theorem update_eq {unit : CodeUnit} {id : Nat} {routine : Routine}
    (found : unit.routines[id]? = some routine) (change : Routine → Routine) :
    unit.update id change = unit.update id fun _ => change routine := by
  have same : unit.routines.modify id change = unit.routines.modify id fun _ => change routine := by
    apply Array.ext_getElem?
    intro other
    rw [Array.getElem?_modify, Array.getElem?_modify]
    split
    · next here =>
      subst here
      rw [found]
      rfl
    · rfl
  rw [update, same]
  rfl

/-- A routine put in its own place changes nothing. -/
theorem update_self {unit : CodeUnit} {id : Nat} {routine : Routine}
    (found : unit.routines[id]? = some routine) : (unit.update id fun _ => routine) = unit := by
  have same : (unit.routines.modify id fun _ => routine) = unit.routines := by
    apply Array.ext_getElem?
    intro other
    rw [Array.getElem?_modify]
    split
    · next here =>
      subst here
      rw [found]
      rfl
    · rfl
  rw [update, same]

/-- Of two routines put in one place the second stays. -/
theorem update_update (unit : CodeUnit) (id : Nat) (first second : Routine) :
    (unit.update id fun _ => first).update id (fun _ => second) =
      unit.update id fun _ => second := by
  have same : (unit.routines.modify id fun _ => first).modify id (fun _ => second) =
      unit.routines.modify id fun _ => second := by
    apply Array.ext_getElem?
    intro other
    simp only [Array.getElem?_modify]
    split
    · cases unit.routines[other]? <;> rfl
    · rfl
  simp only [update]
  rw [same]

end CodeUnit

namespace Builder

/-- Put a draft in the place of a routine, and fill its block from here on. -/
def hold (builder : Builder) (id : Nat) (draft : Draft) : Builder :=
  { builder with
    unit := builder.unit.map (·.update id fun _ => draft.routine)
    cursor := some ⟨id, draft.block⟩ }

/-- A builder that fills a routine, and that no fault will strike. -/
structure Filling (builder : Builder) (id : Nat) (draft : Draft) : Prop where
  /-- No faults are to come. -/
  faultless : builder.faults = []
  /-- The routine is that of the draft. -/
  found : builder.routine? id = some draft.routine
  /-- The block being filled is that of the draft. -/
  cursor_eq : builder.cursor = some ⟨id, draft.block⟩
  /-- It exists. -/
  inside : draft.block < draft.size

variable {builder : Builder} {id : Nat} {draft next : Draft}

/-- A routine that exists is one of the open unit. -/
theorem routine?_eq_some {routine : Routine} :
    builder.routine? id = some routine ↔
      ∃ unit, builder.unit = some unit ∧ unit.routines[id]? = some routine :=
  Option.bind_eq_some_iff

/-- A draft that is held takes the place of the routine. -/
theorem routine?_hold (exists_id : (builder.routine? id).isSome) (draft : Draft) (other : Nat) :
    (builder.hold id draft).routine? other =
      if other = id then some draft.routine else builder.routine? other := by
  obtain ⟨routine, found⟩ := Option.isSome_iff_exists.1 exists_id
  obtain ⟨unit, isOpen, here⟩ := routine?_eq_some.1 found
  simp only [hold, routine?, isOpen, Option.map_some, Option.bind_some,
    CodeUnit.routines_update here]

/-- Holding a draft changes no name. -/
@[simp] theorem lookup?_hold (builder : Builder) (id : Nat) (draft : Draft) (name : String) :
    (builder.hold id draft).lookup? name = builder.lookup? name := by
  unfold hold lookup?
  cases builder.unit <;> rfl

/-- Of two drafts of one routine the second is held. -/
@[simp] theorem hold_hold (builder : Builder) (id : Nat) (first second : Draft) :
    (builder.hold id first).hold id second = builder.hold id second := by
  unfold hold
  cases builder.unit with
  | none => rfl
  | some unit => simp only [Option.map_some, CodeUnit.update_update]

/-- A draft that is held is filled. -/
theorem filling_hold (faultless : builder.faults = []) (exists_id : (builder.routine? id).isSome)
    (inside : draft.block < draft.size) : (builder.hold id draft).Filling id draft where
  faultless := faultless
  found := by rw [routine?_hold exists_id, if_pos rfl]
  cursor_eq := rfl
  inside := inside

/-- Another draft can be held in the place of one. -/
theorem Filling.hold (filling : builder.Filling id draft) (inside : next.block < next.size) :
    (builder.hold id next).Filling id next :=
  filling_hold filling.faultless (by rw [filling.found]; rfl) inside

end Builder

namespace Build

open Builder

variable {builder : Builder} {id : Nat} {draft : Draft}

/-- Without faults to come, nothing is struck. -/
theorem attempt_eq (faultless : builder.faults = []) (operation : Operation) :
    attempt operation builder = .ok ⟨⟩ builder := by
  obtain ⟨unit, cursor, faults⟩ := builder
  cases faultless
  rfl

/-- Without faults to come, questions are answered. -/
theorem ask_eq {α : Type} (faultless : builder.faults = []) (operation : Operation)
    (answer : Builder → Option α) : ask operation answer builder = .ok (answer builder) builder := by
  obtain ⟨unit, cursor, faults⟩ := builder
  cases faultless
  rfl

/-- An action that is attempted without faults to come. -/
theorem bind_attempt {α : Type} (faultless : builder.faults = []) (operation : Operation)
    (action : Build α) : (do attempt operation; action) builder = action builder := by
  show EStateM.bind _ _ builder = _
  rw [EStateM.bind, attempt_eq faultless]

/-- A routine that exists is found. -/
theorem routine_eq {found : Routine} (here : builder.routine? id = some found) :
    routine id builder = .ok found builder := by
  obtain ⟨unit, isOpen, inside⟩ := routine?_eq_some.1 here
  simp only [routine, Bind.bind, EStateM.bind, get_apply, isOpen,
    inside]
  rfl

/-- A routine is opened with a first block, which is filled from then on. -/
theorem open_eq {found : Routine} (faultless : builder.faults = [])
    (here : builder.routine? id = some found) (name : String) :
    ∃ middle, appendBlock id name builder = .ok ⟨id, found.blocks.size⟩ middle ∧
      moveTo ⟨id, found.blocks.size⟩ middle =
        .ok ⟨⟩ (builder.hold id ((Draft.mk found found.blocks.size).append name)) := by
  obtain ⟨unit, isOpen, inside⟩ := routine?_eq_some.1 here
  obtain ⟨held, cursor, faults⟩ := builder
  cases isOpen
  rw [appendBlock, bind_attempt faultless]
  simp only [Bind.bind, EStateM.bind, routine_eq here, changeRoutine, modify_apply, Builder.changeRoutine, Option.map_some,
    CodeUnit.update_eq inside]
  exact ⟨_, rfl, rfl⟩

section Filling

variable (filling : builder.Filling id draft)
include filling

/-- The block being filled is found. -/
theorem target_eq : target builder = .ok (⟨id, draft.block⟩, draft.routine) builder := by
  simp only [target, Bind.bind, EStateM.bind, get_apply,
    filling.cursor_eq, routine_eq filling.found]
  rw [if_pos filling.inside]
  rfl

/-- Changing the routine being filled. -/
theorem changeRoutine_eq (change : Routine → Routine) :
    changeRoutine id change builder =
      .ok ⟨⟩ (builder.hold id { draft with routine := change draft.routine }) := by
  obtain ⟨unit, isOpen, found⟩ := routine?_eq_some.1 filling.found
  have cursor := filling.cursor_eq
  obtain ⟨held, place, faults⟩ := builder
  cases isOpen
  cases cursor
  simp only [changeRoutine, Builder.changeRoutine, modify_apply, hold, Option.map_some, CodeUnit.update_eq found]

/-- Changing the block being filled. -/
theorem changeBlock_eq (change : Block → Block) :
    changeBlock ⟨id, draft.block⟩ change builder =
      .ok ⟨⟩ (builder.hold id (draft.change change)) :=
  changeRoutine_eq filling _

/-- Adding an instruction that yields nothing. -/
theorem emitEffect_eq (instruction : Instruction) :
    emitEffect instruction builder = .ok ⟨⟩ (builder.hold id (draft.push instruction)) := by
  simp only [emitEffect, Bind.bind, EStateM.bind, target_eq filling]
  exact changeBlock_eq filling _

/-- Adding an instruction that writes to a new register. -/
theorem emit_eq (make : Nat → Instruction) :
    emit make builder = .ok (draft.emit make).1 (builder.hold id (draft.emit make).2) := by
  have counted : (builder.hold id draft.count).Filling id draft.count :=
    filling.hold filling.inside
  have reserved : changeRoutine id
      (fun routine => { routine with registers := routine.registers + 1 }) builder =
        .ok ⟨⟩ (builder.hold id draft.count) := changeRoutine_eq filling _
  have added : changeBlock ⟨id, draft.block⟩ (fun content =>
      { content with instructions := content.instructions.push (make draft.routine.registers) })
        (builder.hold id draft.count) = .ok ⟨⟩ (builder.hold id (draft.emit make).2) := by
    refine (changeBlock_eq counted _).trans ?_
    rw [hold_hold]
    rfl
  simp only [emit, Bind.bind, EStateM.bind, target_eq filling, reserved, added]
  rfl

/-- Ending the block being filled. -/
theorem terminate_eq (terminator : Terminator) :
    terminate terminator builder = .ok ⟨⟩ (builder.hold id (draft.finish terminator)) := by
  simp only [terminate, Bind.bind, EStateM.bind, target_eq filling]
  exact changeBlock_eq filling _

/-- Adding a block. -/
theorem appendBlock_eq (name : String) :
    appendBlock id name builder = .ok ⟨id, draft.size⟩ (builder.hold id (draft.append name)) := by
  rw [appendBlock, bind_attempt filling.faultless]
  simp only [Bind.bind, EStateM.bind, routine_eq filling.found, changeRoutine_eq filling]
  rfl

/-- Adding a slot. -/
theorem slot_eq (name : String) :
    slot id name builder = .ok ⟨id, draft.slotCount⟩ (builder.hold id (draft.reserve name)) := by
  rw [slot, bind_attempt filling.faultless]
  simp only [Bind.bind, EStateM.bind, routine_eq filling.found, changeRoutine_eq filling]
  rfl

/-- Filling another block of the routine. -/
theorem moveTo_eq (block : Nat) :
    moveTo ⟨id, block⟩ builder = .ok ⟨⟩ (builder.hold id (draft.moveTo block)) := by
  obtain ⟨unit, isOpen, found⟩ := routine?_eq_some.1 filling.found
  obtain ⟨held, place, faults⟩ := builder
  cases isOpen
  simp only [moveTo, modify_apply, hold,
    Option.map_some, Builder.moveTo, Draft.routine_moveTo, CodeUnit.update_self found]
  rfl

/-- Using a parameter. -/
theorem parameter_eq {index : Nat} (inside : index < draft.routine.parameters.length) :
    parameter id index builder = .ok (.parameter index) builder := by
  rw [parameter, bind_attempt filling.faultless]
  simp only [Bind.bind, EStateM.bind, routine_eq filling.found]
  rw [if_pos inside]
  rfl

/-- The block being filled is known. -/
theorem insertBlock_eq : insertBlock builder = .ok (some ⟨id, draft.block⟩) builder := by
  rw [insertBlock, ask_eq filling.faultless, filling.cursor_eq]

/-- The routine being filled is known. -/
theorem currentFunction_eq : currentFunction builder = .ok (some id) builder := by
  rw [currentFunction, ask_eq filling.faultless, filling.cursor_eq]
  rfl

/-- Adding a load. -/
theorem load_eq (slot : Nat) :
    load ⟨id, slot⟩ builder = .ok (draft.emit (.load · slot)).1
      (builder.hold id (draft.emit (.load · slot)).2) := by
  rw [load, bind_attempt filling.faultless]
  exact emit_eq filling _

/-- Adding a store. -/
theorem store_eq (slot : Nat) (value : Operand) :
    store ⟨id, slot⟩ value builder =
      .ok ⟨⟩ (builder.hold id (draft.push (.store slot value))) := by
  rw [store, bind_attempt filling.faultless]
  exact emitEffect_eq filling _

/-- Adding a test of whether a number counts as true. -/
theorem truthTest_eq (value : Operand) :
    truthTest value builder = .ok (draft.emit (.truth · value)).1
      (builder.hold id (draft.emit (.truth · value)).2) := by
  rw [truthTest, bind_attempt filling.faultless]
  exact emit_eq filling _

/-- Adding arithmetic. -/
theorem arith_eq (operation : Arithmetic) (left right : Operand) :
    arith operation left right builder = .ok (draft.emit (.arith · operation left right)).1
      (builder.hold id (draft.emit (.arith · operation left right)).2) := by
  rw [arith, bind_attempt filling.faultless]
  exact emit_eq filling _

/-- Adding arithmetic or a comparison. -/
theorem operate_eq (operator : BuiltinOperator) (left right : Operand) :
    Lower.operate operator left right builder = .ok (draft.operate operator left right).1
      (builder.hold id (draft.operate operator left right).2) := by
  cases operator <;>
  · simp only [Lower.operate, arith, compare]
    rw [bind_attempt filling.faultless]
    exact emit_eq filling _

/-- Adding a call. -/
theorem call_eq (callee : Nat) (arguments : List Operand) :
    call callee arguments builder = .ok (draft.emit (.call · callee arguments)).1
      (builder.hold id (draft.emit (.call · callee arguments)).2) := by
  rw [call, bind_attempt filling.faultless]
  exact emit_eq filling _

/-- Adding a choice by the block that led here. -/
theorem phi_eq (incoming : List (Operand × Nat)) :
    phi (incoming.map fun (value, block) => (value, ⟨id, block⟩)) builder =
      .ok (draft.emit (.phi · incoming)).1 (builder.hold id (draft.emit (.phi · incoming)).2) := by
  rw [phi, bind_attempt filling.faultless, List.map_map]
  simp only [Function.comp_def, List.map_id']
  exact emit_eq filling _

/-- Ending the block with a branch. -/
theorem branch_eq (block : Nat) :
    branch ⟨id, block⟩ builder = .ok ⟨⟩ (builder.hold id (draft.finish (.branch block))) := by
  rw [branch, bind_attempt filling.faultless]
  exact terminate_eq filling _

/-- Ending the block with a choice between two blocks. -/
theorem conditionalBranch_eq (condition : Operand) (consequent alternative : Nat) :
    conditionalBranch condition ⟨id, consequent⟩ ⟨id, alternative⟩ builder =
      .ok ⟨⟩ (builder.hold id (draft.finish (.choose condition consequent alternative))) := by
  rw [conditionalBranch, bind_attempt filling.faultless]
  exact terminate_eq filling _

/-- Ending the block with a return. -/
theorem ret_eq (value : Operand) :
    ret value builder = .ok ⟨⟩ (builder.hold id (draft.finish (.ret value))) := by
  rw [ret, bind_attempt filling.faultless]
  exact terminate_eq filling _

end Filling

end Build

end Kaleidoscope
