import Mathlib.Data.List.Forall2
import Kaleidoscope.Proofs.Code.Execution
import Kaleidoscope.Proofs.Code.Lowered
import Kaleidoscope.Proofs.Meaning.Simulation

/-!
# Places in code and in evaluations

While an expression is evaluated, a run stands at the end of what a draft of its code holds so far
(`State.Reached`): the routine carries the draft (`Routine.Carries`), and the slots show the numbers
of the variables (`Cells`). Meanwhile nothing happens to the frames below, nor to the registers that
were written before the expression (`State.Since`).
-/
namespace Kaleidoscope.Code

/-! ## Code -/

/-- A routine in which all code of another stands, finished blocks as they are. -/
structure Routine.Carries (routine part : Routine) : Prop where
  /-- Instructions stand at their places. -/
  instruction : ∀ {block position : Nat} {instruction : Instruction},
    part.instruction? block position = some instruction →
    routine.instruction? block position = some instruction
  /-- Finished blocks have their ends and are no longer. -/
  ended : ∀ {block : Nat} {terminator : Terminator}, part.terminator? block = some terminator →
    routine.terminator? block = some terminator ∧ routine.extent block = part.extent block
  /-- There are registers enough. -/
  registers_le : part.registers ≤ routine.registers
  /-- There are slots enough. -/
  slots_le : part.slots.size ≤ routine.slots.size

/-- An operand whose register, if it is one, is among the first. -/
def Operand.Below (registers : Nat) : Operand → Prop
  | .register index => index < registers
  | _ => True

namespace Draft

/-- A later stage of a draft with at least as many registers and slots. -/
structure Stage (before after : Draft) : Prop where
  /-- It is a later stage. -/
  extension : Extends before after
  /-- Registers are only added. -/
  registers_le : before.routine.registers ≤ after.routine.registers
  /-- Slots are only added. -/
  slots_le : before.slotCount ≤ after.slotCount

variable {first second third draft : Draft}

namespace Stage

/-- The block being filled is open. -/
theorem isOpen (stage : Stage first second) : second.Open := stage.extension.isOpen

theorem refl (isOpen : draft.Open) : Stage draft draft :=
  ⟨.refl isOpen, Nat.le_refl _, Nat.le_refl _⟩

theorem trans (front : Stage first second) (back : Stage second third) : Stage first third :=
  ⟨front.extension.trans back.extension, Nat.le_trans front.registers_le back.registers_le,
    Nat.le_trans front.slots_le back.slots_le⟩

theorem push (isOpen : draft.Open) (instruction : Instruction)
    (plain : instruction.isPhi = false) : Stage draft (draft.push instruction) :=
  ⟨extends_push isOpen instruction plain, Nat.le_refl _, Nat.le_refl _⟩

theorem emit (isOpen : draft.Open) (make : Nat → Instruction)
    (plain : (make draft.routine.registers).isPhi = false) : Stage draft (draft.emit make).2 :=
  ⟨(extends_count isOpen).trans (extends_push (extends_count isOpen).isOpen _ plain),
    Nat.le_succ _, Nat.le_refl _⟩

theorem reserve (isOpen : draft.Open) (name : String) : Stage draft (draft.reserve name) :=
  ⟨extends_reserve isOpen name, Nat.le_refl _, by simp [slotCount]⟩

end Stage

/-- A scope whose variables have slots of their own. -/
structure Lays (scope : Scope Nat) (slots : Nat) : Prop where
  /-- The slots exist. -/
  fits : Fits scope slots
  /-- No two variables have the same one. -/
  distinct : (scope.bindings.map (·.2)).Nodup

namespace Lays

variable {scope : Scope Nat} {slots : Nat}

theorem mono {more : Nat} (lays : Lays scope slots) (le : slots ≤ more) : Lays scope more :=
  ⟨lays.fits.mono le, lays.distinct⟩

/-- A new variable gets the next slot. -/
theorem bind (lays : Lays scope slots) (name : String) : Lays (scope.bind name slots) (slots + 1) where
  fits := lays.fits.bind name
  distinct := by
    refine List.nodup_cons.2 ⟨fun member => ?_, lays.distinct⟩
    obtain ⟨entry, listed, same⟩ := List.mem_map.1 member
    exact Nat.ne_of_lt (lays.fits entry listed) same

/-- So does a variable whose slot is added to a draft. -/
theorem introduce (lays : Lays scope draft.slotCount) (name : String) (instruction : Instruction) :
    Lays (scope.bind name draft.slotCount) ((draft.reserve name).push instruction).slotCount := by
  have grown : ((draft.reserve name).push instruction).slotCount = draft.slotCount + 1 := by
    simp [slotCount]
  rw [grown]
  exact lays.bind name

end Lays

namespace Flow

variable {parameters : Nat} {allowed : Nat → Nat → Prop} {before after : Draft}
  {beforeWritten afterWritten : List Nat}

/-- Registers are only added. -/
theorem registers_le (flow : Flow parameters allowed before beforeWritten after afterWritten) :
    before.routine.registers ≤ after.routine.registers := by
  induction flow with
  | refl draft written => exact Nat.le_refl _
  | trans front back frontLe backLe => exact Nat.le_trans frontLe backLe
  | emit => exact Nat.le_succ _
  | store fits ready => exact Nat.le_refl _
  | reserve draft written name => exact Nat.le_refl _
  | branch ready consequent firstReady alternative secondReady firstLe secondLe =>
    exact Nat.le_trans (Nat.le_trans firstLe secondLe) (Nat.le_succ _)
  | loop body ready bodyLe => exact bodyLe

/-- Registers that have been written exist. -/
theorem bounded (flow : Flow parameters allowed before beforeWritten after afterWritten)
    (bound : ∀ register ∈ beforeWritten, register < before.routine.registers) :
    ∀ register ∈ afterWritten, register < after.routine.registers := by
  induction flow with
  | refl draft written => exact bound
  | trans front back frontBound backBound => exact backBound (frontBound bound)
  | emit instruction target plain ready fits =>
    intro register member
    rcases List.mem_cons.1 member with rfl | old
    · exact Nat.lt_succ_self _
    · exact Nat.lt_succ_of_lt (bound register old)
  | store fits ready => exact bound
  | reserve draft written name => exact bound
  | branch ready consequent firstReady alternative secondReady firstBound secondBound =>
    intro register member
    rcases List.mem_cons.1 member with rfl | old
    · exact Nat.lt_succ_self _
    · have front := consequent.registers_le
      have back := alternative.registers_le
      have here := bound register old
      simp at front back ⊢
      omega
  | loop body ready bodyBound => exact bodyBound bound

/-- Growth leads from an open block to a later stage. -/
theorem stage (flow : Flow parameters allowed before beforeWritten after afterWritten)
    (isOpen : before.Open) : Stage before after :=
  ⟨flow.extension isOpen, flow.registers_le, flow.slotCount_le⟩

end Flow

section Lowering

variable (callee : String → Nat) (scope : Scope Nat)

/-- What is yielded by growth from a place where nothing needs to be written stands in a register
that exists. -/
theorem Flows.stage {parameters : Nat} {allowed : Nat → Nat → Prop} {result : Operand × Draft}
    (flows : Flows parameters allowed draft [] result) (isOpen : draft.Open) :
    Stage draft result.2 ∧ result.1.Below result.2.routine.registers := by
  obtain ⟨after, flow, ready⟩ := flows
  refine ⟨flow.stage isOpen, ?_⟩
  cases yielded : result.1 with
  | register index =>
    rw [yielded] at ready
    exact flow.bounded (by simp) index ready
  | _ => trivial

/-- The code of an expression makes a later stage. -/
theorem stage_lower (expr : Expr) (closed : expr.Scoped scope.names) (isOpen : draft.Open)
    (lays : Lays scope draft.slotCount) :
    Stage draft (lower callee scope expr draft).2 ∧
      (lower callee scope expr draft).1.Below (lower callee scope expr draft).2.routine.registers := by
  have flows : Flows 0 (fun _ _ => True) draft [] (lower callee scope expr draft) :=
    lower_flow scope draft [] expr closed lays.fits fun _ _ => trivial
  exact flows.stage isOpen

/-- The code of an expression that may be left out makes a later stage. -/
theorem stage_lowerOptional (absent : Float) (expr : Option Expr)
    (closed : Expr.IsOptionalScoped scope.names expr) (isOpen : draft.Open)
    (lays : Lays scope draft.slotCount) :
    Stage draft (lowerOptional callee scope absent expr draft).2 ∧
      (lowerOptional callee scope absent expr draft).1.Below
        (lowerOptional callee scope absent expr draft).2.routine.registers := by
  have flows : Flows 0 (fun _ _ => True) draft [] (lowerOptional callee scope absent expr draft) :=
    lowerOptional_flow scope absent draft [] expr closed lays.fits fun _ _ => trivial
  exact flows.stage isOpen

/-- The code of arguments makes a later stage, with an operand for each of them. -/
theorem stage_lowerArguments (exprs : List Expr)
    (closed : Expr.AreScoped scope.names exprs) (isOpen : draft.Open)
    (lays : Lays scope draft.slotCount) :
    Stage draft (lowerArguments callee scope exprs draft).2 ∧
      (lowerArguments callee scope exprs draft).1.length = exprs.length := by
  obtain ⟨after, flow, _, count⟩ := @lowerArguments_flow 0 (fun _ _ => True) callee scope
    draft [] exprs closed lays.fits fun _ _ => trivial
  exact ⟨flow.stage isOpen, count⟩

end Lowering

end Draft

namespace Routine.Carries

variable {routine : Routine} {draft before after : Draft}

/-- All code of a routine stands in itself. -/
theorem refl (routine : Routine) : routine.Carries routine :=
  ⟨id, fun found => ⟨found, rfl⟩, Nat.le_refl _, Nat.le_refl _⟩

/-- What carries a later stage carries the earlier one. -/
theorem earlier (carries : routine.Carries after.routine) (stage : Draft.Stage before after)
    (isOpen : before.Open) : routine.Carries before.routine where
  instruction := by
    intro block position instruction found
    refine carries.instruction ?_
    rw [stage.extension.kept (lt_size_of_instruction? found)]
    · exact found
    · exact fun _ => lt_extent_of_instruction? found
  ended := by
    intro block terminator found
    have inside := lt_size_of_terminator? found
    have other : block ≠ before.block := by
      rintro rfl
      rw [isOpen.endless] at found
      contradiction
    rw [← stage.extension.terminator_eq inside other] at found
    rw [← stage.extension.extent_eq inside other]
    exact carries.ended found
  registers_le := Nat.le_trans stage.registers_le carries.registers_le
  slots_le := Nat.le_trans stage.slots_le carries.slots_le

/-- What carries a draft with one more instruction carries the draft, and the instruction. -/
theorem push {instruction : Instruction} (carries : routine.Carries (draft.push instruction).routine)
    (isOpen : draft.Open) : routine.Carries draft.routine ∧
      routine.instruction? draft.block (draft.routine.extent draft.block) = some instruction := by
  have added := draft.instruction?_push isOpen.inside instruction
  refine ⟨⟨?_, ?_, carries.registers_le, carries.slots_le⟩, ?_⟩
  · intro block position other found
    refine carries.instruction ?_
    rw [added, if_neg]
    · exact found
    · rintro ⟨rfl, rfl⟩
      rw [instruction?_eq_none_of_le (Nat.le_refl _)] at found
      contradiction
  · intro block terminator found
    have other : block ≠ draft.block := by
      rintro rfl
      rw [isOpen.endless] at found
      contradiction
    have ended := carries.ended (by rwa [Draft.terminator?_push])
    rwa [draft.extent_push isOpen.inside, if_neg other] at ended
  · refine carries.instruction ?_
    rw [added, if_pos ⟨rfl, rfl⟩]

/-- What carries a draft with one more register and instruction carries the draft. -/
theorem emit {make : Nat → Instruction} (carries : routine.Carries (draft.emit make).2.routine)
    (isOpen : draft.Open) : routine.Carries draft.routine := by
  obtain ⟨inner, _⟩ := carries.push ⟨isOpen.inside, isOpen.endless⟩
  exact { inner with registers_le := Nat.le_of_succ_le inner.registers_le }

/-- What carries a draft whose block has been ended carries the draft, and the end of the block. -/
theorem finish {terminator : Terminator} (carries : routine.Carries (draft.finish terminator).routine)
    (isOpen : draft.Open) : routine.Carries draft.routine ∧
      routine.terminator? draft.block = some terminator ∧
      routine.extent draft.block = draft.routine.extent draft.block := by
  have ends := draft.terminator?_finish isOpen.inside terminator
  refine ⟨⟨?_, ?_, carries.registers_le, carries.slots_le⟩, ?_⟩
  · intro block position other found
    exact carries.instruction (by rwa [Draft.instruction?_finish])
  · intro block other found
    have different : block ≠ draft.block := by
      rintro rfl
      rw [isOpen.endless] at found
      contradiction
    have ended := carries.ended (by rw [ends, if_neg different]; exact found)
    rwa [Draft.extent_finish] at ended
  · have ended := carries.ended (by rw [ends, if_pos rfl])
    rwa [Draft.extent_finish] at ended

/-- What carries a draft with one more block carries the draft. -/
theorem append {name : String} (carries : routine.Carries (draft.append name).routine) :
    routine.Carries draft.routine where
  instruction found := carries.instruction (by rwa [Draft.instruction?_append])
  ended found := by
    have ended := carries.ended (by rwa [Draft.terminator?_append])
    rwa [Draft.extent_append] at ended
  registers_le := carries.registers_le
  slots_le := carries.slots_le

/-- What carries a draft that has been left carries the draft, and the way on. -/
theorem leaveTo {target next : Nat} (carries : routine.Carries (draft.leaveTo target next).routine)
    (isOpen : draft.Open) : routine.Carries draft.routine ∧
      routine.terminator? draft.block = some (.branch target) ∧
      routine.extent draft.block = draft.routine.extent draft.block :=
  finish carries isOpen

/-- A draft with one more block is open still. -/
theorem isOpen_append (isOpen : draft.Open) (name : String) : (draft.append name).Open :=
  ⟨by simpa using Nat.lt_succ_of_lt isOpen.inside, by simpa using isOpen.endless⟩

/-- What carries a draft that has been forked carries the draft, and the fork. -/
theorem fork {condition : Operand} (carries : routine.Carries (draft.fork condition).routine)
    (isOpen : draft.Open) : routine.Carries draft.routine ∧
      routine.terminator? draft.block = some (.choose condition draft.size (draft.size + 1)) ∧
      routine.extent draft.block = draft.routine.extent draft.block := by
  obtain ⟨inner, ends, extent⟩ := finish carries
    (isOpen_append (isOpen_append (isOpen_append isOpen _) _) _)
  exact ⟨inner.append.append.append, ends, by simpa using extent⟩

/-- What carries a draft in which a loop has been entered carries the draft, and the way on. -/
theorem enterLoop (carries : routine.Carries draft.enterLoop.routine) (isOpen : draft.Open) :
    routine.Carries draft.routine ∧
      routine.terminator? draft.block = some (.branch draft.size) ∧
      routine.extent draft.block = draft.routine.extent draft.block := by
  obtain ⟨inner, ends, extent⟩ := finish carries (isOpen_append isOpen _)
  exact ⟨inner.append, ends, by simpa using extent⟩

/-- What carries a draft in which a loop has been left carries the draft, and the choice. -/
theorem leaveLoop {condition : Operand} {head : Nat}
    (carries : routine.Carries (draft.leaveLoop condition head).routine) (isOpen : draft.Open) :
    routine.Carries draft.routine ∧
      routine.terminator? draft.block = some (.choose condition head draft.size) ∧
      routine.extent draft.block = draft.routine.extent draft.block := by
  obtain ⟨inner, ends, extent⟩ := finish carries (isOpen_append isOpen _)
  exact ⟨inner.append, ends, by simpa using extent⟩

end Routine.Carries

end Kaleidoscope.Code
