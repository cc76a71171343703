import Kaleidoscope.Code.Machine
import Kaleidoscope.Proofs.Code.Draft

/-!
# Steps by place

What a step does depends on the place that the top frame has reached: the instruction there, or the
end of the block when there is none. Each lemma reads `State.step` for one kind of place.
-/
namespace Kaleidoscope.Code

/-- The effect of an instruction that is not a call, once the frame has moved past it. -/
def Frame.pass (frame : Frame) : Frame := { frame with position := frame.position + 1 }

namespace State

variable {environment : Environment} {unit : CodeUnit} {state : State} {routine : Routine}

/-- Where an instruction stands, the step is its effect. -/
theorem step_instruction {instruction : Instruction}
    (found : unit.routines[state.top.routine]? = some routine)
    (here : routine.instruction? state.top.block state.top.position = some instruction)
    (plain : ∀ target callee arguments, instruction ≠ .call target callee arguments) :
    state.step environment unit =
      match state.top.pass.execute instruction with
      | .ok top => .next { state with top := top }
      | .error error => state.fail error := by
  obtain ⟨block, inside, content⟩ := Option.bind_eq_some_iff.1 here
  rw [step, found]
  simp only [inside, content]
  cases instruction with
  | call target callee arguments => exact absurd rfl (plain target callee arguments)
  | _ => rfl

/-- Where a call stands, the step is the call. -/
theorem step_call {target callee : Nat} {arguments : List Operand}
    (found : unit.routines[state.top.routine]? = some routine)
    (here : routine.instruction? state.top.block state.top.position =
      some (.call target callee arguments)) :
    state.step environment unit =
      stepCall environment unit { state with top := state.top.pass } target callee arguments := by
  obtain ⟨block, inside, content⟩ := Option.bind_eq_some_iff.1 here
  rw [step, found]
  simp only [inside, content]
  rfl

/-- Where no instruction stands, the step is the end of the block. -/
theorem step_terminator {terminator : Terminator}
    (found : unit.routines[state.top.routine]? = some routine)
    (past : routine.instruction? state.top.block state.top.position = none)
    (ends : routine.terminator? state.top.block = some terminator) :
    state.step environment unit =
      match terminator with
      | .branch target => .next { state with top := state.top.jump target }
      | .choose condition consequent alternative =>
        let target := if state.top.read condition != 0 then consequent else alternative
        .next { state with top := state.top.jump target }
      | .ret value => state.stepReturn (state.top.read value) := by
  obtain ⟨block, inside, ended⟩ := Option.bind_eq_some_iff.1 ends
  have content : block.instructions[state.top.position]? = none := by
    simpa [Routine.instruction?, inside] using past
  rw [step, found]
  simp only [inside, content, ended]
  cases terminator <;> rfl

end State

end Kaleidoscope.Code
