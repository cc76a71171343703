import Kaleidoscope.Proofs.Meaning.Runs

/-!
# Running code by recursion

Code can be run without frames to return to. The blocks of a routine are executed one after the
other, and the instructions of a block in order; where a call stands, the routine called is run by
recursion, in a frame of its own, and leaves its number in a register (`CodeUnit.evaluate`). As in the
evaluation of expressions, the frames that may still be opened bound how deeply calls nest, and each
frame is given a number of rounds, here of blocks. Of the store only the calls of host functions are
used, since code keeps its numbers in frames.

Running code step by step gives the same, whether the code is well formed or not
(`CodeUnit.run_iff_evaluate`).
-/
namespace Kaleidoscope

namespace Code

namespace Recursion

section Rules

variable (call : Nat → List Float → Evaluation Float)

/-- Execute instructions in order. A call changes nothing in the frame but the register for its
number. -/
def instructions : List Instruction → Frame → Evaluation Frame
  | [], frame => return frame
  | .call target callee arguments :: rest, frame => do
    let value ← call callee (arguments.map frame.read)
    instructions rest (frame.write target value)
  | instruction :: rest, frame =>
    match frame.execute instruction with
    | .ok next => instructions rest next
    | .error error => throw (.error error)

/-- Execute blocks from that of the frame on, up to a return. -/
def blocks (routine : Routine) : Nat → Frame → Evaluation Float
  | 0, _ => throw .unfinished
  | rounds + 1, frame =>
    match routine.blocks[frame.block]? with
    | none => throw (.error (.invalidHandle .block))
    | some block => do
      let frame ← instructions call block.instructions.toList frame
      match block.terminator with
      | some (.branch target) => blocks routine rounds (frame.jump target)
      | some (.choose condition consequent alternative) =>
        let target := if frame.read condition != 0 then consequent else alternative
        blocks routine rounds (frame.jump target)
      | some (.ret value) => return frame.read value
      | none => throw (.error (.unterminatedBlock routine.name block.name))

end Rules

/-- Call a routine while some number of further frames may be open: the limit less the frames that
are. -/
def callWithin (environment : Environment) (unit : CodeUnit) (rounds : Nat) :
    Nat → Nat → List Float → Evaluation Float
  | frames, callee, values =>
    match unit.routines[callee]? with
    | none => throw (.error (.invalidHandle .routine))
    | some routine =>
      if routine.hasBody then
        match frames with
        | 0 => throw (.error (.callDepthExceeded environment.limit))
        | frames + 1 =>
          blocks (callWithin environment unit rounds frames) routine rounds
            (.enter callee routine values none)
      else Meaning.callHost environment.host routine.name values.length values

end Recursion

end Code

/-- Run a routine by recursion after some calls of host functions: its result and all calls up to its
end, if the rounds suffice. Its own frame is always opened. -/
def CodeUnit.evaluate (environment : Code.Environment) (unit : CodeUnit) (rounds : Nat)
    (calls : Array HostCall) (entry : Nat) : Option (Except CodeError Float × Array HostCall) :=
  match unit.routines[entry]? with
  | none => some (.error (.invalidHandle .routine), calls)
  | some routine =>
    if !routine.parameters.isEmpty then some (.error (.missingParameter routine.name 0), calls)
    else
      let action :=
        if routine.hasBody then
          Code.Recursion.blocks
            (Code.Recursion.callWithin environment unit rounds (environment.limit - 1)) routine rounds
            (.enter entry routine [] none)
        else Meaning.callHost environment.host routine.name 0 []
      Meaning.outcome? (action ⟨.empty, calls⟩)

namespace Code

namespace Frame

/-- The frame at a position of its block, whose number goes to a register of the caller. -/
def seat (frame : Frame) (position : Nat) (result : Option Nat) : Frame :=
  { frame with position := position, result := result }

variable {frame next : Frame} {position : Nat} {result : Option Nat} {instruction : Instruction}

/-- Operands are read in the same way at every position. -/
theorem read_seat (frame : Frame) (position : Nat) (result : Option Nat) :
    (frame.seat position result).read = frame.read := by
  funext operand
  cases operand <;> rfl

/-- An instruction has the same effect at every position. -/
theorem execute_seat (frame : Frame) (position : Nat) (result : Option Nat)
    (instruction : Instruction) :
    (frame.seat position result).execute instruction =
      (frame.execute instruction).map (·.seat position result) := by
  cases instruction with
  | load target slot =>
    have same : (frame.seat position result).slots = frame.slots := rfl
    simp only [execute, same]
    cases frame.slots[slot]? <;> rfl
  | store slot value =>
    have same : (frame.seat position result).slots = frame.slots := rfl
    simp only [execute, same, read_seat]
    split <;> rfl
  | phi target incoming =>
    have same : (frame.seat position result).previous = frame.previous := rfl
    simp only [execute, same, read_seat]
    split <;> rfl
  | _ =>
    simp only [execute, read_seat]
    rfl

/-- An instruction leaves the frame in its block. -/
theorem stays_of_execute (executed : frame.execute instruction = .ok next) :
    next.routine = frame.routine ∧ next.block = frame.block := by
  cases instruction <;> simp only [execute] at executed
  case load | store | phi =>
    split at executed
    · cases executed
      exact ⟨rfl, rfl⟩
    · contradiction
  all_goals
    cases executed
    exact ⟨rfl, rfl⟩

end Frame

namespace Recursion

variable {environment : Environment} {unit : CodeUnit} {routine : Routine} {bound rounds depth : Nat}
  {call : Nat → List Float → Evaluation Float}

/-- Runs follow a rule for calls while some number of frames is open: wherever a call stands, the run
goes on behind it with the number that the rule gives. -/
def Follows (environment : Environment) (unit : CodeUnit) (bound depth : Nat)
    (call : Nat → List Float → Evaluation Float) : Prop :=
  ∀ (state moved : State) (store : Store) (target callee : Nat) (operands : List Operand),
    moved.depth = depth → moved.calls = store.calls →
    state.step environment unit = moved.stepCall environment unit target callee operands →
    Simulates environment unit bound state
      (fun value after last =>
        last = { moved with top := moved.top.write target value, calls := after.calls })
      (call callee (operands.map moved.top.read) store)

/-- An instruction that is no call has its effect. -/
theorem instructions_cons {instruction : Instruction} (rest : List Instruction) (frame : Frame)
    (plain : ∀ target callee arguments, instruction ≠ .call target callee arguments) :
    instructions call (instruction :: rest) frame =
      match frame.execute instruction with
      | .ok next => instructions call rest next
      | .error error => throw (.error error) := by
  cases instruction with
  | call target callee arguments => exact absurd rfl (plain target callee arguments)
  | _ => rfl

/-- Executing the instructions of a block is followed, from any position of the block. -/
theorem follows_instructions {block : Block} {callers : Array Frame} (result : Option Nat)
    (follow : Follows environment unit bound depth call) (opened : callers.size + 1 = depth)
    (list : List Instruction) : ∀ (frame : Frame) {position : Nat} (store : Store),
    unit.routines[frame.routine]? = some routine → routine.blocks[frame.block]? = some block →
    block.instructions.toList.drop position = list →
    Simulates environment unit bound ⟨frame.seat position result, callers, store.calls⟩
      (fun after final last => after.routine = frame.routine ∧ after.block = frame.block ∧
        ∃ past, block.instructions.size ≤ past ∧
          last = ⟨after.seat past result, callers, final.calls⟩)
      (instructions call list frame store) := by
  induction list with
  | nil =>
    intro frame position store found inside ahead
    have past : block.instructions.size ≤ position := by
      simpa using List.drop_eq_nil_iff.1 ahead
    exact .pure ⟨rfl, rfl, position, past, rfl⟩
  | cons instruction rest hypothesis =>
    intro frame position store found inside ahead
    have following : block.instructions.toList.drop (position + 1) = rest := by
      rw [← List.tail_drop, ahead, List.tail_cons]
    have here : routine.instruction? frame.block position = some instruction := by
      have first : (block.instructions.toList.drop position)[0]? = some instruction := by
        rw [ahead, List.getElem?_cons_zero]
      rw [List.getElem?_drop, Nat.add_zero, Array.getElem?_toList] at first
      rw [Routine.instruction?, inside, Option.bind_some, first]
    by_cases plain : ∀ target callee arguments, instruction ≠ .call target callee arguments
    · have moved := @State.step_instruction environment unit
        ⟨frame.seat position result, callers, store.calls⟩ routine instruction found here plain
      have passed : (frame.seat position result).pass = frame.seat (position + 1) result := rfl
      rw [passed, Frame.execute_seat] at moved
      rw [instructions_cons rest frame plain]
      cases executed : frame.execute instruction with
      | error error =>
        rw [executed] at moved
        exact .error moved
      | ok next =>
        rw [executed] at moved
        obtain ⟨sameRoutine, sameBlock⟩ := Frame.stays_of_execute executed
        have later := hypothesis next store (sameRoutine ▸ found) (sameBlock ▸ inside) following
        rw [sameRoutine, sameBlock] at later
        exact (Simulates.step moved later).weaken (Nat.le_succ bound)
    · obtain ⟨target, callee, arguments, rfl⟩ : ∃ target callee arguments,
          instruction = .call target callee arguments := by
        simpa using plain
      have called := follow ⟨frame.seat position result, callers, store.calls⟩
        ⟨frame.seat (position + 1) result, callers, store.calls⟩ store target callee arguments opened
        rfl (State.step_call found here)
      simp only [Frame.read_seat] at called
      rw [instructions]
      refine called.bind fun value middle after arrived => ?_
      subst arrived
      exact hypothesis (frame.write target value) middle found inside following

/-- Executing blocks is followed up to the return. -/
theorem follows_blocks (callers : Array Frame) (result : Option Nat)
    (follow : Follows environment unit bound depth call) (opened : callers.size + 1 = depth) :
    ∀ (rounds : Nat) (_ : rounds ≤ bound) (frame : Frame) (store : Store),
      unit.routines[frame.routine]? = some routine →
      Simulates environment unit rounds ⟨frame.seat 0 result, callers, store.calls⟩
        (fun value final last => last.callers = callers ∧ last.top.result = result ∧
          last.calls = final.calls ∧ last.step environment unit = last.stepReturn value)
        (blocks call routine rounds frame store) := by
  intro rounds
  induction rounds with
  | zero => exact fun _ _ _ _ => ⟨0, _, Nat.le_refl 0, .refl _⟩
  | succ rounds hypothesis =>
    intro enough frame store found
    rw [blocks]
    cases inside : routine.blocks[frame.block]? with
    | none =>
      refine .error ?_
      have same : (frame.seat 0 result).block = frame.block := rfl
      have own : (frame.seat 0 result).routine = frame.routine := rfl
      rw [State.step, own, found]
      simp only [same, inside]
      rfl
    | some block =>
      have executed := (follows_instructions result follow opened _ frame store found inside
        List.drop_zero).weaken enough
      refine executed.bind fun after middle last arrived => ?_
      obtain ⟨sameRoutine, sameBlock, past, beyond, rfl⟩ := arrived
      have here : unit.routines[(after.seat past result).routine]? = some routine := by
        rw [← found, ← sameRoutine]
        rfl
      have content : routine.blocks[(after.seat past result).block]? = some block := by
        rw [← inside, ← sameBlock]
        rfl
      have spent : routine.instruction? (after.seat past result).block past = none := by
        rw [Routine.instruction?, content, Option.bind_some]
        exact Array.getElem?_eq_none beyond
      have jumps : ∀ {target : Nat}, State.step environment unit
            ⟨after.seat past result, callers, middle.calls⟩ =
            .next ⟨(after.jump target).seat 0 result, callers, middle.calls⟩ →
          Simulates environment unit (rounds + 1) ⟨after.seat past result, callers, middle.calls⟩
            (fun value final last => last.callers = callers ∧ last.top.result = result ∧
              last.calls = final.calls ∧ last.step environment unit = last.stepReturn value)
            (blocks call routine rounds (after.jump target) middle) := by
        intro target moved
        have own : unit.routines[(after.jump target).routine]? = some routine := here
        exact .step moved (hypothesis (Nat.le_of_succ_le enough) _ middle own)
      cases ends : block.terminator with
      | none =>
        refine .error ?_
        have nothing : block.instructions[past]? = none := Array.getElem?_eq_none beyond
        have position : (after.seat past result).position = past := rfl
        rw [State.step, here]
        simp only [content, position, nothing, ends]
        rfl
      | some terminator =>
        have last : routine.terminator? (after.seat past result).block = some terminator := by
          rw [Routine.terminator?, content, Option.bind_some, ends]
        have moved := @State.step_terminator environment unit
          ⟨after.seat past result, callers, middle.calls⟩ routine terminator here spent last
        cases terminator with
        | branch target => exact jumps moved
        | choose condition consequent alternative =>
          simp only [Frame.read_seat] at moved
          exact jumps moved
        | ret value =>
          simp only [Frame.read_seat] at moved
          exact .pure ⟨rfl, rfl, rfl, moved⟩

variable (environment unit rounds) in
/-- Calls are followed, whatever number of frames is open. -/
theorem follows_callWithin (frames : Nat) : ∀ {depth : Nat}, environment.limit - depth = frames →
    Follows environment unit rounds depth (callWithin environment unit rounds frames) := by
  induction frames using Nat.strongRecOn with
  | ind frames hypothesis =>
    intro depth left state moved store target callee operands opened same step
    rw [State.stepCall] at step
    rw [callWithin]
    cases found : unit.routines[callee]? with
    | none =>
      simp only [found, State.fail, same] at step
      exact .error step
    | some routine =>
      simp only [found] at step ⊢
      by_cases filled : routine.hasBody = true
      · rw [if_pos filled] at step
        rw [if_pos filled]
        cases frames with
        | zero =>
          have full : environment.limit ≤ moved.depth := by omega
          rw [if_pos full, State.fail, same] at step
          exact .error step
        | succ frames =>
          have room : ¬environment.limit ≤ moved.depth := by omega
          rw [if_neg room, same] at step
          have deeper : (moved.callers.push moved.top).size + 1 = depth + 1 := by
            rw [Array.size_push, ← opened, State.depth]
          have inner : Follows environment unit rounds (depth + 1)
              (callWithin environment unit rounds frames) :=
            hypothesis frames (Nat.lt_succ_self frames) (by omega)
          have executed := follows_blocks _ (some target) inner deeper rounds (Nat.le_refl rounds)
            (.enter callee routine (operands.map moved.top.read) none) store found
          refine (Simulates.step step (executed.further ?_)).weaken (Nat.le_succ rounds)
          rintro value final last ⟨callers, result, made, returns⟩
          refine ⟨1, _, .step (returns.trans ?_) (.refl _), rfl⟩
          rw [State.stepReturn, callers, Array.back?_push]
          simp only [result, made, Array.pop_push]
      · rw [if_neg filled] at step
        rw [if_neg filled]
        exact (follows_callHost rfl same step).imp fun _ _ _ arrived => arrived.2

end Recursion

end Code

namespace CodeUnit

open Code Recursion

variable {environment : Environment} {unit : CodeUnit} {entry : Nat}

variable (environment) in
/-- The run of a routine with a body follows its evaluation by recursion. -/
theorem follows_entry {routine : Routine} (rounds : Nat) (calls : Array HostCall)
    (found : unit.routines[entry]? = some routine) :
    Simulates environment unit rounds ⟨.enter entry routine [] none, #[], calls⟩
      (fun value store last => last.step environment unit = .done (.ok value) store.calls)
      (blocks (callWithin environment unit rounds (environment.limit - 1)) routine rounds
        (.enter entry routine [] none) ⟨.empty, calls⟩) := by
  have follow := follows_callWithin environment unit rounds (environment.limit - 1) rfl
  have executed := follows_blocks #[] none follow rfl rounds (Nat.le_refl rounds)
    (.enter entry routine [] none) ⟨.empty, calls⟩ found
  refine executed.imp ?_
  rintro value final last ⟨callers, _, made, returns⟩
  rw [returns, State.stepReturn, callers, made]
  rfl

/-- Running a routine step by step comes to an end exactly if evaluating it by recursion does, with
the same number or error after the same calls of host functions. -/
theorem run_iff_evaluate (environment : Environment) (unit : CodeUnit) (calls : Array HostCall)
    (entry : Nat) (outcome : Except CodeError Float × Array HostCall) :
    (∃ steps, unit.run environment steps calls entry = some outcome) ↔
      ∃ rounds, unit.evaluate environment rounds calls entry = some outcome := by
  simp only [run, launch, evaluate]
  cases found : unit.routines[entry]? with
  | none => simp
  | some routine =>
    by_cases bare : routine.parameters.isEmpty = true
    · by_cases filled : routine.hasBody = true
      · have follows := fun rounds => follows_entry environment rounds calls found
        simp only [bare, filled, Bool.not_true, Bool.false_eq_true, if_false, if_true]
        constructor
        · rintro ⟨steps, halted⟩
          exact ⟨steps, (follows steps).outcome_of_iterate halted (Nat.le_refl steps)⟩
        · rintro ⟨rounds, ends⟩
          exact (follows rounds).iterate_of_outcome ends
      · simp only [bare, filled, Bool.not_true, Bool.false_eq_true, if_false, Code.callHost,
          Meaning.callHost, Bind.bind, EStateM.bind, List.length_nil, get_apply]
        cases environment.host.find? routine.name 0 <;> constructor <;> rintro ⟨_, same⟩ <;>
          exact ⟨0, same⟩
    · simp [bare]

end CodeUnit

end Kaleidoscope
