import Kaleidoscope.Proofs.Code.Execution
import Kaleidoscope.Proofs.Code.WellFormed

/-!
# Running well-formed code

A register that has not been written holds zero, and so does an argument that was not passed; a
program must never see either. To say so, a run is recorded together with the registers written so
far in each open frame (`State.Recorded`). In a unit of well-formed routines every operand that is
about to be read has been set (`State.Recorded.holds_of_reads`), and a run that ends with an error
has met a missing host function or too many open frames (`State.Recorded.error_of_done`).
-/
namespace Kaleidoscope

/-- A unit whose bodies are all well formed. -/
def CodeUnit.WellFormed (unit : CodeUnit) : Prop :=
  ∀ {id : Nat} {routine : Code.Routine}, unit.routines[id]? = some routine →
    routine.hasBody = true → routine.WellFormed unit

namespace Code

/-- The registers that have been written in the open frames. -/
structure Written where
  /-- In the frame being executed. -/
  top : List Nat
  /-- In the frames of its callers, the nearest first. -/
  callers : List (List Nat)

/-- An operand whose number has been set. -/
def Frame.Holds (frame : Frame) (written : List Nat) : Operand → Prop
  | .number _ => True
  | .register register => register ∈ written ∧ register < frame.registers.size
  | .parameter index => index < frame.arguments.length

namespace State

/-- The instruction that comes next, if the block has one left. -/
def instruction? (unit : CodeUnit) (state : State) : Option Instruction :=
  unit.routines[state.top.routine]?.bind (·.instruction? state.top.block state.top.position)

/-- The end of the block being executed. -/
def terminator? (unit : CodeUnit) (state : State) : Option Terminator :=
  unit.routines[state.top.routine]?.bind (·.terminator? state.top.block)

/-- The operands that the next step reads. -/
def reads (unit : CodeUnit) (state : State) : List Operand :=
  match state.instruction? unit with
  | some instruction => instruction.reads state.top.previous
  | none => ((state.terminator? unit).map Terminator.operands).getD []

/-- The registers that have been written after the next step. -/
def record (unit : CodeUnit) (state : State) (written : Written) : Written :=
  match state.instruction? unit with
  | some (.call target callee _) =>
    if unit.routines[callee]?.any Routine.hasBody then ⟨[], written.top :: written.callers⟩
    else ⟨target :: written.top, written.callers⟩
  | some instruction => ⟨instruction.target?.toList ++ written.top, written.callers⟩
  | none =>
    match state.terminator? unit, written.callers with
    | some (.ret _), caller :: rest => ⟨state.top.result.toList ++ caller, rest⟩
    | _, _ => written

/-- The states of a run, each with the registers written by then. -/
inductive Recorded (environment : Environment) (unit : CodeUnit) (calls : Array HostCall)
    (entry : Nat) : State → Written → Prop
  /-- Nothing is written at the start. -/
  | start {state : State} (launched : unit.launch environment calls entry = .next state) :
      Recorded environment unit calls entry state ⟨[], []⟩
  /-- Each step writes to at most one register. -/
  | step {state next : State} {written : Written}
      (before : Recorded environment unit calls entry state written)
      (moved : state.step environment unit = .next next) :
      Recorded environment unit calls entry next (state.record unit written)

end State

/-- A frame that has come to its place on a walk on which all registers have been written that must
be, but for one whose value is still awaited. -/
structure Frame.Tracks (unit : CodeUnit) (routine : Routine) (passed : List Nat)
    (awaited : Option Nat) (written : List Nat) (frame : Frame) : Prop where
  /-- The routine is that of the frame. -/
  found : unit.routines[frame.routine]? = some routine
  /-- It is well formed. -/
  wellFormed : routine.WellFormed unit
  /-- The frame has a register for each of the routine. -/
  registers_size : frame.registers.size = routine.registers
  /-- It has a slot for each of the routine. -/
  slots_size : frame.slots.size = routine.slots.size
  /-- It has an argument for each parameter. -/
  arguments_length : frame.arguments.length = routine.parameters.length
  /-- The block exists. -/
  inside : frame.block < routine.blocks.size
  /-- The blocks passed form a walk. -/
  walk : routine.Walk passed frame.block
  /-- The last of them is the previous block. -/
  previous_eq : frame.previous = passed.head?
  /-- What is written on the walk has been written. -/
  complete : ∀ register, routine.WrittenOn passed frame.block frame.position register →
    register ∈ written ∨ awaited = some register

namespace Frame.Tracks

variable {environment : Environment} {unit : CodeUnit} {routine : Routine} {passed : List Nat}
  {awaited : Option Nat} {written : List Nat} {frame : Frame}

/-- Operands of the instruction at the place of a frame have been set. -/
theorem holds_of_instruction (tracks : frame.Tracks unit routine passed none written)
    {instruction : Instruction}
    (here : routine.instruction? frame.block frame.position = some instruction)
    {operand : Operand} (member : operand ∈ instruction.reads frame.previous) :
    frame.Holds written operand := by
  have used : operand ∈ instruction.operands := by
    cases instruction with
    | phi target incoming =>
      obtain ⟨value, listed, same⟩ := List.mem_map.1 member
      exact List.mem_map.2 ⟨value, (List.mem_filter.1 listed).1, same⟩
    | _ => exact member
  cases operand with
  | number value => exact trivial
  | parameter index =>
    show index < frame.arguments.length
    rw [tracks.arguments_length]
    exact tracks.wellFormed.parameter_lt here used
  | register register =>
    refine ⟨?_, ?_⟩
    · rw [tracks.previous_eq] at member
      have before := tracks.wellFormed.written_before tracks.walk here member
      exact (tracks.complete register before).resolve_right (by simp)
    · rw [tracks.registers_size]
      exact tracks.wellFormed.operand_register_lt here used

/-- Operands of the end of a block have been set. -/
theorem holds_of_terminator (tracks : frame.Tracks unit routine passed none written)
    {terminator : Terminator} (past : routine.instruction? frame.block frame.position = none)
    (ends : routine.terminator? frame.block = some terminator) {operand : Operand}
    (member : operand ∈ terminator.operands) : frame.Holds written operand := by
  cases operand with
  | number value => exact trivial
  | parameter index =>
    show index < frame.arguments.length
    rw [tracks.arguments_length]
    exact tracks.wellFormed.end_parameter_lt ends member
  | register register =>
    refine ⟨?_, ?_⟩
    · have beyond : routine.extent frame.block ≤ frame.position := by
        rw [← Option.not_isSome_iff_eq_none, Routine.instruction?_isSome_iff] at past
        omega
      have before := tracks.wellFormed.written_before_end tracks.walk ends member
      exact (tracks.complete register (Routine.WrittenOn.mono before beyond)).resolve_right (by simp)
    · rw [tracks.registers_size]
      exact tracks.wellFormed.end_register_lt ends member

/-- The frame of a call of a routine with a body. -/
theorem enter {id : Nat} {arguments : List Float} (result : Option Nat)
    (found : unit.routines[id]? = some routine) (wellFormed : routine.WellFormed unit)
    (hasBody : routine.hasBody = true) (count : arguments.length = routine.parameters.length) :
    (Frame.enter id routine arguments result).Tracks unit routine [] none [] where
  found := found
  wellFormed := wellFormed
  registers_size := Array.size_replicate
  slots_size := Array.size_replicate
  arguments_length := count
  inside := by
    show 0 < routine.blocks.size
    simpa [Routine.hasBody, Array.isEmpty, Nat.pos_iff_ne_zero] using hasBody
  walk := .start
  previous_eq := rfl
  complete := by
    rintro register (⟨earlier, bound, _⟩ | ⟨earlier, member, _⟩)
    · exact absurd bound (Nat.not_lt_zero _)
    · contradiction

/-- Going on with a block that the end of this one leads to. -/
theorem jump (tracks : frame.Tracks unit routine passed none written) {target : Nat}
    (past : routine.instruction? frame.block frame.position = none)
    (leads : routine.Leads frame.block target) :
    (frame.jump target).Tracks unit routine (frame.block :: passed) none written where
  found := tracks.found
  wellFormed := tracks.wellFormed
  registers_size := tracks.registers_size
  slots_size := tracks.slots_size
  arguments_length := tracks.arguments_length
  inside := tracks.wellFormed.target_lt leads
  walk := .step tracks.walk leads
  previous_eq := rfl
  complete := by
    have beyond : routine.extent frame.block ≤ frame.position := by
      rw [← Option.not_isSome_iff_eq_none, Routine.instruction?_isSome_iff] at past
      omega
    rintro register (⟨earlier, bound, _⟩ | ⟨earlier, member, before⟩)
    · exact absurd bound (Nat.not_lt_zero _)
    · apply tracks.complete
      rcases List.mem_cons.1 member with rfl | further
      · exact Routine.WrittenOn.mono (.inl before) beyond
      · exact .inr ⟨earlier, further, before⟩

/-- Moving past an instruction, whose register is awaited from then on. -/
theorem pass (tracks : frame.Tracks unit routine passed none written) {instruction : Instruction}
    (here : routine.instruction? frame.block frame.position = some instruction) :
    frame.pass.Tracks unit routine passed instruction.target? written where
  found := tracks.found
  wellFormed := tracks.wellFormed
  registers_size := tracks.registers_size
  slots_size := tracks.slots_size
  arguments_length := tracks.arguments_length
  inside := tracks.inside
  walk := tracks.walk
  previous_eq := tracks.previous_eq
  complete := by
    rintro register (⟨earlier, bound, writes⟩ | before)
    · by_cases last : earlier = frame.position
      · obtain ⟨other, found, target⟩ := writes
        subst last
        cases here.symm.trans found
        exact .inr target
      · have further : earlier < frame.position := by
          have bound : earlier < frame.position + 1 := bound
          omega
        exact .inl ((tracks.complete register (.inl ⟨earlier, further, writes⟩)).resolve_right
          (by simp))
    · exact .inl ((tracks.complete register (.inr before)).resolve_right (by simp))

/-- Filling a register that may be the one awaited. -/
theorem write (tracks : frame.Tracks unit routine passed awaited written) (register : Nat)
    (value : Float) :
    (frame.write register value).Tracks unit routine passed awaited written :=
  { tracks with registers_size := by simpa [Frame.write] using tracks.registers_size }

/-- Once the register awaited has been written, none is. -/
theorem settle (tracks : frame.Tracks unit routine passed awaited written) :
    frame.Tracks unit routine passed none (awaited.toList ++ written) :=
  { tracks with
    complete := by
      intro register before
      left
      rcases tracks.complete register before with member | rfl
      · exact List.mem_append_right _ member
      · exact List.mem_append_left _ (by simp) }

/-- An instruction that is not a call has an effect, which keeps a frame on its track. -/
theorem execute (tracks : frame.Tracks unit routine passed none written)
    {instruction : Instruction}
    (here : routine.instruction? frame.block frame.position = some instruction)
    (plain : ∀ target callee arguments, instruction ≠ .call target callee arguments) :
    ∃ top, frame.pass.execute instruction = .ok top ∧ top.result = frame.result ∧
      top.Tracks unit routine passed none (instruction.target?.toList ++ written) := by
  have passed := (tracks.pass here).settle
  cases instruction with
  | arith | compare | truth => exact ⟨_, rfl, rfl, passed.write _ _⟩
  | call target callee arguments => exact absurd rfl (plain target callee arguments)
  | load target slot =>
    have inside : slot < frame.pass.slots.size := by
      rw [passed.slots_size]
      exact tracks.wellFormed.slot_lt here (.inl ⟨target, rfl⟩)
    refine ⟨frame.pass.write target frame.pass.slots[slot], ?_, rfl, passed.write _ _⟩
    simp only [Frame.execute, Array.getElem?_eq_getElem inside]
  | store slot value =>
    have inside : slot < frame.pass.slots.size := by
      rw [passed.slots_size]
      exact tracks.wellFormed.slot_lt here (.inr ⟨value, rfl⟩)
    refine ⟨{ frame.pass with
      slots := frame.pass.slots.setIfInBounds slot (frame.pass.read value) }, if_pos inside, rfl, ?_⟩
    exact { passed with slots_size := by simpa using passed.slots_size }
  | phi target incoming =>
    obtain ⟨source, last, listed⟩ := tracks.wellFormed.exists_source tracks.walk here
    obtain ⟨value, member, same⟩ := List.mem_map.1 listed
    have chosen : (incoming.find? fun entry => some entry.2 = frame.pass.previous).isSome := by
      rw [List.find?_isSome]
      refine ⟨value, member, ?_⟩
      rw [decide_eq_true_eq, same, passed.previous_eq, last]
    obtain ⟨value, found⟩ := Option.isSome_iff_exists.1 chosen
    refine ⟨frame.pass.write target (frame.pass.read value.1), ?_, rfl, passed.write _ _⟩
    simp only [Frame.execute, found]

end Frame.Tracks

/-- The frames of callers, the nearest first, each of which awaits the result of the one before. -/
inductive Tracked (unit : CodeUnit) : Option Nat → List Frame → List (List Nat) → Prop
  /-- The first frame has no caller. -/
  | nil : Tracked unit none [] []
  /-- A caller awaits a result in a register. -/
  | cons {routine : Routine} {passed written : List Nat} {register : Nat} {frame : Frame}
      {frames : List Frame} {rest : List (List Nat)}
      (tracks : frame.Tracks unit routine passed (some register) written)
      (below : Tracked unit frame.result frames rest) :
      Tracked unit (some register) (frame :: frames) (written :: rest)

namespace State

/-- A state whose frames are all on their tracks. -/
structure Safe (unit : CodeUnit) (state : State) (written : Written) : Prop where
  /-- The frame being executed awaits nothing. -/
  top : ∃ routine passed, state.top.Tracks unit routine passed none written.top
  /-- Its callers await the results. -/
  callers : Tracked unit state.top.result state.callers.toList.reverse written.callers

/-- The errors that programs themselves can meet. -/
def IsExpected (error : CodeError) : Prop :=
  (∃ name, error = .unresolvedSymbol name) ∨ ∃ limit, error = .callDepthExceeded limit

/-- The host refuses only what it does not provide. -/
theorem unresolved_of_callHost {host : Host} {calls : Array HostCall} {name : String}
    {arguments : List Float} {error : CodeError}
    (refused : callHost host calls name arguments = .error error) :
    error = .unresolvedSymbol name := by
  unfold callHost at refused
  split at refused
  · contradiction
  · exact (Except.error.inj refused).symm

/-- What can be said of a step from a safe state. -/
def Advances (unit : CodeUnit) (state : State) (written : Written) : Progress → Prop
  | .next next => next.Safe unit (state.record unit written)
  | .done (.ok _) _ => True
  | .done (.error error) _ => IsExpected error

variable {environment : Environment} {unit : CodeUnit} {state : State} {written : Written}
  {routine : Routine} {passed : List Nat}

/-- Where a frame on its track stands at an instruction, the state finds it. -/
theorem instruction?_eq (found : unit.routines[state.top.routine]? = some routine) :
    state.instruction? unit = routine.instruction? state.top.block state.top.position := by
  simp [instruction?, found]

/-- The end of the block of a frame on its track. -/
theorem terminator?_eq (found : unit.routines[state.top.routine]? = some routine) :
    state.terminator? unit = routine.terminator? state.top.block := by
  simp [terminator?, found]

/-- An instruction that is not a call advances. -/
theorem advances_instruction (tracks : state.top.Tracks unit routine passed none written.top)
    (below : Tracked unit state.top.result state.callers.toList.reverse written.callers)
    {instruction : Instruction}
    (here : routine.instruction? state.top.block state.top.position = some instruction)
    (plain : ∀ target callee arguments, instruction ≠ .call target callee arguments) :
    Advances unit state written (state.step environment unit) := by
  obtain ⟨top, done, result, still⟩ := tracks.execute here plain
  rw [step_instruction tracks.found here plain, done]
  have recorded : state.record unit written =
      ⟨instruction.target?.toList ++ written.top, written.callers⟩ := by
    rw [record, instruction?_eq tracks.found, here]
    cases instruction with
    | call target callee arguments => exact absurd rfl (plain target callee arguments)
    | _ => rfl
  show Safe unit _ (state.record unit written)
  rw [recorded]
  exact ⟨⟨routine, passed, still⟩, by rw [result]; exact below⟩

/-- A call advances: it opens a frame or goes to the host. -/
theorem advances_call (wellFormed : unit.WellFormed)
    (tracks : state.top.Tracks unit routine passed none written.top)
    (below : Tracked unit state.top.result state.callers.toList.reverse written.callers)
    {target callee : Nat} {arguments : List Operand}
    (here : routine.instruction? state.top.block state.top.position =
      some (.call target callee arguments)) :
    Advances unit state written (state.step environment unit) := by
  obtain ⟨called, found, count⟩ := tracks.wellFormed.call_fits here
  have recorded : state.record unit written =
      if called.hasBody then ⟨[], written.top :: written.callers⟩
      else ⟨target :: written.top, written.callers⟩ := by
    rw [record, instruction?_eq tracks.found, here]
    simp only [found, Option.any_some]
  have waits := tracks.pass here
  rw [step_call tracks.found here, stepCall]
  simp only [found]
  cases body : called.hasBody with
  | true =>
    rw [if_pos rfl]
    split
    · exact .inr ⟨_, rfl⟩
    · show Safe unit _ (state.record unit written)
      rw [recorded, body, if_pos rfl]
      refine ⟨⟨called, [], Frame.Tracks.enter _ found (wellFormed found body) body ?_⟩, ?_⟩
      · rw [List.length_map, count]
      · show Tracked unit (some target) (state.callers.push state.top.pass).toList.reverse _
        rw [Array.toList_push, List.reverse_append]
        exact .cons waits below
  | false =>
    rw [if_neg (by simp)]
    cases answer : callHost environment.host state.calls called.name
        (arguments.map state.top.pass.read) with
    | error error =>
      exact .inl ⟨called.name, unresolved_of_callHost answer⟩
    | ok value =>
      show Safe unit _ (state.record unit written)
      rw [recorded, body, if_neg (by simp)]
      exact ⟨⟨routine, passed, (waits.write target value.1).settle⟩, below⟩

/-- The end of a block advances. -/
theorem advances_terminator (tracks : state.top.Tracks unit routine passed none written.top)
    (below : Tracked unit state.top.result state.callers.toList.reverse written.callers)
    (past : routine.instruction? state.top.block state.top.position = none) :
    Advances unit state written (state.step environment unit) := by
  obtain ⟨terminator, ends⟩ := tracks.wellFormed.terminated _ tracks.inside
  have recorded : state.record unit written =
      match some terminator, written.callers with
      | some (.ret _), caller :: rest => ⟨state.top.result.toList ++ caller, rest⟩
      | _, _ => written := by
    rw [record, instruction?_eq tracks.found, past, terminator?_eq tracks.found, ends]
  rw [step_terminator tracks.found past ends]
  cases terminator with
  | branch target =>
    show Safe unit _ (state.record unit written)
    rw [recorded]
    exact ⟨⟨routine, _, tracks.jump past ⟨_, ends, List.mem_cons_self⟩⟩, below⟩
  | choose condition consequent alternative =>
    show Safe unit _ (state.record unit written)
    rw [recorded]
    refine ⟨⟨routine, _, tracks.jump past ⟨_, ends, ?_⟩⟩, below⟩
    split <;> simp [Terminator.targets]
  | ret value =>
    show Advances unit state written (state.stepReturn (state.top.read value))
    generalize open_frames : state.callers.toList.reverse = list at below
    generalize awaited : state.top.result = result at below recorded
    generalize marks : written.callers = rest at below recorded
    have order : state.callers.toList = list.reverse := by
      rw [← open_frames, List.reverse_reverse]
    cases below with
    | nil =>
      have alone : state.callers.back? = none := by
        rw [← Array.getLast?_toList, order]
        rfl
      rw [stepReturn, alone]
      trivial
    | @cons caller passed known register frame frames rest waits below =>
      have nearest : state.callers.back? = some frame := by
        rw [← Array.getLast?_toList, order]
        simp
      have others : state.callers.pop.toList.reverse = frames := by
        rw [Array.toList_pop, order]
        simp
      rw [stepReturn, nearest]
      simp only [awaited]
      show Safe unit _ (state.record unit written)
      rw [recorded]
      refine ⟨⟨caller, passed, (waits.write register _).settle⟩, ?_⟩
      show Tracked unit frame.result state.callers.pop.toList.reverse rest
      rw [others]
      exact below

variable (environment) in
/-- In a unit of well-formed routines, safe states advance. -/
theorem Safe.advances (safe : state.Safe unit written) (wellFormed : unit.WellFormed) :
    Advances unit state written (state.step environment unit) := by
  obtain ⟨routine, passed, tracks⟩ := safe.top
  cases here : routine.instruction? state.top.block state.top.position with
  | none => exact advances_terminator tracks safe.callers here
  | some instruction =>
    by_cases call : ∃ target callee arguments, instruction = .call target callee arguments
    · obtain ⟨target, callee, arguments, rfl⟩ := call
      exact advances_call wellFormed tracks safe.callers here
    · exact advances_instruction tracks safe.callers here
        fun target callee arguments same => call ⟨target, callee, arguments, same⟩

variable {calls : Array HostCall} {entry : Nat}

/-- A run starts safely. -/
theorem safe_of_launch (wellFormed : unit.WellFormed)
    (launched : unit.launch environment calls entry = .next state) : state.Safe unit ⟨[], []⟩ := by
  unfold CodeUnit.launch at launched
  split at launched
  · contradiction
  · next routine found =>
    by_cases parameters : routine.parameters.isEmpty = true
    · rw [if_neg (by simp [parameters])] at launched
      cases body : routine.hasBody with
      | true =>
        rw [body, if_pos rfl] at launched
        cases launched
        refine ⟨⟨routine, [], Frame.Tracks.enter none found (wellFormed found body) body ?_⟩, .nil⟩
        rw [List.isEmpty_iff.1 parameters]
        rfl
      | false =>
        rw [body, if_neg (by simp)] at launched
        split at launched <;> contradiction
    · rw [if_pos (by simp [parameters])] at launched
      contradiction

namespace Recorded

/-- All states of a run are safe. -/
theorem safe (recorded : Recorded environment unit calls entry state written)
    (wellFormed : unit.WellFormed) : state.Safe unit written := by
  induction recorded with
  | start launched => exact safe_of_launch wellFormed launched
  | step before moved hypothesis =>
    have advances := hypothesis.advances environment wellFormed
    rw [moved] at advances
    exact advances

/-- Every operand that is about to be read has been set. -/
theorem holds_of_reads (recorded : Recorded environment unit calls entry state written)
    (wellFormed : unit.WellFormed) {operand : Operand} (member : operand ∈ state.reads unit) :
    state.top.Holds written.top operand := by
  obtain ⟨routine, passed, tracks⟩ := (recorded.safe wellFormed).top
  rw [reads, instruction?_eq tracks.found, terminator?_eq tracks.found] at member
  cases here : routine.instruction? state.top.block state.top.position with
  | some instruction =>
    rw [here] at member
    exact tracks.holds_of_instruction here member
  | none =>
    obtain ⟨terminator, ends⟩ := tracks.wellFormed.terminated _ tracks.inside
    rw [here, ends] at member
    exact tracks.holds_of_terminator here ends member

end Recorded

/-- A run from a safe state that ends with an error has met one that programs can meet. -/
theorem Safe.expected_of_iterate {steps : Nat} {error : CodeError} {after : Array HostCall}
    (safe : state.Safe unit written) (wellFormed : unit.WellFormed)
    (ended : state.iterate environment unit steps = some (.error error, after)) :
    IsExpected error := by
  induction steps generalizing state written with
  | zero => contradiction
  | succ steps hypothesis =>
    have advances := safe.advances environment wellFormed
    rw [iterate] at ended
    cases moved : state.step environment unit with
    | next next =>
      rw [moved] at ended advances
      exact hypothesis advances ended
    | done result calls =>
      rw [moved] at ended advances
      cases ended
      exact advances

end State

/-- A run of a routine without parameters that ends with an error has met one that programs can
meet. -/
theorem expected_of_run {environment : Environment} {unit : CodeUnit} {steps entry : Nat}
    {calls after : Array HostCall} {routine : Routine} {error : CodeError}
    (wellFormed : unit.WellFormed) (found : unit.routines[entry]? = some routine)
    (closed : routine.parameters = [])
    (ended : unit.run environment steps calls entry = some (.error error, after)) :
    State.IsExpected error := by
  unfold CodeUnit.run at ended
  cases launched : unit.launch environment calls entry with
  | next state =>
    rw [launched] at ended
    exact (State.safe_of_launch wellFormed launched).expected_of_iterate wellFormed ended
  | done result calls =>
    rw [launched] at ended
    cases ended
    rw [CodeUnit.launch, found] at launched
    simp only [closed, List.isEmpty_nil, Bool.not_true, Bool.false_eq_true, if_false] at launched
    split at launched
    · contradiction
    · split at launched
      · cases launched
      · next refused =>
        cases launched
        exact .inl ⟨_, State.unresolved_of_callHost refused⟩

end Code

end Kaleidoscope
