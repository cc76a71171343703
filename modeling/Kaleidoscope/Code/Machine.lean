import Kaleidoscope.Code.Error
import Kaleidoscope.Code.Unit
import Kaleidoscope.Host

/-!
# Running code

A run is a sequence of single steps. Its state is the frame being executed, the frames of its
callers, and the calls of host functions made so far. A frame knows where it is in its routine,
from which block it came there, and the contents of its registers and slots. A call of a routine
with a body opens a frame, unless as many frames as allowed are open already; a call of one
without a body goes to the host.

Programs need not come to an end, so a run is given a number of steps and yields nothing if they
do not suffice (`run`). More steps never change a result (`iterate_mono`).
-/
namespace Kaleidoscope

namespace Code

/-- The execution of one routine. -/
structure Frame where
  /-- The routine. -/
  routine : Nat
  /-- The block being executed. -/
  block : Nat
  /-- The block before it. -/
  previous : Option Nat
  /-- How many instructions of the block have been executed. -/
  position : Nat
  /-- The contents of the registers. -/
  registers : Array Float
  /-- The contents of the slots. -/
  slots : Array Float
  /-- The arguments of the call. -/
  arguments : List Float
  /-- The register of the caller that waits for the result. -/
  result : Option Nat

namespace Frame

/-- The frame of a call, before its first instruction. -/
def enter (id : Nat) (routine : Routine) (arguments : List Float) (result : Option Nat) : Frame where
  routine := id
  block := 0
  previous := none
  position := 0
  registers := Array.replicate routine.registers 0
  slots := Array.replicate routine.slots.size 0
  arguments := arguments
  result := result

/-- The number that an operand stands for; registers and arguments that do not exist are zero. -/
def read (frame : Frame) : Operand → Float
  | .number value => value
  | .register index => frame.registers[index]?.getD 0
  | .parameter index => frame.arguments[index]?.getD 0

/-- Fill a register; one that does not exist stays out of use. -/
def write (frame : Frame) (register : Nat) (value : Float) : Frame :=
  { frame with registers := frame.registers.setIfInBounds register value }

/-- Go on with a block. -/
def jump (frame : Frame) (block : Nat) : Frame :=
  { frame with previous := some frame.block, block := block, position := 0 }

/-- The effect of an instruction that is not a call. -/
def execute (frame : Frame) : Instruction → Except CodeError Frame
  | .arith target operation left right =>
    .ok (frame.write target (operation.apply (frame.read left) (frame.read right)))
  | .compare target comparison left right =>
    .ok (frame.write target (ofTruth (comparison.holds (frame.read left) (frame.read right))))
  | .truth target value => .ok (frame.write target (ofTruth (isTrue (frame.read value))))
  | .load target slot =>
    match frame.slots[slot]? with
    | some value => .ok (frame.write target value)
    | none => .error (.invalidHandle .slot)
  | .store slot value =>
    if slot < frame.slots.size then
      .ok { frame with slots := frame.slots.setIfInBounds slot (frame.read value) }
    else .error (.invalidHandle .slot)
  | .phi target incoming =>
    match incoming.find? fun (_, block) => some block = frame.previous with
    | some (value, _) => .ok (frame.write target (frame.read value))
    | none => .error (.invalidHandle .predecessor)
  | .call .. => .ok frame

end Frame

/-- What stays the same during a run. -/
structure Environment where
  /-- The functions of the host. -/
  host : Host
  /-- How many frames may be open when a call opens another. -/
  limit : Nat

/-- The number of frames that are allowed unless a program is given another. -/
def Environment.standardLimit : Nat := 1 <<< 18

/-- The state of a run. -/
structure State where
  /-- The frame being executed. -/
  top : Frame
  /-- The frames of its callers, the nearest last. -/
  callers : Array Frame
  /-- The calls of host functions made so far. -/
  calls : Array HostCall

/-- A call of a host function: its answer, and the calls made from then on. -/
def callHost (host : Host) (calls : Array HostCall) (name : String) (arguments : List Float) :
    Except CodeError (Float × Array HostCall) :=
  match host.find? name arguments.length with
  | some function => .ok (function.answer calls arguments, calls.push ⟨name, arguments⟩)
  | none => .error (.unresolvedSymbol name)

/-- What a step leads to. -/
inductive Progress where
  /-- The run goes on. -/
  | next (state : State)
  /-- The run is over after some calls of host functions. -/
  | done (result : Except CodeError Float) (calls : Array HostCall)

namespace State

/-- How many frames are open. -/
def depth (state : State) : Nat := state.callers.size + 1

/-- End a run with an error. -/
def fail (state : State) (error : CodeError) : Progress := .done (.error error) state.calls

/-- Execute a call from the top frame, which has already moved past it. -/
def stepCall (environment : Environment) (unit : CodeUnit) (state : State) (target callee : Nat)
    (arguments : List Operand) : Progress :=
  let values := arguments.map state.top.read
  match unit.routines[callee]? with
  | none => state.fail (.invalidHandle .routine)
  | some routine =>
    if routine.hasBody then
      if environment.limit ≤ state.depth then state.fail (.callDepthExceeded environment.limit)
      else .next { state with
        top := .enter callee routine values (some target)
        callers := state.callers.push state.top }
    else match callHost environment.host state.calls routine.name values with
      | .ok (value, calls) =>
        .next { state with top := state.top.write target value, calls := calls }
      | .error error => state.fail error

/-- Return a number from the top frame to its caller, or from the run. -/
def stepReturn (state : State) (value : Float) : Progress :=
  match state.callers.back? with
  | none => .done (.ok value) state.calls
  | some caller =>
    let caller := match state.top.result with
      | some register => caller.write register value
      | none => caller
    .next { state with top := caller, callers := state.callers.pop }

/-- One step: the next instruction of the top frame, or the end of its block. -/
def step (environment : Environment) (unit : CodeUnit) (state : State) : Progress :=
  match unit.routines[state.top.routine]? with
  | none => state.fail (.invalidHandle .routine)
  | some routine =>
    match routine.blocks[state.top.block]? with
    | none => state.fail (.invalidHandle .block)
    | some block =>
      match block.instructions[state.top.position]? with
      | some instruction =>
        let top := { state.top with position := state.top.position + 1 }
        match instruction with
        | .call target callee arguments =>
          stepCall environment unit { state with top := top } target callee arguments
        | other =>
          match top.execute other with
          | .ok top => .next { state with top := top }
          | .error error => state.fail error
      | none =>
        match block.terminator with
        | some (.branch target) => .next { state with top := state.top.jump target }
        | some (.choose condition consequent alternative) =>
          let target := if state.top.read condition != 0 then consequent else alternative
          .next { state with top := state.top.jump target }
        | some (.ret value) => state.stepReturn (state.top.read value)
        | none => state.fail (.unterminatedBlock routine.name block.name)

/-- Step until the run is over, at most the given number of times. -/
def iterate (environment : Environment) (unit : CodeUnit) :
    Nat → State → Option (Except CodeError Float × Array HostCall)
  | 0, _ => none
  | steps + 1, state =>
    match state.step environment unit with
    | .next state => iterate environment unit steps state
    | .done result calls => some (result, calls)

/-- A run that is over within some steps has the same result with more of them. -/
theorem iterate_mono {environment : Environment} {unit : CodeUnit} {fewer more : Nat}
    {state : State} {result : Except CodeError Float × Array HostCall} (enough : fewer ≤ more)
    (halted : iterate environment unit fewer state = some result) :
    iterate environment unit more state = some result := by
  induction fewer generalizing more state with
  | zero => cases halted
  | succ fewer hypothesis =>
    obtain ⟨rest, rfl⟩ : ∃ rest, more = rest + 1 := ⟨more - 1, by omega⟩
    simp only [iterate] at halted ⊢
    split
    · next moved => exact hypothesis (by omega) (by simpa [moved] using halted)
    · next ended => simpa [ended] using halted

end State

end Code

namespace CodeUnit

open Code

/-- The start of a run, or its immediate end: a routine that takes arguments cannot be run, and
one without a body goes to the host. -/
def launch (environment : Environment) (unit : CodeUnit) (calls : Array HostCall) (entry : Nat) :
    Progress :=
  match unit.routines[entry]? with
  | none => .done (.error (.invalidHandle .routine)) calls
  | some routine =>
    if !routine.parameters.isEmpty then .done (.error (.missingParameter routine.name 0)) calls
    else if routine.hasBody then .next ⟨.enter entry routine [] none, #[], calls⟩
    else match callHost environment.host calls routine.name [] with
      | .ok (value, calls) => .done (.ok value) calls
      | .error error => .done (.error error) calls

/-- Run a routine after some calls of host functions: its result and all calls up to its end, if
it ends within the given number of steps. -/
def run (environment : Environment) (unit : CodeUnit) (steps : Nat) (calls : Array HostCall)
    (entry : Nat) : Option (Except CodeError Float × Array HostCall) :=
  match unit.launch environment calls entry with
  | .next state => state.iterate environment unit steps
  | .done result calls => some (result, calls)

end CodeUnit

end Kaleidoscope
