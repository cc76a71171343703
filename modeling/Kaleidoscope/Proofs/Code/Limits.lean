import Kaleidoscope.Proofs.Meaning.Runs

/-!
# Limits on open frames

The limit of frames stops a run and does nothing else. A step changes how many frames are open only
by a call, which has to find room below the limit, or by a return (`State.Effect`). So at most as
many frames are open as the limit allows, where the first frame is always allowed.

A step with a larger limit is the same step, unless the smaller limit stops the run there
(`State.step_of_le`). So a run that another limit does not stop ends in the same way under all larger
limits, and the calls of host functions that a stopped run has made are the first ones of every
larger limit (`CodeUnit.run_of_le`).
-/
namespace Kaleidoscope

namespace Code

namespace State

variable {environment : Environment} {unit : CodeUnit} {state next : State}

/-- What a step does to the frames below the top and to the calls of host functions. -/
inductive Effect (environment : Environment) (state : State) : Progress → Prop
  /-- The top frame goes on. -/
  | inside (top : Frame) : Effect environment state (.next { state with top := top })
  /-- A call opens a frame, for which there is room. -/
  | opened (top caller : Frame) (room : state.depth < environment.limit) :
    Effect environment state (.next { state with top := top, callers := state.callers.push caller })
  /-- A call goes to the host. -/
  | asked (top : Frame) (call : HostCall) :
    Effect environment state (.next { state with top := top, calls := state.calls.push call })
  /-- The top frame is closed. -/
  | closed (top : Frame) :
    Effect environment state (.next { state with top := top, callers := state.callers.pop })
  /-- The run is over. -/
  | over (result : Except CodeError Float) : Effect environment state (.done result state.calls)

/-- A call opens a frame, goes to the host or ends the run. -/
theorem effect_stepCall (top : Frame) (target callee : Nat) (arguments : List Operand) :
    Effect environment state
      (stepCall environment unit { state with top := top } target callee arguments) := by
  unfold stepCall
  dsimp only
  split
  · exact .over _
  · split
    · split
      · exact .over _
      · next room => exact .opened _ _ (Nat.lt_of_not_le room)
    · unfold callHost
      split
      · next answered =>
        split at answered
        · cases answered
          exact .asked _ _
        · contradiction
      · exact .over _

/-- A return closes a frame or ends the run. -/
theorem effect_stepReturn (value : Float) :
    Effect environment state (state.stepReturn value) := by
  unfold stepReturn
  split
  · exact .over _
  · exact .closed _

/-- Every step has one of these effects. -/
theorem effect_step (environment : Environment) (unit : CodeUnit) (state : State) :
    Effect environment state (state.step environment unit) := by
  unfold step
  dsimp only
  split
  · exact .over _
  · split
    · exact .over _
    · split
      · split
        · exact effect_stepCall _ _ _ _
        · split
          · exact .inside _
          · exact .over _
      · split
        · exact .inside _
        · exact .inside _
        · exact effect_stepReturn _
        · exact .over _

/-- Frames are opened within the limit only. -/
theorem depth_le_of_step (moved : state.step environment unit = .next next)
    (within : state.depth ≤ max 1 environment.limit) : next.depth ≤ max 1 environment.limit := by
  have effect := effect_step environment unit state
  rw [moved] at effect
  cases effect with
  | inside | asked => exact within
  | opened top caller room =>
    have pushed : (state.callers.push caller).size = state.callers.size + 1 := Array.size_push _
    simp only [depth] at room ⊢
    omega
  | closed top =>
    have popped : state.callers.pop.size = state.callers.size - 1 := Array.size_pop
    simp only [depth] at within ⊢
    omega

/-- Calls of host functions are only added. -/
theorem calls_prefix_of_step (moved : state.step environment unit = .next next) :
    state.calls.toList <+: next.calls.toList := by
  have effect := effect_step environment unit state
  rw [moved] at effect
  cases effect with
  | asked top call =>
    rw [Array.toList_push]
    exact List.prefix_append _ _
  | _ => exact List.prefix_refl _

/-- The end of a run makes no call of a host function. -/
theorem calls_eq_of_done {result : Except CodeError Float} {calls : Array HostCall}
    (done : state.step environment unit = .done result calls) : calls = state.calls := by
  have effect := effect_step environment unit state
  rw [done] at effect
  cases effect
  rfl

/-- The calls of host functions that a run has made after some number of steps, or at its end if
that comes earlier. -/
def callsAfter (environment : Environment) (unit : CodeUnit) : Nat → State → Array HostCall
  | 0, state => state.calls
  | steps + 1, state =>
    match state.step environment unit with
    | .next state => callsAfter environment unit steps state
    | .done _ calls => calls

/-- A run that is over has made its calls. -/
theorem callsAfter_of_iterate {steps : Nat} {result : Except CodeError Float}
    {calls : Array HostCall} (halted : state.iterate environment unit steps = some (result, calls)) :
    state.callsAfter environment unit steps = calls := by
  induction steps generalizing state with
  | zero => contradiction
  | succ steps hypothesis =>
    rw [iterate] at halted
    rw [callsAfter]
    cases moved : state.step environment unit with
    | next next =>
      rw [moved] at halted
      exact hypothesis halted
    | done other after =>
      rw [moved] at halted
      cases halted
      rfl

/-- A run starts with the calls made before it. -/
theorem calls_prefix_callsAfter (steps : Nat) (state : State) :
    state.calls.toList <+: (state.callsAfter environment unit steps).toList := by
  induction steps generalizing state with
  | zero => exact List.prefix_refl _
  | succ steps hypothesis =>
    rw [callsAfter]
    cases moved : state.step environment unit with
    | next next => exact (calls_prefix_of_step moved).trans (hypothesis next)
    | done result calls => exact calls_eq_of_done moved ▸ List.prefix_refl _

end State

/-- At no time more frames are open than the limit allows, and one is always allowed. -/
theorem Steps.depth_le {environment : Environment} {unit : CodeUnit} {count : Nat}
    {first last : State} (steps : Steps environment unit count first last)
    (within : first.depth ≤ max 1 environment.limit) : last.depth ≤ max 1 environment.limit := by
  induction steps with
  | refl => exact within
  | step moved _ hypothesis => exact hypothesis (State.depth_le_of_step moved within)

namespace State

variable {host : Host} {limit larger : Nat} {unit : CodeUnit} {state : State}

/-- A call with a larger limit is the same call, unless the smaller limit stops the run there. -/
theorem stepCall_of_le (le : limit ≤ larger) (target callee : Nat) (arguments : List Operand) :
    state.stepCall ⟨host, limit⟩ unit target callee arguments =
        state.fail (.callDepthExceeded limit) ∨
      state.stepCall ⟨host, larger⟩ unit target callee arguments =
        state.stepCall ⟨host, limit⟩ unit target callee arguments := by
  unfold stepCall
  cases unit.routines[callee]? with
  | none => exact .inr rfl
  | some routine =>
    by_cases body : routine.hasBody = true
    · simp only [if_pos body]
      by_cases full : limit ≤ state.depth
      · rw [if_pos full]
        exact .inl rfl
      · have room : ¬larger ≤ state.depth := by omega
        rw [if_neg full, if_neg room]
        exact .inr rfl
    · exact .inr (by simp only [if_neg body])

variable (host unit state) in
/-- A step with a larger limit is the same step, unless the smaller limit stops the run there. -/
theorem step_of_le (le : limit ≤ larger) :
    state.step ⟨host, limit⟩ unit = state.fail (.callDepthExceeded limit) ∨
      state.step ⟨host, larger⟩ unit = state.step ⟨host, limit⟩ unit := by
  unfold step
  cases unit.routines[state.top.routine]? with
  | none => exact .inr rfl
  | some routine =>
    dsimp only
    cases routine.blocks[state.top.block]? with
    | none => exact .inr rfl
    | some block =>
      dsimp only
      cases block.instructions[state.top.position]? with
      | none => exact .inr rfl
      | some instruction =>
        cases instruction with
        | call target callee arguments => exact stepCall_of_le le target callee arguments
        | _ => exact .inr rfl

/-- A run with a larger limit ends in the same way, unless the smaller limit stops the run. -/
theorem iterate_of_le (le : limit ≤ larger) {steps : Nat} {result : Except CodeError Float}
    {calls : Array HostCall}
    (halted : state.iterate ⟨host, limit⟩ unit steps = some (result, calls))
    (other : result ≠ .error (.callDepthExceeded limit)) :
    state.iterate ⟨host, larger⟩ unit steps = some (result, calls) := by
  induction steps generalizing state with
  | zero => contradiction
  | succ steps hypothesis =>
    rw [iterate] at halted ⊢
    rcases step_of_le host unit state le with stopped | same
    · rw [stopped] at halted
      cases halted
      exact absurd rfl other
    · rw [same]
      cases moved : state.step ⟨host, limit⟩ unit with
      | next next =>
        rw [moved] at halted
        exact hypothesis halted
      | done last after =>
        rw [moved] at halted
        exact halted

/-- The calls that a run has made at its end are the first ones of the run with a larger limit. -/
theorem callsAfter_of_le (le : limit ≤ larger) {steps more : Nat} (enough : steps ≤ more)
    {result : Except CodeError Float} {calls : Array HostCall}
    (halted : state.iterate ⟨host, limit⟩ unit steps = some (result, calls)) :
    calls.toList <+: (state.callsAfter ⟨host, larger⟩ unit more).toList := by
  induction steps generalizing state more with
  | zero => contradiction
  | succ steps hypothesis =>
    obtain ⟨more, rfl⟩ : ∃ rest, more = rest + 1 := ⟨more - 1, by omega⟩
    rw [iterate] at halted
    rcases step_of_le host unit state le with stopped | same
    · -- The run with the larger limit goes on from here, with the same calls made.
      rw [stopped] at halted
      cases halted
      exact calls_prefix_callsAfter _ state
    · rw [callsAfter, same]
      cases moved : state.step ⟨host, limit⟩ unit with
      | next next =>
        rw [moved] at halted
        exact hypothesis (by omega) halted
      | done last after =>
        rw [moved] at halted
        cases halted
        exact List.prefix_refl _

end State

end Code

namespace CodeUnit

open Code

variable {host : Host} {limit larger : Nat} {unit : CodeUnit} {calls : Array HostCall} {entry : Nat}

/-- The calls of host functions that have been made when running a routine has taken some number of
steps, or has come to its end if that is earlier. -/
def callsAfter (environment : Environment) (unit : CodeUnit) (steps : Nat) (calls : Array HostCall)
    (entry : Nat) : Array HostCall :=
  match unit.launch environment calls entry with
  | .next state => state.callsAfter environment unit steps
  | .done _ calls => calls

/-- A run that has come to its end has made its calls. -/
theorem callsAfter_of_run {environment : Environment} {steps : Nat}
    {result : Except CodeError Float} {after : Array HostCall}
    (ended : unit.run environment steps calls entry = some (result, after)) :
    unit.callsAfter environment steps calls entry = after := by
  rw [run] at ended
  rw [callsAfter]
  cases begun : unit.launch environment calls entry with
  | next state =>
    rw [begun] at ended
    exact State.callsAfter_of_iterate ended
  | done other last =>
    rw [begun] at ended
    cases ended
    rfl

/-- The limit has no part in the start of a run. -/
theorem launch_eq (host : Host) (limit larger : Nat) (unit : CodeUnit) (calls : Array HostCall)
    (entry : Nat) :
    unit.launch ⟨host, larger⟩ calls entry = unit.launch ⟨host, limit⟩ calls entry :=
  rfl

/-- A run starts with one frame. -/
theorem depth_of_launch {environment : Environment} {state : State}
    (begun : unit.launch environment calls entry = .next state) : state.depth = 1 := by
  unfold launch at begun
  split at begun
  · contradiction
  · split at begun
    · contradiction
    · split at begun
      · cases begun
        rfl
      · split at begun <;> contradiction

/-- The calls that a run has made at its end are the first ones of the run with a larger limit. -/
theorem callsAfter_of_le (le : limit ≤ larger) {steps : Nat} {result : Except CodeError Float}
    {after : Array HostCall}
    (ended : unit.run ⟨host, limit⟩ steps calls entry = some (result, after)) :
    ∀ more, steps ≤ more →
      after.toList <+: (unit.callsAfter ⟨host, larger⟩ more calls entry).toList := by
  intro more enough
  rw [run] at ended
  rw [callsAfter, launch_eq host limit larger]
  cases begun : unit.launch ⟨host, limit⟩ calls entry with
  | next state =>
    rw [begun] at ended
    exact State.callsAfter_of_le le enough ended
  | done last final =>
    rw [begun] at ended
    cases ended
    exact List.prefix_refl _

/-- The limit of frames only cuts runs off. At no time more frames are open than it allows, where one
is always allowed. A run that it does not stop ends in the same way with every larger limit; in any
case the calls of host functions made up to the end are the first ones with every larger limit, as
soon as that run has taken as many steps, and whenever it ends. -/
theorem run_of_le (host : Host) (unit : CodeUnit) (calls : Array HostCall) (entry : Nat)
    {limit larger : Nat} (le : limit ≤ larger) :
    (∀ start count state, unit.launch ⟨host, limit⟩ calls entry = .next start →
      Steps ⟨host, limit⟩ unit count start state → state.depth ≤ max 1 limit) ∧
    ∀ steps result after, unit.run ⟨host, limit⟩ steps calls entry = some (result, after) →
      ((∀ depth, result ≠ .error (.callDepthExceeded depth)) →
        unit.run ⟨host, larger⟩ steps calls entry = some (result, after)) ∧
      (∀ more, steps ≤ more →
        after.toList <+: (unit.callsAfter ⟨host, larger⟩ more calls entry).toList) ∧
      (∀ more other final, unit.run ⟨host, larger⟩ more calls entry = some (other, final) →
        after.toList <+: final.toList) := by
  constructor
  · intro start count state begun steps
    apply steps.depth_le
    have one := depth_of_launch begun
    omega
  · intro steps result after ended
    have made := callsAfter_of_le le ended
    refine ⟨fun other => ?_, made, fun more other final last => ?_⟩
    · rw [run] at ended
      rw [run, launch_eq host limit larger]
      cases begun : unit.launch ⟨host, limit⟩ calls entry with
      | next state =>
        rw [begun] at ended
        exact State.iterate_of_le le ended (other limit)
      | done last final =>
        rw [begun] at ended
        exact ended
    · have later := run_mono (Nat.le_max_right steps more) last
      rw [← callsAfter_of_run later]
      exact made _ (Nat.le_max_left steps more)

/-- A routine that calls the host and then itself is cut off. With the limit zero its first frame is
open all the same. -/
theorem run_of_le_endless :
    let host : Host := Host.none.bind "tick" ⟨0, fun _ _ => 0, fun _ => ""⟩
    let entry : Block := ⟨"entry", #[.call 0 1 [], .call 1 0 []], some (.ret (.register 1))⟩
    let unit : CodeUnit :=
      ⟨"unit", #[⟨"main", [], #[entry], #[], 2⟩, .declared "tick" []], [("tick", 1), ("main", 0)]⟩
    0 ≤ 3 ∧
      unit.run ⟨host, 0⟩ 5 #[] 0 = some (.error (.callDepthExceeded 0), #[⟨"tick", []⟩]) ∧
      unit.run ⟨host, 3⟩ 9 #[] 0 = some (.error (.callDepthExceeded 3),
        #[⟨"tick", []⟩, ⟨"tick", []⟩, ⟨"tick", []⟩]) ∧
      ∀ more, 5 ≤ more →
        [⟨"tick", []⟩] <+: (unit.callsAfter ⟨host, 3⟩ more #[] 0).toList := by
  intro host entry unit
  have ended : unit.run ⟨host, 0⟩ 5 #[] 0 =
      some (.error (.callDepthExceeded 0), #[⟨"tick", []⟩]) := by
    decide +kernel
  have longer : unit.run ⟨host, 3⟩ 9 #[] 0 = some (.error (.callDepthExceeded 3),
      #[⟨"tick", []⟩, ⟨"tick", []⟩, ⟨"tick", []⟩]) := by
    decide +kernel
  have le : 0 ≤ 3 := Nat.zero_le 3
  exact ⟨le, ended, longer, ((run_of_le host unit #[] 0 le).2 5 _ _ ended).2.1⟩

end CodeUnit

end Kaleidoscope
