import Kaleidoscope.Proofs.Meaning.Placement

/-!
# Moves from place to place

Each instruction that a draft gains is one step of a run that stands at the end of the draft, and
each way from block to block is one step, too. There is one lemma for each of them: it names the
state that the step leads to, where that stands, and what it has kept.
-/
namespace Kaleidoscope.Code

/-! ## Variables -/

/-- The slots of variables hold their numbers. -/
def Cells (scope : Scope Nat) (numbers : Scope Float) (slots : Array Float) : Prop :=
  List.Forall₂ (fun place cell => place.1 = cell.1 ∧ slots[place.2]? = some cell.2)
    scope.bindings numbers.bindings

namespace Cells

variable {scope : Scope Nat} {numbers : Scope Float} {slots : Array Float}

/-- A visible variable has a number, which its slot holds. -/
theorem lookup (cells : Cells scope numbers slots) {name : String}
    (visible : name ∈ scope.names) :
    ∃ value, numbers.lookup? name = some value ∧
      slots[Draft.slotOf scope name]? = some value := by
  obtain ⟨places⟩ := scope
  obtain ⟨bindings⟩ := numbers
  simp only [Cells, Scope.names, Draft.slotOf, Scope.lookup?] at *
  induction cells with
  | nil => contradiction
  | @cons place cell places bindings here others hypothesis =>
    obtain ⟨key, slot⟩ := place
    obtain ⟨other, value⟩ := cell
    obtain ⟨same, held⟩ := here
    simp only at same held
    subst same
    rw [List.lookup_cons, List.lookup_cons]
    by_cases own : name = key
    · subst own
      simpa using held
    · rw [beq_eq_false_iff_ne.2 own]
      refine hypothesis ?_
      rcases List.mem_cons.1 visible with first | later
      · exact absurd first own
      · exact later

/-- A slot that no variable has may be filled. -/
theorem fill (cells : Cells scope numbers slots) {slot : Nat}
    (free : ∀ entry ∈ scope.bindings, entry.2 ≠ slot) (value : Float) :
    Cells scope numbers (slots.setIfInBounds slot value) := by
  refine List.forall₂_iff_get.2 ⟨cells.length_eq, fun index first second => ?_⟩
  have same := (List.forall₂_iff_get.1 cells).2 index first second
  refine ⟨same.1, ?_⟩
  rw [Array.getElem?_setIfInBounds_ne]
  · exact same.2
  · exact (free _ (List.get_mem _ _)).symm

/-- A new variable starts with the number that its slot is filled with. -/
theorem bind (cells : Cells scope numbers slots) {slot : Nat} (inside : slot < slots.size)
    (free : ∀ entry ∈ scope.bindings, entry.2 ≠ slot) (name : String) (value : Float) :
    Cells (scope.bind name slot) (numbers.bind name value) (slots.setIfInBounds slot value) :=
  .cons ⟨rfl, by rw [Array.getElem?_setIfInBounds_self_of_lt inside]⟩ (cells.fill free value)

/-- The variables outside the innermost one keep their numbers. -/
theorem outer {name : String} {slot : Nat} (cells : Cells (scope.bind name slot) numbers slots) :
    Cells scope numbers.outer slots := by
  obtain ⟨bindings⟩ := numbers
  cases cells with
  | cons _ others => exact others

/-- An assignment fills the slot of its variable. -/
theorem assign (cells : Cells scope numbers slots)
    (distinct : (scope.bindings.map (·.2)).Nodup) {name : String} (visible : name ∈ scope.names)
    (inside : Draft.slotOf scope name < slots.size) (value : Float) :
    Cells scope (numbers.assign name value)
      (slots.setIfInBounds (Draft.slotOf scope name) value) := by
  obtain ⟨places⟩ := scope
  obtain ⟨bindings⟩ := numbers
  simp only [Scope.names, Draft.slotOf, Scope.lookup?, Scope.assign] at *
  induction places generalizing bindings with
  | nil => contradiction
  | cons place places hypothesis =>
    obtain ⟨key, slot⟩ := place
    cases cells with
    | @cons _ cell _ bindings here others =>
      obtain ⟨other, old⟩ := cell
      obtain ⟨same, held⟩ := here
      simp only at same held
      subst same
      obtain ⟨fresh, distinct⟩ := List.nodup_cons.1 distinct
      rw [List.lookup_cons] at inside ⊢
      rw [Scope.assign.change]
      by_cases own : name = key
      · subst own
        rw [beq_self_eq_true, Option.getD_some] at inside ⊢
        rw [if_pos rfl]
        refine .cons ⟨rfl, by rw [Array.getElem?_setIfInBounds_self_of_lt inside]⟩ ?_
        refine Cells.fill others
          (fun entry member same => fresh ?_) value
        exact List.mem_map.2 ⟨entry, member, same⟩
      · rw [beq_eq_false_iff_ne.2 own] at inside ⊢
        rw [if_neg (Ne.symm own)]
        have later : name ∈ places.map (·.1) := by
          rcases List.mem_cons.1 visible with first | later
          · exact absurd first own
          · exact later
        refine .cons ⟨rfl, ?_⟩ (hypothesis distinct later inside bindings others)
        rw [Array.getElem?_setIfInBounds_ne]
        · exact held
        · obtain ⟨entry, member, named⟩ := List.mem_map.1 later
          have found : (places.lookup name).isSome :=
            List.lookup_isSome_iff.2 ⟨entry, member, by simp [named]⟩
          obtain ⟨target, looked⟩ := Option.isSome_iff_exists.1 found
          rw [looked, Option.getD_some]
          rintro rfl
          obtain ⟨front, back, split, _⟩ := List.lookup_eq_some_iff.1 looked
          exact fresh (List.mem_map.2 ⟨(name, target), by simp [split], rfl⟩)

end Cells

/-! ## Places -/

namespace State

/-- A run stands at the end of a draft, with the variables of a scope and the calls of host
functions as an evaluation has them. -/
structure Reached (unit : CodeUnit) (routine : Routine) (draft : Draft) (scope : Scope Nat)
    (store : Store) (state : State) : Prop where
  /-- The routine is executed. -/
  found : unit.routines[state.top.routine]? = some routine
  /-- The block is the one being filled. -/
  block_eq : state.top.block = draft.block
  /-- Its instructions have been executed. -/
  position_eq : state.top.position = draft.routine.extent draft.block
  /-- There is a register for each of the routine. -/
  registers_size : state.top.registers.size = routine.registers
  /-- There is a slot for each of the routine. -/
  slots_size : state.top.slots.size = routine.slots.size
  /-- The slots hold the numbers of the variables. -/
  cells : Cells scope store.numbers state.top.slots
  /-- The host has been called alike. -/
  calls_eq : state.calls = store.calls

/-- What has stayed as it was: the frames below, what the frame was entered with, and its first
registers. -/
structure Since (registers : Nat) (before after : State) : Prop where
  /-- The frames of the callers are the same. -/
  callers_eq : after.callers = before.callers
  /-- The routine is the same. -/
  routine_eq : after.top.routine = before.top.routine
  /-- So are the arguments. -/
  arguments_eq : after.top.arguments = before.top.arguments
  /-- So is the register that the caller waits with. -/
  result_eq : after.top.result = before.top.result
  /-- The first registers hold what they held. -/
  kept : ∀ register < registers, after.top.registers[register]? = before.top.registers[register]?

namespace Since

variable {registers : Nat} {first second third : State}

theorem refl (registers : Nat) (state : State) : Since registers state state :=
  ⟨rfl, rfl, rfl, rfl, fun _ _ => rfl⟩

theorem trans (front : Since registers first second) (back : Since registers second third) :
    Since registers first third :=
  ⟨back.callers_eq.trans front.callers_eq, back.routine_eq.trans front.routine_eq,
    back.arguments_eq.trans front.arguments_eq, back.result_eq.trans front.result_eq,
    fun register below => (back.kept register below).trans (front.kept register below)⟩

theorem mono {fewer : Nat} (since : Since registers first second) (le : fewer ≤ registers) :
    Since fewer first second :=
  { since with kept := fun register below => since.kept register (Nat.lt_of_lt_of_le below le) }

/-- An operand whose register is among the first stands for the same number. -/
theorem read_eq (since : Since registers first second) {operand : Operand}
    (below : operand.Below registers) : second.top.read operand = first.top.read operand := by
  cases operand with
  | number value => rfl
  | register index => simp only [Frame.read, since.kept index below]
  | parameter index => simp only [Frame.read, since.arguments_eq]

end Since

/-- Where an expression leaves a run: at the end of its code, with its number in an operand. -/
structure Yields (unit : CodeUnit) (routine : Routine) (draft : Draft) (scope : Scope Nat)
    (registers : Nat) (before : State) (operand : Operand) (value : Float) (store : Store)
    (after : State) : Prop where
  /-- The run stands at the end of the code. -/
  reached : Reached unit routine draft scope store after
  /-- What was there before is there still. -/
  since : Since registers before after
  /-- The operand stands for the number. -/
  read_eq : after.top.read operand = value

/-- What an expression yields counts from an earlier state as well. -/
theorem Yields.after {unit : CodeUnit} {routine : Routine} {draft : Draft} {scope : Scope Nat}
    {fewer registers : Nat} {first second last : State} {operand : Operand} {value : Float}
    {store : Store} (yields : Yields unit routine draft scope registers second operand value store last)
    (since : Since fewer first second) (le : fewer ≤ registers) :
    Yields unit routine draft scope fewer first operand value store last :=
  { yields with since := since.trans (yields.since.mono le) }

section Moves

variable {environment : Environment} {unit : CodeUnit} {routine : Routine} {draft : Draft}
  {scope : Scope Nat} {store : Store} {state : State}

/-- Moving past an instruction does not change what operands stand for. -/
@[simp] theorem read_pass (frame : Frame) (operand : Operand) :
    frame.pass.read operand = frame.read operand := by
  cases operand <;> rfl

/-- The next instruction stands where a run has come to. -/
theorem Reached.instruction (reached : Reached unit routine draft scope store state)
    (isOpen : draft.Open) {make : Nat → Instruction}
    (carries : routine.Carries (draft.emit make).2.routine) :
    routine.instruction? state.top.block state.top.position =
      some (make draft.routine.registers) := by
  obtain ⟨_, here⟩ := carries.push ⟨isOpen.inside, isOpen.endless⟩
  rwa [Draft.extent_count, Draft.block_count, ← reached.position_eq, ← reached.block_eq] at here

/-- A new register has been written, perhaps after calls of host functions. -/
theorem Reached.write (reached : Reached unit routine draft scope store state)
    (isOpen : draft.Open) {make : Nat → Instruction}
    (carries : routine.Carries (draft.emit make).2.routine) (value : Float) {after : Store}
    (numbers : after.numbers = store.numbers) :
    Yields unit routine (draft.emit make).2 scope draft.routine.registers state
      (draft.emit make).1 value after
      { state with
        top := state.top.pass.write draft.routine.registers value
        calls := after.calls } := by
  have inside : draft.count.block < draft.count.size := isOpen.inside
  have below : draft.routine.registers < state.top.registers.size := by
    rw [reached.registers_size]
    exact carries.registers_le
  refine ⟨⟨reached.found, reached.block_eq, ?_, ?_, reached.slots_size, ?_, rfl⟩, ?_, ?_⟩
  · show state.top.position + 1 = (draft.count.push _).routine.extent draft.block
    rw [Draft.extent_push _ inside, if_pos (Draft.block_count draft).symm, reached.position_eq]
    rfl
  · show (state.top.registers.setIfInBounds _ value).size = _
    rw [Array.size_setIfInBounds, reached.registers_size]
  · rw [numbers]
    exact reached.cells
  · refine ⟨rfl, rfl, rfl, rfl, fun register below => ?_⟩
    show (state.top.registers.setIfInBounds _ value)[register]? = _
    rw [Array.getElem?_setIfInBounds_ne (Nat.ne_of_gt below)]
  · show ((state.top.registers.setIfInBounds _ value)[_]?).getD 0 = value
    rw [Array.getElem?_setIfInBounds_self_of_lt below, Option.getD_some]

variable (environment) in
/-- An instruction that writes to a new register is executed. -/
theorem Reached.emit (reached : Reached unit routine draft scope store state)
    (isOpen : draft.Open) {make : Nat → Instruction} (value : Float)
    (carries : routine.Carries (draft.emit make).2.routine)
    (plain : ∀ target callee arguments, make draft.routine.registers ≠ .call target callee arguments)
    (effect : state.top.pass.execute (make draft.routine.registers) =
      .ok (state.top.pass.write draft.routine.registers value)) :
    ∃ next, state.step environment unit = .next next ∧
      Yields unit routine (draft.emit make).2 scope draft.routine.registers state
        (draft.emit make).1 value store next := by
  refine ⟨_, ?_, reached.write isOpen carries value rfl⟩
  rw [step_instruction reached.found (reached.instruction isOpen carries) plain, effect]
  simp only [← reached.calls_eq]

/-- An instruction that fills a slot is executed. -/
theorem Reached.put {slot : Nat} {operand : Operand} {inner : Scope Nat} {numbers : Scope Float}
    (reached : Reached unit routine draft scope store state) (isOpen : draft.Open)
    (carries : routine.Carries (draft.push (.store slot operand)).routine)
    (inside : slot < routine.slots.size)
    (cells : Cells inner numbers (state.top.slots.setIfInBounds slot (state.top.read operand))) :
    ∃ next, state.step environment unit = .next next ∧
      Reached unit routine (draft.push (.store slot operand)) inner { store with numbers := numbers }
        next ∧
      ∀ registers, Since registers state next := by
  obtain ⟨_, here⟩ := carries.push isOpen
  rw [← reached.position_eq, ← reached.block_eq] at here
  have fits : slot < state.top.pass.slots.size := by
    show slot < state.top.slots.size
    rw [reached.slots_size]
    exact inside
  refine ⟨{ state with top := { state.top.pass with
    slots := state.top.slots.setIfInBounds slot (state.top.read operand) } }, ?_, ?_,
    fun _ => ⟨rfl, rfl, rfl, rfl, fun _ _ => rfl⟩⟩
  · rw [step_instruction reached.found here (by simp), Frame.execute, if_pos fits]
    rfl
  · refine ⟨reached.found, reached.block_eq, ?_, reached.registers_size, ?_, cells,
      reached.calls_eq⟩
    · show state.top.position + 1 = _
      rw [Draft.block_push, Draft.extent_push _ isOpen.inside, if_pos rfl, reached.position_eq]
    · show (state.top.slots.setIfInBounds _ _).size = _
      rw [Array.size_setIfInBounds, reached.slots_size]

/-- The state after a way to another block. -/
def jump (state : State) (block : Nat) : State := { state with top := state.top.jump block }

/-- A block that has been left for an empty one is left for it. -/
theorem Reached.jump (reached : Reached unit routine draft scope store state) (next : Draft)
    (empty : next.routine.extent next.block = 0) :
    Reached unit routine next scope store (state.jump next.block) :=
  ⟨reached.found, rfl, empty.symm, reached.registers_size, reached.slots_size, reached.cells,
    reached.calls_eq⟩

/-- Ways to other blocks change nothing else. -/
theorem since_jump (registers : Nat) (state : State) (block : Nat) :
    Since registers state (state.jump block) :=
  ⟨rfl, rfl, rfl, rfl, fun _ _ => rfl⟩

/-- At the end of a finished block no instruction stands. -/
theorem Reached.past (reached : Reached unit routine draft scope store state)
    (extent : routine.extent draft.block = draft.routine.extent draft.block) :
    routine.instruction? state.top.block state.top.position = none := by
  rw [reached.block_eq, reached.position_eq, ← extent]
  exact Routine.instruction?_eq_none_of_le (Nat.le_refl _)

variable (environment) in
/-- A block that ends with a branch is left for its target. -/
theorem Reached.branch (reached : Reached unit routine draft scope store state) {target : Nat}
    (ends : routine.terminator? draft.block = some (.branch target))
    (extent : routine.extent draft.block = draft.routine.extent draft.block) :
    state.step environment unit = .next (state.jump target) := by
  have past := reached.past extent
  rw [← reached.block_eq] at ends
  rw [step_terminator reached.found past ends]
  rfl

/-- The number that stands for a truth value is zero exactly if that is false. -/
theorem ofTruth_bne_zero (holds : Bool) : (ofTruth holds != 0) = holds := by
  cases holds <;> decide +kernel

variable (environment) in
/-- A block that ends with a choice is left for the target that the condition chooses. -/
theorem Reached.choose (reached : Reached unit routine draft scope store state)
    {condition : Operand} {consequent alternative : Nat} {holds : Bool}
    (ends : routine.terminator? draft.block = some (.choose condition consequent alternative))
    (extent : routine.extent draft.block = draft.routine.extent draft.block)
    (truth : state.top.read condition = ofTruth holds) :
    state.step environment unit =
      .next (state.jump (if holds then consequent else alternative)) := by
  have past := reached.past extent
  rw [← reached.block_eq] at ends
  rw [step_terminator reached.found past ends]
  simp only [truth, ofTruth_bne_zero]
  rfl

end Moves

end State

end Kaleidoscope.Code
