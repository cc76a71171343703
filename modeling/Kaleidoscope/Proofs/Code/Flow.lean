import Kaleidoscope.Proofs.Code.Draft

/-!
# How drafts grow

Whatever expression is lowered, its code comes about by a few kinds of growth: an instruction is
added at the end of the block being filled, a slot is reserved, a block is forked and its two
branches are joined again, or a loop is entered and left. `Draft.Flow` says so, and keeps account
of the registers that are sure to be written when the block being filled is reached, so that each
new instruction reads only those.

The main statement about growth is `Draft.Flow.extension`: code once written stays, all blocks but
the one being filled are ended, and new ends lead to new blocks.
-/
namespace Kaleidoscope.Code

/-- An operand that can be used where some registers are written, in a routine with some number of
parameters. -/
def Operand.Ready (registers : List Nat) (parameters : Nat) : Operand → Prop
  | .number _ => True
  | .register index => index ∈ registers
  | .parameter index => index < parameters

/-- What can be used stays usable when more registers are written. -/
theorem Operand.Ready.mono {fewer more : List Nat} {parameters : Nat} {operand : Operand}
    (ready : operand.Ready fewer parameters) (subset : fewer ⊆ more) :
    operand.Ready more parameters := by
  cases operand with
  | number value => exact trivial
  | register index => exact subset ready
  | parameter index => exact ready

namespace Instruction

/-- The register that an instruction writes to. -/
def target? : Instruction → Option Nat
  | .arith target .. | .compare target .. | .truth target _ | .load target _ | .call target ..
  | .phi target _ => some target
  | .store .. => none

/-- The operands of an instruction; a phi uses one of them at a time. -/
def operands : Instruction → List Operand
  | .arith _ _ left right | .compare _ _ left right => [left, right]
  | .truth _ value | .store _ value => [value]
  | .load .. => []
  | .call _ _ arguments => arguments
  | .phi _ incoming => incoming.map (·.1)

/-- Whether an instruction chooses by the block from which its own was reached. -/
def isPhi : Instruction → Bool
  | .phi .. => true
  | _ => false

/-- An instruction whose slot exists, and whose call is one of those allowed, given by their callee
and the number of their arguments. -/
def Fits (slots : Nat) (allowed : Nat → Nat → Prop) : Instruction → Prop
  | .load _ slot | .store slot _ => slot < slots
  | .call _ callee arguments => allowed callee arguments.length
  | _ => True

/-- Instructions still fit when there are more slots. -/
theorem Fits.mono {fewer more : Nat} {allowed : Nat → Nat → Prop} {instruction : Instruction}
    (fits : instruction.Fits fewer allowed) (le : fewer ≤ more) :
    instruction.Fits more allowed := by
  cases instruction with
  | load target slot | store slot value => exact Nat.lt_of_lt_of_le fits le
  | call target callee arguments => exact fits
  | _ => trivial

end Instruction

/-- The blocks that the end of a block may lead to. -/
def Terminator.targets : Terminator → List Nat
  | .branch target => [target]
  | .choose _ consequent alternative => [consequent, alternative]
  | .ret _ => []

/-- The operands that the end of a block uses. -/
def Terminator.operands : Terminator → List Operand
  | .branch _ => []
  | .choose condition _ _ => [condition]
  | .ret value => [value]

namespace Draft

/-- Growth of a draft whose routine has some number of parameters, from a place where some
registers are written to one where others are, by allowed calls only. -/
inductive Flow (parameters : Nat) (allowed : Nat → Nat → Prop) :
    Draft → List Nat → Draft → List Nat → Prop
  /-- No growth. -/
  | refl (draft : Draft) (written : List Nat) : Flow parameters allowed draft written draft written
  /-- One growth after another. -/
  | trans {first second third : Draft} {before between after : List Nat}
      (front : Flow parameters allowed first before second between)
      (back : Flow parameters allowed second between third after) :
      Flow parameters allowed first before third after
  /-- An instruction that writes to a new register. -/
  | emit {draft : Draft} {written : List Nat} (instruction : Instruction)
      (target : instruction.target? = some draft.routine.registers)
      (plain : instruction.isPhi = false)
      (ready : ∀ operand ∈ instruction.operands, operand.Ready written parameters)
      (fits : instruction.Fits draft.slotCount allowed) :
      Flow parameters allowed draft written (draft.count.push instruction)
        (draft.routine.registers :: written)
  /-- An instruction that fills a slot. -/
  | store {draft : Draft} {written : List Nat} {slot : Nat} {value : Operand}
      (fits : slot < draft.slotCount) (ready : value.Ready written parameters) :
      Flow parameters allowed draft written (draft.push (.store slot value)) written
  /-- A new slot. -/
  | reserve (draft : Draft) (written : List Nat) (name : String) :
      Flow parameters allowed draft written (draft.reserve name) written
  /-- Two branches that meet again. -/
  | branch {draft first second : Draft} {written firstWritten secondWritten : List Nat}
      {condition firstValue secondValue : Operand}
      (ready : condition.Ready written parameters)
      (consequent : Flow parameters allowed (draft.fork condition) written first firstWritten)
      (firstReady : firstValue.Ready firstWritten parameters)
      (alternative : Flow parameters allowed (first.leaveTo (draft.size + 2) (draft.size + 1))
        written second secondWritten)
      (secondReady : secondValue.Ready secondWritten parameters) :
      Flow parameters allowed draft written
        ((second.leaveTo (draft.size + 2) (draft.size + 2)).count.push
          (.phi second.routine.registers
            [(firstValue, first.block), (secondValue, second.block)]))
        (second.routine.registers :: written)
  /-- A block that repeats. -/
  | loop {draft last : Draft} {written lastWritten : List Nat} {condition : Operand}
      (body : Flow parameters allowed draft.enterLoop written last lastWritten)
      (ready : condition.Ready lastWritten parameters) :
      Flow parameters allowed draft written (last.leaveLoop condition draft.size) lastWritten

/-- A draft whose block exists and has no end yet. -/
structure Open (draft : Draft) : Prop where
  /-- The block exists. -/
  inside : draft.block < draft.size
  /-- It has no end. -/
  endless : draft.routine.terminator? draft.block = none

/-- A later stage of a draft. -/
structure Extends (before after : Draft) : Prop where
  /-- The block that was being filled exists. -/
  inside : before.block < before.size
  /-- Blocks are only added. -/
  size_le : before.size ≤ after.size
  /-- The block being filled is open. -/
  isOpen : after.Open
  /-- It is the one of before or a new one. -/
  place : after.block = before.block ∨ before.size ≤ after.block
  /-- Instructions stay where they are. -/
  kept : ∀ {block position : Nat}, block < before.size →
    (block = before.block → position < before.routine.extent block) →
    after.routine.instruction? block position = before.routine.instruction? block position
  /-- Finished blocks do not grow. -/
  extent_eq : ∀ {block : Nat}, block < before.size → block ≠ before.block →
    after.routine.extent block = before.routine.extent block
  /-- The block that was being filled only grows. -/
  extent_le : before.routine.extent before.block ≤ after.routine.extent before.block
  /-- Finished blocks keep their ends. -/
  terminator_eq : ∀ {block : Nat}, block < before.size → block ≠ before.block →
    after.routine.terminator? block = before.routine.terminator? block
  /-- The block that was being filled gets no phi. -/
  plain : ∀ {position : Nat} {instruction : Instruction},
    before.routine.extent before.block ≤ position →
    after.routine.instruction? before.block position = some instruction →
    instruction.isPhi = false
  /-- All other blocks are ended, and new ends lead to new blocks. -/
  closed : ∀ {block : Nat}, block = before.block ∨ before.size ≤ block → block < after.size →
    block ≠ after.block → ∃ terminator, after.routine.terminator? block = some terminator ∧
      ∀ target ∈ terminator.targets, before.size ≤ target ∧ target < after.size

variable {parameters : Nat} {allowed : Nat → Nat → Prop} {draft before after : Draft}
  {written beforeWritten afterWritten : List Nat}

/-- A draft is its own later stage. -/
theorem Extends.refl (isOpen : draft.Open) : Extends draft draft where
  inside := isOpen.inside
  size_le := Nat.le_refl _
  isOpen := isOpen
  place := .inl rfl
  kept _ _ := rfl
  extent_eq _ _ := rfl
  extent_le := Nat.le_refl _
  terminator_eq _ _ := rfl
  plain beyond found := by
    rw [Routine.instruction?_eq_none_of_le beyond] at found
    contradiction
  closed := by
    intro block origin inside other
    omega

/-- Later stages of later stages are later stages. -/
theorem Extends.trans {first second third : Draft} (front : Extends first second)
    (back : Extends second third) : Extends first third where
  inside := front.inside
  size_le := Nat.le_trans front.size_le back.size_le
  isOpen := back.isOpen
  place := by
    have moved := front.place
    have moved := back.place
    have grown := front.size_le
    omega
  kept := by
    intro block position inside written
    have grown := front.size_le
    have moved := front.place
    have longer := front.extent_le
    rw [← front.kept inside written]
    apply back.kept (by omega)
    intro same
    by_cases origin : block = first.block
    · subst origin
      have bound := written rfl
      omega
    · omega
  extent_eq := by
    intro block inside other
    have grown := front.size_le
    have moved := front.place
    rw [back.extent_eq (by omega) (by omega), front.extent_eq inside other]
  extent_le := by
    refine Nat.le_trans front.extent_le ?_
    by_cases same : first.block = second.block
    · rw [same]
      exact back.extent_le
    · exact Nat.le_of_eq (back.extent_eq (Nat.lt_of_lt_of_le front.inside front.size_le) same).symm
  terminator_eq := by
    intro block inside other
    have grown := front.size_le
    have moved := front.place
    rw [back.terminator_eq (by omega) (by omega), front.terminator_eq inside other]
  plain := by
    intro position instruction beyond found
    have inside := Nat.lt_of_lt_of_le front.inside front.size_le
    by_cases added : first.block = second.block ∧ second.routine.extent second.block ≤ position
    · rw [added.1] at found
      exact back.plain added.2 found
    · rw [back.kept inside (by intro same; rw [← same] at added; omega)] at found
      exact front.plain beyond found
  closed := by
    intro block origin inside other
    have grown := front.size_le
    have further := back.size_le
    by_cases late : block = second.block ∨ second.size ≤ block
    · obtain ⟨terminator, found, targets⟩ := back.closed late inside other
      refine ⟨terminator, found, fun target member => ?_⟩
      have bounds := targets target member
      omega
    · obtain ⟨terminator, found, targets⟩ := front.closed origin (by omega) (by omega)
      rw [← back.terminator_eq (by omega) (by omega)] at found
      refine ⟨terminator, found, fun target member => ?_⟩
      have bounds := targets target member
      omega

/-- Adding an instruction that is no phi makes a later stage. -/
theorem extends_push (isOpen : draft.Open) (instruction : Instruction)
    (plain : instruction.isPhi = false) : Extends draft (draft.push instruction) where
  inside := isOpen.inside
  size_le := by simp
  isOpen := ⟨by simpa using isOpen.inside, by simpa using isOpen.endless⟩
  place := .inl rfl
  kept := by
    intro block position inside written
    rw [instruction?_push draft isOpen.inside, if_neg]
    rintro ⟨same, last⟩
    have bound := written same
    rw [same] at bound
    omega
  extent_eq := by
    intro block inside other
    rw [extent_push draft isOpen.inside, if_neg other]
  extent_le := by
    rw [extent_push draft isOpen.inside, if_pos rfl]
    omega
  terminator_eq := by simp
  plain := by
    intro position found beyond added
    rw [instruction?_push draft isOpen.inside] at added
    split at added
    · cases added
      exact plain
    · rw [Routine.instruction?_eq_none_of_le beyond] at added
      contradiction
  closed := by
    intro block origin inside other
    simp at inside other
    omega

/-- Reserving a register makes a later stage. -/
theorem extends_count (isOpen : draft.Open) : Extends draft draft.count :=
  { Extends.refl isOpen with isOpen := ⟨isOpen.inside, isOpen.endless⟩ }

/-- Reserving a slot makes a later stage. -/
theorem extends_reserve (isOpen : draft.Open) (name : String) :
    Extends draft (draft.reserve name) :=
  { Extends.refl isOpen with isOpen := ⟨isOpen.inside, isOpen.endless⟩ }

/-- The first branch of a fork starts open. -/
theorem isOpen_fork (isOpen : draft.Open) (condition : Operand) : (draft.fork condition).Open where
  inside := by simp
  endless := by
    have inside := isOpen.inside
    rw [terminator?_fork draft inside, block_fork, if_neg (by omega)]
    exact terminator?_size draft (Nat.le_refl _)

/-- The second branch of a fork starts open when the first is done. -/
theorem isOpen_second {first : Draft} {condition : Operand}
    (isOpen : draft.Open) (consequent : Extends (draft.fork condition) first) :
    (first.leaveTo (draft.size + 2) (draft.size + 1)).Open where
  inside := by
    have grown := consequent.size_le
    simp at grown ⊢
    omega
  endless := by
    have inside := isOpen.inside
    have moved := consequent.place
    simp at moved
    rw [terminator?_leaveTo _ consequent.isOpen.inside, block_leaveTo, if_neg (by omega),
      consequent.terminator_eq (by simp) (by simp),
      terminator?_fork draft inside, if_neg (by omega)]
    exact terminator?_size draft (by omega)

/-- The block where the branches of a fork meet starts open when both are done. -/
theorem isOpen_merge {first second : Draft} {condition : Operand} (isOpen : draft.Open)
    (consequent : Extends (draft.fork condition) first)
    (alternative : Extends (first.leaveTo (draft.size + 2) (draft.size + 1)) second) :
    (second.leaveTo (draft.size + 2) (draft.size + 2)).Open where
  inside := by
    have grown := consequent.size_le
    have further := alternative.size_le
    simp at grown further ⊢
    omega
  endless := by
    have grown := consequent.size_le
    have firstPlace := consequent.place
    have secondPlace := alternative.place
    simp at grown firstPlace secondPlace
    rw [terminator?_leaveTo _ alternative.isOpen.inside, block_leaveTo, if_neg (by omega),
      alternative.terminator_eq (by simp; omega) (by simp),
      terminator?_leaveTo _ consequent.isOpen.inside, if_neg (by omega),
      consequent.terminator_eq (by simp) (by simp), terminator?_fork _ isOpen.inside,
      if_neg (by have inside := isOpen.inside; omega)]
    exact terminator?_size draft (by omega)

/-- How a block ends when the two branches of a fork have been filled and go on to where they
meet. -/
inductive BranchEnd (draft first second : Draft) (condition : Operand) (block : Nat) :
    Option Terminator → Prop
  /-- The last blocks of the branches go on to where these meet. -/
  | meets (last : block = first.block ∨ block = second.block) :
      BranchEnd draft first second condition block (some (.branch (draft.size + 2)))
  /-- The block that was being filled chooses between the branches. -/
  | forks (same : block = draft.block) :
      BranchEnd draft first second condition block
        (some (.choose condition draft.size (draft.size + 1)))
  /-- The other blocks of the branches lead to such blocks. -/
  | inner (terminator : Terminator) (new : draft.size ≤ block)
      (other : block ≠ first.block ∧ block ≠ second.block)
      (targets : ∀ target ∈ terminator.targets,
        draft.size + 3 ≤ target ∧ target < second.size) :
      BranchEnd draft first second condition block (some terminator)
  /-- Finished blocks keep their ends. -/
  | finished {ended : Option Terminator} (old : block < draft.size) (other : block ≠ draft.block)
      (kept : draft.routine.terminator? block = ended) :
      BranchEnd draft first second condition block ended
  /-- The block where the branches meet has no end yet. -/
  | merge (same : block = draft.size + 2) : BranchEnd draft first second condition block none

section Branches

variable {first second : Draft} {condition : Operand}

/-- Every block ends in one of these ways. -/
theorem branchEnd (isOpen : draft.Open) (consequent : Extends (draft.fork condition) first)
    (alternative : Extends (first.leaveTo (draft.size + 2) (draft.size + 1)) second)
    (next : Nat) {block : Nat} (within : block < second.size) :
    BranchEnd draft first second condition block
      ((second.leaveTo (draft.size + 2) next).routine.terminator? block) := by
  have inside := isOpen.inside
  have firstInside := consequent.isOpen.inside
  have firstGrown := consequent.size_le
  have firstPlace := consequent.place
  have secondGrown := alternative.size_le
  have secondPlace := alternative.place
  simp only [size_fork, block_fork, size_leaveTo, block_leaveTo]
    at firstGrown firstPlace secondGrown secondPlace
  rw [terminator?_leaveTo _ alternative.isOpen.inside]
  by_cases atSecond : block = second.block
  · rw [if_pos atSecond]
    exact .meets (.inr atSecond)
  rw [if_neg atSecond]
  by_cases late : block = draft.size + 1 ∨ first.size ≤ block
  · obtain ⟨terminator, found, targets⟩ :=
      alternative.closed (by simpa using late) within atSecond
    rw [found]
    refine .inner terminator (by omega) (by omega) fun target member => ?_
    have bounds := targets target member
    rw [size_leaveTo] at bounds
    omega
  rw [alternative.terminator_eq (by simp; omega) (by simp; omega),
    terminator?_leaveTo _ firstInside]
  by_cases atFirst : block = first.block
  · rw [if_pos atFirst]
    exact .meets (.inl atFirst)
  rw [if_neg atFirst]
  by_cases middle : block = draft.size ∨ draft.size + 3 ≤ block
  · obtain ⟨terminator, found, targets⟩ :=
      consequent.closed (by simpa using middle) (by omega) atFirst
    rw [found]
    refine .inner terminator (by omega) (by omega) fun target member => ?_
    have bounds := targets target member
    rw [size_fork] at bounds
    omega
  rw [consequent.terminator_eq (by simp; omega) (by simp; omega), terminator?_fork _ inside]
  by_cases forked : block = draft.block
  · rw [if_pos forked]
    exact .forks forked
  rw [if_neg forked]
  by_cases old : block < draft.size
  · exact .finished old forked rfl
  · rw [terminator?_size draft (by omega)]
    exact .merge (by omega)

/-- Filling the branches of a fork leaves the blocks before as they are. -/
theorem kept_branches (isOpen : draft.Open) (consequent : Extends (draft.fork condition) first)
    (alternative : Extends (first.leaveTo (draft.size + 2) (draft.size + 1)) second)
    {block : Nat} (old : block < draft.size) :
    (∀ position, second.routine.instruction? block position =
      draft.routine.instruction? block position) ∧
    second.routine.extent block = draft.routine.extent block := by
  have inside := isOpen.inside
  have grown := consequent.size_le
  have place := consequent.place
  simp only [size_fork, block_fork] at grown place
  constructor
  · intro position
    rw [alternative.kept (by simp; omega) (by simp; omega), instruction?_leaveTo,
      consequent.kept (by simp; omega) (by simp; omega), instruction?_fork]
  · rw [alternative.extent_eq (by simp; omega) (by simp; omega), extent_leaveTo,
      consequent.extent_eq (by simp; omega) (by simp; omega), extent_fork]

/-- Branches that meet again make a later stage. -/
theorem extends_branch (isOpen : draft.Open) (consequent : Extends (draft.fork condition) first)
    (alternative : Extends (first.leaveTo (draft.size + 2) (draft.size + 1)) second)
    (incoming : List (Operand × Nat)) (target : Nat) :
    Extends draft
      ((second.leaveTo (draft.size + 2) (draft.size + 2)).count.push (.phi target incoming)) := by
  have inside := isOpen.inside
  have firstGrown := consequent.size_le
  have firstPlace := consequent.place
  have secondGrown := alternative.size_le
  have secondPlace := alternative.place
  simp only [size_fork, block_fork, size_leaveTo, block_leaveTo]
    at firstGrown firstPlace secondGrown secondPlace
  have merge := isOpen_merge isOpen consequent alternative
  have merges : (second.leaveTo (draft.size + 2) (draft.size + 2)).count.block <
      (second.leaveTo (draft.size + 2) (draft.size + 2)).count.size := merge.inside
  have instructions : ∀ {block : Nat} (position : Nat), block < draft.size →
      ((second.leaveTo (draft.size + 2) (draft.size + 2)).count.push
        (.phi target incoming)).routine.instruction? block position =
          draft.routine.instruction? block position := by
    intro block position old
    rw [instruction?_push _ merges, block_count, block_leaveTo, if_neg (by omega),
      instruction?_count, instruction?_leaveTo]
    exact (kept_branches isOpen consequent alternative old).1 position
  have extents : ∀ {block : Nat}, block < draft.size →
      ((second.leaveTo (draft.size + 2) (draft.size + 2)).count.push
        (.phi target incoming)).routine.extent block = draft.routine.extent block := by
    intro block old
    rw [extent_push _ merges, block_count, block_leaveTo, if_neg (by omega), extent_count,
      extent_leaveTo]
    exact (kept_branches isOpen consequent alternative old).2
  refine
    { inside := inside
      size_le := by simp; omega
      isOpen := ⟨by simp; omega, ?_⟩
      place := by simp
      kept := fun old _ => instructions _ old
      extent_eq := fun old _ => extents old
      extent_le := Nat.le_of_eq (extents inside).symm
      terminator_eq := ?_
      plain := ?_
      closed := ?_ }
  · rw [terminator?_push]
    exact merge.endless
  · intro block old other
    rw [terminator?_push, terminator?_count]
    have ended := branchEnd isOpen consequent alternative (draft.size + 2)
      (Nat.lt_of_lt_of_le old (by omega))
    generalize Routine.terminator? _ block = found at ended ⊢
    cases ended with
    | finished _ _ kept => exact kept.symm
    | meets | forks | inner | merge => omega
  · intro position instruction beyond found
    rw [instructions position inside, Routine.instruction?_eq_none_of_le beyond] at found
    contradiction
  · intro block origin within other
    simp only [size_push, size_count, size_leaveTo] at within ⊢
    simp only [block_push, block_count, block_leaveTo] at other
    rw [terminator?_push, terminator?_count]
    have ended := branchEnd isOpen consequent alternative (draft.size + 2) within
    generalize Routine.terminator? _ block = found at ended ⊢
    cases ended with
    | meets last =>
      refine ⟨_, rfl, ?_⟩
      simp [Terminator.targets]
      omega
    | forks same =>
      refine ⟨_, rfl, ?_⟩
      simp [Terminator.targets]
      omega
    | inner terminator _ _ targets =>
      refine ⟨terminator, rfl, fun target member => ?_⟩
      have bounds := targets target member
      omega
    | finished | merge => omega

end Branches

/-- A loop starts open. -/
theorem isOpen_enterLoop (isOpen : draft.Open) : draft.enterLoop.Open where
  inside := by simp
  endless := by
    have inside := isOpen.inside
    rw [terminator?_enterLoop _ inside, block_enterLoop, if_neg (by omega)]
    exact terminator?_size draft (Nat.le_refl _)

/-- A loop that is left makes a later stage. -/
theorem extends_loop {last : Draft} (isOpen : draft.Open) (body : Extends draft.enterLoop last)
    (condition : Operand) : Extends draft (last.leaveLoop condition draft.size) := by
  have inside := isOpen.inside
  have lastInside := body.isOpen.inside
  have grown := body.size_le
  have place := body.place
  rw [size_enterLoop] at grown
  rw [size_enterLoop, block_enterLoop] at place
  have instructions : ∀ {block : Nat} (position : Nat), block < draft.size →
      last.routine.instruction? block position = draft.routine.instruction? block position := by
    intro block position old
    rw [body.kept (by simp; omega) (by simp; omega), instruction?_enterLoop]
  have extents : ∀ {block : Nat}, block < draft.size →
      last.routine.extent block = draft.routine.extent block := by
    intro block old
    rw [body.extent_eq (by simp; omega) (by simp; omega), extent_enterLoop]
  have terminators : ∀ {block : Nat}, block < draft.size →
      last.routine.terminator? block =
        if block = draft.block then some (.branch draft.size)
        else draft.routine.terminator? block := by
    intro block old
    rw [body.terminator_eq (by simp; omega) (by simp; omega), terminator?_enterLoop _ inside]
  have ends := terminator?_leaveLoop last lastInside condition draft.size
  refine
    { inside := inside
      size_le := by simp; omega
      isOpen := ⟨by simp, ?_⟩
      place := by simp; omega
      kept := ?_
      extent_eq := ?_
      extent_le := ?_
      terminator_eq := ?_
      plain := ?_
      closed := ?_ }
  · rw [ends, block_leaveLoop, if_neg (by omega)]
    exact terminator?_size last (Nat.le_refl _)
  · intro block position old written
    rw [instruction?_leaveLoop, instructions position old]
  · intro block old other
    rw [extent_leaveLoop, extents old]
  · exact Nat.le_of_eq (by rw [extent_leaveLoop, extents inside])
  · intro block old other
    rw [ends, if_neg (by omega), terminators old, if_neg other]
  · intro position instruction beyond found
    rw [instruction?_leaveLoop, instructions position inside,
      Routine.instruction?_eq_none_of_le beyond] at found
    contradiction
  · intro block origin within other
    rw [size_leaveLoop] at within ⊢
    rw [block_leaveLoop] at other
    rw [ends]
    by_cases atLast : block = last.block
    · refine ⟨_, if_pos atLast, ?_⟩
      simp [Terminator.targets]
      omega
    rw [if_neg atLast]
    by_cases old : block < draft.size
    · have same : block = draft.block := by omega
      refine ⟨_, by rw [terminators old, if_pos same], ?_⟩
      simp [Terminator.targets]
      omega
    · obtain ⟨terminator, found, targets⟩ :=
        body.closed (by simp; omega) (by omega) atLast
      refine ⟨terminator, found, fun target member => ?_⟩
      have bounds := targets target member
      rw [size_enterLoop] at bounds
      omega

namespace Flow

/-- Growth leads from an open block to a later stage. -/
theorem extension (flow : Flow parameters allowed before beforeWritten after afterWritten)
    (isOpen : before.Open) : Extends before after := by
  induction flow with
  | refl draft written => exact Extends.refl isOpen
  | trans front back frontStage backStage =>
    have first := frontStage isOpen
    exact first.trans (backStage first.isOpen)
  | emit instruction target plain ready fits =>
    have first := extends_count isOpen
    exact first.trans (extends_push first.isOpen instruction plain)
  | store fits ready => exact extends_push isOpen _ rfl
  | reserve draft written name => exact extends_reserve isOpen name
  | branch ready consequent firstReady alternative secondReady firstStage secondStage =>
    have first := firstStage (isOpen_fork isOpen _)
    exact extends_branch isOpen first (secondStage (isOpen_second isOpen first)) _ _
  | loop body ready bodyStage => exact extends_loop isOpen (bodyStage (isOpen_enterLoop isOpen)) _

/-- Registers that are sure to be written stay so. -/
theorem subset (flow : Flow parameters allowed before beforeWritten after afterWritten) :
    beforeWritten ⊆ afterWritten := by
  induction flow with
  | refl draft written => exact fun _ member => member
  | trans front back frontSubset backSubset =>
    exact fun _ member => backSubset (frontSubset member)
  | emit => exact fun _ member => List.mem_cons_of_mem _ member
  | store fits ready => exact fun _ member => member
  | reserve draft written name => exact fun _ member => member
  | branch => exact fun _ member => List.mem_cons_of_mem _ member
  | loop body ready bodySubset => exact bodySubset

/-- Slots are only added. -/
theorem slotCount_le (flow : Flow parameters allowed before beforeWritten after afterWritten) :
    before.slotCount ≤ after.slotCount := by
  induction flow with
  | refl draft written => exact Nat.le_refl _
  | trans front back frontLe backLe => exact Nat.le_trans frontLe backLe
  | emit => exact Nat.le_refl _
  | store fits ready => exact Nat.le_refl _
  | reserve draft written name => simp [slotCount]
  | branch ready consequent firstReady alternative secondReady firstLe secondLe =>
    exact Nat.le_trans firstLe secondLe
  | loop body ready bodyLe => exact bodyLe

/-- The name and the parameters of the routine stay. -/
theorem heading (flow : Flow parameters allowed before beforeWritten after afterWritten) :
    after.routine.name = before.routine.name ∧
      after.routine.parameters = before.routine.parameters := by
  induction flow with
  | refl draft written => exact ⟨rfl, rfl⟩
  | trans front back frontSame backSame =>
    exact ⟨backSame.1.trans frontSame.1, backSame.2.trans frontSame.2⟩
  | emit | store | reserve => exact ⟨rfl, rfl⟩
  | branch ready consequent firstReady alternative secondReady firstSame secondSame =>
    exact ⟨secondSame.1.trans firstSame.1, secondSame.2.trans firstSame.2⟩
  | loop body ready bodySame => exact bodySame

end Flow

end Draft

end Kaleidoscope.Code
