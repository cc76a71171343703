import Kaleidoscope.Proofs.Code.WellFormed

/-!
# Certificates grow with drafts

Each kind of growth keeps a certificate: an instruction uses what is sure to be written where it
stands, and a new end promises a block only what is written on the way. When blocks are added they
are given lists of their own, and the lists of the blocks before stay.
-/
namespace Kaleidoscope.Code

namespace Routine

/-- Instructions stay where they are. -/
def Keeps (before after : Routine) : Prop :=
  ∀ {block position : Nat} {instruction : Instruction},
    before.instruction? block position = some instruction →
    after.instruction? block position = some instruction

namespace Keeps

variable {before after : Routine} {entry lists : Nat → List Nat}
  {parameters block position later register : Nat} {operand : Operand}

/-- Blocks do not become shorter. -/
theorem extent_le (keeps : before.Keeps after) (block : Nat) :
    before.extent block ≤ after.extent block := by
  cases length : before.extent block with
  | zero => exact Nat.zero_le _
  | succ last =>
    have found : (before.instruction? block last).isSome := by
      rw [instruction?_isSome_iff]
      omega
    obtain ⟨instruction, here⟩ := Option.isSome_iff_exists.1 found
    exact lt_extent_of_instruction? (keeps here)

/-- What was written stays written. -/
theorem writtenBelow (keeps : before.Keeps after) (further : position ≤ later)
    (written : before.WrittenBelow block position register) :
    after.WrittenBelow block later register := by
  obtain ⟨earlier, bound, instruction, found, target⟩ := written
  exact ⟨earlier, Nat.lt_of_lt_of_le bound further, instruction, keeps found, target⟩

/-- What can be used stays usable. -/
theorem usable (keeps : before.Keeps after) (same : lists block = entry block)
    (further : position ≤ later) (usable : before.Usable entry parameters block position operand) :
    after.Usable lists parameters block later operand := by
  cases operand with
  | number value => exact trivial
  | parameter index => exact usable
  | register index =>
    rcases usable with listed | written
    · exact .inl (same ▸ listed)
    · exact .inr (keeps.writtenBelow further written)

/-- What can be used at the end of a block stays usable there. -/
theorem usable_extent (keeps : before.Keeps after) (same : lists block = entry block)
    (usable : before.Usable entry parameters block (before.extent block) operand) :
    after.Usable lists parameters block (after.extent block) operand :=
  keeps.usable same (keeps.extent_le block) usable

/-- What is sure to be written at the end of a block stays so. -/
theorem sure_extent (keeps : before.Keeps after) (same : lists block = entry block)
    (sure : before.Sure entry block (before.extent block) register) :
    after.Sure lists block (after.extent block) register := by
  have usable : before.Usable entry 0 block (before.extent block) (.register register) := sure
  exact keeps.usable_extent same usable

end Keeps

/-- What an instruction needs in order to stand at a place. -/
structure Admits (parameters : Nat) (allowed : Nat → Nat → Prop) (entry : Nat → List Nat)
    (routine : Routine) (block position : Nat) (instruction : Instruction) : Prop where
  /-- It uses what is written there. -/
  usable : instruction.isPhi = false →
    ∀ operand ∈ instruction.operands, routine.Usable entry parameters block position operand
  /-- A phi names exactly the blocks that lead to its own, which is not the first one, and uses
  what is written at their ends. -/
  phi : ∀ {target : Nat} {incoming : List (Operand × Nat)}, instruction = .phi target incoming →
    block ≠ 0 ∧ (incoming.map (·.2)).Nodup ∧
      (∀ source, source ∈ incoming.map (·.2) ↔ routine.Leads source block) ∧
      ∀ value ∈ incoming,
        routine.Usable entry parameters value.2 (routine.extent value.2) value.1
  /-- Its slot exists, and its call is allowed. -/
  fits : instruction.Fits routine.slots.size allowed

/-- What an end of a block needs. -/
structure AdmitsEnd (parameters : Nat) (entry : Nat → List Nat) (routine : Routine) (block : Nat)
    (terminator : Terminator) : Prop where
  /-- It uses what is written. -/
  usable : ∀ operand ∈ terminator.operands,
    routine.Usable entry parameters block (routine.extent block) operand
  /-- It leads to blocks, and what their lists promise is written on the way. -/
  leads : ∀ target ∈ terminator.targets, target < routine.blocks.size ∧
    ∀ register ∈ entry target, routine.Sure entry block (routine.extent block) register

/-- All that a routine holds stays where it is, and so do the lists of its blocks. -/
structure Enlarges (entry lists : Nat → List Nat) (before after : Routine) : Prop where
  /-- Instructions stay. -/
  keeps : before.Keeps after
  /-- Ends stay. -/
  ends : ∀ {block : Nat} {terminator : Terminator}, before.terminator? block = some terminator →
    after.terminator? block = some terminator
  /-- Blocks are only added. -/
  size_le : before.blocks.size ≤ after.blocks.size
  /-- Slots are only added. -/
  slots_le : before.slots.size ≤ after.slots.size
  /-- Registers are only added. -/
  registers_le : before.registers ≤ after.registers
  /-- Lists stay. -/
  same : ∀ block < before.blocks.size, lists block = entry block

section Admission

variable {entry lists : Nat → List Nat} {before after : Routine} {block : Nat}

namespace Enlarges

variable {parameters position : Nat} {operand : Operand}

/-- What is led to stays led to. -/
theorem leads {source target : Nat} (enlarges : Enlarges entry lists before after)
    (leads : before.Leads source target) : after.Leads source target := by
  obtain ⟨terminator, ended, member⟩ := leads
  exact ⟨terminator, enlarges.ends ended, member⟩

/-- What can be used stays usable. -/
theorem usable (enlarges : Enlarges entry lists before after) (inside : block < before.blocks.size)
    (usable : before.Usable entry parameters block position operand) :
    after.Usable lists parameters block position operand := by
  have keeps : before.Keeps after := enlarges.keeps
  exact keeps.usable (enlarges.same block inside) (Nat.le_refl position) usable

/-- What can be used at the end of a block stays usable there. -/
theorem usable_extent (enlarges : Enlarges entry lists before after)
    (inside : block < before.blocks.size)
    (usable : before.Usable entry parameters block (before.extent block) operand) :
    after.Usable lists parameters block (after.extent block) operand := by
  have keeps : before.Keeps after := enlarges.keeps
  exact keeps.usable_extent (enlarges.same block inside) usable

/-- What is sure to be written at the end of a block stays so. -/
theorem sure_extent {register : Nat} (enlarges : Enlarges entry lists before after)
    (inside : block < before.blocks.size)
    (sure : before.Sure entry block (before.extent block) register) :
    after.Sure lists block (after.extent block) register := by
  have keeps : before.Keeps after := enlarges.keeps
  exact keeps.sure_extent (enlarges.same block inside) sure

end Enlarges

variable {parameters : Nat} {allowed : Nat → Nat → Prop} {position : Nat}

/-- An instruction goes on to have what it needs, unless new ends lead to the block of a phi. -/
theorem Admits.enlarge {instruction : Instruction} (inside : block < before.blocks.size)
    (admits : before.Admits parameters allowed entry block position instruction)
    (enlarges : Enlarges entry lists before after)
    (sources : instruction.isPhi = true → ∀ source, after.Leads source block →
      before.Leads source block) :
    after.Admits parameters allowed lists block position instruction where
  usable plain operand member := enlarges.usable inside (admits.usable plain operand member)
  phi := by
    rintro target incoming rfl
    obtain ⟨other, distinct, named, values⟩ := admits.phi rfl
    refine ⟨other, distinct, fun source => ?_, fun value member => ?_⟩
    · rw [named source]
      exact ⟨enlarges.leads, sources rfl source⟩
    · obtain ⟨terminator, ended, _⟩ := (named value.2).1 (List.mem_map_of_mem member)
      exact enlarges.usable_extent (lt_size_of_terminator? ended) (values value member)
  fits := admits.fits.mono enlarges.slots_le

/-- An end of a block goes on to have what it needs. -/
theorem AdmitsEnd.enlarge {terminator : Terminator} (inside : block < before.blocks.size)
    (admits : before.AdmitsEnd parameters entry block terminator)
    (enlarges : Enlarges entry lists before after) :
    after.AdmitsEnd parameters lists block terminator where
  usable operand member := enlarges.usable_extent inside (admits.usable operand member)
  leads := by
    intro target member
    obtain ⟨within, promised⟩ := admits.leads target member
    refine ⟨Nat.lt_of_lt_of_le within enlarges.size_le, fun register listed => ?_⟩
    rw [enlarges.same target within] at listed
    exact enlarges.sure_extent inside (promised register listed)

namespace Certified

/-- The instructions of a certified routine have what they need. -/
theorem admits (certified : before.Certified parameters allowed entry) {instruction : Instruction}
    (found : before.instruction? block position = some instruction) :
    before.Admits parameters allowed entry block position instruction where
  usable := certified.usable found
  phi := by
    rintro target incoming rfl
    refine ⟨?_, certified.phi found⟩
    rintro rfl
    have plain := certified.entry_plain found
    contradiction
  fits := certified.fits found

/-- The ends of the blocks of a certified routine have what they need. -/
theorem admitsEnd (certified : before.Certified parameters allowed entry) {terminator : Terminator}
    (found : before.terminator? block = some terminator) :
    before.AdmitsEnd parameters entry block terminator where
  usable := certified.usable_end found
  leads _ member := certified.leads ⟨terminator, found, member⟩

/-- A routine that grows stays certified when what is new has what it needs, no new end leads to a
phi, and each register is still written once. -/
theorem enlarge (certified : before.Certified parameters allowed entry)
    (enlarges : Enlarges entry lists before after) (nonempty : 0 < before.blocks.size)
    (known : ∀ block, before.blocks.size ≤ block → block < after.blocks.size →
      ∀ register ∈ lists block, register < after.registers)
    (instructions : ∀ {block position : Nat} {instruction : Instruction},
      after.instruction? block position = some instruction →
      before.instruction? block position = some instruction ∨
        after.Admits parameters allowed lists block position instruction)
    (ends : ∀ {block : Nat} {terminator : Terminator},
      after.terminator? block = some terminator →
      before.terminator? block = some terminator ∨
        after.AdmitsEnd parameters lists block terminator ∧
          ∀ target ∈ terminator.targets, ∀ position instruction,
            before.instruction? target position = some instruction → instruction.isPhi = false)
    (once : ∀ register < after.registers,
      ∃! place : Nat × Nat, after.Writes place.1 place.2 register)
    (bound : ∀ {block position register : Nat}, after.Writes block position register →
      register < after.registers) :
    after.Certified parameters allowed lists := by
  have admits : ∀ {block position : Nat} {instruction : Instruction},
      after.instruction? block position = some instruction →
      after.Admits parameters allowed lists block position instruction := by
    intro block position instruction found
    rcases instructions found with old | new
    · refine (certified.admits old).enlarge (lt_size_of_instruction? old) enlarges ?_
      rintro phi source ⟨terminator, ended, member⟩
      rcases ends ended with stays | ⟨_, plain⟩
      · exact ⟨terminator, stays, member⟩
      · rw [plain block member position instruction old] at phi
        contradiction
    · exact new
  have admitsEnd : ∀ {block : Nat} {terminator : Terminator},
      after.terminator? block = some terminator →
      after.AdmitsEnd parameters lists block terminator := by
    intro block terminator found
    rcases ends found with old | new
    · exact (certified.admitsEnd old).enlarge (lt_size_of_terminator? old) enlarges
    · exact new.1
  refine
    { start := (enlarges.same 0 nonempty).trans certified.start
      known := ?_
      leads := ?_
      usable := fun found => (admits found).usable
      phi := fun found => ((admits found).phi rfl).2
      usable_end := fun found => (admitsEnd found).usable
      fits := fun found => (admits found).fits
      written_once := once
      target_lt := bound
      entry_plain := ?_ }
  · intro block register within listed
    by_cases old : block < before.blocks.size
    · rw [enlarges.same block old] at listed
      exact Nat.lt_of_lt_of_le (certified.known old listed) enlarges.registers_le
    · exact known block (Nat.le_of_not_lt old) within register listed
  · rintro source target ⟨terminator, ended, member⟩
    exact (admitsEnd ended).leads target member
  · intro position instruction found
    cases instruction with
    | phi target incoming => exact absurd rfl ((admits found).phi rfl).1
    | _ => rfl

end Certified

end Admission

end Routine

namespace Draft

variable {parameters : Nat} {allowed : Nat → Nat → Prop} {entry : Nat → List Nat}
  {draft : Draft}

/-- Adding an instruction keeps the others. -/
theorem keeps_push (inside : draft.block < draft.size) (instruction : Instruction) :
    draft.routine.Keeps (draft.push instruction).routine := by
  intro block position other found
  rw [instruction?_push _ inside, if_neg]
  · exact found
  · rintro ⟨rfl, rfl⟩
    rw [Routine.instruction?_eq_none_of_le (Nat.le_refl _)] at found
    contradiction

/-- When an instruction is added, each that stands somewhere stood there before or is the new one. -/
theorem standing_push (inside : draft.block < draft.size) {instruction other : Instruction}
    {block position : Nat}
    (found : (draft.push instruction).routine.instruction? block position = some other) :
    draft.routine.instruction? block position = some other ∨
      (block = draft.block ∧ position = draft.routine.extent draft.block ∧ other = instruction) := by
  rw [instruction?_push _ inside] at found
  split at found
  · next here => exact .inr ⟨here.1, here.2, (Option.some.inj found).symm⟩
  · exact .inl found

/-- Ending a block keeps the instructions. -/
theorem keeps_finish (draft : Draft) (terminator : Terminator) :
    draft.routine.Keeps (draft.finish terminator).routine := by
  intro block position instruction found
  rw [instruction?_finish]
  exact found

/-- A new block keeps the instructions. -/
theorem keeps_append (draft : Draft) (name : String) :
    draft.routine.Keeps (draft.append name).routine := by
  intro block position instruction found
  rw [instruction?_append]
  exact found

/-- An instruction that is added writes what it writes, and nothing else changes. -/
theorem writes_push (inside : draft.block < draft.size) (instruction : Instruction)
    {block position register : Nat} :
    (draft.push instruction).routine.Writes block position register ↔
      (block = draft.block ∧ position = draft.routine.extent draft.block ∧
        instruction.target? = some register) ∨ draft.routine.Writes block position register := by
  unfold Routine.Writes
  rw [instruction?_push _ inside]
  split
  · next here => simp [here, Routine.instruction?_eq_none_of_le (Nat.le_refl _)]
  · next other =>
    refine (or_iff_right ?_).symm
    rintro ⟨block, position, _⟩
    exact other ⟨block, position⟩

/-- Reserve registers up to a number. -/
def number (draft : Draft) (registers : Nat) : Draft :=
  { draft with routine := { draft.routine with registers := registers } }

/-- How many registers there are when an instruction is added: it writes to none, or to the next
one. -/
def Numbers (draft : Draft) (instruction : Instruction) (registers : Nat) : Prop :=
  (instruction.target? = none ∧ registers = draft.routine.registers) ∨
    (instruction.target? = some draft.routine.registers ∧
      registers = draft.routine.registers + 1)

/-- An instruction that is numbered takes no register away. -/
theorem Numbers.le {instruction : Instruction} {registers : Nat}
    (numbers : draft.Numbers instruction registers) : draft.routine.registers ≤ registers := by
  rcases numbers with ⟨_, same⟩ | ⟨_, more⟩ <;> omega

/-- Adding an instruction, each register is still written by one instruction. -/
theorem written_once_push {instruction : Instruction} {registers : Nat} (isOpen : draft.Open)
    (certified : draft.routine.Certified parameters allowed entry)
    (numbers : draft.Numbers instruction registers) :
    ∀ register < registers, ∃! place : Nat × Nat,
      (draft.push instruction).routine.Writes place.1 place.2 register := by
  intro register within
  simp only [writes_push isOpen.inside]
  by_cases fresh : instruction.target? = some register
  · have new : register = draft.routine.registers := by
      rcases numbers with ⟨silent, _⟩ | ⟨writes, _⟩
      · rw [silent] at fresh
        contradiction
      · rw [writes] at fresh
        exact (Option.some.inj fresh).symm
    refine ⟨(draft.block, draft.routine.extent draft.block), .inl ⟨rfl, rfl, fresh⟩, ?_⟩
    rintro ⟨place, position⟩ (⟨rfl, rfl, _⟩ | old)
    · rfl
    · have known := certified.target_lt old
      omega
  · have known : register < draft.routine.registers := by
      rcases numbers with ⟨_, same⟩ | ⟨writes, more⟩
      · omega
      · rw [writes, Option.some.injEq] at fresh
        omega
    obtain ⟨place, writes, unique⟩ := certified.written_once register known
    refine ⟨place, .inr writes, ?_⟩
    rintro other (⟨_, _, same⟩ | old)
    · contradiction
    · exact unique other old

/-- Adding an instruction, the registers that are written exist. -/
theorem target_lt_push {instruction : Instruction} {registers : Nat} (isOpen : draft.Open)
    (certified : draft.routine.Certified parameters allowed entry)
    (numbers : draft.Numbers instruction registers) {block position register : Nat}
    (writes : (draft.push instruction).routine.Writes block position register) :
    register < registers := by
  rcases (writes_push isOpen.inside instruction).1 writes with ⟨_, _, fresh⟩ | old
  · rcases numbers with ⟨silent, _⟩ | ⟨target, more⟩
    · rw [silent] at fresh
      contradiction
    · rw [target, Option.some.injEq] at fresh
      omega
  · exact Nat.lt_of_lt_of_le (certified.target_lt old) numbers.le

/-- An instruction can be added where it has what it needs; if it writes, then to a new register. -/
theorem certified_push {instruction : Instruction} {registers : Nat} (isOpen : draft.Open)
    (certified : draft.routine.Certified parameters allowed entry)
    (numbers : draft.Numbers instruction registers)
    (admits : draft.routine.Admits parameters allowed entry draft.block
      (draft.routine.extent draft.block) instruction) :
    ((draft.number registers).push instruction).routine.Certified parameters allowed entry := by
  have inside := isOpen.inside
  have enlarges : Routine.Enlarges entry entry draft.routine
      ((draft.number registers).push instruction).routine :=
    { keeps := keeps_push inside instruction
      ends := fun ended => (terminator?_push draft instruction _).trans ended
      size_le := Nat.le_of_eq (size_push draft instruction).symm
      slots_le := Nat.le_refl _
      registers_le := numbers.le
      same := fun _ _ => rfl }
  have ends : ∀ {block : Nat} {terminator : Terminator},
      (draft.push instruction).routine.terminator? block = some terminator →
      draft.routine.terminator? block = some terminator :=
    fun ended => (terminator?_push draft instruction _).symm.trans ended
  have once := written_once_push isOpen certified numbers
  refine certified.enlarge enlarges (Nat.lt_of_le_of_lt (Nat.zero_le _) inside) ?_ ?_
    (fun ended => .inl (ends ended)) once
    (fun writes => target_lt_push isOpen certified numbers writes)
  · intro block beyond within
    rw [← size, size_push] at within
    exact absurd within (Nat.not_lt.2 beyond)
  · intro block position other found
    rcases standing_push inside found with old | ⟨rfl, rfl, rfl⟩
    · exact .inl old
    · refine .inr (admits.enlarge inside enlarges ?_)
      rintro _ source ⟨terminator, ended, member⟩
      exact ⟨terminator, ends ended, member⟩

/-- A block without a phi can be promised what is written where an end leads to it. -/
theorem certified_finish (isOpen : draft.Open)
    (certified : draft.routine.Certified parameters allowed entry) {terminator : Terminator}
    (usable : ∀ operand ∈ terminator.operands,
      draft.routine.Usable entry parameters draft.block (draft.routine.extent draft.block) operand)
    (leads : ∀ target ∈ terminator.targets, target < draft.size ∧
      (∀ register ∈ entry target,
        draft.routine.Sure entry draft.block (draft.routine.extent draft.block) register) ∧
      ∀ position instruction, draft.routine.instruction? target position = some instruction →
        instruction.isPhi = false) :
    (draft.finish terminator).routine.Certified parameters allowed entry := by
  have inside := isOpen.inside
  have admits : draft.routine.AdmitsEnd parameters entry draft.block terminator :=
    ⟨usable, fun target member => ⟨(leads target member).1, (leads target member).2.1⟩⟩
  have enlarges : Routine.Enlarges entry entry draft.routine (draft.finish terminator).routine :=
    { keeps := keeps_finish draft terminator
      ends := by
        intro block other ended
        rw [terminator?_finish draft inside, if_neg]
        · exact ended
        · rintro rfl
          rw [isOpen.endless] at ended
          contradiction
      size_le := Nat.le_of_eq (size_finish draft terminator).symm
      slots_le := Nat.le_refl _
      registers_le := Nat.le_refl _
      same := fun _ _ => rfl }
  refine certified.enlarge enlarges (Nat.lt_of_le_of_lt (Nat.zero_le _) inside) ?_ ?_ ?_ ?_ ?_
  · intro block beyond within
    rw [← size, ← size_finish draft terminator] at beyond
    exact absurd within (Nat.not_lt.2 beyond)
  · intro block position instruction found
    rw [instruction?_finish] at found
    exact .inl found
  · intro block other ended
    rw [terminator?_finish draft inside] at ended
    split at ended
    · next here =>
      cases ended
      subst here
      exact .inr ⟨admits.enlarge inside enlarges, fun target member => (leads target member).2.2⟩
    · exact .inl ended
  · simp only [Routine.Writes, instruction?_finish]
    exact certified.written_once
  · simp only [Routine.Writes, instruction?_finish]
    exact certified.target_lt

/-- A new block can be given any list of registers that exist. -/
theorem certified_append (inside : draft.block < draft.size)
    (certified : draft.routine.Certified parameters allowed entry) (name : String)
    {lists : Nat → List Nat} (same : ∀ block < draft.size, lists block = entry block)
    (known : ∀ register ∈ lists draft.size, register < draft.routine.registers) :
    (draft.append name).routine.Certified parameters allowed lists := by
  have enlarges : Routine.Enlarges entry lists draft.routine (draft.append name).routine :=
    { keeps := keeps_append draft name
      ends := fun ended => (terminator?_append draft name _).trans ended
      size_le := by simp
      slots_le := Nat.le_refl _
      registers_le := Nat.le_refl _
      same := same }
  refine certified.enlarge enlarges (Nat.lt_of_le_of_lt (Nat.zero_le _) inside) ?_ ?_ ?_ ?_ ?_
  · intro block beyond within
    rw [← size, size_append] at within
    obtain rfl : block = draft.size := Nat.le_antisymm (Nat.le_of_lt_succ within) beyond
    exact known
  · intro block position instruction found
    rw [instruction?_append] at found
    exact .inl found
  · intro block terminator ended
    rw [terminator?_append] at ended
    exact .inl ended
  · simp only [Routine.Writes, instruction?_append]
    exact certified.written_once
  · simp only [Routine.Writes, instruction?_append]
    exact certified.target_lt

/-- Later stages keep all instructions. -/
theorem Extends.keeps {before after : Draft} (extension : Extends before after) :
    before.routine.Keeps after.routine := by
  intro place position other found
  rw [extension.kept (Routine.lt_size_of_instruction? found)]
  · exact found
  · exact fun _ => Routine.lt_extent_of_instruction? found

namespace Flow

variable {before after : Draft} {beforeWritten afterWritten : List Nat}

/-- A certificate with lists for more blocks. -/
def Certifies (parameters : Nat) (allowed : Nat → Nat → Prop) (entry : Nat → List Nat)
    (old : Nat) (after : Draft) (written : List Nat) : Prop :=
  ∃ lists : Nat → List Nat, (∀ block < old, lists block = entry block) ∧
    after.routine.Certified parameters allowed lists ∧
    ∀ register ∈ written,
      after.routine.Sure lists after.block (after.routine.extent after.block) register

/-- What is ready at the end of the block being filled is usable there. -/
theorem usable_of_ready {written : List Nat} {operand : Operand}
    (sure : ∀ register ∈ written,
      draft.routine.Sure entry draft.block (draft.routine.extent draft.block) register)
    (ready : operand.Ready written parameters) :
    draft.routine.Usable entry parameters draft.block (draft.routine.extent draft.block)
      operand := by
  cases operand with
  | number value => exact trivial
  | register index => exact sure index ready
  | parameter index => exact ready

/-- An instruction that is no phi can be added where its operands are ready. -/
theorem certified_emit {written : List Nat} {instruction : Instruction} (isOpen : draft.Open)
    (certified : draft.routine.Certified parameters allowed entry)
    (sure : ∀ register ∈ written,
      draft.routine.Sure entry draft.block (draft.routine.extent draft.block) register)
    (target : instruction.target? = some draft.routine.registers)
    (plain : instruction.isPhi = false)
    (ready : ∀ operand ∈ instruction.operands, operand.Ready written parameters)
    (fits : instruction.Fits draft.slotCount allowed) :
    Certifies parameters allowed entry draft.size (draft.count.push instruction)
      (draft.routine.registers :: written) := by
  have inside : draft.count.block < draft.count.size := isOpen.inside
  have keeps : draft.count.routine.Keeps (draft.count.push instruction).routine :=
    keeps_push inside instruction
  refine ⟨entry, fun _ _ => rfl, ?_, ?_⟩
  · refine certified_push isOpen certified (.inr ⟨target, rfl⟩)
      { usable := fun _ operand member => usable_of_ready sure (ready operand member)
        phi := ?_
        fits := fits }
    rintro result incoming rfl
    contradiction
  · intro register member
    rcases List.mem_cons.1 member with rfl | old
    · refine .inr ⟨draft.routine.extent draft.block, ?_, ?_⟩
      · rw [extent_push _ inside]
        simp
      · exact (writes_push inside _).2 (.inl ⟨rfl, rfl, target⟩)
    · exact keeps.sure_extent rfl (sure register old)

/-- The blocks of a fork are promised what is written where it forks. -/
theorem certified_fork {written : List Nat} {condition : Operand} (isOpen : draft.Open)
    (certified : draft.routine.Certified parameters allowed entry)
    (sure : ∀ register ∈ written,
      draft.routine.Sure entry draft.block (draft.routine.extent draft.block) register)
    (ready : condition.Ready written parameters) :
    ∃ lists : Nat → List Nat, (∀ block < draft.size, lists block = entry block) ∧
      (∀ block, draft.size ≤ block → lists block = written) ∧
      (draft.fork condition).routine.Certified parameters allowed lists := by
  have inside := isOpen.inside
  let lists : Nat → List Nat := fun block => if block < draft.size then entry block else written
  have old : ∀ block < draft.size, lists block = entry block := fun block within => if_pos within
  have new : ∀ block, draft.size ≤ block → lists block = written :=
    fun block beyond => if_neg (Nat.not_lt.2 beyond)
  have known : ∀ register ∈ written, register < draft.routine.registers :=
    fun register member => certified.lt_of_sure inside (sure register member)
  have first : (draft.append "then").routine.Certified parameters allowed lists := by
    refine certified_append inside certified "then" old fun register listed => ?_
    rw [new _ (Nat.le_refl _)] at listed
    exact known register listed
  have second : ((draft.append "then").append "else").routine.Certified parameters allowed
      lists := by
    refine certified_append (by simp; omega) first "else" (fun _ _ => rfl) fun register listed => ?_
    rw [new _ (by simp)] at listed
    exact known register listed
  have third : (((draft.append "then").append "else").append "ifcont").routine.Certified
      parameters allowed lists := by
    refine certified_append (by simp; omega) second "ifcont" (fun _ _ => rfl)
      fun register listed => ?_
    rw [new _ (by simp; omega)] at listed
    exact known register listed
  have keeps : draft.routine.Keeps
      (((draft.append "then").append "else").append "ifcont").routine := by
    intro place position other found
    simpa using found
  have isOpen' : (((draft.append "then").append "else").append "ifcont").Open :=
    ⟨by simp; omega, by simpa using isOpen.endless⟩
  refine ⟨lists, old, new, certified_finish isOpen' third ?_ ?_⟩
  · intro operand member
    obtain rfl : operand = condition := by simpa [Terminator.operands] using member
    exact keeps.usable_extent (old _ inside) (usable_of_ready sure ready)
  · intro target member
    have place : target = draft.size ∨ target = draft.size + 1 := by
      simpa [Terminator.targets] using member
    refine ⟨by simp; omega, fun register listed => ?_, fun position instruction found => ?_⟩
    · rw [new target (by omega)] at listed
      exact keeps.sure_extent (old _ inside) (sure register listed)
    · simp only [instruction?_append] at found
      have bound := Routine.lt_size_of_instruction? found
      rw [← size] at bound
      omega

/-- Leaving a block for one without a phi that was promised what is written here. -/
theorem certified_leaveTo {written listed : List Nat} {target next : Nat} (isOpen : draft.Open)
    (certified : draft.routine.Certified parameters allowed entry)
    (sure : ∀ register ∈ written,
      draft.routine.Sure entry draft.block (draft.routine.extent draft.block) register)
    (inside : target < draft.size) (promised : entry target = listed) (subset : listed ⊆ written)
    (empty : ∀ position, draft.routine.instruction? target position = none) :
    (draft.leaveTo target next).routine.Certified parameters allowed entry := by
  refine certified_finish isOpen certified ?_ ?_
  · intro operand member
    simp [Terminator.operands] at member
  · intro other member
    obtain rfl : other = target := by simpa [Terminator.targets] using member
    refine ⟨inside, fun register member => ?_, fun position instruction found => ?_⟩
    · rw [promised] at member
      exact sure register (subset member)
    · rw [empty] at found
      contradiction

/-- While the first branch of a fork is filled, the block where the branches meet stays empty. -/
theorem empty_merge_first {first : Draft} {condition : Operand}
    (consequent : Extends (draft.fork condition) first) (position : Nat) :
    first.routine.instruction? (draft.size + 2) position = none := by
  rw [consequent.kept (by simp) (by simp), instruction?_fork]
  exact Routine.instruction?_eq_none_of_le (by rw [extent_size draft (by omega)]; omega)

/-- While the second branch of a fork is filled, the block where the branches meet stays empty. -/
theorem empty_merge_second {first second : Draft} {condition : Operand}
    (consequent : Extends (draft.fork condition) first)
    (alternative : Extends (first.leaveTo (draft.size + 2) (draft.size + 1)) second)
    (position : Nat) : second.routine.instruction? (draft.size + 2) position = none := by
  have grown := consequent.size_le
  rw [size_fork] at grown
  rw [alternative.kept (by simp; omega) (by simp), instruction?_leaveTo]
  exact empty_merge_first consequent position

/-- Only the ends of the two branches lead to the block where they meet. -/
theorem leads_merge {first second : Draft} {condition : Operand} (isOpen : draft.Open)
    (certified : draft.routine.Certified parameters allowed entry)
    (consequent : Extends (draft.fork condition) first)
    (alternative : Extends (first.leaveTo (draft.size + 2) (draft.size + 1)) second)
    (next source : Nat) :
    (second.leaveTo (draft.size + 2) next).routine.Leads source (draft.size + 2) ↔
      source = first.block ∨ source = second.block := by
  have inside := isOpen.inside
  have grown := consequent.size_le
  have further := alternative.size_le
  have firstPlace := consequent.place
  have secondPlace := alternative.place
  have firstInside := consequent.isOpen.inside
  have secondInside := alternative.isOpen.inside
  simp only [size_fork, block_fork, size_leaveTo, block_leaveTo] at grown further firstPlace secondPlace
  constructor
  · rintro ⟨terminator, found, member⟩
    have within : source < second.size := by
      simpa using Routine.lt_size_of_terminator? found
    have ended := branchEnd isOpen consequent alternative next within
    rw [found] at ended
    cases ended with
    | meets last => exact last
    | forks same => simp [Terminator.targets] at member
    | inner _ _ _ targets =>
      have bounds := targets _ member
      omega
    | finished old other kept =>
      have bound := (certified.leads ⟨terminator, kept, member⟩).1
      rw [← size] at bound
      omega
  · intro last
    have within : source < second.size := by omega
    have ended := branchEnd isOpen consequent alternative next within
    generalize found : Routine.terminator? _ source = terminator at ended
    cases ended with
    | meets => exact ⟨_, found, by simp [Terminator.targets]⟩
    | forks | inner | finished | merge => omega

/-- Branches that meet again keep the certificate. -/
theorem certified_branch {first second : Draft} {condition firstValue secondValue : Operand}
    {written firstWritten secondWritten : List Nat} {promised lists : Nat → List Nat}
    (isOpen : draft.Open) (certified : draft.routine.Certified parameters allowed entry)
    (consequent : Extends (draft.fork condition) first)
    (alternative : Extends (first.leaveTo (draft.size + 2) (draft.size + 1)) second)
    (firstSure : ∀ register ∈ firstWritten,
      first.routine.Sure promised first.block (first.routine.extent first.block) register)
    (firstReady : firstValue.Ready firstWritten parameters)
    (same : ∀ block < first.size, lists block = promised block)
    (secondCertified : second.routine.Certified parameters allowed lists)
    (secondSure : ∀ register ∈ secondWritten,
      second.routine.Sure lists second.block (second.routine.extent second.block) register)
    (secondReady : secondValue.Ready secondWritten parameters)
    (subset : written ⊆ secondWritten) (merged : lists (draft.size + 2) = written) :
    Certifies parameters allowed lists second.size
      ((second.leaveTo (draft.size + 2) (draft.size + 2)).count.push
        (.phi second.routine.registers [(firstValue, first.block), (secondValue, second.block)]))
      (second.routine.registers :: written) := by
  have grown := consequent.size_le
  have further := alternative.size_le
  have firstInside := consequent.isOpen.inside
  have firstPlace := consequent.place
  have secondPlace := alternative.place
  simp only [size_fork, block_fork, size_leaveTo, block_leaveTo] at grown further firstPlace secondPlace
  have open_merge := isOpen_merge isOpen consequent alternative
  have left : (second.leaveTo (draft.size + 2) (draft.size + 2)).routine.Certified parameters
      allowed lists :=
    certified_leaveTo alternative.isOpen secondCertified secondSure (by omega) merged subset
      (empty_merge_second consequent alternative)
  have leaves : second.routine.Keeps
      (second.leaveTo (draft.size + 2) (draft.size + 2)).routine := keeps_finish second _
  have inside : (second.leaveTo (draft.size + 2) (draft.size + 2)).count.block <
      (second.leaveTo (draft.size + 2) (draft.size + 2)).count.size := open_merge.inside
  refine ⟨lists, fun _ _ => rfl, ?_, ?_⟩
  · refine certified_push open_merge left (.inr ⟨rfl, rfl⟩)
      { usable := fun plain => by contradiction
        phi := ?_
        fits := trivial }
    intro target incoming shape
    cases shape
    refine ⟨by simp, by simp; omega, fun source => ?_, ?_⟩
    · rw [block_leaveTo, leads_merge isOpen certified consequent alternative]
      simp
    · intro value member
      have kept : first.routine.Keeps second.routine := by
        intro place position other found
        refine alternative.keeps ?_
        rw [instruction?_leaveTo]
        exact found
      rcases List.mem_cons.1 member with rfl | member
      · have usable := kept.usable_extent (same _ firstInside)
          (usable_of_ready firstSure firstReady)
        exact leaves.usable_extent rfl usable
      · obtain rfl := List.mem_singleton.1 member
        have usable := usable_of_ready secondSure secondReady
        exact leaves.usable_extent rfl usable
  · intro register member
    rcases List.mem_cons.1 member with rfl | old
    · refine .inr ⟨_, ?_, (writes_push inside _).2 (.inl ⟨rfl, rfl, rfl⟩)⟩
      rw [extent_push _ inside]
      simp
    · left
      rw [block_push, block_count, block_leaveTo, merged]
      exact old

/-- The block of a loop is promised what is written where the loop is entered. -/
theorem certified_enterLoop {written : List Nat} (isOpen : draft.Open)
    (certified : draft.routine.Certified parameters allowed entry)
    (sure : ∀ register ∈ written,
      draft.routine.Sure entry draft.block (draft.routine.extent draft.block) register) :
    ∃ lists : Nat → List Nat, (∀ block < draft.size, lists block = entry block) ∧
      lists draft.size = written ∧
      draft.enterLoop.routine.Certified parameters allowed lists := by
  have inside := isOpen.inside
  let lists : Nat → List Nat := fun block => if block < draft.size then entry block else written
  have old : ∀ block < draft.size, lists block = entry block := fun block within => if_pos within
  have new : lists draft.size = written := if_neg (Nat.lt_irrefl _)
  have grown : (draft.append "loop").routine.Certified parameters allowed lists := by
    refine certified_append inside certified "loop" old fun register listed => ?_
    rw [new] at listed
    exact certified.lt_of_sure inside (sure register listed)
  have keeps : draft.routine.Keeps (draft.append "loop").routine := keeps_append draft "loop"
  have isOpen' : (draft.append "loop").Open := ⟨by simp; omega, by simpa using isOpen.endless⟩
  refine ⟨lists, old, new, certified_leaveTo isOpen' grown ?_ (by simp) new
    (fun _ member => member) fun position => ?_⟩
  · intro register member
    exact keeps.sure_extent (old _ inside) (sure register member)
  · rw [instruction?_append]
    exact Routine.instruction?_eq_none_of_le (by rw [extent_size draft (by omega)]; omega)

/-- A loop can be repeated when all that its block was promised is written, and the block after it
is promised what is written at its end. -/
theorem certified_leaveLoop {last : Draft} {condition : Operand} {written lastWritten : List Nat}
    (body : Extends draft.enterLoop last)
    (certified : last.routine.Certified parameters allowed entry)
    (sure : ∀ register ∈ lastWritten,
      last.routine.Sure entry last.block (last.routine.extent last.block) register)
    (ready : condition.Ready lastWritten parameters) (promised : entry draft.size = written)
    (subset : written ⊆ lastWritten) :
    Certifies parameters allowed entry last.size (last.leaveLoop condition draft.size)
      lastWritten := by
  have inside := body.isOpen.inside
  have grown := body.size_le
  rw [size_enterLoop] at grown
  let lists : Nat → List Nat := fun block => if block < last.size then entry block else lastWritten
  have old : ∀ block < last.size, lists block = entry block := fun block within => if_pos within
  have new : lists last.size = lastWritten := if_neg (Nat.lt_irrefl _)
  have appended : (last.append "afterloop").routine.Certified parameters allowed lists := by
    refine certified_append inside certified "afterloop" old fun register listed => ?_
    rw [new] at listed
    exact certified.lt_of_sure inside (sure register listed)
  have keeps : last.routine.Keeps (last.append "afterloop").routine :=
    keeps_append last "afterloop"
  have isOpen' : (last.append "afterloop").Open :=
    ⟨by simp; omega, by simpa using body.isOpen.endless⟩
  have still : ∀ register ∈ lastWritten, (last.append "afterloop").routine.Sure lists last.block
      ((last.append "afterloop").routine.extent last.block) register := by
    intro register member
    exact keeps.sure_extent (old _ inside) (sure register member)
  refine ⟨lists, old, certified_finish isOpen' appended ?_ ?_, ?_⟩
  · intro operand member
    obtain rfl : operand = condition := by simpa [Terminator.operands] using member
    exact keeps.usable_extent (old _ inside) (usable_of_ready sure ready)
  · intro target member
    have place : target = draft.size ∨ target = last.size := by
      simpa [Terminator.targets] using member
    rcases place with rfl | rfl
    · refine ⟨by simp; omega, fun register listed => ?_, fun position instruction found => ?_⟩
      · rw [old _ (by omega), promised] at listed
        exact still register (subset listed)
      · -- the block of the loop holds only what its body has put there
        rw [instruction?_append] at found
        refine body.plain ?_ found
        rw [block_enterLoop, extent_enterLoop, extent_size draft (Nat.le_refl _)]
        exact Nat.zero_le _
    · refine ⟨by simp, fun register listed => ?_, fun position instruction found => ?_⟩
      · rw [new] at listed
        exact still register listed
      · rw [instruction?_append] at found
        have bound := Routine.lt_size_of_instruction? found
        rw [← size] at bound
        omega
  · intro register member
    left
    rw [block_leaveLoop, new]
    exact member

/-- Growth keeps the certificate: the lists of blocks that were there stay, and all that the growth
accounts for is sure to be written where it ends. -/
theorem certified (flow : Flow parameters allowed before beforeWritten after afterWritten)
    {entry : Nat → List Nat} (isOpen : before.Open)
    (certified : before.routine.Certified parameters allowed entry)
    (sure : ∀ register ∈ beforeWritten,
      before.routine.Sure entry before.block (before.routine.extent before.block) register) :
    Certifies parameters allowed entry before.size after afterWritten := by
  induction flow generalizing entry with
  | refl draft written => exact ⟨entry, fun _ _ => rfl, certified, sure⟩
  | @trans first second third before between after front back frontStage backStage =>
    obtain ⟨lists, same, middle, middleSure⟩ := frontStage isOpen certified sure
    have extension := front.extension isOpen
    obtain ⟨more, sameAgain, last, lastSure⟩ := backStage extension.isOpen middle middleSure
    refine ⟨more, fun block within => ?_, last, lastSure⟩
    rw [sameAgain block (Nat.lt_of_lt_of_le within extension.size_le), same block within]
  | emit instruction target plain ready fits =>
    exact certified_emit isOpen certified sure target plain ready fits
  | @store draft written slot value fits ready =>
    have keeps : draft.routine.Keeps (draft.push (.store slot value)).routine :=
      keeps_push isOpen.inside _
    refine ⟨entry, fun _ _ => rfl, ?_, ?_⟩
    · refine certified_push isOpen certified (.inl ⟨rfl, rfl⟩)
        { usable := fun _ operand member => ?_
          phi := fun shape => by contradiction
          fits := fits }
      obtain rfl : operand = value := by simpa [Instruction.operands] using member
      exact usable_of_ready sure ready
    · exact fun register member => keeps.sure_extent rfl (sure register member)
  | reserve draft written name =>
    refine ⟨entry, fun _ _ => rfl, ?_, sure⟩
    exact { certified with
      fits := fun found => (certified.fits found).mono (by simp) }
  | @branch draft first second written firstWritten secondWritten condition firstValue secondValue
      ready consequent firstReady alternative secondReady firstStage secondStage =>
    obtain ⟨forked, sameFork, promised, forkCertified⟩ :=
      certified_fork isOpen certified sure ready
    have forkOpen := isOpen_fork isOpen condition
    have firstExtension := consequent.extension forkOpen
    have grown := firstExtension.size_le
    rw [size_fork] at grown
    obtain ⟨lists, same, firstCertified, firstSure⟩ := firstStage forkOpen forkCertified (by
      intro register member
      left
      rw [block_fork, promised _ (Nat.le_refl _)]
      exact member)
    have secondOpen := isOpen_second isOpen firstExtension
    have secondExtension := alternative.extension secondOpen
    have listed : ∀ block, draft.size ≤ block → block < draft.size + 3 →
        lists block = written := by
      intro block beyond within
      rw [same block (by simpa using within), promised block beyond]
    obtain ⟨more, sameAgain, secondCertified, secondSure⟩ := secondStage secondOpen
      (certified_leaveTo firstExtension.isOpen firstCertified firstSure (by omega)
        (listed _ (by omega) (by omega)) consequent.subset
        (empty_merge_first firstExtension)) (by
      intro register member
      left
      rw [block_leaveTo, listed _ (by omega) (by omega)]
      exact member)
    rw [size_leaveTo] at sameAgain
    obtain ⟨final, sameFinal, joined⟩ := certified_branch isOpen certified firstExtension
      secondExtension firstSure firstReady sameAgain secondCertified secondSure secondReady
      alternative.subset (by
        rw [sameAgain _ (by omega), listed _ (by omega) (by omega)])
    refine ⟨final, fun block within => ?_, joined⟩
    have further := secondExtension.size_le
    rw [size_leaveTo] at further
    rw [sameFinal block (by omega), sameAgain block (by omega), same block (by simp; omega),
      sameFork block within]
  | @loop draft last written lastWritten condition body ready bodyStage =>
    obtain ⟨entered, sameEntered, promised, loopCertified⟩ :=
      certified_enterLoop isOpen certified sure
    have loopOpen := isOpen_enterLoop isOpen
    have extension := body.extension loopOpen
    have grown := extension.size_le
    rw [size_enterLoop] at grown
    obtain ⟨lists, same, lastCertified, lastSure⟩ := bodyStage loopOpen loopCertified (by
      intro register member
      left
      rw [block_enterLoop, promised]
      exact member)
    obtain ⟨final, sameFinal, left⟩ := certified_leaveLoop extension lastCertified lastSure ready
      (by rw [same _ (by simp), promised]) body.subset
    refine ⟨final, fun block within => ?_, left⟩
    rw [sameFinal block (by omega), same block (by simp; omega), sameEntered block within]

end Flow

end Draft

end Kaleidoscope.Code
