import Kaleidoscope.Code.Listing
import Kaleidoscope.Proofs.Code.Draft
import Kaleidoscope.Proofs.Syntax.Body

/-!
# Code whose calls go to names

Where a routine stands in its unit differs from unit to unit. If the routines that an instruction
calls are known by their names, the code of a definition is the same in all of them: slots, blocks,
registers and operands are counted within the routine (`Draft.content_compile`). So is its listing
between the braces (`Routine.bodyLines_eq`).

Two drafts are followed side by side through the lowering of an expression, each with its own
numbers for the routines that are called (`Draft.Alike`).
-/
namespace Kaleidoscope.Code

/-- What depends on the images of two optional values alone is the same where the images are. -/
theorem map_eq_of_map_eq {α β γ δ : Type} {f : α → γ} {g : β → γ} {f' : α → δ} {g' : β → δ}
    {first : Option α} {second : Option β} (same : first.map f = second.map g)
    (determined : ∀ one two, f one = g two → f' one = g' two) : first.map f' = second.map g' := by
  cases first <;> cases second
  · rfl
  · cases same
  · cases same
  · exact congrArg some (determined _ _ (Option.some.inj same))

/-- An instruction, and the name of the routine that it calls in place of its number. -/
def Instruction.named (nameOf : Nat → String) : Instruction → Instruction × Option String
  | .call target callee arguments => (.call target 0 arguments, some (nameOf callee))
  | instruction => (instruction, none)

/-- A block whose calls go to names. -/
structure NamedBlock where
  /-- Its name in listings. -/
  name : String
  /-- The instructions in order, each with the name that it calls. -/
  instructions : List (Instruction × Option String)
  /-- How it ends. -/
  terminator : Option Terminator

/-- A block, with the names of the routines that it calls. -/
def Block.named (nameOf : Nat → String) (block : Block) : NamedBlock :=
  ⟨block.name, block.instructions.toList.map (·.named nameOf), block.terminator⟩

/-- What stands between the braces of a routine, whose calls go to names. -/
structure Content where
  /-- The names of its slots. -/
  slots : List String
  /-- Its blocks in order. -/
  blocks : List NamedBlock

/-- What stands between the braces of a routine, with the names of the routines that it calls. -/
def Routine.content (nameOf : Nat → String) (routine : Routine) : Content :=
  ⟨routine.slots.toList, routine.blocks.toList.map (·.named nameOf)⟩

namespace Draft

/-- Two drafts with the same code, in which calls go to the same names. -/
structure Alike (nameOf other : Nat → String) (first second : Draft) : Prop where
  /-- The same block is filled. -/
  block_eq : first.block = second.block
  /-- There are as many blocks. -/
  size_eq : first.size = second.size
  /-- The slots are the same. -/
  slots_eq : first.routine.slots = second.routine.slots
  /-- As many registers are in use. -/
  registers_eq : first.routine.registers = second.routine.registers
  /-- The blocks are the same. -/
  blocks_eq : ∀ place : Nat, first.routine.blocks[place]?.map (·.named nameOf) =
    second.routine.blocks[place]?.map (·.named other)

/-- Two drafts with the same code, and the same value beside each. -/
def Same {α : Type} (nameOf other : Nat → String) (first second : α × Draft) : Prop :=
  first.1 = second.1 ∧ Alike nameOf other first.2 second.2

variable {nameOf other : Nat → String} {first second : Draft}

namespace Alike

theorem slotCount_eq (alike : Alike nameOf other first second) :
    first.slotCount = second.slotCount := congrArg Array.size alike.slots_eq

theorem change (alike : Alike nameOf other first second) {change following : Block → Block}
    (same : ∀ block content, block.named nameOf = content.named other →
      (change block).named nameOf = (following content).named other) :
    Alike nameOf other (first.change change) (second.change following) where
  block_eq := alike.block_eq
  size_eq := by simpa only [Draft.change, Draft.size, Array.size_modify] using alike.size_eq
  slots_eq := alike.slots_eq
  registers_eq := alike.registers_eq
  blocks_eq place := by
    have here := alike.blocks_eq place
    simp only [Draft.change, Array.getElem?_modify, alike.block_eq]
    split
    · simp only [Option.map_map]
      exact map_eq_of_map_eq here same
    · exact here

theorem push (alike : Alike nameOf other first second) {instruction following : Instruction}
    (same : instruction.named nameOf = following.named other) :
    Alike nameOf other (first.push instruction) (second.push following) := by
  refine alike.change fun block content equal => ?_
  simp only [Block.named, NamedBlock.mk.injEq] at equal
  simp only [Block.named, Array.toList_push, List.map_append, equal, List.map_cons, same,
    List.map_nil]

theorem finish (alike : Alike nameOf other first second) (terminator : Terminator) :
    Alike nameOf other (first.finish terminator) (second.finish terminator) := by
  refine alike.change fun block content equal => ?_
  simp only [Block.named, NamedBlock.mk.injEq] at equal
  simp only [Block.named, equal]

theorem emit (alike : Alike nameOf other first second) {make following : Nat → Instruction}
    (same : ∀ register, (make register).named nameOf = (following register).named other) :
    Same nameOf other (first.emit make) (second.emit following) := by
  have count : Alike nameOf other first.count second.count :=
    ⟨alike.block_eq, alike.size_eq, alike.slots_eq, congrArg (· + 1) alike.registers_eq,
      alike.blocks_eq⟩
  simp only [Same, Draft.emit, alike.registers_eq]
  exact ⟨trivial, count.push (same _)⟩

theorem append (alike : Alike nameOf other first second) (name : String) :
    Alike nameOf other (first.append name) (second.append name) where
  block_eq := alike.block_eq
  size_eq := by rw [size_append, size_append, alike.size_eq]
  slots_eq := alike.slots_eq
  registers_eq := alike.registers_eq
  blocks_eq place := by
    have here := alike.blocks_eq place
    have size : first.routine.blocks.size = second.routine.blocks.size := alike.size_eq
    simp only [Draft.append, Array.getElem?_push, size]
    split
    · rfl
    · exact here

theorem reserve (alike : Alike nameOf other first second) (name : String) :
    Alike nameOf other (first.reserve name) (second.reserve name) :=
  ⟨alike.block_eq, alike.size_eq, congrArg (·.push name) alike.slots_eq, alike.registers_eq,
    alike.blocks_eq⟩

theorem moveTo (alike : Alike nameOf other first second) {block following : Nat}
    (same : block = following) :
    Alike nameOf other (first.moveTo block) (second.moveTo following) :=
  ⟨same, alike.size_eq, alike.slots_eq, alike.registers_eq, alike.blocks_eq⟩

theorem leaveTo (alike : Alike nameOf other first second) {target next following after : Nat}
    (left : target = following) (entered : next = after) :
    Alike nameOf other (first.leaveTo target next) (second.leaveTo following after) := by
  subst left
  exact (alike.finish _).moveTo entered

theorem fork (alike : Alike nameOf other first second) {condition following : Operand}
    (same : condition = following) :
    Alike nameOf other (first.fork condition) (second.fork following) := by
  subst same
  simp only [Draft.fork, alike.size_eq]
  exact ((((alike.append _).append _).append _).finish _).moveTo rfl

theorem enterLoop (alike : Alike nameOf other first second) :
    Alike nameOf other first.enterLoop second.enterLoop :=
  (alike.append _).leaveTo alike.size_eq alike.size_eq

theorem leaveLoop (alike : Alike nameOf other first second) {condition following : Operand}
    {head start : Nat} (same : condition = following) (back : head = start) :
    Alike nameOf other (first.leaveLoop condition head) (second.leaveLoop following start) := by
  subst same back
  simp only [Draft.leaveLoop, alike.size_eq]
  exact ((alike.append _).finish _).moveTo rfl

/-- Drafts with the same code have the same content. -/
theorem content_eq (alike : Alike nameOf other first second) :
    first.routine.content nameOf = second.routine.content other := by
  have blocks : first.routine.blocks.toList.map (·.named nameOf) =
      second.routine.blocks.toList.map (·.named other) := by
    apply List.ext_getElem?
    intro place
    simpa only [List.getElem?_map, Array.getElem?_toList] using alike.blocks_eq place
  rw [Routine.content, Routine.content, alike.slots_eq, blocks]

/-- A value is stored in a slot of its own. -/
theorem keep (alike : Alike nameOf other first second) (name : String) {value following : Operand}
    (same : value = following) :
    Alike nameOf other ((first.reserve name).push (.store first.slotCount value))
      ((second.reserve name).push (.store second.slotCount following)) := by
  rw [alike.slotCount_eq, same]
  exact (alike.reserve name).push rfl

/-- The content of a slot is read. -/
theorem load (alike : Alike nameOf other first second) (slot : Nat) :
    Same nameOf other (first.emit (.load · slot)) (second.emit (.load · slot)) :=
  alike.emit fun _ => rfl

end Alike

namespace Same

variable {value following : Operand × Draft}

/-- A value is tested. -/
theorem test (same : Same nameOf other value following) :
    Same nameOf other (value.2.emit (.truth · value.1)) (following.2.emit (.truth · following.1)) :=
  same.2.emit fun _ => by rw [same.1]; rfl

/-- A value is stored. -/
theorem store (same : Same nameOf other value following) (slot : Nat) :
    Alike nameOf other (value.2.push (.store slot value.1))
      (following.2.push (.store slot following.1)) :=
  same.2.push (by rw [same.1]; rfl)

/-- A value is added to one from before. -/
theorem add (same : Same nameOf other value following) {base former : Operand}
    (equal : base = former) :
    Same nameOf other (value.2.emit (.arith · .add base value.1))
      (following.2.emit (.arith · .add former following.1)) :=
  same.2.emit fun _ => by rw [same.1, equal]; rfl

end Same

/-- Called names go to routines of the same name under both numbers. -/
def Agree (nameOf other : Nat → String) (callee target : String → Nat)
    (calls : List (String × Nat)) : Prop :=
  ∀ call ∈ calls, nameOf (callee call.1) = other (target call.1)

namespace Agree

variable {callee target : String → Nat} {front back : List (String × Nat)}

theorem left (agree : Agree nameOf other callee target (front ++ back)) :
    Agree nameOf other callee target front :=
  fun call member => agree call (List.mem_append_left _ member)

theorem right (agree : Agree nameOf other callee target (front ++ back)) :
    Agree nameOf other callee target back :=
  fun call member => agree call (List.mem_append_right _ member)

theorem tail {call : String × Nat} (agree : Agree nameOf other callee target (call :: back)) :
    Agree nameOf other callee target back :=
  fun call member => agree call (List.mem_cons_of_mem _ member)

/-- A call is the same under both numbers. -/
theorem call {name : String} {count : Nat}
    (agree : Agree nameOf other callee target ((name, count) :: back)) (arguments : List Operand)
    (register : Nat) :
    (Instruction.call register (callee name) arguments).named nameOf =
      (Instruction.call register (target name) arguments).named other := by
  simp only [Instruction.named, agree (name, count) List.mem_cons_self]

end Agree

mutual

/-- An expression is lowered to the same code under both numbers. -/
theorem same_lower {callee target : String → Nat} :
    ∀ (expr : Expr) (scope : Scope Nat) {first second : Draft},
      Agree nameOf other callee target expr.calls → Alike nameOf other first second →
      Same nameOf other (lower callee scope expr first) (lower target scope expr second)
  | .number value _, _, _, _, _, alike => ⟨rfl, alike⟩
  | .var name _, scope, _, _, _, alike => alike.load _
  | .binary _ .assign left right _, scope, first, second, agree, alike => by
    cases left with
    | var name place =>
      have value := same_lower right scope agree alike
      exact ⟨value.1, value.store _⟩
    | _ => exact ⟨rfl, alike⟩
  | .binary _ (.user name) left right _, scope, first, second, agree, alike => by
    have one := same_lower left scope agree.tail.left alike
    have two := same_lower right scope agree.tail.right one.2
    simp only [lower, one.1, two.1]
    exact two.2.emit (agree.call _)
  | .binary _ (.builtin operator) left right _, scope, first, second, agree, alike => by
    have one := same_lower left scope agree.left alike
    have two := same_lower right scope agree.right one.2
    simp only [lower, operate, one.1, two.1]
    exact two.2.emit fun _ => by cases operator <;> rfl
  | .unary operator operand _, scope, first, second, agree, alike => by
    have value := same_lower operand scope agree.tail alike
    simp only [lower, value.1]
    exact value.2.emit (agree.call _)
  | .call name arguments _, scope, first, second, agree, alike => by
    have values := same_lowerArguments arguments scope agree.tail alike
    simp only [lower, values.1]
    exact values.2.emit (agree.call _)
  | .conditional condition consequent alternative _, scope, first, second, agree, alike => by
    have tested := (same_lower condition scope agree.left alike).test
    have forked := tested.2.fork tested.1
    have one := same_lower consequent scope agree.right.left forked
    have merge := congrArg (· + 2) tested.2.size_eq
    have switched := one.2.leaveTo merge (congrArg (· + 1) tested.2.size_eq)
    have two := same_lower alternative scope agree.right.right switched
    exact (two.2.leaveTo merge merge).emit fun _ => by
      simp only [one.1, one.2.block_eq, two.1, two.2.block_eq, Instruction.named]
  | .loop counter start limit step body _, scope, first, second, agree, alike => by
    have initial := same_lower start scope agree.left alike
    have slot := initial.2.slotCount_eq
    have stored := initial.2.keep counter initial.1
    simp only [lower]
    rw [slot] at stored ⊢
    generalize (lower target scope start second).2.slotCount = place at *
    have repeated := same_lower body (scope.bind counter place) agree.right.left stored.enterLoop
    have current := repeated.2.load place
    have increment := same_lowerOptional step (scope.bind counter place) 1 agree.right.right.left
      current.2
    have next := increment.add current.1
    have limited := same_lower limit (scope.bind counter place) agree.right.right.right
      (next.store place)
    exact ⟨rfl, limited.test.2.leaveLoop limited.test.1 stored.size_eq⟩
  | .binding name initializer body _, scope, first, second, agree, alike => by
    have initial := same_lowerOptional initializer scope 0 agree.left alike
    have stored := initial.2.keep name initial.1
    simp only [lower]
    rw [initial.2.slotCount_eq] at stored ⊢
    exact same_lower body _ agree.right stored
  | .prototype _, _, _, _, _, alike | .function _ _ _, _, _, _, _, alike
  | .declaration _ _, _, _, _, _, alike => ⟨rfl, alike⟩

/-- Arguments are lowered to the same code under both numbers. -/
theorem same_lowerArguments {callee target : String → Nat} :
    ∀ (exprs : List Expr) (scope : Scope Nat) {first second : Draft},
      Agree nameOf other callee target (Expr.callsOfAll exprs) → Alike nameOf other first second →
      Same nameOf other (lowerArguments callee scope exprs first)
        (lowerArguments target scope exprs second)
  | [], _, _, _, _, alike => ⟨rfl, alike⟩
  | expr :: rest, scope, first, second, agree, alike => by
    have value := same_lower expr scope agree.left alike
    have values := same_lowerArguments rest scope agree.right value.2
    exact ⟨List.cons_eq_cons.2 ⟨value.1, values.1⟩, values.2⟩

/-- An expression that may be left out is lowered to the same code under both numbers. -/
theorem same_lowerOptional {callee target : String → Nat} :
    ∀ (expr : Option Expr) (scope : Scope Nat) (absent : Float) {first second : Draft},
      Agree nameOf other callee target (Expr.callsOfOptional expr) →
      Alike nameOf other first second →
      Same nameOf other (lowerOptional callee scope absent expr first)
        (lowerOptional target scope absent expr second)
  | none, _, _, _, _, _, alike => ⟨rfl, alike⟩
  | some expr, scope, _, _, _, agree, alike => same_lower expr scope agree alike

end

/-- Parameters get the same slots in drafts with the same code. -/
theorem same_bindParameters : ∀ (index : Nat) (names : List String) (scope : Scope Nat)
    {first second : Draft}, Alike nameOf other first second →
    Same nameOf other (bindParameters index names scope first)
      (bindParameters index names scope second)
  | _, [], _, _, _, alike => ⟨rfl, alike⟩
  | index, name :: rest, scope, first, second, alike => by
    have stored := alike.keep name (rfl : Operand.parameter index = .parameter index)
    simp only [bindParameters]
    rw [alike.slotCount_eq] at stored ⊢
    exact same_bindParameters (index + 1) rest _ stored

/-- Routines that have just been given their first block have the same code. -/
theorem alike_opened (nameOf other : Nat → String) (name title : String)
    (shown listed : List String) :
    Alike nameOf other (opened (.declared name shown)) (opened (.declared title listed)) := by
  have empty : Alike nameOf other ⟨.declared name shown, 0⟩ ⟨.declared title listed, 0⟩ :=
    ⟨rfl, rfl, rfl, rfl, fun _ => by simp [Routine.declared]⟩
  exact empty.append "entry"

/-- The code of a definition is the same wherever it is filed and whatever numbers the routines
have that it calls, as long as they have the same names. -/
theorem content_compile {callee target : String → Nat} {body : Expr}
    (agree : Agree nameOf other callee target body.calls) (parameters : List String)
    (name title : String) (shown listed : List String) :
    (compile callee parameters body (.declared name shown)).content nameOf =
      (compile target parameters body (.declared title listed)).content other := by
  have bound := same_bindParameters 0 parameters .empty
    (alike_opened nameOf other name title shown listed)
  have value := same_lower body
    (bindParameters 0 parameters .empty (opened (.declared title listed))).1 agree bound.2
  simp only [compile, bound.1, value.1]
  exact (value.2.finish _).content_eq

end Draft

namespace Routine

variable {nameOf other : Nat → String} {first second : Routine}

/-- Blocks at one place are the same in routines with the same content. -/
theorem block_named_eq (same : first.content nameOf = second.content other) (place : Nat) :
    first.blocks[place]?.map (·.named nameOf) = second.blocks[place]?.map (·.named other) := by
  have blocks := congrArg (·.blocks[place]?) same
  simpa only [content, List.getElem?_map, Array.getElem?_toList] using blocks

/-- Labels are the same in routines with the same content. -/
theorem label_eq (same : first.content nameOf = second.content other) (place : Nat) :
    first.label place = second.label place := by
  have names := congrArg (Option.map NamedBlock.name) (block_named_eq same place)
  simp only [Option.map_map] at names
  unfold label
  revert names
  cases first.blocks[place]? <;> cases second.blocks[place]? <;> intro names
  · rfl
  · cases names
  · cases names
  · exact congrArg (· ++ "." ++ Nat.repr place) (Option.some.inj names)

/-- Instructions with the same names for their callees are listed alike. -/
theorem instruction_text_eq (labels : ∀ place, first.label place = second.label place)
    {instruction following : Instruction}
    (same : instruction.named nameOf = following.named other) :
    instruction.text nameOf first = following.text other second := by
  cases instruction <;> cases following <;>
    simp_all [Instruction.named, Instruction.text]

/-- Ends of blocks are listed alike. -/
theorem terminator_text_eq (labels : ∀ place, first.label place = second.label place)
    (terminator : Terminator) : terminator.text first = terminator.text second := by
  cases terminator <;> simp only [Terminator.text, labels]

/-- Blocks with the same names for their callees are listed alike. -/
theorem blockLines_eq (labels : ∀ place, first.label place = second.label place) (place : Nat)
    {block following : Block} (same : block.named nameOf = following.named other) :
    first.blockLines nameOf place block = second.blockLines other place following := by
  obtain ⟨_, instructions, ending⟩ := NamedBlock.mk.inj same
  have lines : block.instructions.toList.map (·.text nameOf first) =
      following.instructions.toList.map (·.text other second) := by
    apply List.ext_getElem?
    intro position
    have here := congrArg (·[position]?) instructions
    simp only [List.getElem?_map] at here ⊢
    exact map_eq_of_map_eq here fun _ _ => instruction_text_eq labels
  simp only [blockLines, labels, lines, ending, terminator_text_eq labels]

/-- Routines with the same content are listed alike between the braces. -/
theorem bodyLines_eq (same : first.content nameOf = second.content other) :
    first.bodyLines nameOf = second.bodyLines other := by
  have slots : first.slots.toList = second.slots.toList := congrArg Content.slots same
  have blocks : first.blocks.toList.mapIdx (first.blockLines nameOf) =
      second.blocks.toList.mapIdx (second.blockLines other) := by
    apply List.ext_getElem?
    intro place
    simp only [List.getElem?_mapIdx, Array.getElem?_toList]
    exact map_eq_of_map_eq (block_named_eq same place) fun _ _ =>
      blockLines_eq (label_eq same) place
  rw [bodyLines, bodyLines, slots, blocks]

end Routine

end Kaleidoscope.Code
