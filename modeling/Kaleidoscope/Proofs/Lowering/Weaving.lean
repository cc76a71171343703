import Kaleidoscope.Lowering.Expr
import Kaleidoscope.Proofs.Lowering.Actions
import Kaleidoscope.Proofs.Syntax.Body

/-!
# What the lowering of a body is woven from

Much of what a builder holds lasts while routines are filled: faults may strike, the cursor may
move, and routines get longer, but none is added, renamed or stripped (`Builder.Lasting`). The
operations that lower a body are of this kind, each of them whether it succeeds or fails.

What else happens in lowering a body happens at its calls. So the lowering of a body is woven from
such operations, from calls and from decisions by the state (`Lower.woven_lower`), and what is to be
known of all bodies has to be shown for these alone, by induction on `Lower.Woven`.
-/
namespace Kaleidoscope

open Code

/-- A change of a routine that is being filled: its heading stays, and so does having a body. -/
structure Code.Routine.IsFilling (change : Routine → Routine) : Prop where
  /-- The name. -/
  name_eq : ∀ routine, (change routine).name = routine.name
  /-- The parameters. -/
  parameters_eq : ∀ routine, (change routine).parameters = routine.parameters
  /-- Having a body. -/
  hasBody : ∀ {routine}, routine.hasBody = true → (change routine).hasBody = true

/-- Something that holds of a builder as long as routines are filled. -/
class Builder.Lasting (holds : Builder → Prop) : Prop where
  /-- Faults are of no account. -/
  faults : ∀ {builder : Builder} (plan : FaultPlan), holds builder →
    holds { builder with faults := plan }
  /-- Nor is the block being filled. -/
  cursor : ∀ {builder : Builder} (cursor : Option BlockRef), holds builder →
    holds { builder with cursor := cursor }
  /-- Routines may be filled. -/
  change : ∀ {builder : Builder} {id : Nat} {change : Routine → Routine}, Routine.IsFilling change →
    holds builder → holds (builder.changeRoutine id change)

namespace Build

/-- Changing a block of a routine fills it. -/
theorem isFilling_changeBlock (index : Nat) (change : Block → Block) :
    Routine.IsFilling fun routine =>
      { routine with blocks := routine.blocks.modify index change } where
  name_eq _ := rfl
  parameters_eq _ := rfl
  hasBody body := by
    simpa [Routine.hasBody, Array.isEmpty_eq_false_iff, ← Array.size_pos_iff] using body

/-- One more register fills a routine. -/
theorem isFilling_register :
    Routine.IsFilling fun routine => { routine with registers := routine.registers + 1 } :=
  ⟨fun _ => rfl, fun _ => rfl, id⟩

/-- One more slot fills a routine. -/
theorem isFilling_slot (name : String) :
    Routine.IsFilling fun routine => { routine with slots := routine.slots.push name } :=
  ⟨fun _ => rfl, fun _ => rfl, id⟩

/-- One more block fills a routine. -/
theorem isFilling_block (block : Block) :
    Routine.IsFilling fun routine => { routine with blocks := routine.blocks.push block } where
  name_eq _ := rfl
  parameters_eq _ := rfl
  hasBody _ := by simp [Routine.hasBody]

variable {holds : Builder → Prop} [lasting : Builder.Lasting holds]

/-- Counting a call of an operation. -/
theorem preserves_attempt (operation : Operation) : Preserves holds (attempt operation) := by
  intro builder held
  unfold attempt
  cases builder.faults.strike? operation <;> exact lasting.faults _ held

/-- Counting a call of an operation that only asks. -/
theorem preserves_ask {α : Type} (operation : Operation) (answer : Builder → Option α) :
    Preserves holds (ask operation answer) := by
  intro builder held
  unfold ask
  cases builder.faults.strike? operation <;> exact lasting.faults _ held

omit lasting in
/-- Finding a routine. -/
theorem preserves_routine (id : Nat) : Preserves holds (routine id) := by
  refine .get fun builder _ => ?_
  split
  · exact .throw _
  · split
    · exact .pure _
    · exact .throw _

omit lasting in
/-- Finding the block being filled. -/
theorem preserves_target : Preserves holds target := by
  refine .get fun builder _ => ?_
  split
  · exact .throw _
  · refine .bind (preserves_routine _) fun found => ?_
    split
    · exact .pure _
    · exact .throw _

/-- Filling a routine. -/
theorem preserves_changeRoutine (id : Nat) {change : Routine → Routine}
    (isFilling : Routine.IsFilling change) : Preserves holds (changeRoutine id change) :=
  .modify fun _ held => lasting.change isFilling held

/-- Adding an instruction that yields nothing. -/
theorem preserves_emitEffect (instruction : Instruction) :
    Preserves holds (emitEffect instruction) :=
  .bind preserves_target fun _ => preserves_changeRoutine _ (isFilling_changeBlock _ _)

/-- Adding an instruction that writes to a register. -/
theorem preserves_emit (make : Nat → Instruction) : Preserves holds (emit make) :=
  .bind preserves_target fun _ => .bind (preserves_changeRoutine _ isFilling_register) fun _ =>
    .bind (preserves_changeRoutine _ (isFilling_changeBlock _ _)) fun _ => .pure _

/-- Ending a block. -/
theorem preserves_terminate (terminator : Terminator) : Preserves holds (terminate terminator) :=
  .bind preserves_target fun _ => preserves_changeRoutine _ (isFilling_changeBlock _ _)

/-- Counting a call, then adding an instruction that writes to a register. -/
theorem preserves_attempt_emit (operation : Operation) (make : Nat → Instruction) :
    Preserves holds (do attempt operation; emit make) :=
  .bind (preserves_attempt _) fun _ => preserves_emit _

/-- Using a parameter. -/
theorem preserves_parameter (id index : Nat) : Preserves holds (parameter id index) := by
  refine .bind (preserves_attempt _) fun _ => .bind (preserves_routine _) fun found => ?_
  split
  · exact .pure _
  · exact .throw _

/-- Adding a block. -/
theorem preserves_appendBlock (id : Nat) (own : String) :
    Preserves holds (appendBlock id own) :=
  .bind (preserves_attempt _) fun _ => .bind (preserves_routine _) fun _ =>
    .bind (preserves_changeRoutine _ (isFilling_block _)) fun _ => .pure _

/-- Adding a slot. -/
theorem preserves_slot (id : Nat) (own : String) : Preserves holds (slot id own) :=
  .bind (preserves_attempt _) fun _ => .bind (preserves_routine _) fun _ =>
    .bind (preserves_changeRoutine _ (isFilling_slot _)) fun _ => .pure _

/-- Moving to another block. -/
theorem preserves_moveTo (block : BlockRef) : Preserves holds (moveTo block) :=
  .modify fun _ held => lasting.cursor _ held

/-- Adding a store. -/
theorem preserves_store (slot : SlotRef) (value : Operand) : Preserves holds (store slot value) :=
  .bind (preserves_attempt _) fun _ => preserves_emitEffect _

/-- Ending a block with a branch, a choice or a return. -/
theorem preserves_attempt_terminate (operation : Operation) (terminator : Terminator) :
    Preserves holds (do attempt operation; terminate terminator) :=
  .bind (preserves_attempt _) fun _ => preserves_terminate _

end Build

/-- How a definition of the registry is lowered. -/
abbrev Revival := Prototype → Expr → Lower Nat

namespace Lower

open Build

/-- Actions woven from what fills routines, from calls and from decisions by the state, given how
definitions of the registry are lowered. -/
inductive Woven : {α : Type} → (Revival → Lower α) → Prop
  /-- Yielding a value. -/
  | pure {α : Type} (value : α) : Woven fun _ => pure value
  /-- Failing. -/
  | throw {α : Type} (error : LowerError) : Woven (α := α) fun _ => throw error
  /-- An operation that fills routines. -/
  | build {α : Type} {action : Build α}
      (lasts : ∀ (holds : Builder → Prop) [Builder.Lasting holds], Preserves holds action) :
      Woven fun _ => build action
  /-- Finding the routine of a call. -/
  | resolve (name : String) (span : Span) : Woven fun revive => resolve revive name span
  /-- Deciding by the state. -/
  | get {α : Type} {next : Lowering → Revival → Lower α} (back : ∀ state, Woven (next state)) :
      Woven fun revive => get >>= fun state => next state revive
  /-- One action after another. -/
  | bind {α β : Type} {first : Revival → Lower α} {next : α → Revival → Lower β}
      (front : Woven first) (back : ∀ value, Woven (next value)) :
      Woven fun revive => first revive >>= fun value => next value revive

/-- The number that a tree yields. -/
theorem woven_asValue (span : Span) (artifact : Artifact) :
    Woven fun _ => asValue span artifact := by
  cases artifact with
  | value operand => exact .pure _
  | routine id => exact .throw _

/-- The routine being filled. -/
theorem woven_currentFunction : Woven fun _ => currentFunction := by
  refine .bind (.build fun _ _ => preserves_ask _ _) fun found => ?_
  cases found with
  | some id => exact .pure _
  | none => exact .throw _

/-- The slot of a variable. -/
theorem woven_slotOf (scope : Scope SlotRef) (name : String) (span : Span) :
    Woven fun _ => slotOf scope name span := by
  unfold slotOf
  cases scope.lookup? name with
  | some slot => exact .pure _
  | none => exact .throw _

/-- Giving parameters their slots. -/
theorem woven_bindParameters (id : Nat) (names : List String) :
    ∀ (index : Nat) (scope : Scope SlotRef), Woven fun _ => bindParameters id index names scope := by
  induction names with
  | nil => exact fun _ _ => .pure _
  | cons name rest hypothesis =>
    exact fun index scope => .bind (.build fun _ _ => preserves_slot _ _) fun _ =>
      .bind (.build fun _ _ => preserves_parameter _ _) fun _ =>
        .bind (.build fun _ _ => preserves_store _ _) fun _ => hypothesis _ _

/-- Fill a routine that has its first block. -/
def fillFrom (id : Nat) (parameters : List String) (body : Scope SlotRef → Lower Operand)
    (entry : BlockRef) : Lower PUnit := do
  build (.moveTo entry)
  let scope ← bindParameters id 0 parameters .empty
  let value ← body scope
  build (.ret value)

/-- A routine is filled from its first block on. -/
theorem fill_eq (id : Nat) (parameters : List String) (body : Scope SlotRef → Lower Operand) :
    fill id parameters body = build (.appendBlock id "entry") >>= fillFrom id parameters body :=
  rfl

section Fill

variable (id : Nat) (names : List String) {body : Scope SlotRef → Revival → Lower Operand}
  (inside : ∀ scope, Woven (body scope))
include inside

/-- Filling a routine that has its first block. -/
theorem woven_fillFrom (entry : BlockRef) :
    Woven fun revive => fillFrom id names (fun scope => body scope revive) entry :=
  .bind (.build fun _ _ => preserves_moveTo _) fun _ =>
    .bind (woven_bindParameters _ _ _ _) fun _ => .bind (inside _) fun _ =>
      .build fun _ _ => preserves_attempt_terminate _ _

/-- Filling a routine. -/
theorem woven_fill : Woven fun revive => fill id names fun scope => body scope revive :=
  .bind (.build fun _ _ => preserves_appendBlock _ _) fun entry =>
    woven_fillFrom id names inside entry

end Fill

/-- The routine that a call goes to, with the number of its parameters checked. -/
theorem woven_callee (name : String) (count : Nat) (span : Span) :
    Woven fun revive => callee revive name count span := by
  refine .bind (.resolve name span) fun id => .get fun state => ?_
  simp only
  split
  · exact .throw _
  · exact .pure _

mutual

/-- Lowering a body. -/
theorem woven_lower : ∀ tree : Expr, tree.IsBody → ∀ scope,
    Woven fun revive => lower revive scope tree
  | .number _ _, _, _ => .pure _
  | .var name span, _, scope =>
    .bind (woven_slotOf scope name span) fun _ =>
      .bind (.build fun _ _ => preserves_attempt_emit _ _) fun _ => .pure _
  | .binary _ .assign left right _, isBody, scope => by
    cases left with
    | var name place =>
      exact .bind (woven_lower right isBody.2 scope) fun _ => .bind (woven_asValue _ _) fun _ =>
        .bind (woven_slotOf scope name place) fun _ =>
          .bind (.build fun _ _ => preserves_store _ _) fun _ => .pure _
    | _ => exact .throw _
  | .binary _ (.user name) left right span, isBody, scope =>
    .bind (woven_callee _ 2 span) fun _ =>
      .bind (woven_lower left isBody.1 scope) fun _ => .bind (woven_asValue _ _) fun _ =>
        .bind (woven_lower right isBody.2 scope) fun _ => .bind (woven_asValue _ _) fun _ =>
          .bind (.build fun _ _ => preserves_attempt_emit _ _) fun _ => .pure _
  | .binary _ (.builtin operator) left right _, isBody, scope =>
    .bind (woven_lower left isBody.1 scope) fun _ => .bind (woven_asValue _ _) fun _ =>
      .bind (woven_lower right isBody.2 scope) fun _ => .bind (woven_asValue _ _) fun _ =>
        .bind (.build fun _ _ => by cases operator <;> exact preserves_attempt_emit _ _) fun _ =>
          .pure _
  | .unary _ operand span, isBody, scope =>
    .bind (woven_callee _ 1 span) fun _ =>
      .bind (woven_lower operand isBody scope) fun _ => .bind (woven_asValue _ _) fun _ =>
        .bind (.build fun _ _ => preserves_attempt_emit _ _) fun _ => .pure _
  | .call name arguments span, isBody, scope =>
    .bind (woven_callee name _ span) fun _ =>
      .bind (woven_lowerArguments arguments isBody scope) fun _ =>
        .bind (.build fun _ _ => preserves_attempt_emit _ _) fun _ => .pure _
  | .conditional condition consequent alternative _, isBody, scope =>
    .bind (woven_lower condition isBody.1 scope) fun _ => .bind (woven_asValue _ _) fun _ =>
      .bind (.build fun _ _ => preserves_attempt_emit _ _) fun _ =>
      .bind woven_currentFunction fun _ =>
      .bind (.build fun _ _ => preserves_appendBlock _ _) fun _ =>
      .bind (.build fun _ _ => preserves_appendBlock _ _) fun _ =>
      .bind (.build fun _ _ => preserves_appendBlock _ _) fun _ =>
      .bind (.build fun _ _ => preserves_attempt_terminate _ _) fun _ =>
      .bind (.build fun _ _ => preserves_moveTo _) fun _ =>
      .bind (woven_lower consequent isBody.2.1 scope) fun _ => .bind (woven_asValue _ _) fun _ =>
      .bind (.build fun _ _ => preserves_attempt_terminate _ _) fun _ =>
      .bind (.build fun _ _ => preserves_ask _ _) fun _ =>
      .bind (.build fun _ _ => preserves_moveTo _) fun _ =>
      .bind (woven_lower alternative isBody.2.2 scope) fun _ => .bind (woven_asValue _ _) fun _ =>
      .bind (.build fun _ _ => preserves_attempt_terminate _ _) fun _ =>
      .bind (.build fun _ _ => preserves_ask _ _) fun _ =>
      .bind (.build fun _ _ => preserves_moveTo _) fun _ =>
      .bind (.build fun _ _ => preserves_attempt_emit _ _) fun _ => .pure _
  | .loop counter start limit step body _, isBody, scope =>
    .bind woven_currentFunction fun _ =>
      .bind (woven_lower start isBody.1 scope) fun _ => .bind (woven_asValue _ _) fun _ =>
      .bind (.build fun _ _ => preserves_slot _ _) fun _ =>
      .bind (.build fun _ _ => preserves_store _ _) fun _ =>
      .bind (.build fun _ _ => preserves_appendBlock _ _) fun _ =>
      .bind (.build fun _ _ => preserves_attempt_terminate _ _) fun _ =>
      .bind (.build fun _ _ => preserves_moveTo _) fun _ =>
      .bind (woven_lower body isBody.2.2.2 _) fun _ => .bind (woven_asValue _ _) fun _ =>
      .bind (.build fun _ _ => preserves_attempt_emit _ _) fun _ =>
      .bind (woven_lowerOptional step isBody.2.2.1 _ _) fun _ =>
      .bind (.build fun _ _ => preserves_attempt_emit _ _) fun _ =>
      .bind (.build fun _ _ => preserves_store _ _) fun _ =>
      .bind (woven_lower limit isBody.2.1 _) fun _ => .bind (woven_asValue _ _) fun _ =>
      .bind (.build fun _ _ => preserves_attempt_emit _ _) fun _ =>
      .bind (.build fun _ _ => preserves_appendBlock _ _) fun _ =>
      .bind (.build fun _ _ => preserves_attempt_terminate _ _) fun _ =>
      .bind (.build fun _ _ => preserves_moveTo _) fun _ => .pure _
  | .binding name initializer body _, isBody, scope =>
    .bind woven_currentFunction fun _ =>
      .bind (woven_lowerOptional initializer isBody.1 scope _) fun _ =>
      .bind (.build fun _ _ => preserves_slot _ _) fun _ =>
      .bind (.build fun _ _ => preserves_store _ _) fun _ =>
      .bind (woven_lower body isBody.2 _) fun _ => .bind (woven_asValue _ _) fun _ => .pure _
  | .prototype _, isBody, _ | .function _ _ _, isBody, _ | .declaration _ _, isBody, _ =>
    isBody.elim

/-- Lowering arguments. -/
theorem woven_lowerArguments : ∀ trees : List Expr, Expr.AreBodies trees → ∀ scope,
    Woven fun revive => lowerArguments revive scope trees
  | [], _, _ => .pure _
  | tree :: rest, areBodies, scope =>
    .bind (woven_lower tree areBodies.1 scope) fun _ => .bind (woven_asValue _ _) fun _ =>
      .bind (woven_lowerArguments rest areBodies.2 scope) fun _ => .pure _

/-- Lowering a tree that may be left out. -/
theorem woven_lowerOptional : ∀ tree : Option Expr, Expr.IsOptionalBody tree → ∀ scope absent,
    Woven fun revive => lowerOptional revive scope absent tree
  | none, _, _, _ => .pure _
  | some tree, isBody, scope, _ => .bind (woven_lower tree isBody scope) fun _ => woven_asValue _ _

end

/-- Lowering what a definition is filled with. -/
theorem woven_value {tree : Expr} (isBody : tree.IsBody) (scope : Scope SlotRef) :
    Woven (fun revive => do asValue tree.span (← lower revive scope tree)) :=
  .bind (woven_lower tree isBody scope) fun _ => woven_asValue _ _

end Lower

end Kaleidoscope
