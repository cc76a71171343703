import Kaleidoscope.Proofs.Lowering.Checking
import Kaleidoscope.Proofs.Lowering.Growth

/-!
# Lowering agrees with checking

Lowering fails exactly if checking does, and with the same error; if it succeeds, it has written
the code that `Draft.lower` writes when calls go where the names of the unit say. Both are followed
step by step (`Lower.Agrees`): a step of checking stands beside some steps of lowering, and steps
of the builder alone change the draft that is being filled.
-/
namespace Kaleidoscope

open Code

/-- The slots of a scope as slots of a routine. -/
def Scope.refs (scope : Scope Nat) (id : Nat) : Scope SlotRef :=
  ⟨scope.bindings.map fun entry => (entry.1, ⟨id, entry.2⟩)⟩

/-- The slot of a variable as a slot of a routine. -/
theorem Scope.lookup?_refs (scope : Scope Nat) (id : Nat) (name : String) :
    (scope.refs id).lookup? name = (scope.lookup? name).map fun slot => ⟨id, slot⟩ := by
  obtain ⟨bindings⟩ := scope
  simp only [refs, lookup?]
  induction bindings with
  | nil => rfl
  | cons entry rest hypothesis =>
    obtain ⟨key, slot⟩ := entry
    rw [List.map_cons, List.lookup_cons, List.lookup_cons]
    cases name == key with
    | true => rfl
    | false => exact hypothesis

namespace Lower

/-- A state of lowering in good order that a ledger describes. -/
structure Tallies (registry : Registry) (state : Lowering) (ledger : Ledger) : Prop where
  /-- The registry is the one given. -/
  registry_eq : state.registry = registry
  /-- The unit is in good order. -/
  sound : state.builder.Sound
  /-- It holds what the ledger says. -/
  agree : state.builder.Matches ledger

/-- What has become of a state: it is in good order again, and its unit has only grown. -/
structure Leaves (registry : Registry) (current : Option Nat) (before after : Lowering)
    (ledger : Ledger) : Prop where
  /-- The state is in good order. -/
  tallies : Tallies registry after ledger
  /-- No expression to run has been declared. -/
  anonymous_eq : after.anonymous = before.anonymous
  /-- The unit has grown. -/
  grows : Builder.Grows registry current before.builder after.builder

/-- An action of lowering does what one of checking does, and something more holds if both
succeed. -/
def Agrees {α : Type} (registry : Registry) (current : Option Nat) (action : Lower α)
    (check : Check PUnit) (state : Lowering) (ledger : Ledger) (post : α → Lowering → Prop) : Prop :=
  match action state, check ledger with
  | .ok value after, .ok _ noted => Leaves registry current state after noted ∧ post value after
  | .error error after, .error other noted =>
    error = other ∧ Leaves registry current state after noted
  | _, _ => False

/-- How an action of lowering and one of checking that agree end. -/
inductive EndAlike {α : Type} (registry : Registry) (current : Option Nat) (state : Lowering)
    (post : α → Lowering → Prop) :
    EStateM.Result LowerError Lowering α → EStateM.Result LowerError Ledger PUnit → Prop
  /-- Both succeed. -/
  | ok {value : α} {after : Lowering} {noted : Ledger}
      (leaves : Leaves registry current state after noted) (holds : post value after) :
      EndAlike registry current state post (.ok value after) (.ok ⟨⟩ noted)
  /-- Both fail, with the same error. -/
  | error {error : LowerError} {after : Lowering} {noted : Ledger}
      (leaves : Leaves registry current state after noted) :
      EndAlike registry current state post (.error error after) (.error error noted)

section Rules

variable {registry : Registry} {current : Option Nat} {state middle after : Lowering}
  {ledger noted : Ledger} {α β : Type} {action : Lower α} {next : α → Lower β}
  {check rest : Check PUnit} {post : α → Lowering → Prop} {target : β → Lowering → Prop}

/-- Actions agree if they end alike. -/
theorem agrees_iff : Agrees registry current action check state ledger post ↔
    EndAlike registry current state post (action state) (check ledger) := by
  unfold Agrees
  generalize action state = lowered
  generalize check ledger = checked
  constructor
  · intro agrees
    cases lowered <;> cases checked <;> simp only at agrees
    · exact .ok agrees.1 agrees.2
    · exact agrees.1 ▸ .error agrees.2
  · rintro (⟨leaves, holds⟩ | leaves)
    · exact ⟨leaves, holds⟩
    · exact ⟨rfl, leaves⟩

/-- Nothing becomes of a state. -/
theorem Leaves.refl (current : Option Nat) (tallies : Tallies registry state ledger) :
    Leaves registry current state state ledger :=
  ⟨tallies, rfl, .refl registry current state.builder⟩

/-- What becomes of a state becomes of it in turn. -/
theorem Leaves.trans (front : Leaves registry current state middle noted)
    (back : Leaves registry current middle after ledger) :
    Leaves registry current state after ledger :=
  ⟨back.tallies, back.anonymous_eq.trans front.anonymous_eq, front.grows.trans back.grows⟩

namespace Agrees

/-- Yielding a value. -/
theorem pure {value : α} (tallies : Tallies registry state ledger) (holds : post value state) :
    Agrees registry current (pure value) (pure ⟨⟩) state ledger post :=
  ⟨.refl current tallies, holds⟩

/-- Failing. -/
theorem throw (error : LowerError) (tallies : Tallies registry state ledger) :
    Agrees registry current (throw error : Lower α) (throw error) state ledger post :=
  ⟨rfl, .refl current tallies⟩

/-- Looking at the state and at the ledger. -/
theorem get {next : Lowering → Lower α} {rest : Ledger → Check PUnit}
    (agrees : Agrees registry current (next state) (rest ledger) state ledger post) :
    Agrees registry current (do next (← get)) (do rest (← get)) state ledger post :=
  agrees

/-- One action after another. -/
theorem bind (front : Agrees registry current action check state ledger post)
    (back : ∀ value middle noted, Tallies registry middle noted → post value middle →
      Agrees registry current (next value) rest middle noted fun result after =>
        Builder.Grows registry current middle.builder after.builder → target result after) :
    Agrees registry current (action >>= next) (do check; rest) state ledger target := by
  rw [agrees_iff] at front ⊢
  simp only [Bind.bind, EStateM.bind]
  generalize action state = lowered at front
  generalize check ledger = checked at front
  cases front with
  | error leaves => exact .error leaves
  | @ok value middle noted leaves holds =>
    have second := agrees_iff.1 (back value middle noted leaves.tallies holds)
    simp only
    generalize next value middle = last at second
    generalize rest noted = verdict at second
    cases second with
    | ok further holds => exact .ok (leaves.trans further) (holds further.grows)
    | error further => exact .error (leaves.trans further)

/-- An action beside a whole check, and more that needs no check. -/
theorem bind_last (front : Agrees registry current action check state ledger post)
    (back : ∀ value middle noted, Tallies registry middle noted → post value middle →
      Agrees registry current (next value) (Pure.pure ⟨⟩) middle noted fun result after =>
        Builder.Grows registry current middle.builder after.builder → target result after) :
    Agrees registry current (action >>= next) check state ledger target := by
  have same : (do check; Pure.pure ⟨⟩) = check := by
    funext ledger
    show EStateM.bind check _ ledger = _
    unfold EStateM.bind
    cases check ledger <;> rfl
  rw [← same]
  exact front.bind back

/-- What follows from what holds afterwards. -/
theorem imp {further : α → Lowering → Prop}
    (agrees : Agrees registry current action check state ledger post)
    (follows : ∀ value after noted, Leaves registry current state after noted →
      post value after → further value after) :
    Agrees registry current action check state ledger further := by
  rw [agrees_iff] at agrees ⊢
  generalize action state = lowered at agrees ⊢
  generalize check ledger = checked at agrees ⊢
  cases agrees with
  | ok leaves holds => exact .ok leaves (follows _ _ _ leaves holds)
  | error leaves => exact .error leaves

/-- An action of the builder that changes nothing. -/
theorem ask {question : Build α} {value : α}
    (answer : question state.builder = .ok value state.builder)
    (back : Agrees registry current (next value) check state ledger target) :
    Agrees registry current (build question >>= next) check state ledger target := by
  have same : (build question >>= next) state = next value state := by
    show EStateM.bind _ _ _ = _
    simp only [EStateM.bind, build, answer]
  rw [agrees_iff] at back ⊢
  rw [same]
  exact back

variable {id : Nat} {draft later : Draft}

/-- An action of the builder that puts another draft in the place of the one being filled. -/
theorem hold {change : Build α} {value : α} (tallies : Tallies registry state ledger)
    (filling : state.builder.Filling id draft) (continues : draft.Continues later)
    (done : change state.builder = .ok value (state.builder.hold id later))
    (back : ∀ middle : Lowering, Tallies registry middle ledger → middle.builder.Filling id later →
      Agrees registry (some id) (next value) check middle ledger fun result after =>
        Builder.Grows registry (some id) middle.builder after.builder → target result after) :
    Agrees registry (some id) (build change >>= next) check state ledger target := by
  have held := filling.hold continues.inside
  have grows := Builder.grows_hold registry filling.found continues.name_eq continues.parameters_eq
  have linked := tallies.sound.found filling.found filling.hasBody
  have middle : Tallies registry { state with builder := state.builder.hold id later } ledger :=
    ⟨tallies.registry_eq,
      tallies.sound.hold filling.found continues.name_eq held.hasBody linked,
      tallies.agree.hold filling continues⟩
  have second := back _ middle held
  have same : (build change >>= next) state =
      next value { state with builder := state.builder.hold id later } := by
    show EStateM.bind _ _ _ = _
    simp only [EStateM.bind, build, done]
  rw [agrees_iff] at second ⊢
  rw [same]
  have before : Leaves registry (some id) state
      { state with builder := state.builder.hold id later } ledger := ⟨middle, rfl, grows⟩
  generalize next value { state with builder := state.builder.hold id later } = last at second ⊢
  generalize check ledger = verdict at second ⊢
  cases second with
  | ok further holds => exact .ok (before.trans further) (holds further.grows)
  | error further => exact .error (before.trans further)

end Agrees

end Rules

end Lower

end Kaleidoscope
