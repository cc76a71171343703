import Kaleidoscope.Proofs.Lowering.Forms

/-!
# What a form leaves alone

However a form ends, routines keep their headings, and those that had a body stay as they are
(`Lower.frames_form`): what is filled meanwhile are new routines and routines without a body.
-/
namespace Kaleidoscope

open Code

namespace Builder

variable {before middle after builder : Builder}

/-- Routines keep their headings, and those with a body stay as they are. -/
structure Frames (before after : Builder) : Prop where
  /-- Names and parameters. -/
  heading : ∀ {id : Nat} {routine : Routine}, before.routine? id = some routine →
    ∃ later, after.routine? id = some later ∧ later.name = routine.name ∧
      later.parameters = routine.parameters
  /-- Bodies. -/
  kept : ∀ {id : Nat} {routine : Routine}, before.routine? id = some routine →
    routine.hasBody = true → after.routine? id = some routine

/-- Growth leaves routines alone if the one being filled is new. -/
theorem Grows.frames {registry : Registry} {current : Option Nat}
    (grows : Grows registry current before after)
    (fresh : ∀ id, current = some id → before.routine? id = none) : before.Frames after where
  heading := grows.heading
  kept := by
    intro id routine found body
    refine grows.kept (fun own => ?_) found body
    rw [fresh id own] at found
    contradiction

end Builder

namespace Lower

/-- Undoing what a form has introduced changes no routine. -/
theorem routine?_undo (name : String) (before after : Lowering) (id : Nat) :
    (undo name before after).builder.routine? id = after.builder.routine? id := by
  unfold undo
  simp only
  split
  · rfl
  · split
    · exact Builder.routine?_forget ..
    · rfl

/-- What is lowered as it is checked grows. -/
theorem Agrees.grows {α : Type} {registry : Registry} {current : Option Nat} {action : Lower α}
    {check : Check PUnit} {state : Lowering} {ledger : Ledger} {post : α → Lowering → Prop}
    (agrees : Agrees registry current action check state ledger post) :
    EndsIn (fun after => Builder.Grows registry current state.builder after.builder)
      (action state) := by
  rw [agrees_iff] at agrees
  generalize action state = lowered at agrees ⊢
  generalize check ledger = checked at agrees
  cases agrees with
  | ok leaves _ => exact leaves.grows
  | error leaves => exact leaves.grows

variable {before : Lowering} {standing : Standing} {sources : Sources} {tree : Expr}

/-- What a form introduces leaves routines alone. -/
theorem frames_introduce {registry : Registry} {name : String} {action : Lower Nat}
    {check : Check PUnit} {ledger : Ledger} {post : Nat → Lowering → Prop} {entered : Registry}
    (agrees : Agrees registry none action check { before with registry := entered } ledger post) :
    EndsIn (fun after => before.builder.Frames after.builder)
      (undone name before (action { before with registry := entered })) := by
  have grows := agrees.grows
  cases ran : action { before with registry := entered } with
  | ok id after =>
    rw [ran] at grows
    exact grows.frames (by simp)
  | error error after =>
    rw [ran] at grows
    have frames : before.builder.Frames after.builder := grows.frames (by simp)
    exact ⟨fun found => by simpa only [routine?_undo] using frames.heading found,
      fun found body => by simpa only [routine?_undo] using frames.kept found body⟩

/-- However a form ends, it leaves alone the routines that have been filled before it. -/
theorem frames_form (stands : Stands before standing sources) (isForm : tree.IsForm) :
    EndsIn (fun after => before.builder.Frames after.builder) (form tree before) := by
  have tallied : ∀ entry name, Tallies (standing.registry.insert name entry)
      { before with registry := before.registry.insert name entry } standing.ledger :=
    fun entry name => ⟨by rw [stands.registry_eq], stands.filed.sound, stands.filed.agree⟩
  cases isForm with
  | @job signature body span anonymous closed isBody calls =>
    obtain ⟨unit, isOpen⟩ := stands.filed.sound.isOpen
    have fresh : ∀ id, some unit.routines.size = some id → before.builder.routine? id = none := by
      rintro id ⟨⟩
      rw [Builder.routine?, isOpen, Option.bind_some, Array.getElem?_eq_none (Nat.le_refl _)]
    have grows := (agrees_job stands isOpen isBody calls
      (before.registry.definitionCount + (body.definitionCount + 1))).grows
    have grown := (grows_openedFor isOpen standing.registry).weaken (some unit.routines.size)
    rw [form_job_eq span before anonymous,
      define_eq (declare_job_eq stands.filed.sound.faultless isOpen anonymous closed), closed]
    generalize discardingOnError unit.routines.size _ (openedFor before unit) = result at grows
    cases result <;> exact (grown.trans grows).frames fresh
  | @definition signature body span named ordinary isBody calls =>
    have registered : (standing.registry.insert signature.linkedName
        (.function signature body)).IsSound :=
      stands.registered.insert (.function signature body) named ordinary
        fun _ _ same => by cases same; exact ⟨isBody, calls⟩
    rw [form_definition_eq span before named]
    exact frames_introduce (agrees_define registered (recallAgrees_recallWithin registered _)
      ((Registry.lookup?_insert ..).trans (if_pos rfl)) (tallied _ _))
  | @declaration signature span named ordinary =>
    rw [form_declaration_eq]
    exact frames_introduce (agrees_declare (tallied _ _) named ordinary)

end Lower

end Kaleidoscope
