import Mathlib.Data.List.Nodup
import Kaleidoscope.Proofs.Batch.Reachable
import Kaleidoscope.Proofs.Lowering.Framing
import Kaleidoscope.Proofs.Lowering.Labelling

/-!
# Listings of units

A listing shows the routines that are what their name means (`CodeUnit.lines_eq`). Between two forms
of a batch these are all routines but those that have been forgotten, which have no body and are not
called (`CodeUnit.IsOrderly`); so whatever a run enters is shown, and shown once. The next form
leaves alone what has been finished before it, whether it can be lowered or not
(`Evaluator.frames_of_reachable`).
-/
namespace Kaleidoscope

open Code

namespace CodeUnit

/-- The routines that a listing shows, each with its place in the unit. -/
def listed (unit : CodeUnit) : List (Routine × Nat) :=
  unit.routines.toList.zipIdx.filter fun (routine, id) => unit.lookup? routine.name = some id

/-- The lines of routines in a listing. -/
def sections (unit : CodeUnit) (routines : List (Routine × Nat)) : List String :=
  routines.flatMap fun (routine, _) => routine.lines unit.nameOf

/-- Some run of the unit, whatever routine it starts with, comes to a routine. -/
def Enters (unit : CodeUnit) (id : Nat) : Prop :=
  ∃ (environment : Environment) (calls : Array HostCall) (entry : Nat) (state : State)
    (written : Written), State.Recorded environment unit calls entry state written ∧
      state.top.routine = id

/-- The listing of a unit shows a routine, and no other section of it has the name of this one. -/
def ShowsOnce (unit : CodeUnit) (id : Nat) : Prop :=
  ∃ routine front back, unit.routines[id]? = some routine ∧
    unit.lines = ("; unit " ++ unit.name) ::
      (unit.sections front ++ (routine.lines unit.nameOf ++ unit.sections back)) ∧
    ∀ other ∈ front ++ back, unit.routines[other.2]? = some other.1 ∧ other.2 ≠ id ∧
      other.1.name ≠ routine.name

/-- Names and routines belong together, and whatever can be run is finished. -/
structure IsOrderly (unit : CodeUnit) : Prop where
  /-- No name is there twice. -/
  distinct : (unit.names.map (·.1)).Nodup
  /-- Names mean routines of that name. -/
  named : ∀ {name : String} {id : Nat}, (name, id) ∈ unit.names →
    ∃ routine, unit.routines[id]? = some routine ∧ routine.name = name
  /-- A routine that its name does not mean has no body, and no instruction calls it. -/
  forgotten : ∀ {id : Nat} {routine : Routine}, unit.routines[id]? = some routine →
    unit.lookup? routine.name ≠ some id →
    routine.hasBody = false ∧ ∀ caller ∈ unit.routines, caller.calls id = false
  /-- Every block has an end. -/
  ended : ∀ routine ∈ unit.routines, routine.unterminated? = none
  /-- What a run enters is shown once. -/
  shown : ∀ {id : Nat}, unit.Enters id → unit.ShowsOnce id

/-- A unit in which everything is left alone that has been finished in an earlier one. -/
structure Keeps (before after : CodeUnit) : Prop where
  /-- Routines keep their names and parameters. -/
  heading : ∀ {id : Nat} {routine : Routine}, before.routines[id]? = some routine →
    ∃ later, after.routines[id]? = some later ∧ later.name = routine.name ∧
      later.parameters = routine.parameters
  /-- Routines with a body stay as they are. -/
  body : ∀ {id : Nat} {routine : Routine}, before.routines[id]? = some routine →
    routine.hasBody = true → after.routines[id]? = some routine

/-- However a form ends that is lowered into a unit, it leaves behind an orderly unit in which all is
left alone that has been finished before. -/
def Continues (before : CodeUnit) : EStateM.Result LowerError Lowering Nat → Prop :=
  EndsIn fun last =>
    ∃ after, last.builder.unit = some after ∧ before.Keeps after ∧ after.IsOrderly

variable {unit : CodeUnit} {id : Nat} {routine : Routine}

/-- What a listing shows are the routines that their name means. -/
theorem mem_listed : (routine, id) ∈ unit.listed ↔
    unit.routines[id]? = some routine ∧ unit.lookup? routine.name = some id := by
  rw [listed, List.mem_filter, List.mk_mem_zipIdx_iff_getElem?, Array.getElem?_toList,
    decide_eq_true_eq]

/-- A listing shows no routine twice. -/
theorem nodup_listed (unit : CodeUnit) : (unit.listed.map (·.2)).Nodup := by
  have places : (unit.routines.toList.zipIdx.map (·.2)).Nodup := by
    rw [List.zipIdx_map_snd]
    exact List.nodup_range'
  exact places.sublist (List.filter_sublist.map _)

/-- A listing consists of the sections of its routines. -/
theorem lines_eq (unit : CodeUnit) :
    unit.lines = ("; unit " ++ unit.name) :: unit.sections unit.listed := by
  rw [lines, sections, listed, List.mapIdx_eq_zipIdx_map]
  congr 1
  induction unit.routines.toList.zipIdx with
  | nil => rfl
  | cons place rest hypothesis =>
    obtain ⟨routine, id⟩ := place
    rw [List.map_cons, List.flatten_cons, hypothesis, List.filter_cons]
    by_cases means : unit.lookup? routine.name = some id <;> simp [means]

/-- A routine that its name means is shown, and nothing else is shown under this name. -/
theorem showsOnce_of_lookup? (found : unit.routines[id]? = some routine)
    (means : unit.lookup? routine.name = some id) : unit.ShowsOnce id := by
  obtain ⟨front, back, split⟩ := List.append_of_mem (mem_listed.2 ⟨found, means⟩)
  refine ⟨routine, front, back, found, ?_, ?_⟩
  · rw [lines_eq, split]
    simp [sections]
  · rintro ⟨other, place⟩ member
    have shown : (other, place) ∈ unit.listed := by
      rw [split]
      simp only [List.mem_append, List.mem_cons] at member ⊢
      tauto
    have apart : place ≠ id := by
      have distinct := unit.nodup_listed
      rw [split, List.map_append, List.map_cons, List.nodup_middle, ← List.map_append,
        List.nodup_cons] at distinct
      rintro rfl
      exact distinct.1 (List.mem_map.2 ⟨_, member, rfl⟩)
    obtain ⟨here, known⟩ := mem_listed.1 shown
    refine ⟨here, apart, fun same => apart ?_⟩
    rw [same, means] at known
    exact (Option.some.inj known).symm

/-- A routine that a run enters has a body. -/
theorem Enters.exists_body (enters : unit.Enters id) (wellFormed : unit.WellFormed) :
    ∃ routine, unit.routines[id]? = some routine ∧ routine.hasBody = true := by
  obtain ⟨environment, calls, entry, state, written, recorded, rfl⟩ := enters
  obtain ⟨routine, passed, tracks⟩ := (recorded.safe wellFormed).top
  refine ⟨routine, tracks.found, ?_⟩
  simp only [Routine.hasBody, Bool.not_eq_true', Array.isEmpty_eq_false_iff]
  intro empty
  have inside := tracks.inside
  rw [empty] at inside
  contradiction

end CodeUnit

namespace Lower.Stands

variable {state : Lowering} {standing : Standing} {sources : Sources} {unit : CodeUnit}

/-- A routine that its name does not mean has no body, and no instruction calls it. -/
theorem forgotten (stands : Stands state standing sources) (labels : state.Labels)
    (isOpen : state.builder.unit = some unit) {id : Nat} {routine : Routine}
    (found : unit.routines[id]? = some routine) (freed : unit.lookup? routine.name ≠ some id) :
    routine.hasBody = false ∧ ∀ caller ∈ unit.routines, caller.calls id = false := by
  have lookups : ∀ name, state.builder.lookup? name = unit.lookup? name := by
    simp [Builder.lookup?, isOpen]
  have here : ∀ place, state.builder.routine? place = unit.routines[place]? := by
    simp [Builder.routine?, isOpen]
  constructor
  · rw [← Bool.not_eq_true]
    intro body
    refine freed ?_
    rw [← lookups]
    by_cases ordinary : IsOrdinary routine.name
    · exact stands.filed.sound.found ((here id).trans found) body ordinary
    · exact labels.labelled ((here id).trans found) ordinary
  · intro caller member
    rw [← Bool.not_eq_true]
    intro calls
    obtain ⟨place, holds⟩ := Array.getElem?_of_mem member
    obtain ⟨_, _, call, _, means⟩ := stands.filed.exists_call ((here place).trans holds) calls
    obtain ⟨called, same, named⟩ := labels.named means
    cases ((here id).trans found).symm.trans same
    exact freed (by rw [← lookups, named, means])

/-- Between forms, units are orderly. -/
theorem isOrderly (stands : Stands state standing sources) (labels : state.Labels)
    (isOpen : state.builder.unit = some unit) : unit.IsOrderly where
  distinct := labels.distinct isOpen
  named := by
    intro name id member
    have means := lookup_eq_of_mem (labels.distinct isOpen) member
    obtain ⟨routine, found, named⟩ := labels.named
      (show state.builder.lookup? name = some id by rwa [Builder.lookup?, isOpen])
    exact ⟨routine, by rwa [Builder.routine?, isOpen] at found, named⟩
  forgotten := stands.forgotten labels isOpen
  ended routine member := stands.filed.unterminated?_eq_none isOpen member
  shown := by
    intro id enters
    obtain ⟨routine, found, body⟩ := enters.exists_body (stands.filed.wellFormed isOpen)
    refine CodeUnit.showsOnce_of_lookup? found ?_
    by_contra freed
    rw [(stands.forgotten labels isOpen found freed).1] at body
    contradiction

/-- What is left alone in the builder is left alone in its unit. -/
theorem exists_keeps (stands : Stands state standing sources) (labels : state.Labels)
    {before : Builder} {earlier : CodeUnit} (isOpen : before.unit = some earlier)
    (frames : before.Frames state.builder) :
    ∃ unit, state.builder.unit = some unit ∧ earlier.Keeps unit ∧ unit.IsOrderly := by
  obtain ⟨unit, later⟩ := stands.filed.sound.isOpen
  have first : ∀ place, before.routine? place = earlier.routines[place]? := by
    simp [Builder.routine?, isOpen]
  have last : ∀ place, state.builder.routine? place = unit.routines[place]? := by
    simp [Builder.routine?, later]
  refine ⟨unit, later, ⟨?_, ?_⟩, stands.isOrderly labels later⟩
  · intro id routine found
    obtain ⟨held, here, same⟩ := frames.heading ((first id).trans found)
    exact ⟨held, (last id).symm.trans here, same⟩
  · intro id routine found body
    exact (last id).symm.trans (frames.kept ((first id).trans found) body)

end Lower.Stands

namespace Evaluator

variable {evaluator : Evaluator}

/-- No names and no routines are there before the first form of a batch. -/
theorem labels_opened (evaluator : Evaluator) : evaluator.opened.Labels where
  distinct := by
    rintro _ ⟨⟩
    exact List.nodup_nil
  named := fun means => by contradiction
  labelled := fun found => by contradiction
  counted := fun found => by contradiction

/-- Between two forms of a batch its unit is orderly. However the next form ends, the unit is orderly
again, and what has been finished is left alone. -/
theorem frames_of_reachable (reachable : evaluator.Reachable) {forms : List Expr} {tree : Expr}
    (areForms : ∀ form ∈ forms, form.IsForm) (isForm : tree.IsForm) :
    ∃ unit, (lowerForms evaluator.opened 0 forms).2.2.builder.unit = some unit ∧ unit.IsOrderly ∧
      unit.Continues (Lower.form tree (lowerForms evaluator.opened 0 forms).2.2) := by
  have first := stands_opened reachable.ready.registered
  obtain ⟨sources, stands, _⟩ := Lower.stands_forms areForms 0 first
  have labels := Lower.labels_forms areForms 0 first evaluator.labels_opened
  obtain ⟨unit, isOpen⟩ := stands.filed.sound.isOpen
  refine ⟨unit, isOpen, stands.isOrderly labels isOpen, ?_⟩
  have followed := (Lower.stands_form stands isForm).exists_stands
  have framed := Lower.frames_form stands isForm
  have labelled := Lower.labels_form stands labels isForm
  refine ((followed.both framed).both labelled).imp fun last ends => ?_
  obtain ⟨⟨⟨_, _, stands⟩, framed⟩, labelled⟩ := ends
  exact stands.exists_keeps labelled isOpen framed

/-- A definition that calls itself and an expression that calls it, followed by an expression and a
definition that call what no name means. -/
theorem frames_of_reachable_recursion :
    let span : Span := default
    let forms : List Expr :=
      [.function ⟨"f", ["x"], .function, span⟩ (.call "f" [.var "x" span] span) span,
        .anonymous (.call "f" [.number 2 span] span), .anonymous (.call "g" [] span)]
    let tree : Expr := .function ⟨"h", [], .function, span⟩
      (.call "f" [.call "g" [] span] span) span
    let evaluator : Evaluator := .new false []
    evaluator.Reachable ∧ (∀ form ∈ forms, form.IsForm) ∧ tree.IsForm ∧
      ∃ unit, (lowerForms evaluator.opened 0 forms).2.2.builder.unit = some unit ∧
        unit.IsOrderly ∧
        unit.Continues (Lower.form tree (lowerForms evaluator.opened 0 forms).2.2) := by
  intro span forms tree evaluator
  have ordinary : IsOrdinary "f" ∧ IsOrdinary "g" ∧ IsOrdinary "h" :=
    ⟨isOrdinary_of_head? (by decide), isOrdinary_of_head? (by decide),
      isOrdinary_of_head? (by decide)⟩
  have areForms : ∀ form ∈ forms, form.IsForm := by
    simp only [forms, List.forall_mem_cons, List.not_mem_nil, false_implies, implies_true, and_true]
    refine ⟨.definition span rfl ordinary.1 ?_ ?_, Expr.isForm_anonymous ?_ ?_,
      Expr.isForm_anonymous ?_ ?_⟩ <;>
      simp [Expr.IsBody, Expr.AreBodies, Expr.CallsOrdinary, Expr.calls, Expr.callsOfAll, ordinary]
  have isForm : tree.IsForm := .definition span rfl ordinary.2.2
    (by simp [Expr.IsBody, Expr.AreBodies])
    (by simp [Expr.CallsOrdinary, Expr.calls, Expr.callsOfAll, ordinary])
  have reachable : evaluator.Reachable := .new false
  exact ⟨reachable, areForms, isForm, frames_of_reachable reachable areForms isForm⟩

end Evaluator

end Kaleidoscope
