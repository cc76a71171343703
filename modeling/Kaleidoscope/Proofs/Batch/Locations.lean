import Kaleidoscope.Proofs.Batch.Failures
import Kaleidoscope.Proofs.Lowering.Locating

/-!
# Where the errors of a batch stand

An error that belongs to a form stands inside of that form, whether lowering the form or running its
expression has failed; an error of the unit as a whole has no place (`FormError.IsInside`). Between
batches the registry has only declarations with distinct parameters, since a form that fails leaves
nothing behind.
-/
namespace Kaleidoscope

variable {marks : Landmarks}

namespace FormError

/-- A span inside of the form with some index. -/
def Belongs (marks : Landmarks) (places : List (Expr × Nat)) (index : Nat) (span : Span) : Prop :=
  ∃ form, (form, index) ∈ places ∧ span.IsAligned marks ∧ span.Within form.span

/-- An error stands inside of the form that it belongs to, and nowhere if it belongs to none. -/
structure IsInside (marks : Landmarks) (places : List (Expr × Nat)) (error : FormError) : Prop where
  /-- An error of the whole unit has no place. -/
  ofUnit : error.index = none → error.span = none
  /-- An error of a form has a place inside of it. -/
  ofForm : ∀ index, error.index = some index →
    ∃ span, error.span = some span ∧ Belongs marks places index span

variable {places : List (Expr × Nat)}

/-- What belongs to a form belongs to one of more forms. -/
theorem Belongs.cons {index : Nat} {span : Span} (belongs : Belongs marks places index span)
    (pair : Expr × Nat) : Belongs marks (pair :: places) index span := by
  obtain ⟨form, member, stands⟩ := belongs
  exact ⟨form, List.mem_cons_of_mem _ member, stands⟩

/-- An error inside of a form is inside of one of more forms. -/
theorem IsInside.cons {error : FormError} (inside : error.IsInside marks places)
    (pair : Expr × Nat) : error.IsInside marks (pair :: places) := by
  refine ⟨inside.ofUnit, fun index place => ?_⟩
  obtain ⟨span, stands, belongs⟩ := inside.ofForm index place
  exact ⟨span, stands, belongs.cons pair⟩

/-- An error with the place of a form, or of something in it. -/
theorem isInside_of_belongs {index : Nat} {span : Span} (belongs : Belongs marks places index span)
    (error : LowerError) : (FormError.mk (some index) (some span) error).IsInside marks places := by
  refine ⟨fun none => by contradiction, fun other same => ?_⟩
  obtain rfl := Option.some.inj same
  exact ⟨span, rfl, belongs⟩

/-- An error of the whole unit. -/
theorem isInside_ofUnit (error : CodeError) : (ofUnit error).IsInside marks places :=
  ⟨fun _ => rfl, fun _ none => by contradiction⟩

end FormError

namespace Evaluator

variable {name : String} {execution : Execution} {evaluator after : Evaluator}

/-- Forms that fail leave nothing behind, so all declarations keep distinct parameters. -/
theorem distinct_lowerForms {forms : List Expr} (areForms : ∀ form ∈ forms, form.IsForm) :
    ∀ (state : Lowering) (index : Nat), state.registry.IsSound → state.registry.DeclaresDistinct →
      state.builder.IsOpen name → (lowerForms state index forms).2.2.registry.DeclaresDistinct := by
  induction forms with
  | nil => exact fun _ _ _ distinct _ => distinct
  | cons form rest hypothesis =>
    intro state index sound distinct isOpen
    have isForm := areForms form List.mem_cons_self
    have later := hypothesis fun form member => areForms form (List.mem_cons_of_mem _ member)
    have survives := Lower.survives_form isForm sound isOpen
    rw [lowerForms]
    cases lowered : Lower.form form state with
    | error error next =>
      rw [lowered] at survives
      obtain ⟨same, opened⟩ := survives
      exact later next (index + 1) (sound.congr same) (distinct.congr same) opened
    | ok routine next =>
      rw [lowered] at survives
      obtain ⟨same, opened⟩ := survives
      have entered := distinct.enter (Lower.distinct_of_form lowered)
      exact later next (index + 1) (same ▸ sound.enter isForm) (same ▸ entered) opened

/-- Errors of lowering stand inside of their forms, and expressions to run have the places of
theirs. -/
theorem located_lowerForms {forms : List Expr} (areForms : ∀ form ∈ forms, form.IsForm)
    (nested : ∀ form ∈ forms, form.IsNested (Span.IsAligned marks)) :
    ∀ (state : Lowering) (index : Nat), state.registry.IsSound → state.registry.DeclaresDistinct →
      state.builder.IsOpen name →
      (∀ error ∈ (lowerForms state index forms).2.1,
          error.IsInside marks (forms.zipIdx index)) ∧
        ∀ job ∈ (lowerForms state index forms).1,
          FormError.Belongs marks (forms.zipIdx index) job.index job.span := by
  induction forms with
  | nil => exact fun _ _ _ _ _ => ⟨List.forall_mem_nil _, List.forall_mem_nil _⟩
  | cons form rest hypothesis =>
    intro state index sound distinct isOpen
    have isForm := areForms form List.mem_cons_self
    have own := nested form List.mem_cons_self
    have later := hypothesis (fun form member => areForms form (List.mem_cons_of_mem _ member))
      fun form member => nested form (List.mem_cons_of_mem _ member)
    have survives := Lower.survives_form isForm sound isOpen
    have self : form.span.Within form.span := ⟨Nat.le_refl _, Nat.le_refl _⟩
    have whole : FormError.Belongs marks ((form, index) :: rest.zipIdx (index + 1)) index form.span :=
      ⟨form, List.mem_cons_self, own.own, self⟩
    rw [lowerForms, List.zipIdx_cons]
    cases lowered : Lower.form form state with
    | error error next =>
      have stands := Lower.isAt_form isForm (own.confined self) sound distinct isOpen lowered
      rw [lowered] at survives
      obtain ⟨same, opened⟩ := survives
      obtain ⟨errors, jobs⟩ :=
        later next (index + 1) (sound.congr same) (distinct.congr same) opened
      refine ⟨List.forall_mem_cons.2 ⟨?_, fun error member => ?_⟩, fun job member => ?_⟩
      · apply FormError.isInside_of_belongs
        cases place : error.span? with
        | none => exact whole
        | some span => exact ⟨form, List.mem_cons_self, stands span place⟩
      · exact (errors error member).cons _
      · exact (jobs job member).cons _
    | ok routine next =>
      rw [lowered] at survives
      obtain ⟨same, opened⟩ := survives
      have entered := distinct.enter (Lower.distinct_of_form lowered)
      obtain ⟨errors, jobs⟩ :=
        later next (index + 1) (same ▸ sound.enter isForm) (same ▸ entered) opened
      refine ⟨fun error member => (errors error member).cons _, ?_⟩
      have others := fun job member => (jobs job member).cons (form, index)
      cases form.isAnonymous with
      | true => exact List.forall_mem_cons.2 ⟨whole, others⟩
      | false => exact others

/-- The errors of running expressions have their places. -/
theorem isInside_runJobs {places : List (Expr × Nat)} {jobs : List Job} {report : Report}
    (belong : ∀ job ∈ jobs, FormError.Belongs marks places job.index job.span)
    (done : evaluator.runJobs execution jobs = some (report, after)) :
    ∀ error ∈ report.errors, error.IsInside marks places := by
  induction jobs generalizing evaluator report after with
  | nil =>
    cases done
    exact List.forall_mem_nil _
  | cons job rest hypothesis =>
    obtain ⟨own, others⟩ := List.forall_mem_cons.1 belong
    rw [runJobs, Option.bind_eq_bind, Option.bind_eq_some_iff] at done
    obtain ⟨⟨result, middle⟩, executed, done⟩ := done
    rw [Option.bind_eq_bind, Option.bind_eq_some_iff] at done
    obtain ⟨⟨further, last⟩, ran, done⟩ := done
    have later := hypothesis others ran
    cases result <;> cases done
    · exact List.forall_mem_cons.2 ⟨FormError.isInside_of_belongs own _, later⟩
    · exact later

/-- Completing a unit and running its expressions gives errors with the places of their forms. -/
theorem isInside_finish {places : List (Expr × Nat)} {jobs : List Job} {report : Report}
    (belong : ∀ job ∈ jobs, FormError.Belongs marks places job.index job.span)
    (done : evaluator.finish execution jobs = some (report, after)) :
    ∀ error ∈ report.errors, error.IsInside marks places := by
  unfold finish at done
  cases finished : Build.finishUnit evaluator.builder with
  | error error last =>
    simp only [finished] at done
    cases done
    exact List.forall_mem_singleton.2 (FormError.isInside_ofUnit error)
  | ok value last =>
    simp only [finished] at done
    exact isInside_runJobs belong done

/-- Completing a unit and running its expressions leaves the registry. -/
theorem registry_finish {jobs : List Job} {report : Report} (isOpen : evaluator.builder.IsOpen name)
    (done : evaluator.finish execution jobs = some (report, after)) :
    after.registry = evaluator.registry := by
  have completes := Build.preserves_finishUnit evaluator.builder isOpen
  unfold finish at done
  cases finished : Build.finishUnit evaluator.builder with
  | error error last =>
    simp only [finished] at done
    cases done
    rfl
  | ok value last =>
    rw [finished] at completes
    simp only [finished] at done
    obtain ⟨_, _, executes, _⟩ := executes_runJobs done
    exact (executes.survives completes).1

/-- After a batch all declarations have distinct parameters. -/
theorem distinct_runBatch {forms : List Expr} {report : Report}
    (areForms : ∀ form ∈ forms, form.IsForm) (sound : evaluator.registry.IsSound)
    (distinct : evaluator.registry.DeclaresDistinct)
    (done : evaluator.runBatch execution forms = some (report, after)) :
    after.registry.DeclaresDistinct := by
  unfold runBatch at done
  cases begun : Build.beginUnit evaluator.unitName evaluator.builder with
  | error error builder =>
    unfold unitName at begun
    simp only [begun] at done
    cases done
    exact distinct
  | ok value builder =>
    have opened := isOpen_of_beginUnit begun
    obtain ⟨_, isOpen, _⟩ :=
      accounts_lowerForms areForms ⟨builder, evaluator.registry, 0⟩ 0 sound opened
    have kept := distinct_lowerForms areForms ⟨builder, evaluator.registry, 0⟩ 0 sound distinct opened
    unfold unitName at begun
    simp only [begun] at done
    obtain ⟨⟨outcome, ended⟩, finishes, done⟩ := Option.bind_eq_some_iff.1 done
    cases done
    have same := registry_finish isOpen finishes
    exact same ▸ kept

/-- Between batches all declarations have distinct parameters. -/
theorem ReachableUnder.distinct {plan : FaultPlan} (reachable : ReachableUnder plan evaluator) :
    evaluator.registry.DeclaresDistinct := by
  induction reachable with
  | new keepListing => exact Registry.declaresDistinct_empty
  | batch earlier areForms done hypothesis =>
    exact distinct_runBatch areForms earlier.idle.1 hypothesis done

/-- The errors of a batch stand inside of their forms, whatever fails. -/
theorem ReachableUnder.isInside_runBatch {plan : FaultPlan} {forms : List Expr} {report : Report}
    (reachable : ReachableUnder plan evaluator) (areForms : ∀ form ∈ forms, form.IsForm)
    (nested : ∀ form ∈ forms, form.IsNested (Span.IsAligned marks))
    (done : evaluator.runBatch execution forms = some (report, after)) :
    ∀ error ∈ report.errors, error.IsInside marks forms.zipIdx := by
  unfold runBatch at done
  cases begun : Build.beginUnit evaluator.unitName evaluator.builder with
  | error error builder =>
    unfold unitName at begun
    simp only [begun] at done
    cases done
    exact List.forall_mem_singleton.2 (FormError.isInside_ofUnit error)
  | ok value builder =>
    obtain ⟨errors, jobs⟩ := located_lowerForms areForms nested ⟨builder, evaluator.registry, 0⟩ 0
      reachable.idle.1 reachable.distinct (isOpen_of_beginUnit begun)
    unfold unitName at begun
    simp only [begun] at done
    obtain ⟨⟨outcome, ended⟩, finishes, done⟩ := Option.bind_eq_some_iff.1 done
    cases done
    intro error member
    rcases List.mem_append.1 (List.mem_mergeSort.1 member) with lowered | ran
    · exact errors error lowered
    · exact isInside_finish jobs finishes error ran

end Evaluator

end Kaleidoscope
