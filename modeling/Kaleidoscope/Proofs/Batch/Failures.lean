import Kaleidoscope.Proofs.Lowering.Surviving

/-!
# Batches whatever fails

Any operation of the builder may fail at any of its calls, as a plan of faults says. However a batch
ends, its unit is closed again, and the report accounts for every form: a definition or declaration
has entered the registry or has an error, and an expression has given a value or has an error
(`Evaluator.bookkeeping_of_reachableUnder`). What the values belong to is known from the expressions
that have been run (`Run`), one after the other in the order of the source (`Evaluator.Executes`).
-/
namespace Kaleidoscope

namespace FormError

/-- An error comes before another: the one of the whole unit, if any, first, then one error at most
for each form. -/
def Before (first second : FormError) : Prop :=
  ∃ later, second.index = some later ∧ ∀ earlier, first.index = some earlier → earlier < later

/-- When an error comes no later than another. -/
theorem isOrdered_iff {first second : FormError} :
    first.isOrdered second = true ↔
      ∀ earlier, first.index = some earlier → ∃ later, second.index = some later ∧ earlier ≤ later := by
  unfold isOrdered
  cases first.index <;> cases second.index <;> simp

/-- An error that comes before another comes no later. -/
theorem Before.isOrdered {first second : FormError} (before : first.Before second) :
    first.isOrdered second = true := by
  obtain ⟨later, place, less⟩ := before
  exact isOrdered_iff.2 fun earlier own => ⟨later, place, Nat.le_of_lt (less earlier own)⟩

/-- The order of errors is transitive. -/
theorem isOrdered_trans (first second third : FormError) (front : first.isOrdered second = true)
    (back : second.isOrdered third = true) : first.isOrdered third = true := by
  rw [isOrdered_iff] at front back ⊢
  intro earlier own
  obtain ⟨middle, between, le⟩ := front earlier own
  obtain ⟨later, place, more⟩ := back middle between
  exact ⟨later, place, Nat.le_trans le more⟩

/-- Any two errors are in order. -/
theorem isOrdered_total (first second : FormError) :
    (first.isOrdered second || second.isOrdered first) = true := by
  unfold isOrdered
  cases first.index <;> cases second.index <;> simp [Nat.le_total]

/-- Errors that stand in order in one arrangement are sorted into it. -/
theorem mergeSort_eq {errors arranged : List FormError} (ordered : arranged.Pairwise Before)
    (same : errors.Perm arranged) : errors.mergeSort isOrdered = arranged := by
  have sorted := errors.pairwise_mergeSort isOrdered_trans isOrdered_total
  refine List.Perm.eq_of_pairwise (fun first second isFirst isSecond earlier later => ?_) sorted
    (ordered.imp Before.isOrdered) ((errors.mergeSort_perm isOrdered).trans same)
  have isFirst := same.mem_iff.1 (List.mem_mergeSort.1 isFirst)
  -- Two errors in both orders have one index, and an arrangement has no two errors of one index.
  have unique : ∀ {error other : FormError}, error.Before other → error.index ≠ other.index := by
    rintro error other ⟨later, place, less⟩ equal
    exact Nat.lt_irrefl later (less later (equal.trans place))
  have distinct : ∀ error ∈ arranged, ∀ other ∈ arranged, error.index = other.index →
      error = other := by
    refine List.Pairwise.forall_of_forall_of_flip (fun _ _ _ => rfl)
      (ordered.imp fun before equal => ?_) (ordered.imp fun before equal => ?_)
    · exact absurd equal (unique before)
    · exact absurd equal.symm (unique before)
  refine distinct first isFirst second isSecond ?_
  rw [isOrdered_iff] at earlier later
  cases own : first.index with
  | none =>
    cases other : second.index with
    | none => rfl
    | some place =>
      obtain ⟨_, none, _⟩ := later place other
      rw [own] at none
      contradiction
  | some place =>
    obtain ⟨next, there, le⟩ := earlier place own
    obtain ⟨back, here, ge⟩ := later next there
    rw [own] at here
    cases here
    rw [there, Nat.le_antisymm le ge]

end FormError

/-- The definitions and declarations that no error belongs to, counting from an index. -/
def entered (errors : List FormError) (index : Nat) : List Expr → List Expr
  | [] => []
  | form :: rest =>
    if form.isAnonymous || errors.any (·.index = some index) then entered errors (index + 1) rest
    else form :: entered errors (index + 1) rest

/-- What has been entered are some of the forms, in their order. -/
theorem entered_sublist (errors : List FormError) (forms : List Expr) : ∀ index : Nat,
    (entered errors index forms).Sublist forms := by
  induction forms with
  | nil => exact fun _ => .slnil
  | cons form rest hypothesis =>
    intro index
    rw [entered]
    split
    · exact (hypothesis _).cons _
    · exact (hypothesis _).cons_cons _

/-- An expression that has been run. -/
structure Run where
  /-- The form and the routine of the expression. -/
  job : Job
  /-- What running the routine gave. -/
  result : Except CodeError Float

namespace Run

/-- The value of an expression, if it has one. -/
def value? (run : Run) : Option Float :=
  match run.result with
  | .ok value => some value
  | .error _ => none

/-- The error of an expression, if it has one. It belongs to the form of the expression. -/
def failure? (run : Run) : Option FormError :=
  match run.result with
  | .ok _ => none
  | .error error => some ⟨some run.job.index, some run.job.span, .code error⟩

/-- The error of an expression belongs to its form. -/
theorem index_of_failure? {run : Run} {error : FormError} {index : Nat} (own : run.job.index = index)
    (gave : run.failure? = some error) : error.index = some index := by
  unfold failure? at gave
  split at gave
  · contradiction
  · cases gave
    exact congrArg some own

end Run

/-- An account of a batch, form by form, counting from an index: which definitions and declarations
have been entered, which expressions have been run, and the values and errors. Expressions are run
only if the unit could be completed. -/
inductive Accounts (completed : Bool) :
    Nat → List Expr → List Expr → List Run → List Float → List FormError → Prop
  /-- No form. -/
  | nil {index : Nat} : Accounts completed index [] [] [] [] []
  /-- A definition or a declaration is entered. -/
  | entry {index : Nat} {form : Expr} {forms introduced : List Expr} {runs : List Run}
      {values : List Float} {errors : List FormError} (named : form.isAnonymous = false)
      (rest : Accounts completed (index + 1) forms introduced runs values errors) :
      Accounts completed index (form :: forms) (form :: introduced) runs values errors
  /-- An expression is run and has a value, which comes before those of later forms. -/
  | value {index : Nat} {form : Expr} {forms introduced : List Expr} {run : Run} {runs : List Run}
      {value : Float} {values : List Float} {errors : List FormError}
      (anonymous : form.isAnonymous = true) (isCompleted : completed = true)
      (own : run.job.index = index) (gave : run.value? = some value)
      (rest : Accounts completed (index + 1) forms introduced runs values errors) :
      Accounts completed index (form :: forms) introduced (run :: runs) (value :: values) errors
  /-- An expression is run and has an error. -/
  | failure {index : Nat} {form : Expr} {forms introduced : List Expr} {run : Run} {runs : List Run}
      {values : List Float} {error : FormError} {errors : List FormError}
      (anonymous : form.isAnonymous = true) (isCompleted : completed = true)
      (own : run.job.index = index) (gave : run.failure? = some error)
      (rest : Accounts completed (index + 1) forms introduced runs values errors) :
      Accounts completed index (form :: forms) introduced (run :: runs) values (error :: errors)
  /-- An expression is not run. -/
  | unrun {index : Nat} {form : Expr} {forms introduced : List Expr} {runs : List Run}
      {values : List Float} {errors : List FormError} (anonymous : form.isAnonymous = true)
      (isIncomplete : completed = false)
      (rest : Accounts completed (index + 1) forms introduced runs values errors) :
      Accounts completed index (form :: forms) introduced runs values errors
  /-- A form cannot be lowered. -/
  | unlowered {index : Nat} {form : Expr} {forms introduced : List Expr} {runs : List Run}
      {values : List Float} {error : FormError} {errors : List FormError}
      (belongs : error.index = some index)
      (rest : Accounts completed (index + 1) forms introduced runs values errors) :
      Accounts completed index (form :: forms) introduced runs values (error :: errors)

namespace Accounts

variable {completed : Bool} {index : Nat} {forms introduced : List Expr} {runs : List Run}
  {values : List Float} {error : FormError} {errors : List FormError}

/-- An error of the form at an index, in front of errors that belong to forms behind it. -/
theorem index_le_cons (belongs : error.index = some index)
    (others : ∀ error ∈ errors, ∃ place, error.index = some place ∧ index + 1 ≤ place) :
    ∀ other ∈ error :: errors, ∃ place, other.index = some place ∧ index ≤ place := by
  refine List.forall_mem_cons.2 ⟨⟨index, belongs, Nat.le_refl _⟩, fun other member => ?_⟩
  obtain ⟨place, there, behind⟩ := others other member
  exact ⟨place, there, Nat.le_of_succ_le behind⟩

/-- Errors belong to forms at or behind the index. -/
theorem index_le (accounts : Accounts completed index forms introduced runs values errors) :
    ∀ error ∈ errors, ∃ place, error.index = some place ∧ index ≤ place := by
  induction accounts with
  | nil => exact List.forall_mem_nil _
  | entry _ _ hypothesis | value _ _ _ _ _ hypothesis | unrun _ _ _ hypothesis =>
    intro error member
    obtain ⟨place, belongs, behind⟩ := hypothesis error member
    exact ⟨place, belongs, Nat.le_of_succ_le behind⟩
  | failure _ _ own gave _ hypothesis =>
    exact index_le_cons (Run.index_of_failure? own gave) hypothesis
  | unlowered belongs _ hypothesis => exact index_le_cons belongs hypothesis

/-- An error of the form at an index comes before errors of forms behind it. -/
theorem before_of_rest (belongs : error.index = some index)
    (rest : Accounts completed (index + 1) forms introduced runs values errors) :
    ∀ other ∈ errors, error.Before other := by
  intro other member
  obtain ⟨place, there, behind⟩ := rest.index_le other member
  refine ⟨place, there, fun earlier here => ?_⟩
  obtain rfl := Option.some.inj (belongs.symm.trans here)
  exact behind

/-- Errors come in the order of their forms, one for each at most. -/
theorem ordered (accounts : Accounts completed index forms introduced runs values errors) :
    errors.Pairwise FormError.Before := by
  induction accounts with
  | nil => exact .nil
  | entry _ _ hypothesis | value _ _ _ _ _ hypothesis | unrun _ _ _ hypothesis => exact hypothesis
  | failure _ _ own gave rest hypothesis =>
    exact .cons (before_of_rest (Run.index_of_failure? own gave) rest) hypothesis
  | unlowered belongs rest hypothesis => exact .cons (before_of_rest belongs rest) hypothesis

/-- The expressions that have been run belong to forms at or behind the index. -/
theorem index_le_run (accounts : Accounts completed index forms introduced runs values errors) :
    ∀ run ∈ runs, index ≤ run.job.index := by
  induction accounts with
  | nil => exact List.forall_mem_nil _
  | entry _ _ hypothesis | unrun _ _ _ hypothesis | unlowered _ _ hypothesis =>
    exact fun run member => Nat.le_of_succ_le (hypothesis run member)
  | value _ _ own _ _ hypothesis | failure _ _ own _ _ hypothesis =>
    exact List.forall_mem_cons.2 ⟨Nat.le_of_eq own.symm, fun run member =>
      Nat.le_of_succ_le (hypothesis run member)⟩

/-- The expressions have been run in the order of their forms, each once. -/
theorem runs_ordered (accounts : Accounts completed index forms introduced runs values errors) :
    runs.Pairwise fun early late => early.job.index < late.job.index := by
  induction accounts with
  | nil => exact .nil
  | entry _ _ hypothesis | unrun _ _ _ hypothesis | unlowered _ _ hypothesis => exact hypothesis
  | value _ _ own _ rest hypothesis | failure _ _ own _ rest hypothesis =>
    exact .cons (fun run member => own ▸ rest.index_le_run run member) hypothesis

/-- Errors that belong to no form behind the index make no difference. -/
theorem entered_cons (before : ∀ place, error.index = some place → place < index) :
    entered (error :: errors) index forms = entered errors index forms := by
  induction forms generalizing index with
  | nil => rfl
  | cons form rest hypothesis =>
    have other : error.index ≠ some index := fun same => Nat.lt_irrefl _ (before _ same)
    rw [entered, entered, hypothesis fun place same => Nat.lt_succ_of_lt (before place same),
      List.any_cons, decide_eq_false other, Bool.false_or]

/-- A form with an error has not been entered. -/
theorem entered_of_belongs {form : Expr} (belongs : error.index = some index) :
    entered (error :: errors) index (form :: forms) = entered errors (index + 1) forms := by
  have less : ∀ place, error.index = some place → place < index + 1 := by
    intro place here
    obtain rfl := Option.some.inj (belongs.symm.trans here)
    exact Nat.lt_succ_self _
  rw [entered, List.any_cons, decide_eq_true belongs, Bool.true_or, Bool.or_true, if_pos rfl,
    entered_cons less]

/-- What has been entered are the definitions and declarations that no error belongs to. -/
theorem introduced_eq (accounts : Accounts completed index forms introduced runs values errors) :
    introduced = entered errors index forms := by
  induction accounts with
  | nil => rfl
  | @entry index form _ _ _ _ errors named rest hypothesis =>
    have none : (errors.any fun error => decide (error.index = some index)) = false := by
      rw [List.any_eq_false]
      intro error member
      obtain ⟨place, belongs, behind⟩ := rest.index_le error member
      simp only [belongs, Option.some.injEq, decide_eq_true_eq]
      omega
    rw [entered, named, none, hypothesis]
    rfl
  | value anonymous _ _ _ _ hypothesis | unrun anonymous _ _ hypothesis =>
    rw [entered, anonymous, hypothesis]
    rfl
  | failure _ _ own gave _ hypothesis =>
    rw [entered_of_belongs (Run.index_of_failure? own gave), hypothesis]
  | unlowered belongs _ hypothesis => rw [entered_of_belongs belongs, hypothesis]

end Accounts

namespace Registry

/-- Registries in which all names mean the same stay so. -/
theorem lookup?_enterAll_congr {first second : Registry} (forms : List Expr)
    (same : ∀ name, first.lookup? name = second.lookup? name) (name : String) :
    (first.enterAll forms).lookup? name = (second.enterAll forms).lookup? name := by
  induction forms generalizing first second with
  | nil => exact same name
  | cons form rest hypothesis =>
    refine hypothesis fun other => ?_
    rw [lookup?_enter, lookup?_enter, same]

/-- An expression to run does not enter the registry. -/
theorem enter_of_isAnonymous {registry : Registry} {form : Expr}
    (anonymous : form.isAnonymous = true) : registry.enter form = registry := by
  cases form with
  | function signature body span =>
    rw [Expr.isAnonymous] at anonymous
    simp only [enter, Expr.entry?, anonymous, if_true]
  | _ => contradiction

/-- Forms as the parser builds them keep a registry sound. -/
theorem IsSound.enterAll {registry : Registry} (sound : registry.IsSound) {forms : List Expr}
    (areForms : ∀ form ∈ forms, form.IsForm) : (registry.enterAll forms).IsSound := by
  induction forms generalizing registry with
  | nil => exact sound
  | cons form rest hypothesis =>
    exact hypothesis (sound.enter (areForms form List.mem_cons_self)) fun form member =>
      areForms form (List.mem_cons_of_mem _ member)

end Registry

namespace Evaluator

/-- Expressions are run one after the other, each in the state that the one before it has left. -/
inductive Executes (execution : Execution) : Evaluator → List Run → Evaluator → Prop
  /-- No expression. -/
  | nil {evaluator : Evaluator} : Executes execution evaluator [] evaluator
  /-- An expression, and those after it. -/
  | cons {first middle last : Evaluator} {run : Run} {runs : List Run}
      (executed : first.execute execution run.job.routine = some (run.result, middle))
      (rest : Executes execution middle runs last) : Executes execution first (run :: runs) last

variable {execution : Execution} {evaluator after : Evaluator} {name : String}

/-- Running a routine leaves the registry and the open unit. -/
theorem survives_execute {routine : Nat} {result : Except CodeError Float}
    (isOpen : evaluator.builder.IsOpen name)
    (done : evaluator.execute execution routine = some (result, after)) :
    after.registry = evaluator.registry ∧ after.builder.IsOpen name := by
  have kept : Preserves (Builder.IsOpen name) (Build.attempt .execute) := Build.preserves_attempt _
  have kept := kept evaluator.builder isOpen
  unfold execute at done
  split at done
  · next error builder struck =>
    rw [struck] at kept
    cases done
    exact ⟨rfl, kept⟩
  · next builder struck =>
    rw [struck] at kept
    simp only at done
    split at done
    · cases done
      exact ⟨rfl, kept⟩
    · obtain ⟨outcome, _, same⟩ := Option.map_eq_some_iff.1 done
      cases same
      exact ⟨rfl, kept⟩

/-- Running expressions leaves the registry and the open unit. -/
theorem Executes.survives {runs : List Run} (executes : Executes execution evaluator runs after)
    (isOpen : evaluator.builder.IsOpen name) :
    after.registry = evaluator.registry ∧ after.builder.IsOpen name := by
  induction executes with
  | nil => exact ⟨rfl, isOpen⟩
  | cons executed _ hypothesis =>
    obtain ⟨registry, isOpen⟩ := survives_execute isOpen executed
    obtain ⟨same, isOpen⟩ := hypothesis isOpen
    exact ⟨same.trans registry, isOpen⟩

/-- Running expressions gives the values and errors of all of them, in their order. -/
theorem executes_runJobs {jobs : List Job} {report : Report}
    (done : evaluator.runJobs execution jobs = some (report, after)) :
    ∃ runs, runs.map Run.job = jobs ∧ Executes execution evaluator runs after ∧
      report = ⟨runs.filterMap Run.value?, runs.filterMap Run.failure?⟩ := by
  induction jobs generalizing evaluator report after with
  | nil =>
    cases done
    exact ⟨[], rfl, .nil, rfl⟩
  | cons job rest hypothesis =>
    rw [runJobs, Option.bind_eq_bind, Option.bind_eq_some_iff] at done
    obtain ⟨⟨result, middle⟩, executed, done⟩ := done
    rw [Option.bind_eq_bind, Option.bind_eq_some_iff] at done
    obtain ⟨⟨others, last⟩, ran, done⟩ := done
    obtain ⟨runs, rfl, executes, rfl⟩ := hypothesis ran
    refine ⟨⟨job, result⟩ :: runs, rfl, ?_⟩
    cases result <;> cases done
    · exact ⟨.cons executed executes, rfl⟩
    · exact ⟨.cons executed executes, rfl⟩

/-- Lowering forms accounts for all of them, with what running the expressions gives, and leaves the
unit open. The registry is that of the definitions and declarations that have been entered. -/
theorem accounts_lowerForms {forms : List Expr} (areForms : ∀ form ∈ forms, form.IsForm) :
    ∀ (state : Lowering) (index : Nat), state.registry.IsSound → state.builder.IsOpen name →
      ∃ introduced, (lowerForms state index forms).2.2.builder.IsOpen name ∧
        (∀ own, (lowerForms state index forms).2.2.registry.lookup? own =
          (state.registry.enterAll introduced).lookup? own) ∧
        Accounts false index forms introduced [] [] (lowerForms state index forms).2.1 ∧
        ∀ runs : List Run, runs.map Run.job = (lowerForms state index forms).1 →
          ∃ arranged, Accounts true index forms introduced runs (runs.filterMap Run.value?) arranged ∧
            ((lowerForms state index forms).2.1 ++ runs.filterMap Run.failure?).Perm arranged := by
  induction forms with
  | nil =>
    refine fun state index _ isOpen => ⟨[], isOpen, fun _ => rfl, .nil, fun runs jobs => ?_⟩
    obtain rfl := List.map_eq_nil_iff.1 jobs
    exact ⟨[], .nil, .nil⟩
  | cons form rest hypothesis =>
    intro state index sound isOpen
    have isForm := areForms form List.mem_cons_self
    have later := hypothesis fun form member => areForms form (List.mem_cons_of_mem _ member)
    have survives := Lower.survives_form isForm sound isOpen
    rw [lowerForms]
    cases lowered : Lower.form form state with
    | error error next =>
      rw [lowered] at survives
      obtain ⟨same, isOpen⟩ := survives
      obtain ⟨introduced, isOpen, registry, accounts, merges⟩ :=
        later next (index + 1) (sound.congr same) isOpen
      refine ⟨introduced, isOpen, fun own => ?_, .unlowered rfl accounts, fun runs jobs => ?_⟩
      · rw [registry, Registry.lookup?_enterAll_congr introduced same]
      · obtain ⟨arranged, accounts, permuted⟩ := merges runs jobs
        exact ⟨_, .unlowered rfl accounts, permuted.cons _⟩
    | ok routine next =>
      rw [lowered] at survives
      obtain ⟨same, isOpen⟩ := survives
      obtain ⟨introduced, isOpen, registry, accounts, merges⟩ :=
        later next (index + 1) (same ▸ sound.enter isForm) isOpen
      rw [same] at registry
      cases anonymous : form.isAnonymous with
      | false =>
        refine ⟨form :: introduced, isOpen, registry, .entry anonymous accounts, fun runs jobs => ?_⟩
        obtain ⟨arranged, accounts, permuted⟩ := merges runs jobs
        exact ⟨arranged, .entry anonymous accounts, permuted⟩
      | true =>
        rw [Registry.enter_of_isAnonymous anonymous] at registry
        refine ⟨introduced, isOpen, registry, .unrun anonymous rfl accounts, fun runs jobs => ?_⟩
        obtain ⟨run, others, rfl, job, jobs⟩ := List.map_eq_cons_iff.1 jobs
        have own : run.job.index = index := congrArg Job.index job
        obtain ⟨arranged, accounts, permuted⟩ := merges others jobs
        cases result : run.result with
        | ok value =>
          have gave : run.value? = some value := by rw [Run.value?, result]
          have none : run.failure? = none := by rw [Run.failure?, result]
          rw [List.filterMap_cons_some gave, List.filterMap_cons_none none]
          exact ⟨arranged, .value anonymous rfl own gave accounts, permuted⟩
        | error error =>
          have none : run.value? = none := by rw [Run.value?, result]
          have gave : run.failure? = some ⟨some run.job.index, some run.job.span, .code error⟩ := by
            rw [Run.failure?, result]
          rw [List.filterMap_cons_none none, List.filterMap_cons_some gave]
          exact ⟨_, .failure anonymous rfl own gave accounts,
            List.perm_middle.trans (permuted.cons _)⟩

/-- The states between batches of a session in which operations fail as planned. -/
inductive ReachableUnder (plan : FaultPlan) : Evaluator → Prop
  /-- A new session. -/
  | new (keepListing : Bool) : ReachableUnder plan (.new keepListing plan)
  /-- A batch leads from one state to the next. -/
  | batch {execution : Execution} {before after : Evaluator} {forms : List Expr} {report : Report}
      (earlier : ReachableUnder plan before) (areForms : ∀ form ∈ forms, form.IsForm)
      (done : before.runBatch execution forms = some (report, after)) : ReachableUnder plan after

/-- The name of the unit of the next batch. -/
def unitName (evaluator : Evaluator) : String := "unit." ++ Nat.repr (evaluator.units + 1)

/-- What a batch does once its unit has been completed: its expressions are run in the order of the
source, and the report has the values of those that have one, in that order. -/
structure Concludes (execution : Execution) (forms : List Expr) (report : Report) (jobs : List Job)
    (begun ended : Evaluator) (runs : List Run) : Prop where
  /-- All expressions that have been lowered are run. -/
  jobs_eq : runs.map Run.job = jobs
  /-- They are run one after the other. -/
  executes : Executes execution begun runs ended
  /-- They stand in the order of their forms. -/
  inOrder : jobs.Pairwise fun early late => early.index < late.index
  /-- The values are those of the expressions, in the same order. -/
  values_eq : report.values = runs.filterMap Run.value?
  /-- Every expression has a value or an error. -/
  accounts : Accounts true 0 forms (entered report.errors 0 forms) runs report.values report.errors

/-- What a batch does once its unit has been opened. -/
structure Closes (execution : Execution) (evaluator : Evaluator) (forms : List Expr)
    (report : Report) (after : Evaluator) (builder : Builder) (jobs : List Job)
    (errors : List FormError) (lowering : Lowering) (outcome : Report) (ended : Evaluator) :
    Prop where
  /-- The forms are lowered into the unit. -/
  lowers : lowerForms ⟨builder, evaluator.registry, 0⟩ 0 forms = (jobs, errors, lowering)
  /-- The unit is completed and its expressions are run. -/
  finishes : finish execution ⟨lowering.registry, evaluator.units + 1, evaluator.keepListing, none,
    lowering.builder, evaluator.calls⟩ jobs = some (outcome, ended)
  /-- The unit that was opened is open after lowering. -/
  lowered : lowering.builder.IsOpen evaluator.unitName
  /-- It is open after running. -/
  ran : ended.builder.IsOpen evaluator.unitName
  /-- Then it is closed. -/
  closed : after.builder = ended.builder.dispose
  /-- The values of the expressions are reported. -/
  values_eq : report.values = outcome.values
  /-- The registry is that of the definitions and declarations without an error. -/
  registry : ∀ name, after.registry.lookup? name =
    (evaluator.registry.enterAll (entered report.errors 0 forms)).lookup? name
  /-- If the unit can be completed, every expression has a value or an error, and the values stand in
  the order of the source. -/
  concludes : ∀ finished, Build.finishUnit lowering.builder = .ok ⟨⟩ finished →
    ∃ listing runs, Concludes execution forms report jobs ⟨lowering.registry, evaluator.units + 1,
      evaluator.keepListing, listing, finished, evaluator.calls⟩ ended runs

/-- What holds of a batch whatever has failed. -/
structure Bookkeeping (execution : Execution) (evaluator : Evaluator) (forms : List Expr)
    (report : Report) (after : Evaluator) : Prop where
  /-- No unit is open. -/
  closed : after.builder.unit = none
  /-- If no unit could be opened, the registry stays. -/
  unopened : ∀ error builder, Build.beginUnit evaluator.unitName evaluator.builder =
    .error error builder → after.registry = evaluator.registry
  /-- If a unit has been opened, it is closed at the end, and not before. -/
  opened : ∀ builder, Build.beginUnit evaluator.unitName evaluator.builder = .ok ⟨⟩ builder →
    ∃ jobs errors lowering outcome ended,
      Closes execution evaluator forms report after builder jobs errors lowering outcome ended
  /-- Every form has one error at most. -/
  once : (report.errors.filterMap (·.index)).Nodup
  /-- Errors of the whole unit come first, then those of forms in their order. -/
  sorted : report.errors.Pairwise FormError.Before

variable {forms : List Expr} {report : Report}

/-- The report of a batch whose unit has been opened accounts for its forms. -/
theorem closes_of_beginUnit (areForms : ∀ form ∈ forms, form.IsForm)
    (sound : evaluator.registry.IsSound) {builder : Builder}
    (opens : Build.beginUnit evaluator.unitName evaluator.builder = .ok ⟨⟩ builder)
    (isOpen : builder.IsOpen evaluator.unitName)
    (done : evaluator.runBatch execution forms = some (report, after)) :
    (∃ jobs errors lowering outcome ended,
        Closes execution evaluator forms report after builder jobs errors lowering outcome ended) ∧
      report.errors.Pairwise FormError.Before := by
  obtain ⟨introduced, lowered, registry, accounts, merges⟩ :=
    accounts_lowerForms areForms ⟨builder, evaluator.registry, 0⟩ 0 sound isOpen
  unfold unitName at opens
  simp only [runBatch, opens] at done
  generalize outcomes : lowerForms ⟨builder, evaluator.registry, 0⟩ 0 forms = lowers at *
  obtain ⟨jobs, errors, lowering⟩ := lowers
  obtain ⟨⟨outcome, ended⟩, finishes, done⟩ := Option.bind_eq_some_iff.1 done
  cases done
  have completes := Build.preserves_finishUnit lowering.builder lowered
  have inside := finishes
  unfold finish at inside
  cases finished : Build.finishUnit lowering.builder with
  | error error last =>
    rw [finished] at completes
    simp only [finished] at inside
    cases inside
    have ordered : (FormError.ofUnit error :: errors).Pairwise FormError.Before := by
      refine List.pairwise_cons.2 ⟨fun other member => ?_, accounts.ordered⟩
      obtain ⟨place, belongs, _⟩ := accounts.index_le other member
      exact ⟨place, belongs, fun _ none => by contradiction⟩
    have sorted := FormError.mergeSort_eq ordered (List.perm_append_singleton _ _)
    have same : entered (.ofUnit error :: errors) 0 forms = entered errors 0 forms :=
      Accounts.entered_cons fun _ none => by contradiction
    refine ⟨⟨jobs, errors, lowering, _, _,
      ⟨outcomes, finishes, lowered, completes, rfl, rfl, ?_, ?_⟩⟩, ?_⟩
    · intro own
      rw [sorted, same, ← accounts.introduced_eq]
      exact registry own
    · intro last completed
      rw [finished] at completed
      contradiction
    · rw [sorted]
      exact ordered
  | ok done last =>
    rw [finished] at completes
    simp only [finished] at inside
    obtain ⟨runs, jobs_eq, executes, rfl⟩ := executes_runJobs inside
    obtain ⟨same, ran⟩ := executes.survives completes
    obtain ⟨arranged, accounts, permuted⟩ := merges runs jobs_eq
    have sorted := FormError.mergeSort_eq accounts.ordered permuted
    have inOrder : jobs.Pairwise fun early late => early.index < late.index :=
      jobs_eq ▸ List.pairwise_map.2 accounts.runs_ordered
    refine ⟨⟨jobs, errors, lowering, _, ended,
      ⟨outcomes, finishes, lowered, ran, rfl, rfl, ?_, ?_⟩⟩, ?_⟩
    · intro own
      rw [sorted, ← accounts.introduced_eq, ← registry, same]
    · intro builder completed
      cases finished.symm.trans completed
      refine ⟨_, runs, jobs_eq, executes, inOrder, rfl, ?_⟩
      rw [sorted, ← accounts.introduced_eq]
      exact accounts
    · rw [sorted]
      exact accounts.ordered

/-- A unit that has been opened is open. -/
theorem isOpen_of_beginUnit {own : String} {builder last : Builder}
    (opens : Build.beginUnit own builder = .ok ⟨⟩ last) : last.IsOpen own := by
  rw [Build.beginUnit] at opens
  simp only [Bind.bind, EStateM.bind] at opens
  split at opens
  · cases opens
    rfl
  · contradiction

/-- A unit that has not been opened leaves the builder without one. -/
theorem unit_eq_of_beginUnit {own : String} {builder last : Builder} {error : CodeError}
    (fails : Build.beginUnit own builder = .error error last) : last.unit = builder.unit := by
  rw [Build.beginUnit] at fails
  simp only [Bind.bind, EStateM.bind, Build.attempt] at fails
  cases struck : builder.faults.strike? .beginUnit <;> rw [struck] at fails
  · contradiction
  · cases fails
    rfl

/-- The books of a batch are kept whatever fails, from every sound state without an open unit. -/
theorem bookkeeping (areForms : ∀ form ∈ forms, form.IsForm) (sound : evaluator.registry.IsSound)
    (idle : evaluator.builder.unit = none)
    (done : evaluator.runBatch execution forms = some (report, after)) :
    Bookkeeping execution evaluator forms report after := by
  have once : report.errors.Pairwise FormError.Before →
      (report.errors.filterMap (·.index)).Nodup := by
    intro sorted
    refine List.pairwise_filterMap.2 (sorted.imp ?_)
    rintro first second ⟨later, place, less⟩ earlier own other there rfl
    rw [place] at there
    cases there
    exact Nat.lt_irrefl _ (less _ own)
  cases begun : Build.beginUnit evaluator.unitName evaluator.builder with
  | ok _ builder =>
    obtain ⟨closes, sorted⟩ :=
      closes_of_beginUnit areForms sound begun (isOpen_of_beginUnit begun) done
    refine ⟨?_, fun error last fails => ?_, fun last opens => ?_, once sorted, sorted⟩
    · obtain ⟨_, _, _, _, _, closes⟩ := closes
      rw [closes.closed]
      rfl
    · rw [begun] at fails
      contradiction
    · rw [begun] at opens
      cases opens
      exact closes
  | error error builder =>
    have unopened := begun
    unfold unitName at begun
    simp only [runBatch, begun] at done
    cases done
    refine ⟨(unit_eq_of_beginUnit begun).trans idle, fun _ _ _ => rfl, fun last opens => ?_, ?_, ?_⟩
    · rw [unopened] at opens
      contradiction
    · exact once (List.pairwise_singleton _ _)
    · exact List.pairwise_singleton _ _

/-- Between batches no unit is open, and the registry is made from forms. -/
theorem ReachableUnder.idle {plan : FaultPlan} (reachable : ReachableUnder plan evaluator) :
    evaluator.registry.IsSound ∧ evaluator.builder.unit = none := by
  induction reachable with
  | new keepListing => exact ⟨Registry.isSound_empty, rfl⟩
  | @batch execution before after forms report _ areForms done hypothesis =>
    have books := bookkeeping areForms hypothesis.1 hypothesis.2 done
    refine ⟨?_, books.closed⟩
    cases begun : Build.beginUnit before.unitName before.builder with
    | ok value builder =>
      obtain ⟨_, _, _, _, _, closes⟩ := books.opened builder begun
      have areEntered : ∀ form ∈ entered report.errors 0 forms, form.IsForm := fun form member =>
        areForms form ((entered_sublist _ _ _).subset member)
      exact (hypothesis.1.enterAll areEntered).congr closes.registry
    | error error builder =>
      rw [books.unopened error builder begun]
      exact hypothesis.1

/-- Whatever operations fail in a session, and at whichever of their calls, the books of every
batch are kept. -/
theorem bookkeeping_of_reachableUnder {plan : FaultPlan} (reachable : ReachableUnder plan evaluator)
    (areForms : ∀ form ∈ forms, form.IsForm)
    (done : evaluator.runBatch execution forms = some (report, after)) :
    Bookkeeping execution evaluator forms report after :=
  bookkeeping areForms reachable.idle.1 reachable.idle.2 done

/-- The second of three expressions fails when it is run; the others have values all the same. -/
theorem bookkeeping_execute :
    let span : Span := default
    let plan : FaultPlan := [⟨.execute, 2, .noUnit⟩]
    let forms : List Expr :=
      [.function ⟨"f", ["x"], .function, span⟩ (.var "x" span) span, .anonymous (.number 7 span),
        .anonymous (.number 8 span), .anonymous (.number 9 span)]
    ReachableUnder plan (.new false plan) ∧ (∀ form ∈ forms, form.IsForm) ∧
      ∃ report after, (Evaluator.new false plan).runBatch ⟨⟨.none, 4⟩, 10⟩ forms =
          some (report, after) ∧
        report.values = [7, 9] ∧ report.errors.map (·.index) = [some 2] ∧
        Bookkeeping ⟨⟨.none, 4⟩, 10⟩ (.new false plan) forms report after := by
  intro span plan forms
  have ofNumber : ∀ value, (Expr.anonymous (.number value span)).IsForm := fun value => by
    refine Expr.isForm_anonymous ?_ ?_ <;> simp [Expr.IsBody, Expr.CallsOrdinary, Expr.calls]
  have ofParameter : (Expr.function ⟨"f", ["x"], .function, span⟩ (.var "x" span) span).IsForm := by
    refine .definition span rfl (isOrdinary_of_head? (by decide)) ?_ ?_ <;>
      simp [Expr.IsBody, Expr.CallsOrdinary, Expr.calls]
  have areForms : ∀ form ∈ forms, form.IsForm := by
    simp only [forms, List.forall_mem_cons, List.not_mem_nil, false_implies, implies_true, and_true]
    exact ⟨ofParameter, ofNumber 7, ofNumber 8, ofNumber 9⟩
  have gives : ((Evaluator.new false plan).runBatch ⟨⟨.none, 4⟩, 10⟩ forms).map (fun result =>
      (result.1.values, result.1.errors.map (·.index))) = some ([7, 9], [some 2]) := by decide +kernel
  obtain ⟨⟨report, after⟩, done, same⟩ := Option.map_eq_some_iff.1 gives
  obtain ⟨values, errors⟩ := Prod.mk.inj same
  exact ⟨.new false, areForms, report, after, done, values, errors,
    bookkeeping_of_reachableUnder (.new false) areForms done⟩

end Evaluator

end Kaleidoscope
