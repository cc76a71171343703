import Kaleidoscope.Code.Listing
import Kaleidoscope.Code.Machine
import Kaleidoscope.Lowering.Form

/-!
# Batches

A batch of forms becomes one unit of code. Every form is lowered; one that fails is reported and
left out, and the rest go on. Once the unit is complete, its expressions are run in order, each of
which gives a value or an error. At the end the unit is closed; the registry and the calls of host
functions stay.

Errors come in the order of the forms they belong to; an error of the unit as a whole comes first.
Since expressions need not come to an end, each is given a number of steps, and the batch yields
nothing if they do not suffice.
-/
namespace Kaleidoscope

/-- An error of a batch. -/
structure FormError where
  /-- The form it belongs to, counted from zero; none if it concerns the whole unit. -/
  index : Option Nat
  /-- The place in the source of the batch. -/
  span : Option Span
  /-- The error. -/
  error : LowerError

/-- What a batch gives. -/
structure Report where
  /-- The values of its expressions, those that failed left out. -/
  values : List Float
  /-- The errors. -/
  errors : List FormError

/-- What outlives a batch. -/
structure Evaluator where
  /-- The definitions and declarations known. -/
  registry : Registry
  /-- The number of batches so far. -/
  units : Nat
  /-- Whether listings are kept. -/
  keepListing : Bool
  /-- The listing of the last unit, if one was kept. -/
  listing : Option String
  /-- The builder; no unit is open between batches. -/
  builder : Builder
  /-- All calls of host functions so far. -/
  calls : Array HostCall

/-- What an evaluator runs code with. -/
structure Execution where
  /-- The host and the limit of frames. -/
  environment : Code.Environment
  /-- How many steps each expression is given. -/
  steps : Nat

namespace Execution

/-- A number of steps that no run has time for. -/
def ampleSteps : Nat := Nat.pow 10 18

end Execution

namespace FormError

/-- Whether an error comes no later than another: errors of the whole unit first, then by form. -/
def isOrdered (first second : FormError) : Bool :=
  match first.index, second.index with
  | none, _ => true
  | some _, none => false
  | some earlier, some later => earlier ≤ later

/-- An error of lowering a form, at its own place or else at that of the form. -/
def ofForm (index : Nat) (form : Expr) (error : LowerError) : FormError :=
  ⟨some index, some (error.span?.getD form.span), error⟩

/-- An error of the code of the whole unit. -/
def ofUnit (error : CodeError) : FormError := ⟨none, none, .code error⟩

end FormError

/-- An expression to run: its form and its routine. -/
structure Job where
  /-- The form, counted from zero. -/
  index : Nat
  /-- The place of the form. -/
  span : Span
  /-- The routine. -/
  routine : Nat

namespace Evaluator

/-- The evaluator of a new session. -/
def new (keepListing : Bool) (faults : FaultPlan) : Evaluator :=
  ⟨.empty, 0, keepListing, none, .idle faults, #[]⟩

/-- Lower forms in order, counting from an index: the expressions to run, the errors, and the
state of lowering afterwards. -/
def lowerForms (state : Lowering) (index : Nat) : List Expr → List Job × List FormError × Lowering
  | [] => ([], [], state)
  | form :: rest =>
    match Lower.form form state with
    | .ok routine state =>
      let (jobs, errors, last) := lowerForms state (index + 1) rest
      (if form.isAnonymous then ⟨index, form.span, routine⟩ :: jobs else jobs, errors, last)
    | .error error state =>
      let (jobs, errors, last) := lowerForms state (index + 1) rest
      (jobs, .ofForm index form error :: errors, last)

/-- Run one routine of the open unit. -/
def execute (execution : Execution) (evaluator : Evaluator) (routine : Nat) :
    Option (Except CodeError Float × Evaluator) :=
  match (Build.attempt .execute) evaluator.builder with
  | .error error builder => some (.error error, { evaluator with builder := builder })
  | .ok _ builder =>
    let evaluator := { evaluator with builder := builder }
    match builder.unit with
    | none => some (.error .noUnit, evaluator)
    | some unit =>
      (unit.run execution.environment execution.steps evaluator.calls routine).map
        fun (result, calls) => (result, { evaluator with calls := calls })

/-- Run expressions in order: their values and errors. -/
def runJobs (execution : Execution) (evaluator : Evaluator) : List Job → Option (Report × Evaluator)
  | [] => some (⟨[], []⟩, evaluator)
  | job :: rest => do
    let (result, evaluator) ← evaluator.execute execution job.routine
    let (report, evaluator) ← evaluator.runJobs execution rest
    match result with
    | .ok value => some ({ report with values := value :: report.values }, evaluator)
    | .error error =>
      let failure : FormError := ⟨some job.index, some job.span, .code error⟩
      some ({ report with errors := failure :: report.errors }, evaluator)

/-- Complete the unit and run its expressions. -/
def finish (execution : Execution) (evaluator : Evaluator) (jobs : List Job) :
    Option (Report × Evaluator) :=
  match Build.finishUnit evaluator.builder with
  | .error error builder => some (⟨[], [.ofUnit error]⟩, { evaluator with builder := builder })
  | .ok _ builder =>
    let listing := if evaluator.keepListing then some builder.listing else none
    { evaluator with builder := builder, listing := listing }.runJobs execution jobs

/-- Lower the forms of a batch into a new unit, run its expressions and close the unit. -/
def runBatch (execution : Execution) (evaluator : Evaluator) (forms : List Expr) :
    Option (Report × Evaluator) :=
  let units := evaluator.units + 1
  let evaluator := { evaluator with units := units, listing := none }
  match Build.beginUnit ("unit." ++ Nat.repr units) evaluator.builder with
  | .error error builder => some (⟨[], [.ofUnit error]⟩, { evaluator with builder := builder })
  | .ok _ builder => do
    let (jobs, errors, lowering) := lowerForms ⟨builder, evaluator.registry, 0⟩ 0 forms
    let evaluator := { evaluator with registry := lowering.registry, builder := lowering.builder }
    let (report, evaluator) ← evaluator.finish execution jobs
    let sorted := (errors ++ report.errors).mergeSort FormError.isOrdered
    some (⟨report.values, sorted⟩, { evaluator with builder := evaluator.builder.dispose })

end Evaluator

end Kaleidoscope
