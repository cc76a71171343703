import Kaleidoscope.Proofs.Code.Safety
import Kaleidoscope.Proofs.Lowering.Forms

/-!
# Batches without faults

The state of evaluation between batches is one that batches of parsed forms lead to
(`Evaluator.Reachable`). In such a state the registry is made from forms and no faults are to come,
so opening a unit, closing it and asking for a run cannot fail, and what a batch gives is what its
lowered expressions give in turn (`Evaluator.runBatch_eq`).
-/
namespace Kaleidoscope

open Code

namespace Builder

variable {builder : Builder} {ledger : Ledger} {sources : Sources} {unit : CodeUnit}

/-- Every routine of a unit between forms is well formed. -/
theorem Filed.wellFormed (filed : builder.Filed ledger sources)
    (isOpen : builder.unit = some unit) : unit.WellFormed := by
  intro id routine here body
  have found : builder.routine? id = some routine := by
    rw [routine?, isOpen, Option.bind_some, here]
  obtain ⟨source, known⟩ := Option.isSome_iff_exists.1 (filed.bodied found body)
  obtain ⟨held, foundHeld, callee, goes, count, code⟩ := filed.held known
  cases found.symm.trans foundHeld
  have complete := filed.complete known
  rw [code]
  refine Draft.compile_wellFormed complete.closed count fun call member => ?_
  obtain ⟨target, means, parameters⟩ := lookup?_of_arity? filed.agree
    (complete.ordinary call member) (complete.fits call member)
  cases means.symm.trans (goes call member)
  obtain ⟨called, foundCalled, _⟩ := filed.sound.named means
  refine ⟨called, ?_, ?_⟩
  · rwa [routine?, isOpen, Option.bind_some] at foundCalled
  · rwa [parameterCount, foundCalled] at parameters

/-- Every block of a unit between forms has an end. -/
theorem Filed.unterminated?_eq_none (filed : builder.Filed ledger sources)
    (isOpen : builder.unit = some unit) {routine : Routine} (member : routine ∈ unit.routines) :
    routine.unterminated? = none := by
  rw [Routine.unterminated?, Array.find?_eq_none]
  intro block inside endless
  obtain ⟨id, here⟩ := Array.getElem?_of_mem member
  obtain ⟨index, place⟩ := Array.getElem?_of_mem inside
  have body : routine.hasBody = true := by
    simp only [Routine.hasBody, Bool.not_eq_true', Array.isEmpty_eq_false_iff]
    intro empty
    rw [empty] at place
    contradiction
  obtain ⟨terminator, found⟩ := (filed.wellFormed isOpen here body).terminated index
    (Array.getElem?_eq_some_iff.1 place).1
  rw [Routine.terminator?, place, Option.bind_some] at found
  rw [found] at endless
  contradiction

/-- A unit between forms can be completed. -/
theorem Filed.finishUnit_eq (filed : builder.Filed ledger sources) :
    Build.finishUnit builder = .ok ⟨⟩ builder := by
  obtain ⟨unit, isOpen⟩ := filed.sound.isOpen
  have ended : (unit.routines.toList.findSome? fun routine =>
      routine.unterminated?.map fun block => (routine.name, block.name)) = none := by
    rw [List.findSome?_eq_none_iff]
    intro routine member
    rw [filed.unterminated?_eq_none isOpen (Array.mem_toList_iff.1 member), Option.map_none]
  rw [Build.finishUnit, Build.bind_attempt filed.sound.faultless]
  simp only [Bind.bind, EStateM.bind, get_apply, isOpen, ended]
  rfl

end Builder

namespace CodeUnit

/-- Run expressions in order: their values and errors, and all calls of host functions so far. -/
def runAll (unit : CodeUnit) (execution : Execution) (calls : Array HostCall) :
    List Job → Option (Report × Array HostCall)
  | [] => some (⟨[], []⟩, calls)
  | job :: rest => do
    let (result, calls) ← unit.run execution.environment execution.steps calls job.routine
    let (report, calls) ← unit.runAll execution calls rest
    match result with
    | .ok value => some ({ report with values := value :: report.values }, calls)
    | .error error =>
      let failure : FormError := ⟨some job.index, some job.span, .code error⟩
      some ({ report with errors := failure :: report.errors }, calls)

end CodeUnit

namespace Evaluator

/-- The state that the forms of the next batch are lowered in. -/
def opened (evaluator : Evaluator) : Lowering :=
  ⟨⟨some (.new ("unit." ++ Nat.repr (evaluator.units + 1))), none, []⟩, evaluator.registry, 0⟩

/-- An evaluator that no faults will strike, with a registry made from forms. -/
structure Ready (evaluator : Evaluator) : Prop where
  /-- No faults are to come. -/
  faultless : evaluator.builder.faults = []
  /-- The registry is made from forms. -/
  registered : evaluator.registry.IsSound

/-- The states between batches: those that batches of forms lead to. -/
inductive Reachable : Evaluator → Prop
  /-- A new session is without faults to come. -/
  | new (keepListing : Bool) : Reachable (.new keepListing [])
  /-- A batch leads from one state to the next. -/
  | batch {execution : Execution} {before after : Evaluator} {forms : List Expr} {report : Report}
      (earlier : Reachable before) (areForms : ∀ form ∈ forms, form.IsForm)
      (done : before.runBatch execution forms = some (report, after)) : Reachable after

variable {execution : Execution} {evaluator : Evaluator} {unit : CodeUnit}

/-- Nothing is known of a new unit. -/
theorem stands_opened (registered : evaluator.registry.IsSound) :
    Lower.Stands evaluator.opened ⟨evaluator.registry, .empty⟩ fun _ => none where
  registry_eq := rfl
  registered := registered
  filed :=
    { sound :=
        { faultless := rfl
          isOpen := ⟨_, rfl⟩
          named := fun means => by contradiction
          found := fun found => by contradiction
          bare := fun found => by contradiction }
      agree := fun _ _ => rfl
      held := fun known => by contradiction
      bodied := fun found => by contradiction
      complete := fun known => by contradiction
      linked := fun _ means => by contradiction
      used_iff := by simp [Ledger.empty] }

/-- Without faults, a unit can be opened. -/
theorem beginUnit_eq (ready : evaluator.Ready) :
    Build.beginUnit ("unit." ++ Nat.repr (evaluator.units + 1)) evaluator.builder =
      .ok ⟨⟩ evaluator.opened.builder := by
  rw [Build.beginUnit, Build.bind_attempt ready.faultless]
  show EStateM.Result.ok _ (⟨_, _, evaluator.builder.faults⟩ : Builder) = _
  rw [ready.faultless]
  rfl

/-- Without faults, a routine of the open unit is run. -/
theorem execute_eq (faultless : evaluator.builder.faults = [])
    (isOpen : evaluator.builder.unit = some unit) (routine : Nat) :
    evaluator.execute execution routine =
      (unit.run execution.environment execution.steps evaluator.calls routine).map
        fun (result, calls) => (result, { evaluator with calls := calls }) := by
  simp only [execute, Build.attempt_eq faultless, isOpen]

/-- Without faults, expressions are run one after the other. -/
theorem runJobs_eq (jobs : List Job) : ∀ evaluator : Evaluator,
    evaluator.builder.faults = [] → evaluator.builder.unit = some unit →
      evaluator.runJobs execution jobs =
        (unit.runAll execution evaluator.calls jobs).map
          fun (report, calls) => (report, { evaluator with calls := calls }) := by
  induction jobs with
  | nil => exact fun _ _ _ => rfl
  | cons job rest hypothesis =>
    intro evaluator faultless isOpen
    simp only [runJobs, CodeUnit.runAll, execute_eq faultless isOpen, Option.bind_eq_bind]
    cases unit.run execution.environment execution.steps evaluator.calls job.routine with
    | none => rfl
    | some outcome =>
      obtain ⟨result, calls⟩ := outcome
      simp only [Option.map_some, Option.bind_some]
      rw [hypothesis { evaluator with calls := calls } faultless isOpen]
      cases unit.runAll execution calls rest with
      | none => rfl
      | some last =>
        obtain ⟨report, final⟩ := last
        cases result <;> rfl

variable (execution) in
/-- Without faults, a batch gives what its expressions give once all forms have been lowered. -/
theorem runBatch_eq (ready : evaluator.Ready) {forms : List Expr}
    (areForms : ∀ form ∈ forms, form.IsForm)
    (isOpen : (lowerForms evaluator.opened 0 forms).2.2.builder.unit = some unit) :
    ∃ listing, evaluator.runBatch execution forms =
      (unit.runAll execution evaluator.calls (lowerForms evaluator.opened 0 forms).1).map
        fun (report, calls) =>
          (⟨report.values, ((lowerForms evaluator.opened 0 forms).2.1 ++ report.errors).mergeSort
              FormError.isOrdered⟩,
            ⟨(lowerForms evaluator.opened 0 forms).2.2.registry, evaluator.units + 1,
              evaluator.keepListing, listing,
              (lowerForms evaluator.opened 0 forms).2.2.builder.dispose, calls⟩) := by
  obtain ⟨sources, stands, _⟩ := Lower.stands_forms areForms 0 (stands_opened ready.registered)
  have start : (⟨evaluator.opened.builder, evaluator.registry, 0⟩ : Lowering) = evaluator.opened :=
    rfl
  unfold runBatch
  simp only [beginUnit_eq ready, start]
  generalize lowerForms evaluator.opened 0 forms = lowered at *
  obtain ⟨jobs, errors, state⟩ := lowered
  simp only [finish, stands.filed.finishUnit_eq]
  refine ⟨if evaluator.keepListing then some state.builder.listing else none, ?_⟩
  rw [runJobs_eq jobs _ stands.filed.sound.faultless isOpen]
  simp only
  cases unit.runAll execution evaluator.calls jobs <;> rfl

/-- A batch leads to a state that is ready again, with the registry that its forms leave behind. -/
theorem Ready.runBatch (ready : evaluator.Ready) {after : Evaluator} {forms : List Expr}
    (areForms : ∀ form ∈ forms, form.IsForm) {report : Report}
    (done : evaluator.runBatch execution forms = some (report, after)) :
    after.Ready ∧
      after.registry = (Check.forms ⟨evaluator.registry, .empty⟩ 0 forms).2.2.registry := by
  obtain ⟨sources, stands, _⟩ := Lower.stands_forms areForms 0 (stands_opened ready.registered)
  obtain ⟨unit, isOpen⟩ := stands.filed.sound.isOpen
  obtain ⟨listing, same⟩ := runBatch_eq execution ready areForms isOpen
  rw [same, Option.map_eq_some_iff] at done
  obtain ⟨outcome, _, ended⟩ := done
  cases ended
  exact ⟨⟨stands.filed.sound.faultless, stands.registry_eq ▸ stands.registered⟩, stands.registry_eq⟩

/-- States between batches are ready for the next batch. -/
theorem Reachable.ready (reachable : evaluator.Reachable) : evaluator.Ready := by
  induction reachable with
  | new keepListing => exact ⟨rfl, Registry.isSound_empty⟩
  | batch _ areForms done hypothesis => exact (hypothesis.runBatch areForms done).1

end Evaluator

end Kaleidoscope
