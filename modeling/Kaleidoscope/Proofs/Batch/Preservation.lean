import Kaleidoscope.Proofs.Lowering.Succeeding
import Kaleidoscope.Proofs.Meaning.Runs

/-!
# Batches give what their expressions mean

If every form of a batch can be lowered, the unit holds for each name what the registry says after
the batch, so calls mean what the registry says. Running the batch then comes to an end if and only
if evaluating its expressions in order does, with the same values, the same errors and the same
calls of host functions (`Evaluator.runBatch_iff_meaning`).
-/
namespace Kaleidoscope

open Code Meaning

deriving instance DecidableEq for FormError, Report

/-- In a unit that is as the registry says, calls mean what the registry says. -/
theorem Lower.Stands.defines {state : Lowering} {standing : Standing} {sources : Sources}
    (stands : Lower.Stands state standing sources) (current : Check.Current standing) :
    standing.ledger.Defines standing.registry.statuses := by
  intro name used
  obtain ⟨id, source, known, member⟩ := stands.filed.used_iff.1 used
  obtain ⟨call, inside, rfl⟩ := List.mem_map.1 member
  have fits := (stands.filed.complete known).fits call inside
  obtain ⟨status, held, _⟩ := Option.map_eq_some_iff.1 fits
  rw [held]
  exact current _ _ held

namespace Meaning

variable {definitions : Definitions} {environment : Environment} {rounds : Nat}

/-- The errors of expressions belong to their forms, and come in order. -/
theorem errors_runAll {tasks : List Task} (ordered : tasks.Pairwise (·.index < ·.index)) :
    ∀ {calls last : Array HostCall} {report : Report},
      runAll definitions environment rounds calls tasks = some (report, last) →
      (∀ error ∈ report.errors, ∃ task ∈ tasks, error.index = some task.index) ∧
        report.errors.Pairwise fun first second => FormError.isOrdered first second = true := by
  induction tasks with
  | nil =>
    intro calls last report ends
    cases ends
    exact ⟨fun _ member => by contradiction, .nil⟩
  | cons task rest hypothesis =>
    intro calls last report ends
    obtain ⟨first, ordered⟩ := List.pairwise_cons.1 ordered
    rw [runAll, Option.bind_eq_bind, Option.bind_eq_some_iff] at ends
    obtain ⟨⟨result, middle⟩, _, ends⟩ := ends
    rw [Option.bind_eq_bind, Option.bind_eq_some_iff] at ends
    obtain ⟨⟨others, final⟩, ended, ends⟩ := ends
    obtain ⟨belong, sorted⟩ := hypothesis ordered ended
    have later : ∀ error ∈ others.errors, ∃ other ∈ task :: rest, error.index = some other.index := by
      intro error member
      obtain ⟨other, inside, same⟩ := belong error member
      exact ⟨other, List.mem_cons_of_mem _ inside, same⟩
    cases result with
    | ok value =>
      cases ends
      exact ⟨later, sorted⟩
    | error error =>
      cases ends
      refine ⟨fun failure member => ?_, List.pairwise_cons.2 ⟨fun failure member => ?_, sorted⟩⟩
      · rcases List.mem_cons.1 member with rfl | member
        · exact ⟨task, List.mem_cons_self, rfl⟩
        · exact later failure member
      · obtain ⟨other, inside, same⟩ := belong failure member
        simp only [FormError.isOrdered, same, decide_eq_true_eq]
        exact Nat.le_of_lt (first other inside)

end Meaning

namespace Check

/-- The expressions that forms run stand at their places, in order. -/
theorem tasks_ordered (forms : List Expr) : ∀ index : Nat,
    (∀ task ∈ tasks index forms, index ≤ task.index) ∧
      (tasks index forms).Pairwise (·.index < ·.index) := by
  induction forms with
  | nil => exact fun _ => ⟨fun _ member => by contradiction, .nil⟩
  | cons tree rest hypothesis =>
    intro index
    obtain ⟨later, ordered⟩ := hypothesis (index + 1)
    have own : ∀ task ∈ (task? index tree).toList, task.index = index := by
      intro task member
      obtain ⟨body, _, rfl⟩ := Option.map_eq_some_iff.1 (Option.mem_toList.1 member)
      rfl
    refine ⟨fun task member => ?_, List.pairwise_append.2 ⟨?_, ordered, fun task member other after => ?_⟩⟩
    · rcases List.mem_append.1 member with first | member
      · exact Nat.le_of_eq (own task first).symm
      · exact Nat.le_of_succ_le (later task member)
    · cases task? index tree with
      | none => exact .nil
      | some task => exact List.pairwise_singleton _ _
    · rw [own task member]
      exact later other after

end Check

namespace Evaluator

variable {evaluator : Evaluator} {forms : List Expr}

/-- All forms of a batch can be lowered. -/
def AllLower (evaluator : Evaluator) (forms : List Expr) : Prop :=
  (lowerForms evaluator.opened 0 forms).2.1 = []

section Lowered

variable (reachable : evaluator.Reachable) (areForms : ∀ form ∈ forms, form.IsForm)
  (allLower : evaluator.AllLower forms)
include reachable areForms allLower

/-- Forms that can all be lowered leave an open unit in which calls mean what the registry says, and
the expressions to run. -/
theorem stands_of_allLower : ∃ unit standing sources,
    (lowerForms evaluator.opened 0 forms).2.2.builder.unit = some unit ∧
      Lower.Stands (lowerForms evaluator.opened 0 forms).2.2 standing sources ∧
      standing.registry = evaluator.registry.enterAll forms ∧
      standing.ledger.Defines (evaluator.registry.enterAll forms).statuses ∧
      Lower.Runs sources (lowerForms evaluator.opened 0 forms).1 (Check.tasks 0 forms) := by
  have ready := reachable.ready
  obtain ⟨sources, stands, _, errors, runs⟩ :=
    Lower.stands_forms areForms 0 (stands_opened ready.registered)
  obtain ⟨unit, isOpen⟩ := stands.filed.sound.isOpen
  obtain ⟨tasks, current, registry⟩ := Check.current_forms areForms ⟨evaluator.registry, .empty⟩ 0
    ready.registered (fun _ _ known => by contradiction) (errors ▸ allLower)
  have defines := stands.defines current
  rw [registry] at defines
  rw [tasks] at runs
  exact ⟨unit, _, sources, isOpen, stands, registry, defines, runs⟩

/-- Without errors of lowering, a batch gives what its expressions give in turn. -/
theorem runBatch_of_allLower (execution : Execution) {unit : CodeUnit}
    (isOpen : (lowerForms evaluator.opened 0 forms).2.2.builder.unit = some unit) :
    ∃ listing, evaluator.runBatch execution forms =
      (unit.runAll execution evaluator.calls (lowerForms evaluator.opened 0 forms).1).map
        fun (report, calls) =>
          (⟨report.values, report.errors.mergeSort FormError.isOrdered⟩,
            ⟨evaluator.registry.enterAll forms, evaluator.units + 1, evaluator.keepListing, listing,
              (lowerForms evaluator.opened 0 forms).2.2.builder.dispose, calls⟩) := by
  obtain ⟨_, standing, _, _, stands, registry, _⟩ := stands_of_allLower reachable areForms allLower
  obtain ⟨listing, same⟩ := runBatch_eq execution reachable.ready areForms isOpen
  rw [AllLower] at allLower
  simp only [allLower, List.nil_append, stands.registry_eq, registry] at same
  exact ⟨listing, same⟩

variable {environment : Environment}

omit reachable areForms allLower in
/-- The errors of expressions in turn are sorted. -/
theorem mergeSort_runAll {definitions : Definitions} {rounds : Nat} {calls last : Array HostCall}
    {report : Report}
    (ends : Meaning.runAll definitions environment rounds calls (Check.tasks 0 forms) =
      some (report, last)) : report.errors.mergeSort FormError.isOrdered = report.errors :=
  List.mergeSort_of_pairwise (Meaning.errors_runAll (Check.tasks_ordered forms 0).2 ends).2

/-- What a batch gives within some steps, its expressions mean, given as many rounds. -/
theorem meaning_of_runBatch {steps rounds : Nat} {report : Report} {after : Evaluator}
    (done : evaluator.runBatch ⟨environment, steps⟩ forms = some (report, after))
    (enough : steps ≤ rounds) :
    Meaning.runAll (evaluator.registry.enterAll forms).statuses environment rounds evaluator.calls
      (Check.tasks 0 forms) = some (report, after.calls) := by
  obtain ⟨unit, _, _, isOpen, stands, _, defines, runs⟩ :=
    stands_of_allLower reachable areForms allLower
  obtain ⟨listing, same⟩ :=
    runBatch_of_allLower reachable areForms allLower ⟨environment, steps⟩ isOpen
  rw [same, Option.map_eq_some_iff] at done
  obtain ⟨⟨others, last⟩, halted, ended⟩ := done
  have ends := stands.filed.meaning_of_runAll isOpen defines runs enough halted
  simp only [mergeSort_runAll ends] at ended
  cases ended
  exact ends

/-- What the expressions of a batch mean, the batch gives, if its expressions have steps enough. -/
theorem runBatch_of_meaning {rounds : Nat} {report : Report} {calls : Array HostCall}
    (ends : Meaning.runAll (evaluator.registry.enterAll forms).statuses environment rounds
      evaluator.calls (Check.tasks 0 forms) = some (report, calls)) :
    ∃ fewest, ∀ steps, fewest ≤ steps → ∃ after,
      evaluator.runBatch ⟨environment, steps⟩ forms = some (report, after) ∧
        after.calls = calls := by
  obtain ⟨unit, _, _, isOpen, stands, _, defines, runs⟩ :=
    stands_of_allLower reachable areForms allLower
  obtain ⟨fewest, enough⟩ := stands.filed.runAll_of_meaning isOpen defines runs ends
  refine ⟨fewest, fun steps le => ?_⟩
  obtain ⟨listing, same⟩ :=
    runBatch_of_allLower reachable areForms allLower ⟨environment, steps⟩ isOpen
  simp only [enough steps le, Option.map_some, mergeSort_runAll ends] at same
  exact ⟨_, same, rfl⟩

/-- A batch leaves the registry of its forms behind. -/
theorem registry_of_runBatch {execution : Execution} {report : Report} {after : Evaluator}
    (done : evaluator.runBatch execution forms = some (report, after)) :
    after.registry = evaluator.registry.enterAll forms := by
  obtain ⟨unit, _, _, isOpen, _⟩ := stands_of_allLower reachable areForms allLower
  obtain ⟨listing, same⟩ := runBatch_of_allLower reachable areForms allLower execution isOpen
  rw [same, Option.map_eq_some_iff] at done
  obtain ⟨outcome, _, ended⟩ := done
  cases ended
  rfl

end Lowered

/-- What a batch gives, if all its forms can be lowered: what their expressions mean, according to
the registry that the forms leave behind. -/
theorem runBatch_iff_meaning (reachable : evaluator.Reachable)
    (areForms : ∀ form ∈ forms, form.IsForm) (allLower : evaluator.AllLower forms)
    (environment : Environment) :
    (∀ report calls,
      (∃ steps after, evaluator.runBatch ⟨environment, steps⟩ forms = some (report, after) ∧
        after.calls = calls) ↔
      ∃ rounds, Meaning.runAll (evaluator.registry.enterAll forms).statuses environment rounds
        evaluator.calls (Check.tasks 0 forms) = some (report, calls)) ∧
    ∀ steps report after, evaluator.runBatch ⟨environment, steps⟩ forms = some (report, after) →
      after.registry = evaluator.registry.enterAll forms := by
  refine ⟨fun report calls => ⟨?_, ?_⟩, fun steps report after done =>
    registry_of_runBatch reachable areForms allLower done⟩
  · rintro ⟨steps, after, done, rfl⟩
    exact ⟨steps, meaning_of_runBatch reachable areForms allLower done (Nat.le_refl steps)⟩
  · rintro ⟨rounds, ends⟩
    obtain ⟨fewest, enough⟩ := runBatch_of_meaning reachable areForms allLower ends
    obtain ⟨after, done, same⟩ := enough fewest (Nat.le_refl fewest)
    exact ⟨fewest, after, done, same⟩

/-- A batch with a definition that calls itself until its parameter is zero, and an expression that
calls it. -/
theorem runBatch_countdown :
    let span : Span := default
    let less : Expr := .binary ⟨.operator, "-", 1, span, some (.word "-")⟩ (.builtin .subtract)
      (.var "x" span) (.number 1 span) span
    let forms : List Expr :=
      [.function ⟨"f", ["x"], .function, span⟩ (.conditional (.var "x" span)
          (.call "f" [less] span) (.number 7 span) span) span,
        .anonymous (.call "f" [.number 2 span] span)]
    (Evaluator.new false []).Reachable ∧ (∀ form ∈ forms, form.IsForm) ∧
      (Evaluator.new false []).AllLower forms ∧
      ∃ steps after, (Evaluator.new false []).runBatch ⟨⟨.none, 4⟩, steps⟩ forms =
        some (⟨[7], []⟩, after) ∧ after.calls = #[] := by
  intro span less forms
  have ordinary : IsOrdinary "f" := isOrdinary_of_head? (by decide)
  have areForms : ∀ form ∈ forms, form.IsForm := by
    simp only [forms, List.forall_mem_cons, List.not_mem_nil, false_implies, implies_true, and_true]
    refine ⟨.definition span rfl ordinary ?_ ?_, Expr.isForm_anonymous ?_ ?_⟩ <;>
      simp [less, Expr.IsBody, Expr.AreBodies, Expr.CallsOrdinary, Expr.calls, Expr.callsOfAll,
        ordinary]
  have allLower : (Evaluator.new false []).AllLower forms :=
    List.isEmpty_iff.1 (by decide +kernel)
  have means : Meaning.runAll ((Evaluator.new false []).registry.enterAll forms).statuses ⟨.none, 4⟩
      0 #[] (Check.tasks 0 forms) = some (⟨[7], []⟩, #[]) := by decide +kernel
  exact ⟨.new false, areForms, allLower,
    ((runBatch_iff_meaning (.new false) areForms allLower ⟨.none, 4⟩).1 _ _).2 ⟨0, means⟩⟩

end Evaluator

end Kaleidoscope
