import Kaleidoscope.Proofs.Batch.Reachable
import Kaleidoscope.Proofs.Meaning.Calls

/-!
# Runs and evaluations give the same

A run that follows an evaluation for every number of rounds ends if and only if the evaluation does,
with the same result after the same calls of host functions. For the expressions of a batch this
means that running their code (`CodeUnit.runAll`) and evaluating them (`Meaning.runAll`) give the
same.
-/
namespace Kaleidoscope

open Code Meaning

namespace Code

variable {environment : Environment} {unit : CodeUnit} {state : State}
  {outcome : Except CodeError Float × Array HostCall}

/-- An evaluation that gives something is followed to the end. -/
theorem Simulates.iterate_of_outcome {rounds : Nat} {result : EStateM.Result Stop Store Float}
    (simulates : Simulates environment unit rounds state
      (fun value store last => last.step environment unit = .done (.ok value) store.calls) result)
    (ends : outcome? result = some outcome) :
    ∃ steps, state.iterate environment unit steps = some outcome := by
  cases result with
  | ok value store =>
    obtain ⟨count, last, steps, done⟩ := simulates
    refine ⟨count + 1, ?_⟩
    rw [steps.iterate_eq, State.iterate, done]
    exact ends
  | error stop store =>
    cases stop with
    | error error =>
      obtain ⟨count, last, steps, done⟩ := simulates
      refine ⟨count + 1, ?_⟩
      rw [steps.iterate_eq, State.iterate, done]
      exact ends
    | _ => contradiction

/-- A run that ends follows an evaluation that gives something, given rounds enough. -/
theorem Simulates.outcome_of_iterate {steps rounds : Nat}
    {result : EStateM.Result Stop Store Float}
    (simulates : Simulates environment unit rounds state
      (fun value store last => last.step environment unit = .done (.ok value) store.calls) result)
    (halted : state.iterate environment unit steps = some outcome) (enough : steps ≤ rounds) :
    outcome? result = some outcome := by
  have ended : ∃ other, outcome? result = some other := by
    cases result with
    | ok value store => exact ⟨_, rfl⟩
    | error stop store =>
      cases stop with
      | error error => exact ⟨_, rfl⟩
      | unfinished =>
        obtain ⟨count, last, long, goes⟩ := simulates
        rw [goes.iterate_eq_none (Nat.le_trans enough long)] at halted
        contradiction
      | meaningless => exact simulates.elim
  obtain ⟨other, ends⟩ := ended
  obtain ⟨more, same⟩ := simulates.iterate_of_outcome ends
  have first := State.iterate_mono (Nat.le_max_left steps more) halted
  have second := State.iterate_mono (Nat.le_max_right steps more) same
  rw [ends, ← second, first]

end Code

/-- A run that ends within some steps gives the same with more of them. -/
theorem CodeUnit.run_mono {environment : Environment} {unit : CodeUnit} {fewer more id : Nat}
    {calls : Array HostCall} {outcome : Except CodeError Float × Array HostCall}
    (enough : fewer ≤ more) (ended : unit.run environment fewer calls id = some outcome) :
    unit.run environment more calls id = some outcome := by
  rw [CodeUnit.run] at ended ⊢
  cases begun : unit.launch environment calls id with
  | next state =>
    rw [begun] at ended
    exact State.iterate_mono enough ended
  | done result after =>
    rw [begun] at ended
    exact ended

namespace Builder.Filed

variable {builder : Builder} {ledger : Ledger} {sources : Sources} {unit : CodeUnit}
  {environment : Environment} {definitions : Definitions}

section Single

variable {id : Nat} {body : Expr} {calls : Array HostCall}
  {outcome : Except CodeError Float × Array HostCall}
  (filed : builder.Filed ledger sources) (isOpen : builder.unit = some unit)
  (defines : ledger.Defines definitions) (known : sources id = some ([], body))
include filed isOpen defines known

/-- What evaluating an expression gives, running its code gives. -/
theorem run_of_meaning {rounds : Nat}
    (ends : Meaning.run definitions environment rounds calls body = some outcome) :
    ∃ steps, unit.run environment steps calls id = some outcome := by
  obtain ⟨state, begun, follows⟩ := filed.follows_run isOpen defines
    known calls
  obtain ⟨steps, ended⟩ := (follows rounds).iterate_of_outcome ends
  exact ⟨steps, by rw [CodeUnit.run, begun]; exact ended⟩

/-- What running the code of an expression gives, evaluating the expression gives. -/
theorem meaning_of_run {steps rounds : Nat}
    (ended : unit.run environment steps calls id = some outcome) (enough : steps ≤ rounds) :
    Meaning.run definitions environment rounds calls body = some outcome := by
  obtain ⟨state, begun, follows⟩ := filed.follows_run isOpen defines
    known calls
  rw [CodeUnit.run, begun] at ended
  exact (follows rounds).outcome_of_iterate ended enough

end Single

section All

variable {jobs : List Job} {tasks : List Task}
  (filed : builder.Filed ledger sources) (isOpen : builder.unit = some unit)
  (defines : ledger.Defines definitions) (runs : Lower.Runs sources jobs tasks)
include filed isOpen defines runs

/-- What running the code of expressions in order gives, evaluating them gives. -/
theorem meaning_of_runAll {steps rounds : Nat} (enough : steps ≤ rounds) :
    ∀ {calls : Array HostCall} {outcome : Report × Array HostCall},
      unit.runAll ⟨environment, steps⟩ calls jobs = some outcome →
      Meaning.runAll definitions environment rounds calls tasks = some outcome := by
  induction runs with
  | nil => exact fun ended => ended
  | @cons job task jobs tasks first rest hypothesis =>
    intro calls outcome ended
    obtain ⟨index, span, known⟩ := first
    rw [CodeUnit.runAll, Option.bind_eq_bind, Option.bind_eq_some_iff] at ended
    obtain ⟨⟨result, middle⟩, ended, others⟩ := ended
    simp only [Option.bind_eq_bind, Option.bind_eq_some_iff] at others
    obtain ⟨⟨report, last⟩, others, total⟩ := others
    rw [Meaning.runAll, filed.meaning_of_run isOpen defines known ended enough]
    simp only [Option.bind_eq_bind, Option.bind_some, hypothesis others]
    rw [← index, ← span]
    exact total

/-- What evaluating expressions in order gives, running their code gives. -/
theorem runAll_of_meaning {rounds : Nat} :
    ∀ {calls : Array HostCall} {outcome : Report × Array HostCall},
      Meaning.runAll definitions environment rounds calls tasks = some outcome →
      ∃ fewest, ∀ steps, fewest ≤ steps →
        unit.runAll ⟨environment, steps⟩ calls jobs = some outcome := by
  induction runs with
  | nil => exact fun ends => ⟨0, fun _ _ => ends⟩
  | @cons job task jobs tasks first rest hypothesis =>
    intro calls outcome ends
    obtain ⟨index, span, known⟩ := first
    rw [Meaning.runAll, Option.bind_eq_bind, Option.bind_eq_some_iff] at ends
    obtain ⟨⟨result, middle⟩, ends, others⟩ := ends
    simp only [Option.bind_eq_bind, Option.bind_eq_some_iff] at others
    obtain ⟨⟨report, last⟩, others, total⟩ := others
    obtain ⟨one, ended⟩ := filed.run_of_meaning isOpen defines known ends
    obtain ⟨more, later⟩ := hypothesis others
    refine ⟨max one more, fun steps enough => ?_⟩
    have same := CodeUnit.run_mono (Nat.le_trans (Nat.le_max_left one more) enough) ended
    rw [CodeUnit.runAll, same]
    simp only [Option.bind_eq_bind, Option.bind_some, later steps (Nat.le_trans (Nat.le_max_right one more) enough)]
    rw [index, span]
    exact total

end All

end Builder.Filed

end Kaleidoscope
