import Kaleidoscope.Proofs.Batch.Reachable

/-!
# The units of batches

Whatever forms a batch has and whichever of them fail, its unit is well formed once they have been
lowered, so it can be completed, and its expressions can be run without ever meeting something that
is not there (`Evaluator.builds_of_reachable`).
-/
namespace Kaleidoscope.Evaluator

open Code

/-- The unit of a batch is fit for running. -/
structure Builds (evaluator : Evaluator) (forms : List Expr) (builder : Builder) (jobs : List Job)
    (errors : List FormError) (lowering : Lowering) (unit : CodeUnit) : Prop where
  /-- A unit is opened. -/
  opens : Build.beginUnit ("unit." ++ Nat.repr (evaluator.units + 1)) evaluator.builder =
    .ok ⟨⟩ builder
  /-- The forms are lowered into it. -/
  lowers : lowerForms ⟨builder, evaluator.registry, 0⟩ 0 forms = (jobs, errors, lowering)
  /-- It is open still. -/
  isOpen : lowering.builder.unit = some unit
  /-- All its routines with a body are well formed. -/
  wellFormed : unit.WellFormed
  /-- It can be completed. -/
  finishes : Build.finishUnit lowering.builder = .ok ⟨⟩ lowering.builder
  /-- Expressions fail only for want of a host function or of a frame. -/
  fails : ∀ job ∈ jobs, ∀ (execution : Execution) (calls : Array HostCall) (error : CodeError)
    (after : Evaluator),
    execute execution { evaluator with builder := lowering.builder, calls := calls } job.routine =
      some (.error error, after) → State.IsExpected error
  /-- Whenever a run of an expression reads an operand, that has been set. -/
  reads : ∀ job ∈ jobs, ∀ (environment : Environment) (calls : Array HostCall) (state : State)
    (written : Written), State.Recorded environment unit calls job.routine state written →
    ∀ operand ∈ state.reads unit, state.top.Holds written.top operand

/-- The unit of every batch of forms is fit for running, whichever of the forms fail. -/
theorem builds_of_reachable {evaluator : Evaluator} (reachable : evaluator.Reachable)
    {forms : List Expr} (areForms : ∀ form ∈ forms, form.IsForm) :
    ∃ builder jobs errors lowering unit,
      Builds evaluator forms builder jobs errors lowering unit := by
  have ready := reachable.ready
  obtain ⟨sources, stands, _, _, runs⟩ :=
    Lower.stands_forms areForms 0 (stands_opened ready.registered)
  obtain ⟨unit, isOpen⟩ := stands.filed.sound.isOpen
  have wellFormed : unit.WellFormed := stands.filed.wellFormed isOpen
  refine ⟨_, _, _, _, unit, beginUnit_eq ready, rfl, isOpen, wellFormed,
    stands.filed.finishUnit_eq, ?_, ?_⟩
  · intro job member execution calls error after failed
    obtain ⟨body, known⟩ := runs.exists_body member
    obtain ⟨routine, found, _, _, count, _⟩ := stands.filed.held known
    rw [Builder.routine?, isOpen, Option.bind_some] at found
    rw [execute_eq stands.filed.sound.faultless isOpen, Option.map_eq_some_iff] at failed
    obtain ⟨⟨result, final⟩, ended, same⟩ := failed
    cases same
    exact expected_of_run wellFormed found (List.length_eq_zero_iff.1 count) ended
  · intro job member environment calls state written recorded operand read
    exact recorded.holds_of_reads wellFormed read

/-- A batch with a definition that calls itself, an expression that calls it, and one that cannot
be lowered. -/
theorem builds_recursion :
    let span : Span := default
    let forms : List Expr :=
      [.function ⟨"f", ["x"], .function, span⟩ (.call "f" [.var "x" span] span) span,
        .anonymous (.conditional (.number 1 span) (.call "f" [.number 2 span] span)
          (.number 3 span) span),
        .anonymous (.call "g" [] span)]
    (Evaluator.new false []).Reachable ∧ (∀ form ∈ forms, form.IsForm) ∧
      ∃ builder jobs errors lowering unit,
        Builds (.new false []) forms builder jobs errors lowering unit := by
  intro span forms
  have areForms : ∀ form ∈ forms, form.IsForm := by
    have ordinary : IsOrdinary "f" ∧ IsOrdinary "g" :=
      ⟨isOrdinary_of_head? (by decide), isOrdinary_of_head? (by decide)⟩
    simp only [forms, List.forall_mem_cons, List.not_mem_nil, false_implies, implies_true, and_true]
    refine ⟨.definition span rfl ordinary.1 ?_ ?_, Expr.isForm_anonymous ?_ ?_,
      Expr.isForm_anonymous ?_ ?_⟩ <;>
      simp [Expr.IsBody, Expr.AreBodies, Expr.CallsOrdinary, Expr.calls, Expr.callsOfAll, ordinary]
  exact ⟨.new false, areForms, builds_of_reachable (.new false) areForms⟩

end Kaleidoscope.Evaluator
