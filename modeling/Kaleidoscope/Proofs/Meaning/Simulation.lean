import Kaleidoscope.Proofs.Meaning.Evaluation

/-!
# Runs that follow evaluations

A run follows an evaluation (`Code.Simulates`) if it comes to a place with the same number, ends
with the same error after the same calls of host functions, or goes on for at least as many steps
as an unfinished evaluation had rounds. Since steps are determined, a run that follows every
evaluation, whatever the number of rounds, ends exactly if one of them does.
-/
namespace Kaleidoscope.Code

variable {environment : Environment} {unit : CodeUnit}

/-- A run of some number of steps. -/
inductive Steps (environment : Environment) (unit : CodeUnit) : Nat → State → State → Prop
  /-- No step. -/
  | refl (state : State) : Steps environment unit 0 state state
  /-- A step before others. -/
  | step {count : Nat} {first second third : State}
      (moved : first.step environment unit = .next second)
      (rest : Steps environment unit count second third) :
      Steps environment unit (count + 1) first third

namespace Steps

variable {first second third : State} {front back : Nat}

/-- One run after another. -/
theorem trans (early : Steps environment unit front first second)
    (late : Steps environment unit back second third) :
    Steps environment unit (front + back) first third := by
  induction early with
  | refl => rwa [Nat.zero_add]
  | @step count first middle second moved rest hypothesis =>
    rw [Nat.add_right_comm]
    exact .step moved (hypothesis late)

/-- Steps of a run are steps of iterating. -/
theorem iterate_eq (steps : Steps environment unit front first second) (more : Nat) :
    first.iterate environment unit (front + more) = second.iterate environment unit more := by
  induction steps with
  | refl => rw [Nat.zero_add]
  | @step count first middle second moved rest hypothesis =>
    rw [Nat.add_right_comm, State.iterate, moved]
    exact hypothesis

/-- A run that goes on does not end within fewer steps. -/
theorem iterate_eq_none (steps : Steps environment unit front first second) {fewer : Nat}
    (le : fewer ≤ front) : first.iterate environment unit fewer = none := by
  induction steps generalizing fewer with
  | refl =>
    obtain rfl := Nat.le_zero.1 le
    rfl
  | @step count first middle second moved rest hypothesis =>
    cases fewer with
    | zero => rfl
    | succ fewer =>
      rw [State.iterate, moved]
      exact hypothesis (Nat.le_of_succ_le_succ le)

end Steps

/-- A run from a state follows what an evaluation has come to, and something more holds where it
arrives with a number. -/
def Simulates {α : Type} (environment : Environment) (unit : CodeUnit) (bound : Nat) (state : State)
    (post : α → Store → State → Prop) : EStateM.Result Stop Store α → Prop
  | .ok value store => ∃ count after, Steps environment unit count state after ∧
      post value store after
  | .error (.error error) store => ∃ count last, Steps environment unit count state last ∧
      last.step environment unit = .done (.error error) store.calls
  | .error .unfinished _ => ∃ count last, bound ≤ count ∧ Steps environment unit count state last
  | .error .meaningless _ => False

namespace Simulates

variable {α β : Type} {bound : Nat} {state next : State} {store : Store}
  {post rest : α → Store → State → Prop} {target : β → Store → State → Prop}
  {result : EStateM.Result Stop Store α} {action : Evaluation α} {others : α → Evaluation β}

/-- Nothing has to be done. -/
theorem pure {value : α} (holds : post value store state) :
    Simulates environment unit bound state post ((Pure.pure value : Evaluation α) store) :=
  ⟨0, state, .refl state, holds⟩

/-- The next step ends the run with an error. -/
theorem error {error : CodeError}
    (failed : state.step environment unit = .done (.error error) store.calls) :
    Simulates environment unit bound state post (.error (.error error) store) :=
  ⟨0, state, .refl state, failed⟩

/-- A step before. -/
theorem step (moved : state.step environment unit = .next next)
    (simulates : Simulates environment unit bound next post result) :
    Simulates environment unit (bound + 1) state post result := by
  cases result with
  | ok value store =>
    obtain ⟨count, after, steps, holds⟩ := simulates
    exact ⟨count + 1, after, .step moved steps, holds⟩
  | error stop store =>
    cases stop with
    | error error =>
      obtain ⟨count, last, steps, failed⟩ := simulates
      exact ⟨count + 1, last, .step moved steps, failed⟩
    | unfinished =>
      obtain ⟨count, last, le, steps⟩ := simulates
      exact ⟨count + 1, last, Nat.succ_le_succ le, .step moved steps⟩
    | meaningless => exact simulates

/-- A run that goes on for longer goes on for as long. -/
theorem weaken {fewer : Nat} (simulates : Simulates environment unit bound state post result)
    (le : fewer ≤ bound) : Simulates environment unit fewer state post result := by
  cases result with
  | ok value store => exact simulates
  | error stop store =>
    cases stop with
    | unfinished =>
      obtain ⟨count, last, long, steps⟩ := simulates
      exact ⟨count, last, Nat.le_trans le long, steps⟩
    | _ => exact simulates

/-- What follows from what holds where the run arrives. -/
theorem imp (simulates : Simulates environment unit bound state post result)
    (follows : ∀ value store after, post value store after → rest value store after) :
    Simulates environment unit bound state rest result := by
  cases result with
  | ok value store =>
    obtain ⟨count, after, steps, holds⟩ := simulates
    exact ⟨count, after, steps, follows value store after holds⟩
  | error stop store => cases stop <;> exact simulates

/-- Steps before. -/
theorem steps {count : Nat} (before : Steps environment unit count state next)
    (simulates : Simulates environment unit bound next post result) :
    Simulates environment unit bound state post result := by
  cases result with
  | ok value store =>
    obtain ⟨more, after, steps, holds⟩ := simulates
    exact ⟨count + more, after, before.trans steps, holds⟩
  | error stop store =>
    cases stop with
    | error error =>
      obtain ⟨more, last, steps, failed⟩ := simulates
      exact ⟨count + more, last, before.trans steps, failed⟩
    | unfinished =>
      obtain ⟨more, last, le, steps⟩ := simulates
      exact ⟨count + more, last, Nat.le_trans le (Nat.le_add_left more count), before.trans steps⟩
    | meaningless => exact simulates

/-- Steps after. -/
theorem further (simulates : Simulates environment unit bound state post result)
    (goes : ∀ value store after, post value store after →
      ∃ count last, Steps environment unit count after last ∧ rest value store last) :
    Simulates environment unit bound state rest result := by
  cases result with
  | ok value store =>
    obtain ⟨count, after, steps, holds⟩ := simulates
    obtain ⟨more, last, late, arrived⟩ := goes value store after holds
    exact ⟨count + more, last, steps.trans late, arrived⟩
  | error stop store => cases stop <;> exact simulates

/-- One evaluation after another. -/
theorem bind (front : Simulates environment unit bound state post (action store))
    (back : ∀ value middle after, post value middle after →
      Simulates environment unit bound after target (others value middle)) :
    Simulates environment unit bound state target ((action >>= others) store) := by
  show Simulates environment unit bound state target (EStateM.bind action others store)
  unfold EStateM.bind
  cases done : action store with
  | ok value middle =>
    rw [done] at front
    obtain ⟨count, after, before, holds⟩ := front
    exact (back value middle after holds).steps before
  | error stop middle =>
    rw [done] at front
    cases stop <;> exact front

end Simulates

end Kaleidoscope.Code
