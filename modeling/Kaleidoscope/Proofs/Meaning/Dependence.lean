import Kaleidoscope.Proofs.Lowering.Succeeding
import Kaleidoscope.Proofs.Meaning.Evaluation

/-!
# What evaluations depend on

An expression means the same wherever the names that it calls mean the same, and so does every
definition that is called in turn (`Meaning.callWithin_congr`). Names that an evaluation never
reaches can mean anything. So the expressions of a batch may be evaluated as if there were no other
names, and one part of them after the other (`Meaning.runAll_congr`, `Meaning.runAll_append`).
-/
namespace Kaleidoscope

namespace FormError

/-- An error whose form stands some places later. -/
def shift (count : Nat) (error : FormError) : FormError :=
  { error with index := error.index.map (· + count) }

end FormError

namespace Report

/-- What one batch gives and then another. -/
def append (first second : Report) : Report :=
  ⟨first.values ++ second.values, first.errors ++ second.errors⟩

/-- What a batch gives whose forms stand some places later. -/
def shift (count : Nat) (report : Report) : Report :=
  { report with errors := report.errors.map (·.shift count) }

end Report

namespace Task

/-- An expression some places later. -/
def shift (count : Nat) (task : Task) : Task := { task with index := task.index + count }

end Task

namespace Check

/-- The expressions of forms come one list after the other. -/
theorem tasks_append (front back : List Expr) : ∀ index : Nat,
    tasks index (front ++ back) = tasks index front ++ tasks (index + front.length) back := by
  induction front with
  | nil => exact fun _ => rfl
  | cons tree rest hypothesis =>
    intro index
    rw [List.cons_append, tasks, tasks, hypothesis, List.append_assoc, List.length_cons,
      Nat.add_assoc, Nat.add_comm 1]

/-- The expressions of forms that stand some places later. -/
theorem tasks_shift (count : Nat) (trees : List Expr) : ∀ index : Nat,
    tasks (index + count) trees = (tasks index trees).map (·.shift count) := by
  induction trees with
  | nil => exact fun _ => rfl
  | cons tree rest hypothesis =>
    intro index
    have place : index + count + 1 = index + 1 + count := Nat.add_right_comm ..
    rw [tasks, tasks, place, hypothesis, List.map_append]
    congr 1
    unfold task?
    cases tree.job? <;> rfl

end Check

namespace Meaning

section Calls

variable {first second : String → List Float → Evaluation Float} (rounds : Nat)

mutual

/-- An expression means the same wherever the names that it calls mean the same. -/
theorem evaluate_congr : ∀ tree : Expr, (∀ call ∈ tree.calls, first call.1 = second call.1) →
    evaluate first rounds tree = evaluate second rounds tree
  | .number _ _, _ | .var _ _, _ | .prototype _, _ | .function _ _ _, _ | .declaration _ _, _ => by
    simp only [evaluate]
  | .binary _ .assign left right _, same => by
    cases left with
    | var name place => rw [evaluate, evaluate, evaluate_congr right same]
    | _ => simp only [evaluate]
  | .binary _ (.user name) left right _, same => by
    simp only [Expr.calls, List.forall_mem_cons, List.forall_mem_append] at same
    rw [evaluate, evaluate, evaluate_congr left same.2.1, evaluate_congr right same.2.2, same.1]
  | .binary _ (.builtin operator) left right _, same => by
    simp only [Expr.calls, List.forall_mem_append] at same
    rw [evaluate, evaluate, evaluate_congr left same.1, evaluate_congr right same.2]
  | .unary operator operand _, same => by
    simp only [Expr.calls, List.forall_mem_cons] at same
    rw [evaluate, evaluate, evaluate_congr operand same.2, same.1]
  | .call name arguments _, same => by
    simp only [Expr.calls, List.forall_mem_cons] at same
    rw [evaluate, evaluate, evaluateAll_congr arguments same.2, same.1]
  | .conditional condition consequent alternative _, same => by
    simp only [Expr.calls, List.forall_mem_append] at same
    rw [evaluate, evaluate, evaluate_congr condition same.1, evaluate_congr consequent same.2.1,
      evaluate_congr alternative same.2.2]
  | .loop counter start limit step body _, same => by
    simp only [Expr.calls, List.forall_mem_append] at same
    rw [evaluate, evaluate, evaluate_congr start same.1, evaluate_congr body same.2.1,
      evaluateOptional_congr 1 step same.2.2.1, evaluate_congr limit same.2.2.2]
  | .binding name initializer body _, same => by
    simp only [Expr.calls, List.forall_mem_append] at same
    rw [evaluate, evaluate, evaluateOptional_congr 0 initializer same.1, evaluate_congr body same.2]

/-- Arguments mean the same wherever the names that they call mean the same. -/
theorem evaluateAll_congr : ∀ trees : List Expr,
    (∀ call ∈ Expr.callsOfAll trees, first call.1 = second call.1) →
    evaluateAll first rounds trees = evaluateAll second rounds trees
  | [], _ => by simp only [evaluateAll]
  | tree :: rest, same => by
    simp only [Expr.callsOfAll, List.forall_mem_append] at same
    rw [evaluateAll, evaluateAll, evaluate_congr tree same.1, evaluateAll_congr rest same.2]

/-- An expression that may be left out means the same wherever the names that it calls mean the
same. -/
theorem evaluateOptional_congr (absent : Float) : ∀ tree : Option Expr,
    (∀ call ∈ Expr.callsOfOptional tree, first call.1 = second call.1) →
    evaluateOptional first rounds absent tree = evaluateOptional second rounds absent tree
  | none, _ => by simp only [evaluateOptional]
  | some tree, same => by
    rw [evaluateOptional, evaluateOptional, evaluate_congr tree same]

end

end Calls

section Definitions

variable {first second : Definitions} {inner : String → Prop}

/-- Some names mean the same in two ways of reading names, and their definitions call no others. -/
structure Agrees (first second : Definitions) (inner : String → Prop) : Prop where
  /-- The names mean the same. -/
  same : ∀ {name : String}, inner name → first name = second name
  /-- Their definitions call no other names. -/
  closed : ∀ {name : String} {arity : Nat} {parameters : List String} {body : Expr}, inner name →
    first name = some ⟨arity, some (parameters, body)⟩ → ∀ call ∈ body.calls, inner call.1

variable (agrees : Agrees first second inner) (environment : Code.Environment) (rounds : Nat)
include agrees

/-- A name is called in the same way, however many frames may be open. -/
theorem callWithin_congr (frames : Nat) : ∀ {name : String}, inner name →
    callWithin first environment rounds frames name =
      callWithin second environment rounds frames name := by
  induction frames with
  | zero =>
    intro name inside
    funext values
    rw [callWithin, callWithin, agrees.same inside]
  | succ frames hypothesis =>
    intro name inside
    funext values
    rw [callWithin, callWithin, ← agrees.same inside]
    cases defined : first name with
    | none => rfl
    | some status =>
      obtain ⟨arity, source⟩ := status
      cases source with
      | none => rfl
      | some source =>
        obtain ⟨parameters, body⟩ := source
        have same := evaluate_congr rounds body fun call member =>
          hypothesis (agrees.closed inside defined call member)
        simp only [same]

/-- An expression to run gives the same, if it calls no other names. -/
theorem run_congr (calls : Array HostCall) {body : Expr}
    (inside : ∀ call ∈ body.calls, inner call.1) :
    run first environment rounds calls body = run second environment rounds calls body := by
  rw [run, run, evaluate_congr rounds body fun call member =>
    callWithin_congr agrees environment rounds _ (inside call member)]

/-- Expressions to run give the same, if they call no other names. -/
theorem runAll_congr {tasks : List Task}
    (inside : ∀ task ∈ tasks, ∀ call ∈ task.body.calls, inner call.1) :
    ∀ calls : Array HostCall,
      runAll first environment rounds calls tasks = runAll second environment rounds calls tasks := by
  induction tasks with
  | nil => exact fun _ => rfl
  | cons task rest hypothesis =>
    intro calls
    have others := hypothesis fun task member => inside task (List.mem_cons_of_mem _ member)
    rw [runAll, runAll, run_congr agrees environment rounds calls (inside task List.mem_cons_self)]
    simp only [others]

end Definitions

section Sequences

variable (definitions : Definitions) (environment : Code.Environment) (rounds : Nat)

/-- Expressions are evaluated one list after the other. -/
theorem runAll_append (front back : List Task) : ∀ calls : Array HostCall,
    runAll definitions environment rounds calls (front ++ back) = (do
      let (early, middle) ← runAll definitions environment rounds calls front
      let (late, last) ← runAll definitions environment rounds middle back
      return (early.append late, last)) := by
  induction front with
  | nil =>
    intro calls
    rw [List.nil_append, runAll]
    simp only [Option.bind_eq_bind, Option.bind_some]
    cases runAll definitions environment rounds calls back <;> rfl
  | cons task rest hypothesis =>
    intro calls
    rw [List.cons_append, runAll, runAll]
    simp only [hypothesis, Option.bind_eq_bind]
    cases run definitions environment rounds calls task.body with
    | none => rfl
    | some outcome =>
      simp only [Option.bind_some]
      cases runAll definitions environment rounds outcome.2 rest with
      | none => rfl
      | some early =>
        simp only [Option.bind_some]
        cases outcome.1 <;> simp only [Option.bind_some] <;>
          cases runAll definitions environment rounds early.2 back <;> rfl

/-- Expressions at later places give the same, with errors at later places. -/
theorem runAll_shift (count : Nat) (tasks : List Task) : ∀ calls : Array HostCall,
    runAll definitions environment rounds calls (tasks.map (·.shift count)) =
      (runAll definitions environment rounds calls tasks).map
        fun (report, last) => (report.shift count, last) := by
  induction tasks with
  | nil => exact fun _ => rfl
  | cons task rest hypothesis =>
    intro calls
    rw [List.map_cons, runAll, runAll]
    simp only [hypothesis, Option.bind_eq_bind]
    show (run definitions environment rounds calls task.body).bind _ = _
    cases run definitions environment rounds calls task.body with
    | none => rfl
    | some outcome =>
      simp only [Option.bind_some]
      cases runAll definitions environment rounds outcome.2 rest with
      | none => rfl
      | some later => cases outcome.1 <;> rfl

/-- The expressions of forms are evaluated one list of forms after the other; errors behind belong to
later places. -/
theorem runAll_tasks_append {front back : List Expr} {calls last : Array HostCall} {report : Report} :
    runAll definitions environment rounds calls (Check.tasks 0 (front ++ back)) =
        some (report, last) ↔
      ∃ early middle late,
        runAll definitions environment rounds calls (Check.tasks 0 front) = some (early, middle) ∧
        runAll definitions environment rounds middle (Check.tasks 0 back) = some (late, last) ∧
        report = early.append (late.shift front.length) := by
  rw [Check.tasks_append, Check.tasks_shift, runAll_append]
  simp only [runAll_shift, Option.bind_eq_bind, Option.bind_eq_some_iff, Option.map_eq_some_iff]
  constructor
  · rintro ⟨⟨early, middle⟩, first, ⟨_, _⟩, ⟨⟨late, final⟩, second, same⟩, all⟩
    cases same
    cases all
    exact ⟨early, middle, late, first, second, rfl⟩
  · rintro ⟨early, middle, late, first, second, rfl⟩
    exact ⟨⟨early, middle⟩, first, ⟨_, last⟩, ⟨⟨late, last⟩, second, rfl⟩, rfl⟩

end Sequences

end Meaning

end Kaleidoscope
