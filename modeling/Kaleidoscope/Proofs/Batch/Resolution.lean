import Kaleidoscope.Proofs.Batch.Preservation

/-!
# When no definition is missing

A name that has a definition can be unresolved all the same: a form that fails may leave behind the
code of another form, which was lowered for its sake and calls what has been undone with it. Where
every form of a batch can be lowered, this does not happen. Expressions then fail only where too many
frames would be open, or where a name is called that is declared, not defined, and not one of the
host's functions (`Evaluator.explained_of_allLower`), so an unresolved name has no definition
(`Evaluator.unresolved_of_allLower`).
-/
namespace Kaleidoscope

open Code Meaning

namespace Meaning

section Explanations

variable (definitions : Definitions) (environment : Environment)

/-- Why an evaluation ends with an error. -/
inductive IsExplained : CodeError → Prop
  /-- Too many frames would be open. -/
  | frames : IsExplained (.callDepthExceeded environment.limit)
  /-- A name is only declared, and the host has no such function. -/
  | missing {name : String} {arity : Nat} (declared : definitions name = some ⟨arity, none⟩)
      (unknown : environment.host.find? name arity = none) : IsExplained (.unresolvedSymbol name)

/-- An evaluation ends with no other errors. -/
def Explains {α : Type} (action : Evaluation α) : Prop :=
  ∀ store error last, action store = .error (.error error) last →
    IsExplained definitions environment error

end Explanations

variable {definitions : Definitions} {environment : Environment} {α β : Type}

namespace Explains

variable {first : Evaluation α}

/-- Yielding a value. -/
theorem pure (value : α) :
    Explains definitions environment (Pure.pure value : Evaluation α) := by
  intro store error last same
  cases same

/-- Stopping without an error. -/
theorem throw {stop : Stop}
    (explained : ∀ error, stop = .error error → IsExplained definitions environment error) :
    Explains definitions environment (throw stop : Evaluation α) := by
  intro store error last same
  cases same
  exact explained error rfl

/-- One evaluation after another. -/
theorem bind {next : α → Evaluation β} (front : Explains definitions environment first)
    (back : ∀ value, Explains definitions environment (next value)) :
    Explains definitions environment (first >>= next) := by
  intro store error last same
  simp only [Bind.bind, EStateM.bind] at same
  cases ran : first store with
  | ok value middle =>
    rw [ran] at same
    exact back value middle error last same
  | error stop middle =>
    rw [ran] at same
    cases same
    exact front store error last ran

/-- Looking at the store. -/
theorem get {next : Store → Evaluation β}
    (back : ∀ store, Explains definitions environment (next store)) :
    Explains definitions environment (do next (← get)) :=
  fun store => back store store

/-- Changing the store. -/
theorem modify (change : Store → Store) :
    Explains definitions environment (modify change : Evaluation PUnit) := by
  intro store error last same
  cases same

end Explains

/-- Reading a variable ends with no error. -/
theorem explains_read (name : String) : Explains definitions environment (read name) := by
  refine .get fun store => ?_
  cases store.numbers.lookup? name with
  | some value => exact .pure value
  | none => exact .throw fun _ same => by cases same

/-- A further variable adds no error. -/
theorem explains_within {action : Evaluation α} (explains : Explains definitions environment action)
    (name : String) (value : Float) :
    Explains definitions environment (within name value action) :=
  .bind (.modify _) fun _ => .bind explains fun _ => .bind (.modify _) fun _ => .pure _

/-- Repeating a round adds no error. -/
theorem explains_repeated {round : Evaluation Bool}
    (explains : Explains definitions environment round) (rounds : Nat) :
    Explains definitions environment (repeated round rounds) := by
  induction rounds with
  | zero => exact .throw fun _ same => by cases same
  | succ rounds hypothesis =>
    refine .bind explains fun more => ?_
    cases more with
    | true => exact hypothesis
    | false => exact .pure _

/-- Calling a function of the host fails if the host does not have it. -/
theorem explains_callHost {name : String} {arity : Nat}
    (declared : definitions name = some ⟨arity, none⟩) (values : List Float) :
    Explains definitions environment (callHost environment.host name arity values) := by
  refine .get fun store => ?_
  simp only
  cases known : environment.host.find? name arity with
  | some function => exact .bind (.modify _) fun _ => .pure _
  | none =>
    refine .throw fun error same => ?_
    cases same
    exact .missing declared known

section Rules

variable {call : String → List Float → Evaluation Float} (rounds : Nat)

mutual

/-- Evaluating an expression ends with no other errors than its calls. -/
theorem explains_evaluate
    (calls : ∀ name values, Explains definitions environment (call name values)) : ∀ tree : Expr,
    Explains definitions environment (evaluate call rounds tree)
  | .number value _ => by
    rw [evaluate]
    exact .pure value
  | .var name _ => by
    rw [evaluate]
    exact explains_read name
  | .binary _ .assign left right _ => by
    cases left with
    | var name place =>
      rw [evaluate]
      exact .bind (explains_evaluate calls right) fun _ => .bind (.modify _) fun _ => .pure _
    | _ => exact .throw fun _ same => by cases same
  | .binary _ (.user name) left right _ => by
    rw [evaluate]
    exact .bind (explains_evaluate calls left) fun _ => .bind (explains_evaluate calls right) fun _ => calls _ _
  | .binary _ (.builtin operator) left right _ => by
    rw [evaluate]
    exact .bind (explains_evaluate calls left) fun _ => .bind (explains_evaluate calls right) fun _ => .pure _
  | .unary operator operand _ => by
    rw [evaluate]
    exact .bind (explains_evaluate calls operand) fun _ => calls _ _
  | .call name arguments _ => by
    rw [evaluate]
    exact .bind (explains_evaluateAll calls arguments) fun _ => calls _ _
  | .conditional condition consequent alternative _ => by
    rw [evaluate]
    refine .bind (explains_evaluate calls condition) fun chosen => ?_
    split
    · exact explains_evaluate calls consequent
    · exact explains_evaluate calls alternative
  | .loop counter start limit step body _ => by
    rw [evaluate]
    refine .bind (explains_evaluate calls start) fun _ => .bind (explains_within ?_ _ _) fun _ => .pure _
    refine explains_repeated (.bind (explains_evaluate calls body) fun _ =>
      .bind (explains_read counter) fun _ => .bind (explains_evaluateOptional calls 1 step) fun _ =>
        .bind (.modify _) fun _ => .bind (explains_evaluate calls limit) fun _ => .pure _) rounds
  | .binding name initializer body _ => by
    rw [evaluate]
    exact .bind (explains_evaluateOptional calls 0 initializer) fun _ =>
      explains_within (explains_evaluate calls body) _ _
  | .prototype _ | .function _ _ _ | .declaration _ _ => by
    rw [evaluate]
    exact .throw fun _ same => by cases same

/-- Evaluating arguments ends with no other errors than their calls. -/
theorem explains_evaluateAll
    (calls : ∀ name values, Explains definitions environment (call name values)) :
    ∀ trees : List Expr, Explains definitions environment (evaluateAll call rounds trees)
  | [] => by
    rw [evaluateAll]
    exact .pure _
  | tree :: rest => by
    rw [evaluateAll]
    exact .bind (explains_evaluate calls tree) fun _ => .bind (explains_evaluateAll calls rest) fun _ => .pure _

/-- Evaluating an expression that may be left out ends with no other errors than its calls. -/
theorem explains_evaluateOptional
    (calls : ∀ name values, Explains definitions environment (call name values)) (absent : Float) :
    ∀ tree : Option Expr, Explains definitions environment (evaluateOptional call rounds absent tree)
  | none => by
    rw [evaluateOptional]
    exact .pure _
  | some tree => by
    rw [evaluateOptional]
    exact explains_evaluate calls tree

end

end Rules

/-- A frame of its own adds no error. -/
theorem explains_inFrame {body : Evaluation Float} (explains : Explains definitions environment body)
    (parameters : List String) (values : List Float) :
    Explains definitions environment (inFrame parameters values body) :=
  .get fun _ => .bind (.modify _) fun _ => .bind explains fun _ => .bind (.modify _) fun _ => .pure _

/-- Calls end with no other errors, however many frames may be open. -/
theorem explains_callWithin (rounds frames : Nat) : ∀ (name : String) (values : List Float),
    Explains definitions environment
      (callWithin definitions environment rounds frames name values) := by
  induction frames with
  | zero =>
    intro name values
    rw [callWithin]
    cases defined : definitions name with
    | none => exact .throw fun _ same => by cases same
    | some status =>
      obtain ⟨arity, _ | ⟨parameters, body⟩⟩ := status
      · exact explains_callHost defined values
      · refine .throw fun error same => ?_
        cases same
        exact .frames
  | succ frames hypothesis =>
    intro name values
    rw [callWithin]
    cases defined : definitions name with
    | none => exact .throw fun _ same => by cases same
    | some status =>
      obtain ⟨arity, _ | ⟨parameters, body⟩⟩ := status
      · exact explains_callHost defined values
      · exact explains_inFrame (explains_evaluate rounds hypothesis body) parameters values

variable {rounds : Nat}

/-- An expression to run ends with no other errors. -/
theorem explained_of_run {calls last : Array HostCall} {body : Expr} {error : CodeError}
    (ends : run definitions environment rounds calls body = some (.error error, last)) :
    IsExplained definitions environment error := by
  have explains : Explains definitions environment
      (evaluate (callWithin definitions environment rounds (environment.limit - 1)) rounds body) :=
    explains_evaluate rounds (explains_callWithin rounds _) body
  unfold run at ends
  cases ran : evaluate (callWithin definitions environment rounds (environment.limit - 1)) rounds body
      ⟨.empty, calls⟩ with
  | ok value store =>
    rw [ran] at ends
    cases ends
  | error stop store =>
    rw [ran] at ends
    cases stop with
    | error cause =>
      cases ends
      exact explains _ _ _ ran
    | _ => contradiction

/-- Expressions to run end with no other errors. -/
theorem explained_of_runAll {tasks : List Task} : ∀ {calls last : Array HostCall} {report : Report},
    runAll definitions environment rounds calls tasks = some (report, last) →
    ∀ error ∈ report.errors, ∃ cause, error.error = .code cause ∧
      IsExplained definitions environment cause := by
  induction tasks with
  | nil =>
    intro calls last report ends error member
    cases ends
    contradiction
  | cons task rest hypothesis =>
    intro calls last report ends
    rw [runAll, Option.bind_eq_bind, Option.bind_eq_some_iff] at ends
    obtain ⟨⟨result, middle⟩, first, ends⟩ := ends
    rw [Option.bind_eq_bind, Option.bind_eq_some_iff] at ends
    obtain ⟨⟨others, final⟩, ended, ends⟩ := ends
    cases result with
    | ok value =>
      cases ends
      exact fun error member => hypothesis ended error member
    | error cause =>
      cases ends
      intro error member
      rcases List.mem_cons.1 member with rfl | member
      · exact ⟨cause, rfl, explained_of_run first⟩
      · exact hypothesis ended error member

end Meaning

namespace Evaluator

variable {evaluator after : Evaluator} {forms : List Expr} {environment : Environment} {steps : Nat}
  {report : Report}

/-- If all forms of a batch can be lowered, its errors are those of expressions for which too many
frames would be open, or which call a name that is only declared and that the host does not have. -/
theorem explained_of_allLower (reachable : evaluator.Reachable)
    (areForms : ∀ form ∈ forms, form.IsForm) (allLower : evaluator.AllLower forms)
    (done : evaluator.runBatch ⟨environment, steps⟩ forms = some (report, after)) :
    ∀ error ∈ report.errors, ∃ cause, error.error = .code cause ∧
      IsExplained after.registry.statuses environment cause := by
  rw [registry_of_runBatch reachable areForms allLower done]
  exact explained_of_runAll
    (meaning_of_runBatch reachable areForms allLower done (Nat.le_refl steps))

/-- If all forms of a batch can be lowered, a name is unresolved only if it is declared, and not
defined, and the host has no such function. -/
theorem unresolved_of_allLower (reachable : evaluator.Reachable)
    (areForms : ∀ form ∈ forms, form.IsForm) (allLower : evaluator.AllLower forms)
    (done : evaluator.runBatch ⟨environment, steps⟩ forms = some (report, after))
    {error : FormError} (member : error ∈ report.errors) {name : String}
    (unresolved : error.error = .code (.unresolvedSymbol name)) :
    ∃ prototype, after.registry.lookup? name = some (.declaration prototype) ∧
      environment.host.find? name prototype.parameters.length = none := by
  obtain ⟨cause, same, explained⟩ :=
    explained_of_allLower reachable areForms allLower done error member
  cases unresolved.symm.trans same
  cases explained with
  | missing declared unknown =>
    obtain ⟨entry, found, status⟩ := Option.map_eq_some_iff.1 declared
    cases entry with
    | function prototype body => cases status
    | declaration prototype =>
      cases status
      exact ⟨prototype, found, unknown⟩

end Evaluator

end Kaleidoscope
