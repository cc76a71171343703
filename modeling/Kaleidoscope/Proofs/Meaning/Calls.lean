import Kaleidoscope.Proofs.Lowering.Filing
import Kaleidoscope.Proofs.Meaning.Expressions

/-!
# Runs follow calls

A frame of a routine that holds a definition puts its arguments into slots, follows the evaluation
of the body, and returns the number (`follows_body`). In a unit between forms, calls therefore mean
what the ledger says: the definition of the name, or a function of the host
(`Builder.Filed.callsFollow`). The induction is on the number of frames that may still be opened.
-/
namespace Kaleidoscope

open Code State Draft Meaning

namespace Code

section Body

variable {environment : Environment} {unit : CodeUnit} {routine : Routine} {rounds depth : Nat}
  {call : String → List Float → Evaluation Float} {callee : String → Nat}

/-- Parameters get slots of their own. -/
theorem stage_bindParameters (index : Nat) (names : List String) {scope : Scope Nat} {draft : Draft}
    (isOpen : draft.Open) (lays : Lays scope draft.slotCount) :
    Stage draft (bindParameters index names scope draft).2 ∧
      Lays (bindParameters index names scope draft).1
        (bindParameters index names scope draft).2.slotCount := by
  induction names generalizing index scope draft with
  | nil => exact ⟨.refl isOpen, lays⟩
  | cons name rest hypothesis =>
    have reserved := Stage.reserve isOpen name
    have stored := Stage.push reserved.isOpen (.store draft.slotCount (.parameter index)) rfl
    obtain ⟨stage, inner⟩ := hypothesis (index + 1) stored.isOpen
      (lays.introduce name (.store draft.slotCount (.parameter index)))
    exact ⟨(reserved.trans stored).trans stage, inner⟩

variable (environment) in
/-- A run puts arguments into the slots of parameters. -/
theorem steps_bindParameters {index : Nat} {names : List String} (values : List Float)
    {scope : Scope Nat} {draft : Draft} {store : Store} {state : State} (isOpen : draft.Open)
    (lays : Lays scope draft.slotCount) (count : values.length = names.length)
    (carries : routine.Carries (bindParameters index names scope draft).2.routine)
    (given : ∀ position, values[position]? = state.top.arguments[index + position]?)
    (reached : Reached unit routine draft scope store state) :
    ∃ steps last, Steps environment unit steps state last ∧
      Reached unit routine (bindParameters index names scope draft).2
        (bindParameters index names scope draft).1
        { store with numbers := .bindAll names values store.numbers } last ∧
      ∀ registers, Since registers state last := by
  induction names generalizing index values scope draft store state with
  | nil => exact ⟨0, state, .refl state, reached, fun _ => .refl _ state⟩
  | cons name rest hypothesis =>
    cases values with
    | nil => contradiction
    | cons value values =>
      have reserved := Stage.reserve isOpen name
      have stored := Stage.push reserved.isOpen (.store draft.slotCount (.parameter index)) rfl
      have inner := lays.introduce name (.store draft.slotCount (.parameter index))
      obtain ⟨stage, _⟩ := stage_bindParameters (index + 1) rest stored.isOpen inner
      obtain ⟨next, moved, arrived, since⟩ := reached.introduce environment name
        isOpen lays (carries.earlier stage stored.isOpen)
      have read : state.top.read (.parameter index) = value := by
        have first := given 0
        rw [List.getElem?_cons_zero, Nat.add_zero] at first
        rw [Frame.read, ← first, Option.getD_some]
      rw [read] at arrived
      obtain ⟨steps, last, more, ends, later⟩ := hypothesis values stored.isOpen inner
        (Nat.succ.inj count) carries (fun position => by
          rw [(since 0).arguments_eq, ← List.getElem?_cons_succ, given, Nat.add_assoc,
            Nat.add_comm 1]) arrived
      exact ⟨steps + 1, last, .step moved more, ends, fun registers =>
        (since registers).trans (later registers)⟩

/-- A frame that has been entered follows the evaluation of the body, up to the return. -/
theorem follows_body {names shown : List String} {values : List Float} {body : Expr} {name : String}
    {id : Nat} {result : Option Nat} (state : State) (closed : body.Scoped names.reverse)
    (follow : CallsFollow environment unit rounds depth call callee body.calls)
    (count : values.length = names.length)
    (found : unit.routines[id]? = some (compile callee names body (.declared name shown)))
    (entered : state.top = .enter id (compile callee names body (.declared name shown)) values result)
    (opened : state.depth = depth) :
    Simulates environment unit rounds state
      (fun value after last => last.callers = state.callers ∧ last.top.result = result ∧
        last.calls = after.calls ∧ last.step environment unit = last.stepReturn value)
      (evaluate call rounds body ⟨.bindAll names values .empty, state.calls⟩) := by
  have first := opened_isOpen name shown
  have empty : Lays .empty (Draft.opened (.declared name shown)).slotCount :=
    ⟨by simp [Fits, Scope.empty], by simp [Scope.empty]⟩
  obtain ⟨front, lays⟩ := stage_bindParameters 0 names first empty
  have visible := names_bindParameters 0 names .empty (Draft.opened (.declared name shown))
  have inside : body.Scoped
      (bindParameters 0 names .empty (Draft.opened (.declared name shown))).1.names := by
    rw [visible]
    simpa [Scope.names, Scope.empty] using closed
  obtain ⟨back, below⟩ := stage_lower callee _ body inside front.isOpen lays
  have whole : (compile callee names body (.declared name shown)).Carries
      (compile callee names body (.declared name shown)) := .refl _
  obtain ⟨carries, ends, extent⟩ := Routine.Carries.finish whole back.isOpen
  have carriesFront := carries.earlier back front.isOpen
  have start : Reached unit (compile callee names body (.declared name shown))
      (Draft.opened (.declared name shown)) .empty ⟨.empty, state.calls⟩ state := by
    refine ⟨?_, ?_, ?_, ?_, ?_, .nil, rfl⟩ <;> rw [entered]
    · exact found
    · rfl
    · rfl
    · exact Array.size_replicate
    · exact Array.size_replicate
  obtain ⟨steps, bound, before, reached, since⟩ := steps_bindParameters environment values first empty count carriesFront (fun position => by
      rw [entered, Nat.zero_add]
      rfl) start
  have followed := follows_evaluate body _ inside follow front.isOpen lays carries _ bound reached
    ((depth_eq (since 0)).trans opened)
  refine (followed.imp fun value after last yields => ?_).steps before
  have kept := (since 0).trans (yields.since.mono (Nat.zero_le _))
  refine ⟨kept.callers_eq, kept.result_eq.trans (by rw [entered]; rfl), yields.reached.calls_eq, ?_⟩
  rw [← yields.reached.block_eq] at ends
  have past := yields.reached.past extent
  rw [step_terminator yields.reached.found past ends]
  simp only [yields.read_eq]

/-- Evaluating the body of a definition in a frame of its own is followed if the body is. -/
theorem follows_inFrame {parameters : List String} {values : List Float} {action : Evaluation Float}
    {store : Store} {state : State} {post target : Float → Store → State → Prop}
    (inside : Simulates environment unit rounds state post
      (action ⟨.bindAll parameters values .empty, store.calls⟩))
    (leave : ∀ result final after, post result final after →
      ∃ next, after.step environment unit = .next next ∧
        target result { final with numbers := store.numbers } next) :
    Simulates environment unit rounds state target (inFrame parameters values action store) := by
  refine (inside.further fun result final last holds => ?_).bind (fun result final last holds => .pure holds)
  obtain ⟨next, moved, arrived⟩ := leave result final last holds
  exact ⟨1, next, .step moved (.refl next), arrived⟩

/-- A call that opens a frame is followed. -/
theorem follows_enter {names shown : List String} {values : List Float} {body : Expr} {name : String}
    {id target : Nat} {store : Store} {state moved : State} (closed : body.Scoped names.reverse)
    (follow : CallsFollow environment unit rounds (depth + 1) call callee body.calls)
    (count : values.length = names.length) (found : unit.routines[id]? = some routine)
    (code : routine = compile callee names body (.declared name shown)) (opened : moved.depth = depth)
    (calls : moved.calls = store.calls)
    (step : state.step environment unit = .next { moved with
      top := .enter id routine values (some target)
      callers := moved.callers.push moved.top }) :
    Simulates environment unit rounds state
      (fun value after last => after.numbers = store.numbers ∧
        last = { moved with top := moved.top.write target value, calls := after.calls })
      (inFrame names values (evaluate call rounds body) store) := by
  subst code
  have deeper : (moved.callers.push moved.top).size + 1 = depth + 1 := by
    rw [Array.size_push, ← opened, State.depth]
  have followed := follows_body { moved with
    top := .enter id (compile callee names body (.declared name shown)) values (some target)
    callers := moved.callers.push moved.top } closed follow count found rfl deeper
  simp only [calls] at followed
  refine (Simulates.step (by rw [step, calls]) (follows_inFrame followed
    fun value final last ends => ?_)).weaken (Nat.le_succ rounds)
  obtain ⟨callers, result, same, returns⟩ := ends
  refine ⟨_, returns.trans ?_, rfl, rfl⟩
  rw [stepReturn, callers, Array.back?_push]
  simp only [result, same, Array.pop_push]

/-- A call of a function of the host is followed. -/
theorem follows_callHost {name : String} {values : List Float} {store : Store}
    {state moved : State} {target arity : Nat} (count : values.length = arity)
    (calls : moved.calls = store.calls)
    (step : state.step environment unit =
      match Code.callHost environment.host moved.calls name values with
      | .ok (value, calls) =>
        .next { moved with top := moved.top.write target value, calls := calls }
      | .error error => moved.fail error) :
    Simulates environment unit rounds state
      (fun value after last => after.numbers = store.numbers ∧
        last = { moved with top := moved.top.write target value, calls := after.calls })
      (Meaning.callHost environment.host name arity values store) := by
  subst count
  simp only [Code.callHost, calls] at step
  simp only [Meaning.callHost, Bind.bind, EStateM.bind, get_apply]
  cases known : environment.host.find? name values.length with
  | none =>
    simp only [known] at step ⊢
    refine .error ?_
    rw [step, State.fail, calls]
  | some function =>
    simp only [known] at step ⊢
    exact follows_step step ⟨rfl, rfl⟩

end Body

end Code

/-- Calls mean what a ledger holds for the names that are called. -/
def Ledger.Defines (ledger : Ledger) (definitions : Definitions) : Prop :=
  ∀ name ∈ ledger.used, definitions name = ledger.known name

namespace Builder

variable {builder : Builder} {ledger : Ledger} {sources : Sources} {unit : CodeUnit}
  {environment : Environment} {definitions : Definitions} {rounds : Nat}

/-- The names that a definition of a unit calls are noted as such. -/
theorem Filed.mem_used (filed : builder.Filed ledger sources) {id : Nat}
    {source : List String × Expr} (known : sources id = some source) {call : String × Nat}
    (member : call ∈ source.2.calls) : call.1 ∈ ledger.used :=
  filed.used_iff.2 ⟨id, source, known, List.mem_map.2 ⟨call, member, rfl⟩⟩

variable (environment rounds) in
/-- In a unit between forms calls are followed, whatever number of frames is open. -/
theorem Filed.callsFollow (filed : builder.Filed ledger sources)
    (isOpen : builder.unit = some unit) (defines : ledger.Defines definitions) (frames : Nat) :
    ∀ {depth : Nat} {source : List String × Expr} {callee : String → Nat} {id : Nat},
      environment.limit - depth = frames → sources id = some source →
      (∀ call ∈ source.2.calls, builder.lookup? call.1 = some (callee call.1)) →
      CallsFollow environment unit rounds depth (callWithin definitions environment rounds frames)
        callee source.2.calls := by
  induction frames using Nat.strongRecOn with
  | ind frames hypothesis =>
    intro depth caller callee id left calling goes name count member state moved store target
      operands length opened same step
    have ordinary := (filed.complete calling).ordinary _ member
    obtain ⟨routine, found, rfl⟩ := filed.sound.named (goes _ member)
    have here : unit.routines[callee routine.name]? = some routine := by
      rwa [routine?, isOpen, Option.bind_some] at found
    rcases Lower.matches_cases filed.agree ordinary with
      ⟨_, free⟩ | ⟨⟨arity, source⟩, other, held, means, parameters, filled⟩
    · rw [goes _ member] at free
      contradiction
    cases (goes _ member).symm.trans means
    have fits := (filed.complete calling).fits _ member
    rw [Ledger.arity?, held, Option.map_some, Option.some.injEq] at fits
    simp only at fits filled parameters held
    rw [hasBody, found, Option.any_some] at filled
    rw [parameterCount, found] at parameters
    have size : (operands.map moved.top.read).length = arity := by
      rw [List.length_map, length, fits]
    simp only [stepCall, here, ← filled] at step
    rw [callWithin, defines _ (filed.mem_used calling member), held]
    cases source with
    | none =>
      rw [Option.isSome_none, if_neg (by simp)] at step
      exact follows_callHost size same step
    | some source =>
      obtain ⟨names, body⟩ := source
      rw [Option.isSome_some, if_pos rfl] at step
      cases frames with
      | zero =>
        rw [if_pos (by rw [opened]; omega), State.fail, same] at step
        exact .error step
      | succ frames =>
        rw [if_neg (by rw [opened]; omega)] at step
        have known : sources (callee routine.name) = some (names, body) := by
          rw [← filed.linked ordinary (goes _ member), Ledger.source?, held]
          rfl
        obtain ⟨other, foundOther, called, further, shown, code⟩ := filed.held known
        cases found.symm.trans foundOther
        exact follows_enter (filed.complete known).closed
          (hypothesis frames (Nat.lt_succ_self frames) (by omega) known further)
          (size.trans (parameters.trans shown)) here code opened same step

/-- The run of a routine that holds an expression follows the evaluation of the expression. -/
theorem Filed.follows_run (filed : builder.Filed ledger sources) (isOpen : builder.unit = some unit)
    (defines : ledger.Defines definitions) {id : Nat} {body : Expr}
    (known : sources id = some ([], body)) (calls : Array HostCall) :
    ∃ state, unit.launch environment calls id = .next state ∧ ∀ rounds,
      Simulates environment unit rounds state
        (fun value store last => last.step environment unit = .done (.ok value) store.calls)
        (evaluate (callWithin definitions environment rounds (environment.limit - 1)) rounds body
          ⟨.empty, calls⟩) := by
  have complete := filed.complete known
  obtain ⟨routine, found, callee, goes, shown, code⟩ := filed.held known
  have here : unit.routines[id]? = some routine := by
    rwa [routine?, isOpen, Option.bind_some] at found
  have filled : routine.hasBody = true := Contains.hasBody ⟨callee, goes, shown, code⟩ complete
  have bare : routine.parameters.isEmpty = true := by
    rw [List.length_eq_zero_iff.1 shown]
    rfl
  refine ⟨⟨.enter id routine [] none, #[], calls⟩, ?_, fun rounds => ?_⟩
  · simp only [CodeUnit.launch, here, bare, filled, Bool.not_true, Bool.false_eq_true, if_false,
      if_true]
  · have follow := filed.callsFollow environment rounds isOpen defines (environment.limit - 1) rfl
      known goes
    have entered : Frame.enter id routine [] none = .enter id (compile callee [] body
        (.declared routine.name routine.parameters)) [] none := by rw [← code]
    refine (follows_body ⟨.enter id routine [] none, #[], calls⟩ complete.closed follow
      (Eq.refl ([] : List Float).length) (here.trans (congrArg some code)) entered rfl).imp
      fun value store last ends => ?_
    obtain ⟨callers, _, same, returns⟩ := ends
    rw [returns, stepReturn, callers, same]
    rfl

end Builder

end Kaleidoscope
