import Kaleidoscope.Proofs.Meaning.Constructs

/-!
# Runs follow expressions

A run that stands where the code of an expression begins follows the evaluation of the expression
(`follows_evaluate`): it comes to the end of the code with the number in the operand that the
code yields, ends with the error of the evaluation, or goes on for as long as the evaluation does
not end. The induction is over the expression, and what each kind of expression adds to its parts
has been shown before.
-/
namespace Kaleidoscope.Code

open Meaning State Draft

section Evaluate

variable {environment : Environment} {unit : CodeUnit} {routine : Routine} {rounds depth : Nat}
  {call : String → List Float → Evaluation Float} {callee : String → Nat}

mutual

/-- A run follows the evaluation of an expression through the code of the expression. -/
theorem follows_evaluate :
    ∀ (expr : Expr) (scope : Scope Nat) {draft : Draft}, expr.Scoped scope.names →
      CallsFollow environment unit rounds depth call callee expr.calls → draft.Open →
      Lays scope draft.slotCount →
      Follows environment unit routine rounds depth scope draft (lower callee scope expr draft)
        (evaluate call rounds expr)
  | .number value _, scope, draft, _, _, _, _ => by
    rw [evaluate, lower]
    exact fun _ store state reached _ => .pure ⟨reached, .refl _ state, rfl⟩
  | .var name _, scope, draft, visible, _, isOpen, _ => by
    rw [evaluate, lower]
    exact fun carries store state reached _ => follows_read reached isOpen carries visible rfl
  | .binary _ .assign left right _, scope, draft, closed, calls, isOpen, lays => by
    cases left with
    | var name place =>
      rw [evaluate, lower]
      intro carries store state reached opened
      obtain ⟨stage, below⟩ := stage_lower callee scope right closed.1 isOpen lays
      obtain ⟨carried, _⟩ := carries.push stage.isOpen
      refine (follows_evaluate right scope closed.1 calls isOpen lays carried store state reached
        opened).bind fun value middle after yields => ?_
      obtain ⟨next, moved, arrived, since⟩ := yields.reached.assign environment
        stage.isOpen (lays.mono stage.slots_le) carries closed.2 rfl
      rw [yields.read_eq] at arrived
      refine follows_step moved ⟨arrived, yields.since.trans (since _), ?_⟩
      rw [(since _).read_eq below, yields.read_eq]
    | _ => exact closed.elim
  | .binary _ (.user name) left right _, scope, draft, closed, calls, isOpen, lays => by
    rw [evaluate, lower]
    obtain ⟨front, below⟩ := stage_lower callee scope left closed.1 isOpen lays
    have inner := lays.mono front.slots_le
    obtain ⟨back, _⟩ := stage_lower callee scope right closed.2 front.isOpen inner
    have callsLeft := calls.mono fun _ member => List.mem_cons_of_mem _ (List.mem_append_left _ member)
    have callsRight := calls.mono fun _ member =>
      List.mem_cons_of_mem _ (List.mem_append_right _ member)
    refine follows_both front below back (follows_evaluate left scope closed.1 callsLeft isOpen lays)
      (follows_evaluate right scope closed.2 callsRight front.isOpen inner)
      (fun carries => carries.emit back.isOpen)
      fun first second final after carries reached opened readFirst readSecond => ?_
    refine follows_call calls List.mem_cons_self reached back.isOpen carries opened ?_
    simp only [List.map_cons, List.map_nil, readFirst, readSecond]
  | .binary _ (.builtin operator) left right _, scope, draft, closed, calls, isOpen, lays => by
    rw [evaluate, lower]
    obtain ⟨front, below⟩ := stage_lower callee scope left closed.1 isOpen lays
    have inner := lays.mono front.slots_le
    obtain ⟨back, _⟩ := stage_lower callee scope right closed.2 front.isOpen inner
    have callsLeft := calls.mono fun _ member => List.mem_append_left _ member
    have callsRight := calls.mono fun _ member => List.mem_append_right _ member
    refine follows_both front below back (follows_evaluate left scope closed.1 callsLeft isOpen lays)
      (follows_evaluate right scope closed.2 callsRight front.isOpen inner)
      (fun carries => carries.emit back.isOpen)
      fun first second final after carries reached opened readFirst readSecond => ?_
    obtain ⟨next, moved, last⟩ := reached.emit environment back.isOpen
      (operator.apply first second) carries (by cases operator <;> simp) (by
        rw [← readFirst, ← readSecond]
        cases operator <;>
          simp [Frame.execute, Arithmetic.apply, Comparison.holds, ofTruth, BuiltinOperator.apply])
    exact follows_step moved last
  | .unary operator operand _, scope, draft, closed, calls, isOpen, lays => by
    rw [evaluate, lower]
    intro carries store state reached opened
    obtain ⟨stage, _⟩ := stage_lower callee scope operand closed isOpen lays
    have callsInner := calls.mono fun _ member => List.mem_cons_of_mem _ member
    refine (follows_evaluate operand scope closed callsInner isOpen lays (carries.emit stage.isOpen) store
      state reached opened).bind fun value middle after yields => ?_
    refine (follows_call calls List.mem_cons_self yields.reached stage.isOpen carries
      ((depth_eq yields.since).trans opened) ?_).imp
      fun value store last ends => ends.after yields.since stage.registers_le
    simp only [List.map_cons, List.map_nil, yields.read_eq]
  | .call name arguments _, scope, draft, closed, calls, isOpen, lays => by
    rw [evaluate, lower]
    intro carries store state reached opened
    obtain ⟨stage, count⟩ := stage_lowerArguments callee scope arguments closed isOpen lays
    have callsInner := calls.mono fun _ member => List.mem_cons_of_mem _ member
    refine (follows_evaluateAll arguments scope closed callsInner isOpen lays (carries.emit stage.isOpen)
      store state reached opened).bind fun values middle after yields => ?_
    obtain ⟨arrived, since, read⟩ := yields
    exact (follows_call calls (by rw [count]; exact List.mem_cons_self) arrived stage.isOpen carries
      ((depth_eq since).trans opened) read).imp
      fun value store last ends => ends.after since stage.registers_le
  | .conditional condition consequent alternative _, scope, draft, closed, calls, isOpen, lays => by
    rw [evaluate]
    simp only [lower]
    have callsCondition := calls.mono fun _ member => List.mem_append_left _ member
    have callsFirst := calls.mono fun _ member =>
      List.mem_append_right _ (List.mem_append_left _ member)
    have callsSecond := calls.mono fun _ member =>
      List.mem_append_right _ (List.mem_append_right _ member)
    obtain ⟨front, _⟩ := stage_lower callee scope condition closed.1 isOpen lays
    have test := Stage.emit front.isOpen (.truth · (lower callee scope condition draft).1) rfl
    have inner := lays.mono (front.trans test).slots_le
    have openFirst := isOpen_fork test.isOpen (.register
      (lower callee scope condition draft).2.routine.registers)
    obtain ⟨first, _⟩ := stage_lower callee scope consequent closed.2.1 openFirst inner
    have openSecond := isOpen_second test.isOpen first.extension
    have innerSecond := inner.mono first.slots_le
    obtain ⟨second, _⟩ := stage_lower callee scope alternative closed.2.2 openSecond innerSecond
    exact follows_conditional front rfl first second
      (follows_evaluate condition scope closed.1 callsCondition isOpen lays)
      (follows_evaluate consequent scope closed.2.1 callsFirst openFirst inner)
      (follows_evaluate alternative scope closed.2.2 callsSecond openSecond innerSecond)
  | .loop counter start limit step body _, scope, draft, closed, calls, isOpen, lays => by
    rw [evaluate]
    simp only [lower]
    obtain ⟨closedStart, closedBody, closedStep, closedLimit⟩ := closed
    have callsStart := calls.mono fun _ member => List.mem_append_left _ member
    have callsBody := calls.mono fun _ member =>
      List.mem_append_right _ (List.mem_append_left _ member)
    have callsStep := calls.mono fun _ member =>
      List.mem_append_right _ (List.mem_append_right _ (List.mem_append_left _ member))
    have callsLimit := calls.mono fun _ member =>
      List.mem_append_right _ (List.mem_append_right _ (List.mem_append_right _ member))
    have followsStart := follows_evaluate start scope closedStart callsStart isOpen lays
    obtain ⟨front, _⟩ := stage_lower callee scope start closedStart isOpen lays
    generalize lower callee scope start draft = first at *
    have outer := lays.mono front.slots_le
    have inner := outer.introduce counter (.store first.2.slotCount first.1)
    have storing : Stage first.2 _ := (Stage.reserve front.isOpen counter).trans
      (.push (Stage.reserve front.isOpen counter).isOpen (.store first.2.slotCount first.1) rfl)
    generalize entered : (first.2.reserve counter).push (.store first.2.slotCount first.1) = stored
      at inner storing
    have openEntry := isOpen_enterLoop storing.isOpen
    have followsBody := follows_evaluate body (scope.bind counter first.2.slotCount)
      closedBody callsBody openEntry inner
    obtain ⟨one, _⟩ := stage_lower callee (scope.bind counter first.2.slotCount) body
      closedBody openEntry inner
    generalize lower callee (scope.bind counter first.2.slotCount) body stored.enterLoop = looped
      at *
    have load := Stage.emit one.isOpen (.load · first.2.slotCount) rfl
    generalize loaded : looped.2.emit (.load · first.2.slotCount) = current at *
    have inner := (inner.mono one.slots_le).mono load.slots_le
    have followsStep := follows_evaluateOptional step (scope.bind counter first.2.slotCount) 1
      closedStep callsStep load.isOpen inner
    obtain ⟨two, _⟩ := stage_lowerOptional callee (scope.bind counter first.2.slotCount)
      1 step closedStep load.isOpen inner
    generalize lowerOptional callee (scope.bind counter first.2.slotCount) 1 step current.2 =
      increment at *
    have add := Stage.emit two.isOpen (.arith · .add current.1 increment.1) rfl
    generalize added : increment.2.emit (.arith · .add current.1 increment.1) = next at *
    have put := Stage.push add.isOpen (.store first.2.slotCount next.1) rfl
    have inner := (inner.mono two.slots_le).mono (add.trans put).slots_le
    have followsLimit := follows_evaluate limit (scope.bind counter first.2.slotCount)
      closedLimit callsLimit put.isOpen inner
    obtain ⟨three, _⟩ := stage_lower callee (scope.bind counter first.2.slotCount) limit
      closedLimit put.isOpen inner
    exact follows_loop front outer entered one loaded two added three rfl followsStart followsBody
      followsStep followsLimit
  | .binding name initializer body _, scope, draft, closed, calls, isOpen, lays => by
    rw [evaluate]
    simp only [lower]
    have callsInitial := calls.mono fun _ member => List.mem_append_left _ member
    have callsBody := calls.mono fun _ member => List.mem_append_right _ member
    obtain ⟨front, _⟩ := stage_lowerOptional callee scope 0 initializer closed.1 isOpen lays
    have reserved := Stage.reserve front.isOpen name
    have stored := Stage.push reserved.isOpen (.store
      (lowerOptional callee scope 0 initializer draft).2.slotCount
      (lowerOptional callee scope 0 initializer draft).1) rfl
    have inner := lays.mono front.slots_le
    have bound := inner.introduce name (.store
      (lowerOptional callee scope 0 initializer draft).2.slotCount
      (lowerOptional callee scope 0 initializer draft).1)
    obtain ⟨back, _⟩ := stage_lower callee (scope.bind name _) body closed.2
      stored.isOpen bound
    exact follows_binding front inner back
      (follows_evaluateOptional initializer scope 0 closed.1 callsInitial isOpen lays)
      (follows_evaluate body _ closed.2 callsBody stored.isOpen bound)
  | .prototype _, _, _, closed, _, _, _
  | .function _ _ _, _, _, closed, _, _, _
  | .declaration _ _, _, _, closed, _, _, _ => closed.elim

/-- A run follows the evaluation of arguments through their code. -/
theorem follows_evaluateAll :
    ∀ (exprs : List Expr) (scope : Scope Nat) {draft : Draft}, Expr.AreScoped scope.names exprs →
      CallsFollow environment unit rounds depth call callee (Expr.callsOfAll exprs) → draft.Open →
      Lays scope draft.slotCount →
      routine.Carries (lowerArguments callee scope exprs draft).2.routine →
      ∀ (store : Store) (state : State), Reached unit routine draft scope store state →
      state.depth = depth →
      Simulates environment unit rounds state
        (fun values store after =>
          Reached unit routine (lowerArguments callee scope exprs draft).2 scope store after ∧
          Since draft.routine.registers state after ∧
          (lowerArguments callee scope exprs draft).1.map after.top.read = values)
        (evaluateAll call rounds exprs store)
  | [], scope, draft, _, _, _, _, _, store, state, reached, _ => by
    rw [evaluateAll, lowerArguments]
    exact .pure ⟨reached, .refl _ state, rfl⟩
  | argument :: rest, scope, draft, closed, calls, isOpen, lays, carries, store, state, reached,
      opened => by
    rw [lowerArguments] at carries ⊢
    rw [evaluateAll]
    obtain ⟨front, below⟩ := stage_lower callee scope argument closed.1 isOpen lays
    have inner := lays.mono front.slots_le
    obtain ⟨back, _⟩ := stage_lowerArguments callee scope rest closed.2 front.isOpen inner
    have callsFirst := calls.mono fun _ member => List.mem_append_left _ member
    have callsRest := calls.mono fun _ member => List.mem_append_right _ member
    refine (follows_evaluate argument scope closed.1 callsFirst isOpen lays
      (carries.earlier back front.isOpen) store state reached opened).bind
      fun value middle after yields => ?_
    refine (follows_evaluateAll rest scope closed.2 callsRest front.isOpen inner carries middle after
      yields.reached ((depth_eq yields.since).trans opened)).bind
      fun values final last arrived => ?_
    obtain ⟨ends, since, read⟩ := arrived
    refine .pure ⟨ends, yields.since.trans (since.mono front.registers_le), ?_⟩
    rw [List.map_cons, since.read_eq below, yields.read_eq, read]

/-- A run follows the evaluation of an expression that may be left out. -/
theorem follows_evaluateOptional :
    ∀ (expr : Option Expr) (scope : Scope Nat) (absent : Float) {draft : Draft},
      Expr.IsOptionalScoped scope.names expr →
      CallsFollow environment unit rounds depth call callee (Expr.callsOfOptional expr) →
      draft.Open → Lays scope draft.slotCount →
      Follows environment unit routine rounds depth scope draft
        (lowerOptional callee scope absent expr draft) (evaluateOptional call rounds absent expr)
  | none, scope, absent, draft, _, _, _, _ => by
    rw [evaluateOptional, lowerOptional]
    exact fun _ store state reached _ => .pure ⟨reached, .refl _ state, rfl⟩
  | some expr, scope, absent, draft, closed, calls, isOpen, lays => by
    rw [evaluateOptional, lowerOptional]
    exact follows_evaluate expr scope closed calls isOpen lays

end

end Evaluate

end Kaleidoscope.Code
