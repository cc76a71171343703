import Kaleidoscope.Proofs.Code.Flow
import Kaleidoscope.Proofs.Syntax.Body

/-!
# The code of expressions grows as code does

`Draft.lower` only ever makes a draft flow on: its instructions read registers that are sure to be
written, its slots exist, and its calls are those of the expression, each with the right number of
arguments. The yielded operand can be used where the growth ends.
-/
namespace Kaleidoscope.Code.Draft

variable {parameters : Nat} {allowed : Nat → Nat → Prop} {callee : String → Nat}

/-- A scope whose slots all exist. -/
def Fits (scope : Scope Nat) (slots : Nat) : Prop := ∀ entry ∈ scope.bindings, entry.2 < slots

/-- The calls of some names are allowed. -/
def Permits (allowed : Nat → Nat → Prop) (callee : String → Nat) (calls : List (String × Nat)) :
    Prop := ∀ call ∈ calls, allowed (callee call.1) call.2

namespace Fits

variable {scope : Scope Nat} {slots : Nat}

theorem mono {more : Nat} (fits : Fits scope slots) (grown : slots ≤ more) : Fits scope more :=
  fun entry member => Nat.lt_of_lt_of_le (fits entry member) grown

/-- A new variable gets the next slot. -/
theorem bind (fits : Fits scope slots) (name : String) :
    Fits (scope.bind name slots) (slots + 1) := by
  intro entry member
  rcases List.mem_cons.1 member with rfl | old
  · exact Nat.lt_succ_self slots
  · exact Nat.lt_succ_of_lt (fits entry old)

/-- The slot of a visible variable exists. -/
theorem slotOf_lt (fits : Fits scope slots) {name : String} (visible : name ∈ scope.names) :
    slotOf scope name < slots := by
  obtain ⟨entry, member, same⟩ := List.mem_map.1 visible
  have found : (scope.bindings.lookup name).isSome :=
    List.lookup_isSome_iff.2 ⟨entry, member, by simp [same]⟩
  obtain ⟨slot, here⟩ := Option.isSome_iff_exists.1 found
  obtain ⟨front, back, split, _⟩ := List.lookup_eq_some_iff.1 here
  have bound := fits (name, slot) (by simp [split])
  simpa [slotOf, Scope.lookup?, here] using bound

end Fits

namespace Permits

theorem append {front back : List (String × Nat)} :
    Permits allowed callee (front ++ back) ↔
      Permits allowed callee front ∧ Permits allowed callee back := by
  simp [Permits, or_imp, forall_and]

theorem cons {name : String} {count : Nat} {rest : List (String × Nat)} :
    Permits allowed callee ((name, count) :: rest) ↔
      allowed (callee name) count ∧ Permits allowed callee rest := by
  simp [Permits]

end Permits

/-- Growth to a place where the yielded operand can be used. -/
def Flows (parameters : Nat) (allowed : Nat → Nat → Prop) (draft : Draft) (written : List Nat)
    (result : Operand × Draft) : Prop :=
  ∃ after, Flow parameters allowed draft written result.2 after ∧ result.1.Ready after parameters

namespace Flows

variable {draft middle : Draft} {written between : List Nat} {result : Operand × Draft}

/-- An instruction that writes to a new register yields this register. -/
theorem emit (make : Nat → Instruction)
    (target : (make draft.routine.registers).target? = some draft.routine.registers)
    (plain : (make draft.routine.registers).isPhi = false)
    (ready : ∀ operand ∈ (make draft.routine.registers).operands,
      operand.Ready written parameters)
    (fits : (make draft.routine.registers).Fits draft.slotCount allowed) :
    Flows parameters allowed draft written (draft.emit make) :=
  ⟨_, .emit _ target plain ready fits, List.mem_cons_self⟩

/-- Growth before other growth. -/
theorem prepend (front : Flow parameters allowed draft written middle between)
    (back : Flows parameters allowed middle between result) :
    Flows parameters allowed draft written result := by
  obtain ⟨after, flow, ready⟩ := back
  exact ⟨after, front.trans flow, ready⟩

/-- Arithmetic and comparisons of operands that can be used. -/
theorem operate (operator : BuiltinOperator) {left right : Operand}
    (leftReady : left.Ready written parameters) (rightReady : right.Ready written parameters) :
    Flows parameters allowed draft written (draft.operate operator left right) := by
  apply Flows.emit
  all_goals cases operator <;> simp [Instruction.target?, Instruction.isPhi,
    Instruction.operands, Instruction.Fits, leftReady, rightReady]

/-- Whether an operand is true. -/
theorem truth {value : Operand} (ready : value.Ready written parameters) :
    Flows parameters allowed draft written (draft.emit (.truth · value)) :=
  .emit _ rfl rfl (by simpa [Instruction.operands] using ready) trivial

/-- Slots are only added. -/
theorem slotCount_le (flows : Flows parameters allowed draft written result) :
    draft.slotCount ≤ result.2.slotCount := by
  obtain ⟨_, flow, _⟩ := flows
  exact flow.slotCount_le

/-- A condition, and two branches that grow from wherever it leads. -/
theorem conditional {chosen probe first second : Operand × Draft}
    (front : Flows parameters allowed draft written chosen)
    (tests : chosen.2.emit (.truth · chosen.1) = probe)
    (consequent : ∀ known, Flows parameters allowed (probe.2.fork probe.1) known first)
    (alternative : ∀ known, Flows parameters allowed
      (first.2.leaveTo (probe.2.size + 2) (probe.2.size + 1)) known second) :
    Flows parameters allowed draft written
      ((second.2.leaveTo (probe.2.size + 2) (probe.2.size + 2)).emit
        (.phi · [(first.1, first.2.block), (second.1, second.2.block)])) := by
  obtain ⟨between, flow, chosenReady⟩ := front
  obtain ⟨tested, test, testedReady⟩ : Flows parameters allowed chosen.2 between probe :=
    tests ▸ .truth chosenReady
  obtain ⟨_, firstFlow, firstReady⟩ := consequent tested
  obtain ⟨_, secondFlow, secondReady⟩ := alternative tested
  exact ⟨_, (flow.trans test).trans (.branch testedReady firstFlow firstReady secondFlow secondReady),
    List.mem_cons_self⟩

/-- A loop whose counter has a slot, from where it is entered. -/
theorem loop {looped current increment next condition tested : Operand × Draft} {slot : Nat}
    (exists_slot : slot < draft.slotCount)
    (body : Flows parameters allowed draft.enterLoop written looped)
    (loads : looped.2.emit (.load · slot) = current)
    (step : ∀ known, Flows parameters allowed current.2 known increment)
    (adds : increment.2.emit (.arith · .add current.1 increment.1) = next)
    (limit : ∀ known, Flows parameters allowed (next.2.push (.store slot next.1)) known condition)
    (tests : condition.2.emit (.truth · condition.1) = tested) :
    Flows parameters allowed draft written (.number 0, tested.2.leaveLoop tested.1 draft.size) := by
  obtain ⟨bodyKnown, bodyFlow, _⟩ := body
  have slot_loaded := Nat.lt_of_lt_of_le exists_slot bodyFlow.slotCount_le
  obtain ⟨loaded, load, currentReady⟩ : Flows parameters allowed looped.2 bodyKnown current :=
    loads ▸ .emit _ rfl rfl (by simp [Instruction.operands]) slot_loaded
  obtain ⟨stepKnown, stepFlow, stepReady⟩ := step loaded
  obtain ⟨added, add, nextReady⟩ : Flows parameters allowed increment.2 stepKnown next :=
    adds ▸ .emit _ rfl rfl
      (by simp [Instruction.operands, currentReady.mono stepFlow.subset, stepReady]) trivial
  have slot_stored := Nat.lt_of_lt_of_le slot_loaded
    ((load.trans stepFlow).trans add).slotCount_le
  obtain ⟨limitKnown, limitFlow, limitReady⟩ := limit added
  obtain ⟨testKnown, test, testedReady⟩ : Flows parameters allowed condition.2 limitKnown tested :=
    tests ▸ .truth limitReady
  have repeated := ((bodyFlow.trans load).trans stepFlow).trans add
  exact ⟨testKnown, .loop (((repeated.trans (.store slot_stored nextReady)).trans limitFlow).trans test)
    testedReady, trivial⟩

end Flows

/-- A value is stored in a slot of its own. -/
theorem store_flow {scope : Scope Nat} {draft : Draft} {written between : List Nat}
    (result : Operand × Draft)
    (front : Flow parameters allowed draft written result.2 between)
    (fits : Fits scope draft.slotCount) (ready : result.1.Ready between parameters)
    (name : String) :
    Flow parameters allowed draft written
        ((result.2.reserve name).push (.store result.2.slotCount result.1)) between ∧
      Fits (scope.bind name result.2.slotCount)
        ((result.2.reserve name).push (.store result.2.slotCount result.1)).slotCount ∧
      result.2.slotCount <
        ((result.2.reserve name).push (.store result.2.slotCount result.1)).slotCount := by
  have next : (result.2.reserve name).slotCount = result.2.slotCount + 1 := by simp [slotCount]
  refine ⟨(front.trans (.reserve _ _ name)).trans (.store (by omega) ready), ?_, ?_⟩
  · have bound := (fits.mono front.slotCount_le).bind name
    rwa [← next] at bound
  · show _ < (result.2.reserve name).slotCount
    omega

mutual

/-- Lowering an expression is growth, and its operand can be used afterwards. -/
theorem lower_flow (scope : Scope Nat) (draft : Draft) (written : List Nat) :
    ∀ expr : Expr, expr.Scoped scope.names → Fits scope draft.slotCount →
      Permits allowed callee expr.calls →
      Flows parameters allowed draft written (lower callee scope expr draft)
  | .number value span, _, _, _ => ⟨written, .refl draft written, trivial⟩
  | .var name span, visible, fits, _ => by
    apply Flows.emit
    · rfl
    · rfl
    · simp [Instruction.operands]
    · exact fits.slotOf_lt visible
  | .binary operator .assign left right span, closed, fits, permits => by
    cases left with
    | var name place =>
      obtain ⟨after, flow, ready⟩ := lower_flow scope draft written right closed.1 fits permits
      have slot := (fits.mono flow.slotCount_le).slotOf_lt closed.2
      exact ⟨after, flow.trans (.store slot ready), ready⟩
    | _ => exact closed.elim
  | .binary operator (.user name) left right span, closed, fits, permits => by
    obtain ⟨allowedHere, inside⟩ := Permits.cons.1 permits
    obtain ⟨leftPermits, rightPermits⟩ := Permits.append.1 inside
    obtain ⟨between, front, leftReady⟩ :=
      lower_flow scope draft written left closed.1 fits leftPermits
    obtain ⟨after, back, rightReady⟩ := lower_flow scope _ between right closed.2
      (fits.mono front.slotCount_le) rightPermits
    refine Flows.prepend (front.trans back) (Flows.emit _ rfl rfl ?_ allowedHere)
    simp [Instruction.operands, leftReady.mono back.subset, rightReady]
  | .binary operator (.builtin meaning) left right span, closed, fits, permits => by
    obtain ⟨leftPermits, rightPermits⟩ := Permits.append.1 permits
    obtain ⟨between, front, leftReady⟩ :=
      lower_flow scope draft written left closed.1 fits leftPermits
    obtain ⟨after, back, rightReady⟩ := lower_flow scope _ between right closed.2
      (fits.mono front.slotCount_le) rightPermits
    exact Flows.prepend (front.trans back)
      (Flows.operate meaning (leftReady.mono back.subset) rightReady)
  | .unary operator operand span, closed, fits, permits => by
    obtain ⟨allowedHere, inside⟩ := Permits.cons.1 permits
    obtain ⟨after, flow, ready⟩ := lower_flow scope draft written operand closed fits inside
    refine Flows.prepend flow (Flows.emit _ rfl rfl ?_ allowedHere)
    simp [Instruction.operands, ready]
  | .call name arguments span, closed, fits, permits => by
    obtain ⟨allowedHere, inside⟩ := Permits.cons.1 permits
    obtain ⟨after, flow, ready, count⟩ :=
      lowerArguments_flow scope draft written arguments closed fits inside
    refine Flows.prepend flow (Flows.emit _ rfl rfl ready ?_)
    simpa [Instruction.Fits, count] using allowedHere
  | .conditional condition consequent alternative span, closed, fits, permits => by
    obtain ⟨conditionPermits, inside⟩ := Permits.append.1 permits
    obtain ⟨firstPermits, secondPermits⟩ := Permits.append.1 inside
    have front := lower_flow scope draft written condition closed.1 fits conditionPermits
    simp only [lower]
    generalize lower callee scope condition draft = chosen at *
    generalize tests : chosen.2.emit (.truth · chosen.1) = probe
    have inner : Fits scope (probe.2.fork probe.1).slotCount := by
      subst tests
      exact fits.mono front.slotCount_le
    have first := fun known =>
      lower_flow scope (probe.2.fork probe.1) known consequent closed.2.1 inner firstPermits
    exact front.conditional tests first fun known => lower_flow scope _ known alternative closed.2.2
      (inner.mono (first []).slotCount_le) secondPermits
  | .loop counter start limit step body span, closed, fits, permits => by
    obtain ⟨startPermits, inside⟩ := Permits.append.1 permits
    obtain ⟨bodyPermits, rest⟩ := Permits.append.1 inside
    obtain ⟨stepPermits, limitPermits⟩ := Permits.append.1 rest
    obtain ⟨started, front, startReady⟩ :=
      lower_flow scope draft written start closed.1 fits startPermits
    simp only [lower]
    generalize lower callee scope start draft = first at *
    obtain ⟨flow, inner, slot⟩ := store_flow _ front fits startReady counter
    generalize (first.2.reserve counter).push (.store first.2.slotCount first.1) = stored at *
    have repeated := lower_flow (scope.bind counter first.2.slotCount) stored.enterLoop started body
      closed.2.1 inner bodyPermits
    have inner := inner.mono repeated.slotCount_le
    generalize lower callee (scope.bind counter first.2.slotCount) body stored.enterLoop = looped
      at *
    generalize loads : looped.2.emit (.load · first.2.slotCount) = current
    have inner : Fits (scope.bind counter first.2.slotCount) current.2.slotCount := by
      subst loads
      exact inner
    have increments := fun known => lowerOptional_flow (scope.bind counter first.2.slotCount) 1
      current.2 known step closed.2.2.1 inner stepPermits
    have tests := fun next known => lower_flow (scope.bind counter first.2.slotCount) next known limit
      closed.2.2.2
    refine .prepend flow (.loop slot repeated loads increments rfl (fun known => ?_) rfl)
    exact tests _ known (inner.mono (increments []).slotCount_le) limitPermits
  | .binding name initializer body span, closed, fits, permits => by
    obtain ⟨initialPermits, bodyPermits⟩ := Permits.append.1 permits
    obtain ⟨between, front, ready⟩ :=
      lowerOptional_flow scope 0 draft written initializer closed.1 fits initialPermits
    simp only [lower]
    generalize lowerOptional callee scope 0 initializer draft = initial at *
    obtain ⟨flow, inner, _⟩ := store_flow _ front fits ready name
    exact Flows.prepend flow (lower_flow _ _ between body closed.2 inner bodyPermits)
  | .prototype _, closed, _, _ | .function _ _ _, closed, _, _ | .declaration _ _, closed, _, _ =>
    closed.elim

/-- Lowering arguments is growth, and there are as many operands as arguments. -/
theorem lowerArguments_flow (scope : Scope Nat) (draft : Draft) (written : List Nat) :
    ∀ arguments : List Expr, Expr.AreScoped scope.names arguments →
      Fits scope draft.slotCount → Permits allowed callee (Expr.callsOfAll arguments) →
      ∃ after, Flow parameters allowed draft written
          (lowerArguments callee scope arguments draft).2 after ∧
        (∀ operand ∈ (lowerArguments callee scope arguments draft).1,
          operand.Ready after parameters) ∧
        (lowerArguments callee scope arguments draft).1.length = arguments.length
  | [], _, _, _ => ⟨written, .refl draft written, by simp [lowerArguments], rfl⟩
  | argument :: rest, closed, fits, permits => by
    obtain ⟨headPermits, restPermits⟩ := Permits.append.1 permits
    obtain ⟨between, front, ready⟩ :=
      lower_flow scope draft written argument closed.1 fits headPermits
    obtain ⟨after, back, allReady, count⟩ := lowerArguments_flow scope _ between rest closed.2
      (fits.mono front.slotCount_le) restPermits
    refine ⟨after, front.trans back, ?_, ?_⟩
    · intro operand member
      rcases List.mem_cons.1 member with rfl | later
      · exact ready.mono back.subset
      · exact allReady operand later
    · simp [lowerArguments, count]

/-- Lowering an expression that may be left out is growth. -/
theorem lowerOptional_flow (scope : Scope Nat) (absent : Float) (draft : Draft)
    (written : List Nat) :
    ∀ expr : Option Expr, Expr.IsOptionalScoped scope.names expr →
      Fits scope draft.slotCount → Permits allowed callee (Expr.callsOfOptional expr) →
      Flows parameters allowed draft written (lowerOptional callee scope absent expr draft)
  | none, _, _, _ => ⟨written, .refl draft written, trivial⟩
  | some expr, closed, fits, permits => lower_flow scope draft written expr closed fits permits

end

end Kaleidoscope.Code.Draft
