import Kaleidoscope.Proofs.Code.Compiled

/-!
# The calls of compiled code

The code of a definition calls exactly the routines that the names called by its body mean
(`Draft.calls_compile`). Calls are never taken back: whatever is lowered, instructions stay where
they are (`Draft.Later`).
-/
namespace Kaleidoscope.Code

/-- A call of a routine stands somewhere in the code of another. -/
def Routine.HasCall (routine : Routine) (callee : Nat) : Prop :=
  ∃ block position target arguments,
    routine.instruction? block position = some (.call target callee arguments)

/-- A routine calls another exactly if such a call stands somewhere. -/
theorem Routine.calls_iff (routine : Routine) (callee : Nat) :
    routine.calls callee = true ↔ routine.HasCall callee := by
  unfold calls HasCall
  rw [Array.any_eq_true]
  constructor
  · rintro ⟨block, inside, calls⟩
    rw [Array.any_eq_true] at calls
    obtain ⟨position, within, same⟩ := calls
    cases instruction : routine.blocks[block].instructions[position] with
    | call target other arguments =>
      rw [instruction] at same
      obtain rfl := beq_iff_eq.1 same
      refine ⟨block, position, target, arguments, ?_⟩
      rw [instruction?, Array.getElem?_eq_getElem inside, Option.bind_some,
        Array.getElem?_eq_getElem within, instruction]
    | _ =>
      rw [instruction] at same
      contradiction
  · rintro ⟨block, position, target, arguments, found⟩
    obtain ⟨content, here, instruction⟩ := Option.bind_eq_some_iff.1 found
    obtain ⟨inside, same⟩ := Array.getElem?_eq_some_iff.1 here
    obtain ⟨within, stands⟩ := Array.getElem?_eq_some_iff.1 instruction
    subst same
    refine ⟨block, inside, Array.any_eq_true.2 ⟨position, within, ?_⟩⟩
    rw [stands]
    exact beq_self_eq_true callee

namespace Routine

/-- Calls stay where they are. -/
theorem HasCall.mono {before after : Routine} {callee : Nat} (calls : before.HasCall callee)
    (keeps : before.Keeps after) : after.HasCall callee := by
  obtain ⟨block, position, target, arguments, found⟩ := calls
  exact ⟨block, position, target, arguments, keeps found⟩

end Routine

namespace Draft

/-- A stage of a draft at which all instructions of an earlier one are in place. -/
structure Later (before after : Draft) : Prop where
  /-- The block being filled exists. -/
  inside : after.block < after.size
  /-- Blocks are only added. -/
  size_le : before.size ≤ after.size
  /-- Instructions stay where they are. -/
  keeps : before.routine.Keeps after.routine

variable {draft first second third : Draft}

namespace Later

theorem refl (inside : draft.block < draft.size) : Later draft draft :=
  ⟨inside, Nat.le_refl _, fun found => found⟩

theorem trans (front : Later first second) (back : Later second third) : Later first third :=
  ⟨back.inside, Nat.le_trans front.size_le back.size_le, fun found => back.keeps (front.keeps found)⟩

theorem push (later : Later first second) (instruction : Instruction) :
    Later first (second.push instruction) :=
  later.trans ⟨by simpa using later.inside, by simp, keeps_push later.inside instruction⟩

theorem emit (later : Later first second) (make : Nat → Instruction) :
    Later first (second.emit make).2 :=
  later.trans ⟨by simpa [Draft.emit] using later.inside, by simp [Draft.emit],
    keeps_push later.inside _⟩

theorem reserve (later : Later first second) (name : String) :
    Later first (second.reserve name) :=
  later.trans ⟨later.inside, Nat.le_refl _, fun found => found⟩

theorem fork (later : Later first second) (condition : Operand) :
    Later first (second.fork condition) :=
  later.trans ⟨by simp, by simp, fun found => by rwa [instruction?_fork]⟩

theorem leaveTo (later : Later first second) (target next : Nat)
    (inside : next < second.size) : Later first (second.leaveTo target next) :=
  later.trans ⟨by simpa using inside, by simp, fun found => by rwa [instruction?_leaveTo]⟩

theorem enterLoop (later : Later first second) : Later first second.enterLoop :=
  later.trans ⟨by simp, by simp, fun found => by rwa [instruction?_enterLoop]⟩

theorem leaveLoop (later : Later first second) (condition : Operand) (head : Nat) :
    Later first (second.leaveLoop condition head) :=
  later.trans ⟨by simp, by simp, fun found => by rwa [instruction?_leaveLoop]⟩

end Later

/-- Some calls have been written between two stages. -/
structure Called (callee : String → Nat) (calls : List (String × Nat)) (before after : Draft) :
    Prop where
  /-- Nothing is taken back. -/
  later : Later before after
  /-- The calls stand in the code. -/
  hasCall : ∀ call ∈ calls, after.routine.HasCall (callee call.1)

namespace Called

variable {callee : String → Nat} {calls more : List (String × Nat)}

/-- Without calls nothing has to stand in the code. -/
theorem none (later : Later first second) : Called callee [] first second :=
  ⟨later, fun _ member => by contradiction⟩

/-- The calls of two stretches stand in the code together. -/
theorem append (front : Called callee calls first second) (back : Called callee more second third) :
    Called callee (calls ++ more) first third := by
  refine ⟨front.later.trans back.later, fun call member => ?_⟩
  rcases List.mem_append.1 member with early | late
  · exact (front.hasCall call early).mono back.later.keeps
  · exact back.hasCall call late

/-- Calls stay in the code. -/
theorem extend (front : Called callee calls first second) (back : Later second third) :
    Called callee calls first third :=
  ⟨front.later.trans back, fun call member => (front.hasCall call member).mono back.keeps⟩

/-- Code may be written before the calls. -/
theorem prepend (front : Later first second) (back : Called callee calls second third) :
    Called callee calls first third :=
  ⟨front.trans back.later, back.hasCall⟩

/-- A call is written after those of its operands. -/
theorem call (front : Called callee calls first second) (name : String) (count : Nat)
    (arguments : List Operand) :
    Called callee ((name, count) :: calls) first
      (second.emit (.call · (callee name) arguments)).2 := by
  have later := (Later.refl front.later.inside).emit (.call · (callee name) arguments)
  refine ⟨front.later.trans later, fun call member => ?_⟩
  rcases List.mem_cons.1 member with rfl | old
  · refine ⟨second.block, second.routine.extent second.block, second.routine.registers, arguments,
      ?_⟩
    simp only [Draft.emit]
    rw [instruction?_push second.count front.later.inside, if_pos ⟨rfl, rfl⟩]
  · exact (front.hasCall call old).mono later.keeps

end Called

mutual

/-- All calls of an expression come to stand in its code. -/
theorem called_lower (callee : String → Nat) :
    ∀ (expr : Expr) (visible : List String) (scope : Scope Nat) (draft : Draft),
      expr.Scoped visible → draft.block < draft.size →
      Called callee expr.calls draft (lower callee scope expr draft).2
  | .number value span, _, _, _, _, inside => .none (.refl inside)
  | .var name span, _, _, _, _, inside => .none ((Later.refl inside).emit _)
  | .binary _ .assign left right _, visible, scope, draft, closed, inside => by
    cases left with
    | var name place =>
      have value := called_lower callee right visible scope draft closed.1 inside
      exact value.extend ((Later.refl value.later.inside).push _)
    | _ => exact closed.elim
  | .binary _ (.user name) left right _, visible, scope, draft, closed, inside => by
    have first := called_lower callee left visible scope draft closed.1 inside
    have second := called_lower callee right visible scope _ closed.2 first.later.inside
    exact (first.append second).call _ _ _
  | .binary _ (.builtin operator) left right _, visible, scope, draft, closed, inside => by
    have first := called_lower callee left visible scope draft closed.1 inside
    have second := called_lower callee right visible scope _ closed.2 first.later.inside
    exact (first.append second).extend ((Later.refl second.later.inside).emit _)
  | .unary operator operand _, visible, scope, draft, closed, inside =>
    (called_lower callee operand visible scope draft closed inside).call _ _ _
  | .call name arguments _, visible, scope, draft, closed, inside =>
    (called_lowerArguments callee arguments visible scope draft closed inside).call _ _ _
  | .conditional condition consequent alternative _, visible, scope, draft, closed, inside => by
    have chosen := called_lower callee condition visible scope draft closed.1 inside
    simp only [lower]
    generalize lower callee scope condition draft = start at *
    have tested := (Later.refl chosen.later.inside).emit (.truth · start.1)
    generalize start.2.emit (.truth · start.1) = probe at *
    have forked := (Later.refl tested.inside).fork probe.1
    have first := called_lower callee consequent visible scope _ closed.2.1 forked.inside
    generalize lower callee scope consequent (probe.2.fork probe.1) = one at *
    have grown := first.later.size_le
    rw [size_fork] at grown
    have switched := (Later.refl first.later.inside).leaveTo (probe.2.size + 2)
      (probe.2.size + 1) (by omega)
    have second := called_lower callee alternative visible scope _ closed.2.2 switched.inside
    generalize lower callee scope alternative
      (one.2.leaveTo (probe.2.size + 2) (probe.2.size + 1)) = two at *
    have further := second.later.size_le
    rw [size_leaveTo] at further
    have joined := ((Later.refl second.later.inside).leaveTo (probe.2.size + 2)
      (probe.2.size + 2) (by omega)).emit (.phi · [(one.1, one.2.block), (two.1, two.2.block)])
    exact (chosen.extend tested).append
      (((first.prepend forked).append (second.prepend switched)).extend joined)
  | .loop counter start limit step body _, visible, scope, draft, closed, inside => by
    have initial := called_lower callee start visible scope draft closed.1 inside
    simp only [lower]
    generalize lower callee scope start draft = first at *
    have stored := ((Later.refl initial.later.inside).reserve counter).push
      (.store first.2.slotCount first.1)
    generalize (first.2.reserve counter).push (.store first.2.slotCount first.1) = kept at *
    have entered := (Later.refl stored.inside).enterLoop
    have repeated := called_lower callee body (counter :: visible)
      (scope.bind counter first.2.slotCount) _ closed.2.1 entered.inside
    generalize lower callee (scope.bind counter first.2.slotCount) body kept.enterLoop = one at *
    have loaded := (Later.refl repeated.later.inside).emit (.load · first.2.slotCount)
    generalize one.2.emit (.load · first.2.slotCount) = current at *
    have stepped := called_lowerOptional callee 1 step (counter :: visible)
      (scope.bind counter first.2.slotCount) current.2 closed.2.2.1 loaded.inside
    generalize lowerOptional callee (scope.bind counter first.2.slotCount) 1 step current.2 =
      increment at *
    have added := (Later.refl stepped.later.inside).emit (.arith · .add current.1 increment.1)
    generalize increment.2.emit (.arith · .add current.1 increment.1) = next at *
    have moved := (Later.refl added.inside).push (.store first.2.slotCount next.1)
    have limited := called_lower callee limit (counter :: visible)
      (scope.bind counter first.2.slotCount) _ closed.2.2.2 moved.inside
    generalize lower callee (scope.bind counter first.2.slotCount) limit
      (next.2.push (.store first.2.slotCount next.1)) = condition at *
    have left := ((Later.refl limited.later.inside).emit (.truth · condition.1)).leaveLoop
      (condition.2.emit (.truth · condition.1)).1 kept.size
    exact (initial.extend (stored.trans entered)).append
      ((repeated.extend loaded).append ((stepped.extend (added.trans moved)).append
        (limited.extend left)))
  | .binding name initializer body _, visible, scope, draft, closed, inside => by
    have initial := called_lowerOptional callee 0 initializer visible scope draft closed.1 inside
    simp only [lower]
    generalize lowerOptional callee scope 0 initializer draft = first at *
    have stored := ((Later.refl initial.later.inside).reserve name).push
      (.store first.2.slotCount first.1)
    exact (initial.extend stored).append
      (called_lower callee body (name :: visible) _ _ closed.2 stored.inside)
  | .prototype _, _, _, _, closed, _ | .function _ _ _, _, _, _, closed, _
  | .declaration _ _, _, _, _, closed, _ => closed.elim

/-- All calls of arguments come to stand in their code. -/
theorem called_lowerArguments (callee : String → Nat) :
    ∀ (exprs : List Expr) (visible : List String) (scope : Scope Nat) (draft : Draft),
      Expr.AreScoped visible exprs → draft.block < draft.size →
      Called callee (Expr.callsOfAll exprs) draft (lowerArguments callee scope exprs draft).2
  | [], _, _, _, _, inside => .none (.refl inside)
  | expr :: rest, visible, scope, draft, closed, inside => by
    have first := called_lower callee expr visible scope draft closed.1 inside
    exact first.append
      (called_lowerArguments callee rest visible scope _ closed.2 first.later.inside)

/-- All calls of an expression that may be left out come to stand in its code. -/
theorem called_lowerOptional (callee : String → Nat) (absent : Float) :
    ∀ (expr : Option Expr) (visible : List String) (scope : Scope Nat) (draft : Draft),
      Expr.IsOptionalScoped visible expr → draft.block < draft.size →
      Called callee (Expr.callsOfOptional expr) draft
        (lowerOptional callee scope absent expr draft).2
  | none, _, _, _, _, inside => .none (.refl inside)
  | some expr, visible, scope, draft, closed, inside =>
    called_lower callee expr visible scope draft closed inside

end

/-- The code of a definition calls exactly the routines of the names called by its body. -/
theorem calls_compile {callee : String → Nat} {names shown : List String} {body : Expr}
    {name : String} (closed : body.Scoped names.reverse) (id : Nat) :
    (compile callee names body (.declared name shown)).calls id = true ↔
      ∃ call ∈ body.calls, callee call.1 = id := by
  rw [Routine.calls_iff]
  constructor
  · rintro ⟨block, position, target, arguments, found⟩
    obtain ⟨⟨lists, certified⟩, _⟩ := compile_certified shown name closed
      (show Permits (fun id _ => ∃ call ∈ body.calls, callee call.1 = id) callee body.calls from
        fun call member => ⟨call, member, rfl⟩)
    exact certified.fits found
  · rintro ⟨call, member, rfl⟩
    obtain ⟨front, _⟩ := bindParameters_flow names.length (fun _ _ => True) 0 names .empty
      (opened (.declared name shown)) [] (by omega) (by simp [Fits, Scope.empty])
    have inside := (front.extension (opened_isOpen name shown)).isOpen.inside
    obtain ⟨block, position, target, arguments, found⟩ :=
      (called_lower callee body names.reverse _ _ closed inside).hasCall call member
    refine ⟨block, position, target, arguments, ?_⟩
    show ((filled callee names body (.declared name shown)).2.finish _).routine.instruction? block
      position = _
    rw [instruction?_finish]
    exact found

end Draft

end Kaleidoscope.Code
