import Kaleidoscope.Proofs.Code.Certificates
import Kaleidoscope.Proofs.Code.Lowered

/-!
# The code of definitions is well formed

A definition whose variables are all visible, and whose calls go to routines with the right number
of parameters, is compiled to a well-formed routine (`Draft.compile_wellFormed`). Its calls are
exactly those of its body (`Draft.calls_compile`).
-/
namespace Kaleidoscope.Code.Draft

variable {parameters : Nat} {allowed : Nat → Nat → Prop} {callee : String → Nat}

/-- Parameters become visible, the last one innermost. -/
theorem names_bindParameters (index : Nat) (names : List String) (scope : Scope Nat)
    (draft : Draft) :
    (bindParameters index names scope draft).1.names = names.reverse ++ scope.names := by
  induction names generalizing index scope draft with
  | nil => rfl
  | cons name rest hypothesis =>
    rw [bindParameters, hypothesis]
    simp [Scope.names, Scope.bind]

variable (parameters allowed) in
/-- Binding parameters is growth. -/
theorem bindParameters_flow (index : Nat) (names : List String) (scope : Scope Nat) (draft : Draft)
    (written : List Nat) (count : index + names.length ≤ parameters)
    (fits : Fits scope draft.slotCount) :
    Flow parameters allowed draft written (bindParameters index names scope draft).2 written ∧
      Fits (bindParameters index names scope draft).1
        (bindParameters index names scope draft).2.slotCount := by
  induction names generalizing index scope draft with
  | nil => exact ⟨.refl draft written, fits⟩
  | cons name rest hypothesis =>
    rw [List.length_cons] at count
    obtain ⟨flow, inner, _⟩ := store_flow (.parameter index, draft)
      (.refl draft written : Flow parameters allowed draft written draft written) fits (show index < parameters by omega) name
    obtain ⟨more, all⟩ := hypothesis (index + 1) _ _ (by omega) inner
    exact ⟨flow.trans more, all⟩

/-- A routine without a body has nothing to certify once its first block is there. -/
theorem opened_certified (name : String) (names : List String) :
    (opened (.declared name names)).routine.Certified parameters allowed fun _ => [] := by
  have instructions : ∀ block position,
      (opened (.declared name names)).routine.instruction? block position = none := by
    intro block position
    rw [opened, instruction?_append]
    simp [Routine.instruction?, Routine.declared]
  have ends : ∀ block, (opened (.declared name names)).routine.terminator? block = none := by
    intro block
    rw [opened, terminator?_append]
    simp [Routine.terminator?, Routine.declared]
  refine
    { start := rfl
      known := fun _ listed => by contradiction
      leads := ?_
      usable := fun found => by rw [instructions] at found; contradiction
      phi := fun found => by rw [instructions] at found; contradiction
      usable_end := fun found => by rw [ends] at found; contradiction
      fits := fun found => by rw [instructions] at found; contradiction
      written_once := fun _ within => absurd within (Nat.not_lt_zero _)
      target_lt := ?_
      entry_plain := fun found => by rw [instructions] at found; contradiction }
  · rintro source target ⟨terminator, found, _⟩
    rw [ends] at found
    contradiction
  · rintro block position register ⟨instruction, found, _⟩
    rw [instructions] at found
    contradiction

/-- The first block is filled first. -/
@[simp] theorem block_opened (routine : Routine) : (opened routine).block = 0 := rfl

/-- The first block is the only one. -/
@[simp] theorem size_opened (name : String) (names : List String) :
    (opened (.declared name names)).size = 1 := rfl

/-- The first block starts open. -/
theorem opened_isOpen (name : String) (names : List String) :
    (opened (.declared name names)).Open where
  inside := by simp [opened, Routine.declared]
  endless := by
    rw [opened, terminator?_append]
    simp [Routine.terminator?, Routine.declared]

/-- The draft of a whole body, up to the place of the return, and the operand to return. -/
def filled (callee : String → Nat) (names : List String) (body : Expr) (routine : Routine) :
    Operand × Draft :=
  lower callee (bindParameters 0 names .empty (opened routine)).1 body
    (bindParameters 0 names .empty (opened routine)).2

section Filled

variable {names shown : List String} {body : Expr} {name : String}

variable (shown name) in
/-- A whole body grows from the first block to the place of the return. -/
theorem filled_flow (closed : body.Scoped names.reverse) (permits : Permits allowed callee body.calls) :
    Flows names.length allowed (opened (.declared name shown)) []
      (filled callee names body (.declared name shown)) := by
  have visible := names_bindParameters 0 names .empty (opened (.declared name shown))
  obtain ⟨front, fits⟩ := bindParameters_flow names.length allowed 0 names .empty
    (opened (.declared name shown)) [] (by omega) (by simp [Fits, Scope.empty])
  refine Flows.prepend front (lower_flow _ _ [] body ?_ fits permits)
  rw [visible]
  simpa [Scope.names, Scope.empty] using closed

variable (shown name) in
/-- The code of a definition can be certified, and all its blocks have an end. -/
theorem compile_certified (closed : body.Scoped names.reverse)
    (permits : Permits allowed callee body.calls) :
    (∃ lists, (compile callee names body (.declared name shown)).Certified names.length allowed
        lists) ∧
      ∀ block < (compile callee names body (.declared name shown)).blocks.size, ∃ terminator,
        (compile callee names body (.declared name shown)).terminator? block = some terminator := by
  obtain ⟨after, flow, ready⟩ := filled_flow shown name closed permits
  have isOpen := opened_isOpen name shown
  obtain ⟨lists, _, certified, sure⟩ :=
    flow.certified isOpen (opened_certified name shown) (by simp)
  have extension := flow.extension isOpen
  have returned : ((filled callee names body (.declared name shown)).2.finish
      (.ret (filled callee names body (.declared name shown)).1)).routine.Certified names.length
        allowed lists := certified_finish extension.isOpen certified
    (fun operand member => by
      obtain rfl := List.mem_singleton.1 member
      exact Flow.usable_of_ready sure ready)
    (fun target member => by contradiction)
  refine ⟨⟨lists, returned⟩, fun block within => ?_⟩
  show ∃ terminator, ((filled callee names body (.declared name shown)).2.finish _).routine.terminator?
    block = some terminator
  rw [terminator?_finish _ extension.isOpen.inside]
  by_cases last : block = (filled callee names body (.declared name shown)).2.block
  · exact ⟨_, if_pos last⟩
  · have inside : block < (filled callee names body (.declared name shown)).2.size := by
      rw [← size_finish _ (.ret (filled callee names body (.declared name shown)).1)]
      exact within
    have place : block = 0 ∨ 1 ≤ block := by omega
    obtain ⟨terminator, found, _⟩ := extension.closed (by simpa using place) inside last
    exact ⟨terminator, by rw [if_neg last, found]⟩

/-- The code of a definition keeps the heading of its routine. -/
theorem compile_heading (closed : body.Scoped names.reverse) :
    (compile callee names body (.declared name shown)).name = name ∧
      (compile callee names body (.declared name shown)).parameters = shown := by
  have permits : Permits (fun _ _ => True) callee body.calls := fun _ _ => trivial
  obtain ⟨after, flow, _⟩ := filled_flow shown name closed permits
  exact flow.heading

/-- The code of a definition is a body. -/
theorem hasBody_compile (closed : body.Scoped names.reverse) :
    (compile callee names body (.declared name shown)).hasBody = true := by
  have permits : Permits (fun _ _ => True) callee body.calls := fun _ _ => trivial
  obtain ⟨after, flow, _⟩ := filled_flow shown name closed permits
  have grown := (flow.extension (opened_isOpen name shown)).size_le
  have blocks : 1 ≤ (compile callee names body (.declared name shown)).blocks.size := by
    refine Nat.le_trans grown ?_
    rw [← size_finish _ (.ret (filled callee names body (.declared name shown)).1)]
    exact Nat.le_refl _
  simp only [Routine.hasBody, Array.isEmpty, Bool.not_eq_true', decide_eq_false_iff_not]
  omega

/-- A definition is compiled to a well-formed routine. -/
theorem compile_wellFormed {unit : CodeUnit} (closed : body.Scoped names.reverse)
    (count : shown.length = names.length)
    (callable : ∀ call ∈ body.calls, ∃ called, unit.routines[callee call.1]? = some called ∧
      called.parameters.length = call.2) :
    (compile callee names body (.declared name shown)).WellFormed unit := by
  let allowed : Nat → Nat → Prop := fun id arguments =>
    ∃ called, unit.routines[id]? = some called ∧ called.parameters.length = arguments
  obtain ⟨⟨lists, certified⟩, terminated⟩ := compile_certified shown name closed
    (show Permits allowed callee body.calls from callable)
  refine certified.wellFormed terminated ?_ fun _ _ found => found
  rw [(compile_heading closed).2]
  exact count

end Filled

end Kaleidoscope.Code.Draft
