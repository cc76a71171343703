import Kaleidoscope.Proofs.Lowering.Forms
import Kaleidoscope.Proofs.Lowering.Weaving

/-!
# Visits of definitions

A call of a definition of the registry lowers that definition on the spot, and this one may call
others in turn, in circles even. Nothing in the rules bounds that, other than a depth that is given
beforehand (`Lower.recallWithin`).

Here it is said without such a depth. What lowering asks of the registry is a list of visits, each
in the state in which the definition is met (`Revival.Asks`). Lowering ends if each of its visits
ends (`Visit.Ends`, `Lower.FormEnds`), and there is only one way in which it can end
(`Lower.FormEnds.unique`).
-/
namespace Kaleidoscope

/-- A definition of the registry, met in some state. -/
structure Visit where
  /-- Its prototype. -/
  prototype : Prototype
  /-- Its body. -/
  body : Expr
  /-- The state. -/
  state : Lowering

namespace Revival

/-- What becomes of a visit. -/
def answer (revive : Revival) (visit : Visit) : EStateM.Result LowerError Lowering Nat :=
  revive visit.prototype visit.body visit.state

/-- What follows from how definitions are lowered asks for some visits one after the other: nothing
else about that matters, and which visit comes next is decided by the answers before it. -/
inductive Asks {α : Type} (revive : Revival) : (Revival → α) → List Visit → Prop
  /-- Nothing more is asked. -/
  | nothing (result : α) : Asks revive (fun _ => result) []
  /-- One visit, and then what its answer leads to. -/
  | visit {visits : List Visit} (visit : Visit)
      (rest : EStateM.Result LowerError Lowering Nat → Revival → α)
      (others : Asks revive (rest (revive.answer visit)) visits) :
      Asks revive (fun other => rest (other.answer visit) other) (visit :: visits)

namespace Asks

variable {α β : Type} {revive : Revival} {visits more : List Visit}

/-- What follows from the result asks for the visits of both. -/
theorem bind {front : Revival → α} (asks : Asks revive front visits) (back : α → Revival → β)
    (follows : Asks revive (back (front revive)) more) :
    Asks revive (fun other => back (front other) other) (visits ++ more) := by
  induction asks with
  | nothing result => exact follows
  | visit visit rest _ hypothesis =>
    exact .visit visit (fun answer other => back (rest answer other) other) (hypothesis follows)

/-- What is done with the result asks for nothing more. -/
theorem map {outcome : Revival → α} (asks : Asks revive outcome visits) (change : α → β) :
    Asks revive (fun other => change (outcome other)) visits := by
  have both := asks.bind (fun result _ => change result) (.nothing (change (outcome revive)))
  rwa [List.append_nil] at both

/-- Answers to other visits do not matter. -/
theorem eq_of_answers {outcome : Revival → α} (asks : Asks revive outcome visits) (other : Revival)
    (same : ∀ visit ∈ visits, other.answer visit = revive.answer visit) :
    outcome other = outcome revive := by
  induction asks with
  | nothing result => rfl
  | visit visit _ _ hypothesis =>
    simp only [same visit List.mem_cons_self]
    exact hypothesis fun later member => same later (List.mem_cons_of_mem _ member)

end Asks

end Revival

/-- Lowering a definition ends, with definitions nested to some depth at most, after the bodies of
some definitions have been entered in this order. -/
inductive Visit.Ends : Nat → Visit → EStateM.Result LowerError Lowering Nat → List String → Prop
  /-- The body of the definition is entered, and then those that it asks for. -/
  | enter {depth : Nat} {prototype : Prototype} {body : Expr} {state : Lowering} (revive : Revival)
      (inner : List (Visit × List String))
      (asks : revive.Asks (fun revive => Lower.define prototype (fun scope => do
        Lower.asValue body.span (← Lower.lower revive scope body)) state) (inner.map (·.1)))
      (ends : ∀ entry ∈ inner, Ends depth entry.1 (revive.answer entry.1) entry.2) :
      Ends (depth + 1) ⟨prototype, body, state⟩
        (Lower.define prototype (fun scope => do
          Lower.asValue body.span (← Lower.lower revive scope body)) state)
        (prototype.linkedName :: inner.flatMap (·.2))

namespace Revival

/-- What asks for the same visits comes to the same, if the answers to these agree. -/
theorem Asks.unique {α : Type} {first second : Revival} {outcome : Revival → α}
    {visits more : List Visit} (asks : first.Asks outcome visits) (others : second.Asks outcome more)
    (same : ∀ visit ∈ visits, visit ∈ more → first.answer visit = second.answer visit) :
    outcome first = outcome second := by
  classical
  -- Both rules at once: the first where it is asked, and the second anywhere else.
  let mixed : Revival := fun prototype body state =>
    if (⟨prototype, body, state⟩ : Visit) ∈ visits then first prototype body state
    else second prototype body state
  have answer : ∀ visit, mixed.answer visit =
      if visit ∈ visits then first.answer visit else second.answer visit := fun _ => rfl
  rw [← asks.eq_of_answers mixed fun visit member => by rw [answer, if_pos member]]
  refine others.eq_of_answers mixed fun visit member => ?_
  rw [answer]
  split
  · next early => exact same visit early member
  · rfl

end Revival

/-- Lowering a definition ends in one way only. -/
theorem Visit.Ends.unique {depth more : Nat} {visit : Visit}
    {result other : EStateM.Result LowerError Lowering Nat} {names later : List String}
    (ends : Ends depth visit result names) (again : Ends more visit other later) :
    result = other := by
  induction ends generalizing more other later with
  | enter revive inner asks _ hypothesis =>
    cases again with
    | enter second outer others deeper =>
      refine asks.unique others fun visit early late => ?_
      obtain ⟨entry, member, rfl⟩ := List.mem_map.1 early
      obtain ⟨twin, shared, same⟩ := List.mem_map.1 late
      exact hypothesis entry member (same ▸ deeper twin shared)

namespace Lower

variable {depth : Nat} {state : Lowering}

/-- Lowering a form ends, with definitions nested to some depth at most, after the bodies of some
definitions of the registry have been entered in this order. -/
inductive FormEnds (depth : Nat) (tree : Expr) (state : Lowering) :
    EStateM.Result LowerError Lowering Nat → List String → Prop
  /-- What the form asks for ends. -/
  | lower (revive : Revival) (inner : List (Visit × List String))
      (asks : revive.Asks (fun other => formWith other tree state) (inner.map (·.1)))
      (ends : ∀ entry ∈ inner, entry.1.Ends depth (revive.answer entry.1) entry.2) :
      FormEnds depth tree state (formWith revive tree state) (inner.flatMap (·.2))

/-- Lowering a form ends in one way only. -/
theorem FormEnds.unique {more : Nat} {tree : Expr}
    {result other : EStateM.Result LowerError Lowering Nat} {names later : List String}
    (ends : FormEnds depth tree state result names) (again : FormEnds more tree state other later) :
    result = other := by
  obtain ⟨first, inner, asks, ends⟩ := ends
  obtain ⟨second, outer, others, deeper⟩ := again
  refine asks.unique others fun visit early late => ?_
  obtain ⟨entry, member, rfl⟩ := List.mem_map.1 early
  obtain ⟨twin, shared, same⟩ := List.mem_map.1 late
  exact (ends entry member).unique (same ▸ deeper twin shared)

end Lower

end Kaleidoscope
