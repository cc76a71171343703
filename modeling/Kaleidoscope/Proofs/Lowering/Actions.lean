import Kaleidoscope.Lowering.Basic

/-!
# Steps of actions

What reading and changing the state of an action come to, what holds of the state that an action
leaves behind, however it ends (`EndsIn`), and what it leaves as it was (`Preserves`).
-/
namespace Kaleidoscope

variable {ε σ α : Type} (state : σ)

/-- Reading the state changes nothing. -/
theorem get_apply : (get : EStateM ε σ σ) state = .ok state state := rfl

/-- Changing the state yields nothing. -/
theorem modify_apply (change : σ → σ) :
    (modify change : EStateM ε σ PUnit) state = .ok ⟨⟩ (change state) := rfl

/-- One action after another. -/
theorem bind_apply {β : Type} (action : EStateM ε σ α) (next : α → EStateM ε σ β) :
    (action >>= next) state =
      match action state with
      | .ok value after => next value after
      | .error error after => .error error after := by
  show EStateM.bind _ _ _ = _
  unfold EStateM.bind
  cases action state <;> rfl

/-- An action that is done for the value after it. -/
theorem return_apply (action : EStateM ε σ PUnit) (value : α) :
    (do action; return value : EStateM ε σ α) state =
      match action state with
      | .ok _ after => .ok value after
      | .error error after => .error error after := by
  rw [bind_apply]
  cases action state <;> rfl

/-- What holds of the state that an outcome leaves behind, be it a success or a failure. -/
def EndsIn {ε σ α : Type} (post : σ → Prop) : EStateM.Result ε σ α → Prop
  | .ok _ last | .error _ last => post last

namespace EndsIn

variable {ε σ α : Type} {post rest : σ → Prop} {result : EStateM.Result ε σ α}

/-- What follows from what holds afterwards. -/
theorem imp (ends : EndsIn post result) (implies : ∀ last, post last → rest last) :
    EndsIn rest result := by
  cases result <;> exact implies _ ends

/-- Two things that hold afterwards. -/
theorem both (first : EndsIn post result) (second : EndsIn rest result) :
    EndsIn (fun last => post last ∧ rest last) result := by
  cases result <;> exact ⟨first, second⟩

end EndsIn

/-- What holds of the state before an action holds of the one after it, whether the action succeeds
or fails. -/
def Preserves {ε σ α : Type} (holds : σ → Prop) (action : EStateM ε σ α) : Prop :=
  ∀ first, holds first → match action first with
    | .ok _ last => holds last
    | .error _ last => holds last

namespace Preserves

variable {ε σ α β : Type} {holds : σ → Prop} {action : EStateM ε σ α}

/-- What holds before an action is what its outcome ends in. -/
theorem endsIn {first : σ} (preserves : Preserves holds action) (held : holds first) :
    EndsIn holds (action first) := by
  have last := preserves first held
  cases ran : action first <;> simp only [ran] at last <;> exact last

/-- Yielding a value. -/
theorem pure (value : α) : Preserves holds (Pure.pure value : EStateM ε σ α) := fun _ held => held

/-- Failing. -/
theorem throw (error : ε) : Preserves holds (MonadExcept.throw error : EStateM ε σ α) :=
  fun _ held => held

/-- One action after another. -/
theorem bind {next : α → EStateM ε σ β} (front : Preserves holds action)
    (back : ∀ value, Preserves holds (next value)) : Preserves holds (action >>= next) := by
  intro first held
  have between := front first held
  simp only [Bind.bind, EStateM.bind]
  cases ran : action first with
  | ok value middle =>
    simp only [ran] at between
    exact back value middle between
  | error error middle =>
    simp only [ran] at between
    exact between

/-- Reading the state. -/
theorem get {next : σ → EStateM ε σ β} (back : ∀ state, holds state → Preserves holds (next state)) :
    Preserves holds (get >>= next) :=
  fun first held => back first held first held

/-- Changing the state. -/
theorem modify {change : σ → σ} (kept : ∀ state, holds state → holds (change state)) :
    Preserves holds (modify change : EStateM ε σ PUnit) :=
  fun first held => kept first held

end Preserves

end Kaleidoscope
