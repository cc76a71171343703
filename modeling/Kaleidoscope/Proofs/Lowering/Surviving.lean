import Kaleidoscope.Proofs.Lowering.Forms
import Kaleidoscope.Proofs.Lowering.Succeeding
import Kaleidoscope.Proofs.Lowering.Weaving

/-!
# What no failure changes

An operation of the builder may fail wherever it is used, and for whatever reason. What lowering
keeps all the same is shown step by step: it has to survive what fills routines, declaring a routine
for an entry of the registry, and stripping one after a failure (`Lowering.Stable`). Then it survives
the lowering of bodies, however deeply definitions are nested in them
(`Lowering.Stable.recallWithin`).

Nothing that lowers a body closes the open unit or touches the registry, so both are as they were
however the body ends. A form adds its own entry to the registry and takes it back if it fails, so
the registry afterwards is decided by which forms failed (`Lower.survives_form`).
-/
namespace Kaleidoscope

open Code

/-- Something that holds of the state of lowering while bodies are lowered with a registry. -/
structure Lowering.Stable (registry : Registry) (holds : Lowering → Prop) : Prop where
  /-- The registry stays. -/
  registry_eq : ∀ {state : Lowering}, holds state → state.registry = registry
  /-- Routines may be filled. -/
  lasting : ∀ (registry : Registry) (anonymous : Nat),
    Builder.Lasting fun builder => holds ⟨builder, registry, anonymous⟩
  /-- Routines may be stripped. -/
  discard : ∀ {state : Lowering} (id : Nat), holds state →
    holds { state with builder := state.builder.discardBody id }
  /-- Entries of the registry may be declared. -/
  declare : ∀ {prototype : Prototype}, prototype.isAnonymous = false →
    IsOrdinary prototype.linkedName → Preserves holds (Lower.declare prototype)

namespace Lowering.Stable

open Lower

variable {registry : Registry} {holds : Lowering → Prop} (stable : Stable registry holds)

/-- Definitions of the registry are lowered without an end to what holds. -/
def Revives (registry : Registry) (holds : Lowering → Prop) (revive : Revival) : Prop :=
  ∀ {name : String} {prototype : Prototype} {body : Expr},
    registry.lookup? name = some (.function prototype body) →
      Preserves holds (revive prototype body)

include stable

/-- Operations that fill routines. -/
theorem build {α : Type} {action : Build α}
    (lasts : ∀ (holds : Builder → Prop) [Builder.Lasting holds], Preserves holds action) :
    Preserves holds (Lower.build action) := by
  rintro ⟨builder, registry, anonymous⟩ held
  have := stable.lasting registry anonymous
  have kept := lasts (fun builder => holds ⟨builder, registry, anonymous⟩) builder held
  unfold Lower.build
  cases ran : action builder <;> simp only [ran] at kept <;> exact kept

/-- Going on with an earlier block. -/
theorem inDefinition {α : Type} (name : String) (span : Span) (saved : Option BlockRef)
    {action : Lower α} (inside : Preserves holds action) :
    Preserves holds (Lower.inDefinition name span saved action) := by
  have back : ∀ {state : Lowering} (block : BlockRef), holds state →
      holds { state with builder := state.builder.moveTo block } := fun {state} block held =>
    (stable.lasting state.registry state.anonymous).cursor (some block) held
  intro state held
  have kept := inside state held
  unfold Lower.inDefinition
  cases ran : action state with
  | ok value state =>
    simp only [ran] at kept ⊢
    cases saved with
    | none => exact kept
    | some block => exact back block kept
  | error error state =>
    simp only [ran] at kept ⊢
    cases error <;> cases saved <;> first | exact kept | exact back _ kept

/-- Stripping a routine of its body after a failure. -/
theorem discardingOnError (id : Nat) {action : Lower PUnit} (inside : Preserves holds action) :
    Preserves holds (Lower.discardingOnError id action) := by
  intro state held
  have kept := inside state held
  unfold Lower.discardingOnError
  cases ran : action state <;> simp only [ran] at kept ⊢
  · exact kept
  · exact stable.discard id kept

variable {revive : Revival}

/-- The routine that a call goes to. -/
theorem resolve (sound : registry.IsSound) (revives : Revives registry holds revive) (name : String)
    (span : Span) : Preserves holds (Lower.resolve revive name span) := by
  refine .get fun state held => ?_
  simp only [stable.registry_eq held]
  split
  · exact .pure _
  · split
    · next prototype body found =>
      exact .bind (stable.build fun _ _ => Build.preserves_ask _ _) fun saved =>
        stable.inDefinition _ _ _ (revives found)
    · next prototype found =>
      split
      · exact .pure _
      · obtain rfl : prototype.linkedName = name := sound.linked found
        exact stable.declare (sound.ordinary found).1 (sound.ordinary found).2
    · exact .throw _

/-- What bodies are woven from. -/
theorem woven (sound : registry.IsSound) (revives : Revives registry holds revive) {α : Type}
    {action : Revival → Lower α} (woven : Woven action) : Preserves holds (action revive) := by
  induction woven with
  | pure value => exact .pure value
  | throw error => exact .throw error
  | build lasts => exact stable.build lasts
  | resolve name span => exact stable.resolve sound revives name span
  | get _ back => exact .get fun state _ => back state
  | bind _ _ front back => exact .bind front back

/-- A definition whose routine can be declared. -/
theorem define (sound : registry.IsSound) (revives : Revives registry holds revive)
    {prototype : Prototype} {body : Expr} (isBody : body.IsBody)
    (declares : Preserves holds (Lower.declare prototype)) :
    Preserves holds (Lower.define prototype fun scope => do
      asValue body.span (← lower revive scope body)) :=
  .bind declares fun id => .bind (stable.discardingOnError id
    (stable.woven sound revives (woven_fill id prototype.parameters (woven_value isBody))))
      fun _ => .pure _

/-- Definitions of the registry, however deeply others are nested in them. -/
theorem recallWithin (sound : registry.IsSound) (depth : Nat) :
    Revives registry holds (Lower.recallWithin depth) := by
  induction depth with
  | zero => exact fun _ => .throw _
  | succ depth hypothesis =>
    intro name prototype body found
    obtain rfl : prototype.linkedName = name := sound.linked found
    exact stable.define sound hypothesis (sound.bodies found).1
      (stable.declare (sound.ordinary found).1 (sound.ordinary found).2)

end Lowering.Stable

/-- A unit of some name is open. -/
def Builder.IsOpen (name : String) (builder : Builder) : Prop :=
  builder.unit.map (·.name) = some name

namespace Build

variable {name : String} {builder : Builder}

/-- Changing a routine keeps the unit open. -/
theorem isOpen_changeRoutine (id : Nat) (change : Routine → Routine) (isOpen : builder.IsOpen name) :
    (builder.changeRoutine id change).IsOpen name := by
  rw [Builder.IsOpen, Builder.changeRoutine, Option.map_map]
  exact isOpen

/-- A unit is open while routines are filled. -/
instance : Builder.Lasting (Builder.IsOpen name) where
  faults _ isOpen := isOpen
  cursor _ isOpen := isOpen
  change _ isOpen := isOpen_changeRoutine _ _ isOpen

/-- Declaring a routine. -/
theorem preserves_declareFunction (own : String) (parameters : List String) :
    Preserves (Builder.IsOpen name) (declareFunction own parameters) := by
  refine .bind (preserves_attempt _) fun _ => .get fun builder isOpen => ?_
  split
  · exact .throw _
  · next unit held =>
    refine .bind (.modify fun _ _ => ?_) fun _ => .pure _
    rwa [Builder.IsOpen, held] at isOpen

/-- Completing the unit. -/
theorem preserves_finishUnit : Preserves (Builder.IsOpen name) finishUnit := by
  refine .bind (preserves_attempt _) fun _ => .get fun builder _ => ?_
  split
  · exact .throw _
  · split
    · exact .throw _
    · exact .pure _

end Build

/-- The registry is a given one, and a unit of some name is open. -/
structure Lowering.IsWithin (registry : Registry) (name : String) (state : Lowering) : Prop where
  /-- The registry. -/
  registry_eq : state.registry = registry
  /-- The unit. -/
  isOpen : state.builder.IsOpen name

namespace Lower

open Build

variable {registry : Registry} {name : String}

/-- Actions of the builder leave the registry alone. -/
theorem preserves_build {α : Type} {action : Build α}
    (preserves : Preserves (Builder.IsOpen name) action) :
    Preserves (Lowering.IsWithin registry name) (build action) := by
  intro state within
  have kept := preserves state.builder within.isOpen
  unfold build
  cases ran : action state.builder <;> simp only [ran] at kept <;>
    exact ⟨within.registry_eq, kept⟩

/-- The routine of a prototype. -/
theorem preserves_declare (prototype : Prototype) :
    Preserves (Lowering.IsWithin registry name) (declare prototype) := by
  unfold declare
  cases duplicate? [] prototype.parameters with
  | some own => exact .throw _
  | none =>
    cases prototype.isAnonymous with
    | true =>
      exact .get fun _ _ => .bind (.modify fun _ within => ⟨within.registry_eq, within.isOpen⟩)
        fun _ => preserves_build (preserves_declareFunction _ _)
    | false =>
      refine .get fun state _ => ?_
      simp only
      split
      · exact preserves_build (preserves_declareFunction _ _)
      · split
        · exact .throw _
        · split
          · exact .throw _
          · exact .pure _

/-- The registry and the open unit stay while bodies are lowered. -/
theorem stable_isWithin (registry : Registry) (name : String) :
    Lowering.Stable registry (Lowering.IsWithin registry name) where
  registry_eq within := within.registry_eq
  lasting _ _ :=
    { faults := fun _ within => ⟨within.registry_eq, within.isOpen⟩
      cursor := fun _ within => ⟨within.registry_eq, within.isOpen⟩
      change := fun _ within => ⟨within.registry_eq, isOpen_changeRoutine _ _ within.isOpen⟩ }
  discard id within :=
    ⟨within.registry_eq, isOpen_changeRoutine id Routine.withoutBody within.isOpen⟩
  declare _ _ := preserves_declare _

/-- Undoing what a form has introduced keeps the unit open. -/
theorem isOpen_undo {before after : Lowering} (own : String) (isOpen : after.builder.IsOpen name) :
    (undo own before after).builder.IsOpen name := by
  unfold undo
  simp only
  split
  · exact isOpen
  · split
    · rw [Builder.IsOpen, Builder.forget, Option.map_map, ← isOpen]
      refine congrArg (Option.map · _) (funext fun unit => ?_)
      simp only [Function.comp_apply, CodeUnit.forget]
      split
      · rfl
      · split <;> rfl
    · exact isOpen

/-- What a form does to the registry and to the open unit: if it fails, all names mean what they
meant before. -/
def Survives (tree : Expr) (name : String) (before : Lowering) :
    EStateM.Result LowerError Lowering Nat → Prop
  | .ok _ after => after.registry = before.registry.enter tree ∧ after.builder.IsOpen name
  | .error _ after =>
    (∀ own, after.registry.lookup? own = before.registry.lookup? own) ∧ after.builder.IsOpen name

/-- What has been done with the entry of a form in the registry survives if it succeeds and is
undone if it fails. -/
theorem survives_introduce {tree : Expr} {before : Lowering} (entry : Entry) {action : Lower Nat}
    (introduces : tree.entry? = some entry) (isOpen : before.builder.IsOpen name)
    (preserves : Preserves (Lowering.IsWithin
      (before.registry.insert entry.prototype.linkedName entry) name) action) :
    Survives tree name before
      (undone entry.prototype.linkedName before (action ⟨before.builder,
        before.registry.insert entry.prototype.linkedName entry, before.anonymous⟩)) := by
  have ends := preserves ⟨before.builder,
    before.registry.insert entry.prototype.linkedName entry, before.anonymous⟩ ⟨rfl, isOpen⟩
  split at ends
  · next id after ran =>
    rw [ran]
    refine ⟨?_, ends.isOpen⟩
    rw [ends.registry_eq, Registry.enter, introduces]
  · next error after ran =>
    rw [ran]
    refine ⟨fun own => ?_, isOpen_undo _ ends.isOpen⟩
    show (after.registry.restore _ _).lookup? own = _
    rw [ends.registry_eq]
    exact Registry.lookup?_restore_insert _ _ _ _

variable (name) in
/-- The body of a definition is lowered without a change of the registry. -/
theorem preserves_definition {registry : Registry} (sound : registry.IsSound) (signature : Prototype)
    {body : Expr} (isBody : body.IsBody) (depth : Nat) :
    Preserves (Lowering.IsWithin registry name) (define signature fun scope => do
      asValue body.span (← lower (recallWithin depth) scope body)) :=
  (stable_isWithin registry name).define sound
    ((stable_isWithin registry name).recallWithin sound depth) isBody (preserves_declare _)

/-- A form that succeeds enters the registry, and one that fails leaves all names as they were,
whatever has failed. -/
theorem survives_form {tree : Expr} (isForm : tree.IsForm) {before : Lowering}
    (sound : before.registry.IsSound) (isOpen : before.builder.IsOpen name) :
    Survives tree name before (form tree before) := by
  have entered := sound.enter isForm
  cases isForm with
  | @job signature body span anonymous closed isBody calls =>
    have ends := preserves_definition name sound signature isBody
      (before.registry.definitionCount + (body.definitionCount + 1)) before ⟨rfl, isOpen⟩
    rw [form_job_eq span before anonymous]
    split at ends
    · next id after ran =>
      rw [ran]
      refine ⟨?_, ends.isOpen⟩
      simp only [ends.registry_eq, Registry.enter, Expr.entry?, anonymous, if_true]
    · next error after ran =>
      rw [ran]
      exact ⟨fun own => by rw [ends.registry_eq], ends.isOpen⟩
  | @definition signature body span named ordinary isBody calls =>
    have introduces : Expr.entry? (.function signature body span) = some (.function signature body) :=
      if_neg (by simp [named])
    rw [Registry.enter, introduces] at entered
    rw [form_definition_eq span before named]
    exact survives_introduce (.function signature body) introduces isOpen
      (preserves_definition name entered signature isBody _)
  | @declaration signature span named ordinary =>
    rw [form_declaration_eq span before]
    exact survives_introduce (.declaration signature) rfl isOpen (preserves_declare _)

end Lower

end Kaleidoscope
