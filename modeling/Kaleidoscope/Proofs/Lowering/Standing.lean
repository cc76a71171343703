import Kaleidoscope.Batch
import Kaleidoscope.Proofs.Lowering.Checking

/-!
# What lowering decides between forms

Between the forms of a batch the registry and a ledger say what becomes of the forms to come. A form
is checked with its own entry in the registry already; if that fails, the entry is taken back, and
so is what the ledger holds for its name, unless a definition that is complete calls it
(`Check.undo`).
-/
namespace Kaleidoscope

/-- What decides about forms: the registry, and what the names of the unit mean. -/
structure Standing where
  /-- The definitions and declarations known. -/
  registry : Registry
  /-- What the unit holds for each name. -/
  ledger : Ledger

/-- An expression to run, as it stands in a batch. -/
structure Task where
  /-- The form, counted from zero. -/
  index : Nat
  /-- The place of the form. -/
  span : Span
  /-- The expression. -/
  body : Expr

namespace Expr

/-- The expression that a form runs. -/
def job? : Expr → Option Expr
  | function signature body _ => if signature.isAnonymous then some body else none
  | _ => none

/-- The forms that run an expression are known by their name. -/
theorem isAnonymous_of_job? {form : Expr} {body : Option Expr} (job : form.job? = body) :
    form.isAnonymous = body.isSome := by
  subst job
  cases form with
  | function signature body span =>
    rw [isAnonymous, job?]
    cases signature.isAnonymous <;> rfl
  | _ => rfl

end Expr

namespace Check

/-- What is held after a form of some name has failed: the name is free again if it was free before
and neither has a body now nor is called. -/
def undo (name : String) (before after : Ledger) : Ledger :=
  if (before.known name).isSome ∨ (after.source? name).isSome ∨ name ∈ after.used then after
  else after.set name none

/-- Check a form that introduces a name. -/
def introduce (name : String) (entry : Entry) (action : Registry → Check PUnit) :
    EStateM LowerError Standing PUnit := fun before =>
  let registry := before.registry.insert name entry
  match action registry before.ledger with
  | .ok _ ledger => .ok ⟨⟩ ⟨registry, ledger⟩
  | .error error ledger =>
    .error error ⟨registry.restore name (before.registry.lookup? name),
      undo name before.ledger ledger⟩

/-- Check an expression to run. -/
def job (registry : Registry) (depth : Nat) (body : Expr) : Check PUnit :=
  fillWith id id body (expr registry (recallWithin registry depth) [] body)

/-- Check a form. -/
def form : Expr → EStateM LowerError Standing PUnit
  | .function signature body _ => fun before =>
    let depth := before.registry.definitionCount + (body.definitionCount + 1)
    if signature.isAnonymous then
      match job before.registry depth body before.ledger with
      | .ok _ ledger => .ok ⟨⟩ { before with ledger := ledger }
      | .error error ledger => .error error { before with ledger := ledger }
    else
      introduce signature.linkedName (.function signature body) (fun registry =>
        define signature body fun names =>
          expr registry (recallWithin registry depth) names body) before
  | .declaration signature _ =>
    introduce signature.linkedName (.declaration signature) fun _ => declare signature
  | other => throw (.expectedFunction other.span)

section Equations

variable {signature : Prototype} {body : Expr} {span : Span} {before : Standing}

/-- An expression to run is checked with the registry as it is. -/
theorem form_job (anonymous : signature.isAnonymous = true) :
    form (.function signature body span) before =
      match job before.registry (before.registry.definitionCount + (body.definitionCount + 1)) body
        before.ledger with
      | .ok _ ledger => .ok ⟨⟩ { before with ledger := ledger }
      | .error error ledger => .error error { before with ledger := ledger } :=
  if_pos anonymous

/-- A definition is checked with its own entry in the registry. -/
theorem form_definition (named : signature.isAnonymous = false) :
    form (.function signature body span) before =
      introduce signature.linkedName (.function signature body) (fun registry =>
        define signature body fun names =>
          expr registry (recallWithin registry (before.registry.definitionCount +
            (body.definitionCount + 1))) names body) before :=
  if_neg (by simp [named])

/-- A declaration is checked with its own entry in the registry. -/
theorem form_declaration :
    form (.declaration signature span) before =
      introduce signature.linkedName (.declaration signature) (fun _ => declare signature) before :=
  rfl

end Equations

/-- The expression that a form runs, with its place in the batch. -/
def task? (index : Nat) (form : Expr) : Option Task := form.job?.map (⟨index, form.span, ·⟩)

/-- Check forms in order, counting from an index: the expressions to run, the errors, and what
decides about forms afterwards. -/
def forms (standing : Standing) (index : Nat) :
    List Expr → List Task × List FormError × Standing
  | [] => ([], [], standing)
  | tree :: rest =>
    match form tree standing with
    | .ok _ standing =>
      let (tasks, errors, last) := forms standing (index + 1) rest
      ((task? index tree).toList ++ tasks, errors, last)
    | .error error standing =>
      let (tasks, errors, last) := forms standing (index + 1) rest
      (tasks, .ofForm index tree error :: errors, last)

end Check

namespace Registry

variable {registry : Registry}

/-- What is restored is found; every other entry stays what it was. -/
theorem lookup?_restore (registry : Registry) (name other : String) (entry : Option Entry) :
    (registry.restore name entry).lookup? other =
      if other = name then entry else registry.lookup? other := by
  cases entry with
  | none => exact lookup?_erase registry name other
  | some entry => exact lookup?_insert registry name other entry

/-- An entry that is taken back leaves every entry as it was. -/
theorem lookup?_restore_insert (registry : Registry) (name other : String) (entry : Entry) :
    ((registry.insert name entry).restore name (registry.lookup? name)).lookup? other =
      registry.lookup? other := by
  rw [lookup?_restore, lookup?_insert]
  split
  · next same => rw [same]
  · rfl

/-- The registry of a new session is sound. -/
theorem isSound_empty : empty.IsSound where
  linked found := by contradiction
  ordinary found := by contradiction
  bodies found := by contradiction

/-- A registry with the same entries is sound as well. -/
theorem IsSound.congr {other : Registry} (sound : registry.IsSound)
    (same : ∀ name, other.lookup? name = registry.lookup? name) : other.IsSound where
  linked found := sound.linked (by rwa [same] at found)
  ordinary found := sound.ordinary (by rwa [same] at found)
  bodies found := sound.bodies (by rwa [same] at found)

/-- The entry of a form as the parser builds it keeps a registry sound. -/
theorem IsSound.insert (sound : registry.IsSound) (entry : Entry)
    (named : entry.prototype.isAnonymous = false)
    (ordinary : IsOrdinary entry.prototype.linkedName)
    (bodies : ∀ prototype body, entry = .function prototype body →
      body.IsBody ∧ body.CallsOrdinary) :
    (registry.insert entry.prototype.linkedName entry).IsSound where
  linked := by
    intro name other found
    rw [lookup?_insert] at found
    split at found
    · next same =>
      cases found
      exact same.symm
    · exact sound.linked found
  ordinary := by
    intro name other found
    rw [lookup?_insert] at found
    split at found
    · next same =>
      cases found
      exact ⟨named, same ▸ ordinary⟩
    · exact sound.ordinary found
  bodies := by
    intro name prototype body found
    rw [lookup?_insert] at found
    split at found
    · cases found
      exact bodies prototype body rfl
    · exact sound.bodies found

end Registry

end Kaleidoscope
