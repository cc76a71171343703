import Kaleidoscope.Proofs.Lowering.Keeping

/-!
# Forms that can be lowered

A form that can be lowered enters the registry if it is a definition or a declaration, and whatever
holds of all entries then holds of all names that the unit knows (`Check.known_form`). So after forms
that can all be lowered, the unit holds for each name what the registry says
(`Check.current_forms`).
-/
namespace Kaleidoscope

namespace Expr

/-- What a form introduces. -/
def entry? : Expr → Option Entry
  | function signature body _ =>
    if signature.isAnonymous then none else some (.function signature body)
  | declaration signature _ => some (.declaration signature)
  | _ => none

/-- The name that a form introduces. -/
def introduced? (form : Expr) : Option String := form.entry?.map (·.prototype.linkedName)

end Expr

namespace Registry

/-- The registry after a form that could be lowered. -/
def enter (registry : Registry) (form : Expr) : Registry :=
  match form.entry? with
  | some entry => registry.insert entry.prototype.linkedName entry
  | none => registry

/-- The registry after forms that could be lowered. -/
def enterAll (registry : Registry) (forms : List Expr) : Registry := forms.foldl enter registry

/-- The entry of a form is found under its name; every other stays what it was. -/
theorem lookup?_enter (registry : Registry) (form : Expr) (name : String) :
    (registry.enter form).lookup? name =
      if form.introduced? = some name then form.entry? else registry.lookup? name := by
  unfold enter Expr.introduced?
  cases form.entry? with
  | none => simp
  | some entry => simp only [lookup?_insert, Option.map_some, Option.some.injEq, eq_comm]

/-- A form as the parser builds it keeps a registry sound. -/
theorem IsSound.enter {registry : Registry} (sound : registry.IsSound) {form : Expr}
    (isForm : form.IsForm) : (registry.enter form).IsSound := by
  cases isForm with
  | job span anonymous closed isBody calls => simpa [Registry.enter, Expr.entry?, anonymous]
  | @definition signature body span named ordinary isBody calls =>
    simp only [Registry.enter, Expr.entry?, named, Bool.false_eq_true, if_false]
    refine sound.insert (.function signature body) named ordinary fun _ _ same => ?_
    cases same
    exact ⟨isBody, calls⟩
  | @declaration signature span named ordinary =>
    exact sound.insert (.declaration signature) named ordinary fun _ _ same => by
      cases same

end Registry

namespace Check

variable {tree : Expr} {before after : Standing} {done : PUnit} {error : LowerError}

/-- An introduction that succeeds keeps its entry. -/
theorem of_introduce_ok {name : String} {entry : Entry} {action : Registry → Check PUnit}
    (same : introduce name entry action before = .ok done after) :
    after.registry = before.registry.insert name entry ∧
      action after.registry before.ledger = .ok done after.ledger := by
  simp only [introduce] at same
  split at same
  · next inside =>
    cases same
    exact ⟨rfl, inside⟩
  · contradiction

/-- A form that can be lowered enters the registry. -/
theorem registry_form (same : form tree before = .ok done after) :
    after.registry = before.registry.enter tree := by
  cases tree with
  | function signature body span =>
    cases named : signature.isAnonymous with
    | true =>
      rw [form_job named] at same
      split at same
      · cases same
        simp only [Registry.enter, Expr.entry?, named, if_true]
      · contradiction
    | false =>
      rw [form_definition named] at same
      simp only [Registry.enter, Expr.entry?, named, Bool.false_eq_true, if_false]
      exact (of_introduce_ok same).1
  | declaration signature span =>
    rw [form_declaration] at same
    exact (of_introduce_ok same).1
  | _ => contradiction

/-- Whatever holds of all entries afterwards, and of all names but that of the form, holds of all
names after a form that can be lowered. -/
theorem known_form {holds : String → Status → Prop} (isForm : tree.IsForm)
    (sound : before.registry.IsSound) (same : form tree before = .ok done after)
    (entries : (before.registry.enter tree).Entries holds)
    (others : ∀ name status, tree.introduced? ≠ some name →
      before.ledger.known name = some status → holds name status) : after.ledger.Known holds := by
  have registry := registry_form same
  have registered := sound.enter isForm
  rw [← registry] at entries registered
  cases isForm with
  | @job signature body span anonymous closed isBody calls =>
    rw [form_job anonymous] at same
    split at same
    · next inside =>
      cases same
      unfold job fillWith at inside
      split at inside
      · next noted checked =>
        cases inside
        have calls := keeps_callee registered entries (keeps_recallWithin registered entries
          (before.registry.definitionCount + (body.definitionCount + 1)))
        refine keeps_expr calls body [] _ _ noted (fun name status => ?_) checked
        refine others name status ?_
        simp [Expr.introduced?, Expr.entry?, anonymous]
      · contradiction
    · contradiction
  | @definition signature body span named ordinary isBody calls =>
    rw [form_definition named] at same
    have introduced := (of_introduce_ok same).2
    have found : after.registry.lookup? signature.linkedName = some (.function signature body) := by
      rw [(of_introduce_ok same).1, Registry.lookup?_insert, if_pos rfl]
    refine keeps_define (entries _ _ found) (keeps_expr (keeps_callee registered entries
      (keeps_recallWithin registered entries _)) body _) (fun name status other known => ?_) introduced
    refine others name status ?_ known
    simp only [Expr.introduced?, Expr.entry?, named, Bool.false_eq_true, if_false, Option.map_some]
    exact fun equal => other (Option.some.inj equal).symm
  | @declaration signature span named ordinary =>
    rw [form_declaration] at same
    have introduced := (of_introduce_ok same).2
    have found : after.registry.lookup? signature.linkedName = some (.declaration signature) := by
      rw [(of_introduce_ok same).1, Registry.lookup?_insert, if_pos rfl]
    have own := entries _ _ found
    intro name status known
    by_cases equal : name = signature.linkedName
    · subst equal
      obtain ⟨_, ⟨_, changed⟩ | ⟨held, kept⟩⟩ := declare_eq_ok.1 introduced
      · rw [changed, Ledger.known_set, if_pos rfl] at known
        cases known
        exact own
      · rw [kept, held] at known
        cases known
        exact own
    · refine others name status (fun same => equal (Option.some.inj same).symm) ?_
      obtain ⟨_, ⟨_, changed⟩ | ⟨_, kept⟩⟩ := declare_eq_ok.1 introduced
      · rwa [changed, Ledger.known_set, if_neg equal] at known
      · rwa [kept] at known

/-- The unit holds for each name what the registry says. -/
def Current (standing : Standing) : Prop :=
  standing.ledger.Known fun name status => standing.registry.statuses name = some status

/-- A form that can be lowered leaves the unit as the registry says, if it was so before. -/
theorem current_form (isForm : tree.IsForm) (sound : before.registry.IsSound)
    (current : Current before) (same : form tree before = .ok done after) : Current after := by
  unfold Current
  rw [registry_form same]
  refine known_form isForm sound same ?_ ?_
  · intro name entry found
    rw [Registry.statuses, found, Option.map_some]
  · intro name status other known
    rw [Registry.statuses, Registry.lookup?_enter, if_neg other]
    exact current name status known

/-- The expressions that forms run, with their places. -/
def tasks (index : Nat) : List Expr → List Task
  | [] => []
  | tree :: rest => (task? index tree).toList ++ tasks (index + 1) rest

/-- If forms can all be lowered, the first of them can, and then the rest. -/
theorem of_forms_ok {standing : Standing} {index : Nat} {rest : List Expr}
    (succeeds : (forms standing index (tree :: rest)).2.1 = []) :
    ∃ next, form tree standing = .ok ⟨⟩ next ∧ (forms next (index + 1) rest).2.1 = [] ∧
      forms standing index (tree :: rest) =
        ((task? index tree).toList ++ (forms next (index + 1) rest).1, [],
          (forms next (index + 1) rest).2.2) := by
  rw [forms] at succeeds ⊢
  cases checked : form tree standing with
  | error error next =>
    simp only [checked] at succeeds
    contradiction
  | ok done next =>
    simp only [checked] at succeeds
    exact ⟨next, rfl, succeeds, by simp only [succeeds]⟩

/-- Forms that can all be lowered leave the unit as the registry says, and the registry is that of
all the forms. -/
theorem current_forms {trees : List Expr} (areForms : ∀ tree ∈ trees, tree.IsForm) :
    ∀ (standing : Standing) (index : Nat), standing.registry.IsSound → Current standing →
      (forms standing index trees).2.1 = [] →
      (forms standing index trees).1 = tasks index trees ∧
        Current (forms standing index trees).2.2 ∧
        (forms standing index trees).2.2.registry = standing.registry.enterAll trees := by
  induction trees with
  | nil => exact fun _ _ _ current _ => ⟨rfl, current, rfl⟩
  | cons tree rest hypothesis =>
    intro standing index sound current succeeds
    have isForm := areForms tree List.mem_cons_self
    obtain ⟨next, checked, succeeds, equal⟩ := of_forms_ok succeeds
    have entered := registry_form checked
    obtain ⟨same, last, all⟩ := hypothesis
      (fun tree member => areForms tree (List.mem_cons_of_mem _ member)) next (index + 1)
      (entered ▸ sound.enter isForm) (current_form isForm sound current checked) succeeds
    rw [equal]
    refine ⟨by rw [same]; rfl, last, ?_⟩
    rw [all, entered]
    rfl

end Check

end Kaleidoscope
