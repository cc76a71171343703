import Kaleidoscope.Proofs.Lowering.Retaining
import Kaleidoscope.Proofs.Lowering.Surviving

/-!
# Names and the routines they mean

The names of a unit are those of its routines, and each of them is there once (`Lowering.Labels`).
The routines of expressions to run are numbered, and numbers are not used again, so such a routine is
what its name means for as long as the unit is open. Ordinary names are taken only when they are
free, and they are freed together with the routine that they mean. So names and routines belong
together however a form ends (`Lower.labels_form`).
-/
namespace Kaleidoscope

open Code

/-- The name of an expression to run. -/
def jobName (number : Nat) : String := anonymousName ++ "." ++ Nat.repr number

/-- Numbers tell the names of expressions to run apart. -/
theorem jobName_inj {first second : Nat} : jobName first = jobName second ↔ first = second := by
  constructor
  · intro same
    have digits := congrArg String.toList same
    simp only [jobName, String.toList_append, Nat.toList_repr] at digits
    rw [← @Nat.ofDigitChars_ten_toDigits first, List.append_cancel_left digits,
      Nat.ofDigitChars_ten_toDigits]
  · exact congrArg jobName

/-- The names of a unit and its routines belong together. -/
structure Lowering.Labels (state : Lowering) : Prop where
  /-- No name is there twice. -/
  distinct : ∀ {unit : CodeUnit}, state.builder.unit = some unit → (unit.names.map (·.1)).Nodup
  /-- Names mean routines of that name. -/
  named : ∀ {name : String} {id : Nat}, state.builder.lookup? name = some id →
    ∃ routine, state.builder.routine? id = some routine ∧ routine.name = name
  /-- The routines of expressions to run are what their names mean. -/
  labelled : ∀ {id : Nat} {routine : Routine}, state.builder.routine? id = some routine →
    ¬IsOrdinary routine.name → state.builder.lookup? routine.name = some id
  /-- Their numbers are not used again. -/
  counted : ∀ {id : Nat} {routine : Routine} {number : Nat},
    state.builder.routine? id = some routine → routine.name = jobName number →
      number < state.anonymous

namespace Lowering.Labels

variable {state after : Lowering} {unit : CodeUnit} {name : String}

/-- Names that a unit does not use mean nothing. -/
theorem not_mem_names (isOpen : state.builder.unit = some unit)
    (free : state.builder.lookup? name = none) : name ∉ unit.names.map (·.1) := by
  rw [Builder.lookup?, isOpen, Option.bind_some, CodeUnit.lookup?, List.lookup_eq_none_iff] at free
  intro member
  obtain ⟨entry, inside, rfl⟩ := List.mem_map.1 member
  simpa using free entry inside

/-- Only the names of a unit and of its routines matter. -/
theorem congr (labels : state.Labels)
    (names : after.builder.unit.map (·.names) = state.builder.unit.map (·.names))
    (routines : ∀ id, (after.builder.routine? id).map (·.name) =
      (state.builder.routine? id).map (·.name))
    (anonymous_eq : after.anonymous = state.anonymous) : after.Labels := by
  have lookups : ∀ name, after.builder.lookup? name = state.builder.lookup? name := by
    have through : ∀ (builder : Builder) (name : String), builder.lookup? name =
        (builder.unit.map (·.names)).bind (·.lookup name) := by
      intro builder name
      rw [Builder.lookup?, Option.bind_map]
      rfl
    intro name
    rw [through, through, names]
  have earlier : ∀ {id : Nat} {routine : Routine}, after.builder.routine? id = some routine →
      ∃ held, state.builder.routine? id = some held ∧ held.name = routine.name := by
    intro id routine found
    have same := routines id
    rw [found, Option.map_some, eq_comm, Option.map_eq_some_iff] at same
    exact same
  refine ⟨fun {unit} isOpen => ?_, fun {name id} means => ?_, fun {id routine} found unnamed => ?_,
    fun {id routine number} found same => ?_⟩
  · rw [isOpen, Option.map_some, eq_comm, Option.map_eq_some_iff] at names
    obtain ⟨first, opened, same⟩ := names
    rw [← same]
    exact labels.distinct opened
  · rw [lookups] at means
    obtain ⟨held, here, rfl⟩ := labels.named means
    have same := routines id
    rw [here, Option.map_some, Option.map_eq_some_iff] at same
    exact same
  · obtain ⟨held, here, name⟩ := earlier found
    rw [lookups, ← name]
    exact labels.labelled here (name ▸ unnamed)
  · obtain ⟨held, here, name⟩ := earlier found
    rw [anonymous_eq]
    exact labels.counted here (name.trans same)

/-- Changing a routine that keeps its name. -/
theorem changeRoutine (labels : state.Labels) (id : Nat) (change : Routine → Routine)
    (name_eq : ∀ routine, (change routine).name = routine.name) :
    Labels { state with builder := state.builder.changeRoutine id change } := by
  refine labels.congr ?_ (fun other => ?_) rfl
  · rw [Builder.changeRoutine, Option.map_map]
    rfl
  · rw [Builder.routine?_changeRoutine]
    split
    · rw [Option.map_map]
      exact congrArg (Option.map · _) (funext name_eq)
    · rfl

/-- A new routine under a free name, which is numbered if it is that of an expression to run. -/
theorem declared (labels : state.Labels) (isOpen : state.builder.unit = some unit)
    (parameters : List String) (plan : FaultPlan) {anonymous : Nat}
    (free : state.builder.lookup? name = none) (more : state.anonymous ≤ anonymous)
    (counted : ∀ number, name = jobName number → number < anonymous) :
    Labels { state with
      builder := { state.builder.declared unit name parameters with faults := plan }
      anonymous := anonymous } := by
  have routines : ∀ id,
      ({ state.builder.declared unit name parameters with faults := plan } : Builder).routine? id =
        if id = unit.routines.size then some (.declared name parameters)
        else state.builder.routine? id := by
    intro id
    show (state.builder.declared unit name parameters).routine? id = _
    rw [Builder.routine?_declared, Builder.routine?, isOpen, Option.bind_some]
  have lookups : ∀ other,
      ({ state.builder.declared unit name parameters with faults := plan } : Builder).lookup? other =
        if other = name then some unit.routines.size else state.builder.lookup? other := by
    intro other
    show (state.builder.declared unit name parameters).lookup? other = _
    rw [Builder.lookup?_declared, Builder.lookup?, isOpen, Option.bind_some]
  refine ⟨?_, fun {other id} means => ?_, fun {id routine} found unnamed => ?_,
    fun {id routine number} found same => ?_⟩
  · rintro _ ⟨⟩
    exact List.nodup_cons.2 ⟨not_mem_names isOpen free, labels.distinct isOpen⟩
  · simp only [routines, lookups] at means ⊢
    split at means
    · next own =>
      cases means
      exact ⟨_, if_pos rfl, own.symm⟩
    · obtain ⟨routine, here, named⟩ := labels.named means
      refine ⟨routine, ?_, named⟩
      rw [if_neg (Builder.routine?_of_declared isOpen here).2, here]
  · simp only [routines, lookups] at found ⊢
    split at found
    · next own =>
      cases found
      rw [own]
      exact if_pos rfl
    · have means := labels.labelled found unnamed
      rw [if_neg, means]
      rintro same
      rw [same, free] at means
      contradiction
  · simp only [routines] at found
    split at found
    · cases found
      exact counted number same
    · exact Nat.lt_of_lt_of_le (labels.counted found same) more

/-- Forgetting a routine with an ordinary name. -/
theorem forget (labels : state.Labels) {id : Nat} {routine : Routine}
    (found : state.builder.routine? id = some routine) (ordinary : IsOrdinary routine.name) :
    Labels { state with builder := state.builder.forget id } := by
  cases forgettable : state.builder.isForgettable id with
  | false => rwa [Builder.forget_eq_self forgettable]
  | true =>
    have lookups := @Builder.lookup?_forget_eq_some state.builder id routine found forgettable
    refine ⟨fun {later} isOpen => ?_, fun {name place} means => ?_,
      fun {place held} here unnamed => ?_, fun {place held number} here same => ?_⟩
    · obtain ⟨unit, opened, forgotten⟩ := Option.map_eq_some_iff.1 isOpen
      subst forgotten
      refine (labels.distinct opened).sublist (List.Sublist.map _ ?_)
      unfold CodeUnit.forget
      split
      · exact List.Sublist.refl _
      · split
        · exact List.filter_sublist
        · exact List.Sublist.refl _
    · simp only [Builder.routine?_forget]
      exact labels.named (lookups.1 means).2
    · simp only [Builder.routine?_forget] at here
      refine lookups.2 ⟨fun same => ?_, labels.labelled here unnamed⟩
      exact unnamed (same ▸ ordinary)
    · simp only [Builder.routine?_forget] at here
      exact labels.counted here same

/-- Undoing what a failed form has introduced. -/
theorem undo (labels : after.Labels) (ordinary : IsOrdinary name) :
    (Lower.undo name state after).Labels := by
  have only : ∀ {builder : Builder} {registry : Registry},
      Labels { after with builder := builder } →
        Labels ⟨builder, registry, after.anonymous⟩ :=
    fun labels => ⟨labels.distinct, labels.named, labels.labelled, labels.counted⟩
  unfold Lower.undo
  refine only ?_
  split
  · exact labels
  · split
    · next id means =>
      obtain ⟨routine, found, rfl⟩ := labels.named means
      exact labels.forget found ordinary
    · exact labels

end Lowering.Labels

namespace Lower

open Lowering

/-- Names and routines belong together, and the registry is a given one. -/
structure Keeps (registry : Registry) (state : Lowering) : Prop where
  /-- The registry. -/
  registry_eq : state.registry = registry
  /-- Names and routines. -/
  labels : state.Labels

/-- Declaring an ordinary name. -/
theorem labels_declare {registry : Registry} {prototype : Prototype}
    (named : prototype.isAnonymous = false) (ordinary : IsOrdinary prototype.linkedName) :
    Preserves (Keeps registry) (declare prototype) := by
  intro state keeps
  unfold declare
  cases duplicate? [] prototype.parameters with
  | some twice => exact keeps
  | none =>
    simp only [named, Bool.false_eq_true, if_false, bind_apply, get_apply]
    cases means : state.builder.lookup? prototype.linkedName with
    | some id =>
      by_cases arity : state.builder.parameterCount id ≠ prototype.parameters.length
      · simp only [if_pos arity]
        exact keeps
      · simp only [if_neg arity]
        cases state.builder.hasBody id <;> exact keeps
    | none =>
      have declared :=
        Build.declareFunction_cases prototype.linkedName prototype.parameters state.builder
      unfold build
      cases ran : Build.declareFunction prototype.linkedName prototype.parameters state.builder with
      | error error builder =>
        simp only [ran] at declared ⊢
        obtain ⟨plan, rfl⟩ := declared
        exact ⟨keeps.registry_eq, keeps.labels.congr rfl (fun _ => rfl) rfl⟩
      | ok id builder =>
        simp only [ran] at declared ⊢
        obtain ⟨unit, plan, isOpen, rfl, rfl⟩ := declared
        exact ⟨keeps.registry_eq, keeps.labels.declared isOpen _ plan means (Nat.le_refl _)
          fun number same => absurd same (ordinary number)⟩

/-- Names and routines belong together while bodies are lowered. -/
theorem stable_keeps (registry : Registry) : Lowering.Stable registry (Keeps registry) where
  registry_eq keeps := keeps.registry_eq
  lasting _ _ :=
    { faults := fun _ keeps => ⟨keeps.registry_eq, keeps.labels.congr rfl (fun _ => rfl) rfl⟩
      cursor := fun _ keeps => ⟨keeps.registry_eq, keeps.labels.congr rfl (fun _ => rfl) rfl⟩
      change := fun isFilling keeps =>
        ⟨keeps.registry_eq, keeps.labels.changeRoutine _ _ isFilling.name_eq⟩ }
  discard id keeps := ⟨keeps.registry_eq,
    (keeps.labels.changeRoutine id Routine.withoutBody fun _ => rfl).congr rfl (fun _ => rfl) rfl⟩
  declare := labels_declare

variable {before : Lowering} {standing : Standing} {sources : Sources} {tree : Expr}

/-- The routine of an expression to run gets a name of its own. -/
theorem labels_openedFor {unit : CodeUnit} (labels : before.Labels)
    (isOpen : before.builder.unit = some unit) : (openedFor before unit).Labels := by
  have free : before.builder.lookup? (jobName before.anonymous) = none := by
    rw [Option.eq_none_iff_forall_ne_some]
    intro id means
    obtain ⟨routine, found, named⟩ := labels.named means
    exact Nat.lt_irrefl _ (labels.counted found named)
  exact labels.declared isOpen [] before.builder.faults free (Nat.le_succ _)
    fun number same => by
      rw [← jobName_inj.1 same]
      exact Nat.lt_succ_self _

/-- Names and routines belong together after what introduces a name, however it ends. -/
theorem labels_introduce {name : String} {entry : Entry} {action : Lower Nat}
    (ordinary : IsOrdinary name) (labels : before.Labels)
    (preserves : Preserves (Keeps (before.registry.insert name entry)) action) :
    EndsIn Labels (undone name before
      (action { before with registry := before.registry.insert name entry })) := by
  have entered : Keeps (before.registry.insert name entry)
      { before with registry := before.registry.insert name entry } :=
    ⟨rfl, labels.congr rfl (fun _ => rfl) rfl⟩
  have kept := preserves.endsIn entered
  cases ran : action { before with registry := before.registry.insert name entry } with
  | ok id after =>
    rw [ran] at kept
    exact kept.labels
  | error error after =>
    rw [ran] at kept
    exact kept.labels.undo ordinary

/-- Names and routines belong together after a form, however it ends. -/
theorem labels_form (stands : Stands before standing sources) (labels : before.Labels)
    (isForm : tree.IsForm) :
    EndsIn Labels (form tree before) := by
  have registered : before.registry.IsSound := stands.registry_eq ▸ stands.registered
  cases isForm with
  | @job signature body span anonymous closed isBody calls =>
    obtain ⟨unit, isOpen⟩ := stands.filed.sound.isOpen
    have stable := stable_keeps before.registry
    have opened : Keeps before.registry (openedFor before unit) :=
      ⟨rfl, labels_openedFor labels isOpen⟩
    have preserves := stable.discardingOnError unit.routines.size
      (stable.woven registered (stable.recallWithin registered
          (before.registry.definitionCount + (body.definitionCount + 1)))
        (woven_fill unit.routines.size [] (woven_value isBody)))
    rw [form_job_eq span before anonymous,
      define_eq (declare_job_eq stands.filed.sound.faultless isOpen anonymous closed), closed]
    have kept := preserves.endsIn opened
    generalize discardingOnError unit.routines.size _ (openedFor before unit) = result at kept
    cases result <;> exact kept.labels
  | @definition signature body span named ordinary isBody calls =>
    have sound := registered.insert (.function signature body) named ordinary
      fun _ _ same => by cases same; exact ⟨isBody, calls⟩
    have stable := stable_keeps
      (before.registry.insert signature.linkedName (.function signature body))
    rw [form_definition_eq span before named]
    exact labels_introduce ordinary labels
      (stable.define sound (stable.recallWithin sound _) isBody (labels_declare named ordinary))
  | @declaration signature span named ordinary =>
    rw [form_declaration_eq]
    exact labels_introduce ordinary labels (labels_declare named ordinary)

/-- Names and routines belong together after forms, whichever of them fail. -/
theorem labels_forms {forms : List Expr} (areForms : ∀ form ∈ forms, form.IsForm) :
    ∀ {before : Lowering} {standing : Standing} {sources : Sources} (index : Nat),
      Stands before standing sources → before.Labels →
      (Evaluator.lowerForms before index forms).2.2.Labels := by
  induction forms with
  | nil => exact fun _ _ labels => labels
  | cons tree rest hypothesis =>
    intro before standing sources index stands labels
    have isForm : tree.IsForm := areForms tree List.mem_cons_self
    have others := fun form member => areForms form (List.mem_cons_of_mem tree member)
    have ends := (stands_form stands isForm).exists_stands.both (labels_form stands labels isForm)
    unfold Evaluator.lowerForms
    cases lowered : form tree before with
    | ok id after =>
      rw [lowered] at ends
      obtain ⟨⟨next, later, stands⟩, labels⟩ := ends
      exact hypothesis others (index + 1) stands labels
    | error error after =>
      rw [lowered] at ends
      obtain ⟨⟨next, later, stands⟩, labels⟩ := ends
      exact hypothesis others (index + 1) stands labels

end Lower

end Kaleidoscope
