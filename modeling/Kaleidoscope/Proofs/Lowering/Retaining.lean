import Mathlib.Data.List.Perm.Subperm
import Kaleidoscope.Proofs.Lowering.Forms
import Kaleidoscope.Proofs.Lowering.Weaving

/-!
# What lowering retains

Whatever is lowered and however that ends, the registry stays, routines with a body keep one, and
ordinary names keep their routines (`Lowering.Retains`). The one thing that takes a body away again
is stripping a routine whose filling has failed, and such a routine had none before.

So the definitions of the registry that are without a body in a unit (`Registry.unfilled`) only ever
become fewer.
-/
namespace Kaleidoscope

open Code

/-- In a list of entries that holds no name twice, every entry is found by its name. -/
theorem lookup_eq_of_mem {α : Type} {entries : List (String × α)} {name : String} {value : α}
    (distinct : (entries.map (·.1)).Nodup) (member : (name, value) ∈ entries) :
    entries.lookup name = some value := by
  obtain ⟨front, back, split⟩ := List.mem_iff_append.1 member
  refine List.lookup_eq_some_iff.2 ⟨front, back, split, fun other before => ?_⟩
  rw [split, List.map_append, List.nodup_append] at distinct
  have apart := distinct.2.2 other.1 (List.mem_map_of_mem before) name (by simp)
  simpa using Ne.symm apart

/-- Whether an entry is a definition. -/
def Entry.isDefinition : Entry → Bool
  | function _ _ => true
  | declaration _ => false

namespace Registry

/-- The names of the definitions. -/
def defined (registry : Registry) : List String :=
  (registry.entries.filter (·.2.isDefinition)).map (·.1)

variable {registry : Registry} {name : String}

/-- An entry is found by its name. -/
theorem lookup?_of_mem {entry : Entry} (member : (name, entry) ∈ registry.entries) :
    registry.lookup? name = some entry :=
  lookup_eq_of_mem registry.distinct member

/-- The definitions are what is found as one. -/
theorem mem_defined : name ∈ registry.defined ↔
    ∃ prototype body, registry.lookup? name = some (.function prototype body) := by
  simp only [defined, List.mem_map, List.mem_filter]
  constructor
  · rintro ⟨⟨key, entry⟩, ⟨member, definition⟩, rfl⟩
    cases entry with
    | function prototype body => exact ⟨prototype, body, lookup?_of_mem member⟩
    | declaration prototype => contradiction
  · rintro ⟨prototype, body, found⟩
    obtain ⟨front, back, split, _⟩ := List.lookup_eq_some_iff.1 found
    exact ⟨(name, .function prototype body), ⟨by simp [split], rfl⟩, rfl⟩

/-- There are no more definitions than their count. -/
theorem length_defined_le (registry : Registry) :
    registry.defined.length ≤ registry.definitionCount := by
  unfold defined definitionCount
  induction registry.entries with
  | nil => exact Nat.le_refl _
  | cons entry rest hypothesis =>
    obtain ⟨name, entry⟩ := entry
    rw [List.foldr_cons]
    cases entry with
    | function prototype body =>
      rw [List.filter_cons_of_pos rfl, List.map_cons, List.length_cons]
      show _ ≤ body.definitionCount + 1 + _
      omega
    | declaration prototype =>
      rw [List.filter_cons_of_neg (by simp [Entry.isDefinition])]
      omega

/-- No name is that of two definitions. -/
theorem nodup_defined (registry : Registry) : registry.defined.Nodup :=
  registry.distinct.sublist (List.filter_sublist.map _)

end Registry

/-- Whether the routine of a name has a body. -/
def Builder.isFilled (builder : Builder) (name : String) : Bool :=
  (builder.lookup? name).any builder.hasBody

/-- A name that means a routine with a body. -/
theorem Builder.isFilled_iff {builder : Builder} {name : String} :
    builder.isFilled name = true ↔
      ∃ id, builder.lookup? name = some id ∧ builder.hasBody id = true :=
  Option.any_eq_true ..

namespace Registry

/-- The names of the definitions that are still without a body in a unit. -/
def unfilled (registry : Registry) (builder : Builder) : List String :=
  registry.defined.filter fun name => !builder.isFilled name

variable {registry : Registry} {builder : Builder} {name : String}

/-- Such a name is that of a definition, and its routine has no body. -/
theorem mem_unfilled :
    name ∈ registry.unfilled builder ↔ name ∈ registry.defined ∧ builder.isFilled name = false := by
  simp [unfilled]

/-- There are no more of them than of names that include them. -/
theorem length_unfilled_le {names : List String} (included : registry.unfilled builder ⊆ names) :
    (registry.unfilled builder).length ≤ names.length :=
  (List.subperm_of_subset (registry.nodup_defined.filter _) included).length_le

/-- There are fewer of them once one of them has a body. -/
theorem length_unfilled_lt {later : Builder}
    (included : registry.unfilled later ⊆ registry.unfilled builder)
    (early : name ∈ registry.unfilled builder) (late : later.isFilled name = true) :
    (registry.unfilled later).length < (registry.unfilled builder).length := by
  have fresh : (name :: registry.unfilled later).Nodup := by
    refine List.nodup_cons.2 ⟨fun member => ?_, registry.nodup_defined.filter _⟩
    rw [mem_unfilled, late] at member
    exact absurd member.2 (by simp)
  exact (List.subperm_of_subset fresh (List.cons_subset.2 ⟨early, included⟩)).length_le

end Registry

/-- What lowering keeps of an earlier state: the registry, bodies, and what ordinary names mean. -/
structure Lowering.Retains (before after : Lowering) : Prop where
  /-- The registry. -/
  registry_eq : after.registry = before.registry
  /-- Bodies. -/
  hasBody : ∀ {id : Nat}, before.builder.hasBody id = true → after.builder.hasBody id = true
  /-- Names. -/
  lookup : ∀ {name : String} {id : Nat}, IsOrdinary name →
    before.builder.lookup? name = some id → after.builder.lookup? name = some id

namespace Lowering.Retains

variable {before middle after : Lowering}

/-- Nothing may happen. -/
theorem refl (state : Lowering) : Retains state state := ⟨rfl, id, fun _ found => found⟩

/-- What happens may happen in turn. -/
theorem trans (front : Retains before middle) (back : Retains middle after) :
    Retains before after where
  registry_eq := back.registry_eq.trans front.registry_eq
  hasBody body := back.hasBody (front.hasBody body)
  lookup ordinary found := back.lookup ordinary (front.lookup ordinary found)

/-- Names with a body keep one. -/
theorem isFilled (retains : Retains before after) {name : String} (ordinary : IsOrdinary name)
    (filled : before.builder.isFilled name = true) : after.builder.isFilled name = true := by
  obtain ⟨id, found, body⟩ := Builder.isFilled_iff.1 filled
  exact Builder.isFilled_iff.2 ⟨id, retains.lookup ordinary found, retains.hasBody body⟩

/-- Moving to another block. -/
theorem moveTo (retains : Retains before after) (block : BlockRef) :
    Retains before { after with builder := after.builder.moveTo block } :=
  ⟨retains.registry_eq, retains.hasBody, retains.lookup⟩

/-- Filling routines. -/
instance lasting (before : Lowering) (registry : Registry) (anonymous : Nat) :
    Builder.Lasting fun builder => Retains before ⟨builder, registry, anonymous⟩ where
  faults _ retains := ⟨retains.registry_eq, retains.hasBody, retains.lookup⟩
  cursor _ retains := ⟨retains.registry_eq, retains.hasBody, retains.lookup⟩
  change := by
    intro builder id change isFilling retains
    refine ⟨retains.registry_eq, fun {other} body => ?_, fun ordinary found => ?_⟩
    · obtain ⟨routine, found, body⟩ := (Option.any_eq_true ..).1 (retains.hasBody body)
      refine (Option.any_eq_true ..).2 ?_
      simp only [Builder.routine?_changeRoutine] at found ⊢
      rw [found]
      split
      · exact ⟨change routine, rfl, isFilling.hasBody body⟩
      · exact ⟨routine, rfl, body⟩
    · exact (Builder.lookup?_changeRoutine ..).trans (retains.lookup ordinary found)

/-- Stripping a routine that had no body. -/
theorem discardBody (retains : Retains before after) {id : Nat}
    (empty : before.builder.hasBody id = false) :
    Retains before { after with builder := after.builder.discardBody id } where
  registry_eq := retains.registry_eq
  hasBody := by
    intro other body
    have different : other ≠ id := by
      rintro rfl
      rw [body] at empty
      contradiction
    show (after.builder.discardBody id).hasBody other = true
    rw [Builder.hasBody, Builder.routine?_discardBody, if_neg different]
    exact retains.hasBody body
  lookup ordinary found := (Builder.lookup?_discardBody ..).trans (retains.lookup ordinary found)

/-- Names that have no body have had none. -/
theorem unfilled_subset {registry : Registry} (sound : registry.IsSound)
    (retains : Retains before after) :
    registry.unfilled after.builder ⊆ registry.unfilled before.builder := by
  intro name member
  obtain ⟨defined, empty⟩ := Registry.mem_unfilled.1 member
  obtain ⟨prototype, body, found⟩ := Registry.mem_defined.1 defined
  refine Registry.mem_unfilled.2 ⟨defined, ?_⟩
  rw [← Bool.not_eq_true] at empty ⊢
  exact fun filled => empty (retains.isFilled (sound.ordinary found).2 filled)

end Lowering.Retains

/-- Declaring a routine leaves all else as it was, but for faults. -/
theorem Build.declareFunction_cases (name : String) (parameters : List String) (builder : Builder) :
    match declareFunction name parameters builder with
    | .ok id after => ∃ unit plan, builder.unit = some unit ∧ id = unit.routines.size ∧
      after = { builder.declared unit name parameters with faults := plan }
    | .error _ after => ∃ plan, after = { builder with faults := plan } := by
  rw [declareFunction, bind_apply, attempt]
  cases builder.faults.strike? .declareFunction with
  | some error => exact ⟨_, rfl⟩
  | none =>
    cases isOpen : builder.unit with
    | none =>
      simp only [bind_apply, get_apply]
      exact ⟨_, rfl⟩
    | some unit =>
      simp only [bind_apply, get_apply]
      exact ⟨unit, _, rfl, rfl, rfl⟩

/-- Adding a block to a routine gives it a body. -/
theorem Build.hasBody_of_appendBlock {builder after : Builder} {id : Nat} {name : String}
    {entry : BlockRef} (ran : appendBlock id name builder = .ok entry after) :
    after.hasBody id = true := by
  obtain ⟨unit, cursor, faults⟩ := builder
  rw [appendBlock, bind_apply, attempt] at ran
  cases struck : faults.strike? .appendBlock with
  | some error =>
    simp only [struck] at ran
    contradiction
  | none =>
    simp only [struck, routine, bind_apply, get_apply] at ran
    cases unit with
    | none => contradiction
    | some unit =>
      cases found : unit.routines[id]? with
      | none =>
        simp only [found] at ran
        contradiction
      | some routine =>
        simp only [found] at ran
        cases ran
        rw [Builder.hasBody, Builder.routine?_changeRoutine, if_pos rfl]
        simp [Builder.routine?, found, Routine.hasBody]

namespace Lower

variable {state : Lowering}

/-- Adding a block to a routine gives it a body. -/
theorem hasBody_of_appendBlock {id : Nat} {name : String} {entry : BlockRef} {after : Lowering}
    (ran : build (.appendBlock id name) state = .ok entry after) :
    after.builder.hasBody id = true := by
  unfold build at ran
  cases opened : Build.appendBlock id name state.builder with
  | error error builder =>
    rw [opened] at ran
    contradiction
  | ok block builder =>
    rw [opened] at ran
    cases ran
    exact Build.hasBody_of_appendBlock opened

/-- What was there before an operation that fills routines is there after it. -/
theorem retains_build {α : Type} {action : Build α}
    (lasts : ∀ (holds : Builder → Prop) [Builder.Lasting holds], Preserves holds action)
    (state : Lowering) : EndsIn state.Retains (build action state) := by
  have kept := lasts (fun builder => state.Retains ⟨builder, state.registry, state.anonymous⟩)
    state.builder (.refl state)
  unfold build
  cases ran : action state.builder <;> simp only [ran] at kept <;> exact kept

/-- Asking which block is being filled leaves every routine as it is. -/
theorem insertBlock_eq (state : Lowering) :
    ∃ saved after, build .insertBlock state = .ok saved after ∧ state.Retains after ∧
      ∀ registry : Registry, registry.unfilled after.builder = registry.unfilled state.builder := by
  unfold build Build.insertBlock Build.ask
  have faulty (plan : FaultPlan) :=
    (Lowering.Retains.lasting state state.registry state.anonymous).faults plan (.refl state)
  cases state.builder.faults.strike? .insertBlock <;>
    exact ⟨_, _, rfl, faulty _, fun _ => rfl⟩

/-- Declaring a routine under a free name. -/
theorem retains_declareFunction (name : String) (parameters : List String) (state : Lowering)
    (free : IsOrdinary name → state.builder.lookup? name = none) :
    match build (.declareFunction name parameters) state with
    | .ok id after => state.Retains after ∧ after.builder.hasBody id = false ∧
      after.builder.lookup? name = some id
    | .error _ after => state.Retains after := by
  have cases_of := Build.declareFunction_cases name parameters state.builder
  unfold build
  cases ran : Build.declareFunction name parameters state.builder with
  | error error after =>
    simp only [ran] at cases_of ⊢
    obtain ⟨plan, rfl⟩ := cases_of
    exact (Lowering.Retains.lasting state state.registry state.anonymous).faults plan (.refl state)
  | ok id after =>
    simp only [ran] at cases_of ⊢
    obtain ⟨unit, plan, isOpen, rfl, rfl⟩ := cases_of
    have grown : Builder.Grows state.registry none state.builder
        (state.builder.declared unit name parameters) :=
      Builder.grows_declared isOpen state.registry none free
    refine ⟨⟨rfl, fun {id} body => ?_, grown.lookup⟩, ?_, ?_⟩
    · obtain ⟨routine, found, bodied⟩ := Builder.exists_of_hasBody body
      exact (Option.any_eq_true ..).2 ⟨routine, grown.kept (by simp) found bodied, bodied⟩
    · show (state.builder.declared unit name parameters).hasBody _ = false
      rw [Builder.hasBody, Builder.routine?_declared, if_pos rfl]
      rfl
    · show (state.builder.declared unit name parameters).lookup? name = _
      rw [Builder.lookup?_declared, if_pos rfl]

/-- Finding a routine for a prototype: it has no body, and it is what the name means. -/
theorem retains_declare (prototype : Prototype) (state : Lowering) :
    match declare prototype state with
    | .ok id after => state.Retains after ∧ after.builder.hasBody id = false ∧
      (prototype.isAnonymous = false → after.builder.lookup? prototype.linkedName = some id)
    | .error _ after => state.Retains after := by
  unfold declare
  cases duplicate? [] prototype.parameters with
  | some name => exact .refl state
  | none =>
    cases named : prototype.isAnonymous with
    | true =>
      have unnamed := not_isOrdinary state.anonymous
      have declared := retains_declareFunction
        (anonymousName ++ "." ++ Nat.repr state.anonymous) prototype.parameters
        { state with anonymous := state.anonymous + 1 } fun usual => absurd usual unnamed
      have counted : state.Retains { state with anonymous := state.anonymous + 1 } :=
        ⟨rfl, id, fun _ found => found⟩
      simp only [if_true, bind_apply, get_apply, modify_apply]
      split at declared
      · next id after ran =>
        rw [ran]
        exact ⟨counted.trans declared.1, declared.2.1, by simp⟩
      · next error after ran =>
        rw [ran]
        exact counted.trans declared
    | false =>
      simp only [Bool.false_eq_true, if_false, bind_apply, get_apply]
      cases means : state.builder.lookup? prototype.linkedName with
      | none =>
        have declared := retains_declareFunction prototype.linkedName prototype.parameters state
          fun _ => means
        simp only
        split at declared
        · exact ⟨declared.1, declared.2.1, fun _ => declared.2.2⟩
        · exact declared
      | some id =>
        by_cases arity : state.builder.parameterCount id ≠ prototype.parameters.length
        · simp only [if_pos arity]
          exact .refl state
        · simp only [if_neg arity]
          cases body : state.builder.hasBody id with
          | true => exact .refl state
          | false => exact ⟨.refl state, body, fun _ => means⟩

end Lower

end Kaleidoscope
