import Kaleidoscope.Proofs.Code.Compiled
import Kaleidoscope.Proofs.Lowering.Following

/-!
# Lowering of definitions, followed step by step

A routine that is filled from a definition ends up with the code of `Draft.compile`, or, if that
fails, without a body as before (`Lower.agrees_fill`). So definitions of the registry are lowered as
they are checked, however deeply others are nested in them (`Lower.recallAgrees_recallWithin`).
-/
namespace Kaleidoscope

open Code

namespace Builder

variable {registry : Registry} {before after builder : Builder} {id : Nat} {routine : Routine}

/-- Changing a routine changes this one alone. -/
theorem routine?_changeRoutine (builder : Builder) (id : Nat) (change : Routine → Routine)
    (other : Nat) :
    (builder.changeRoutine id change).routine? other =
      if other = id then (builder.routine? other).map change else builder.routine? other := by
  unfold changeRoutine routine?
  cases builder.unit with
  | none => simp
  | some unit =>
    simp only [Option.map_some, Option.bind_some, CodeUnit.update, Array.getElem?_modify]
    by_cases same : id = other
    · simp [same]
    · simp [same, Ne.symm same]

/-- Changing a routine changes no name. -/
theorem lookup?_changeRoutine (builder : Builder) (id : Nat) (change : Routine → Routine)
    (name : String) : (builder.changeRoutine id change).lookup? name = builder.lookup? name := by
  unfold changeRoutine lookup?
  cases builder.unit <;> rfl

/-- A routine that is stripped keeps its heading. -/
theorem routine?_discardBody (builder : Builder) (id other : Nat) :
    (builder.discardBody id).routine? other =
      if other = id then (builder.routine? other).map Routine.withoutBody
      else builder.routine? other :=
  routine?_changeRoutine builder id Routine.withoutBody other

/-- A routine that is stripped has no body. -/
theorem hasBody_discardBody (builder : Builder) (id : Nat) :
    (builder.discardBody id).hasBody id = false := by
  rw [hasBody, routine?_discardBody, if_pos rfl]
  cases builder.routine? id <;> rfl

/-- Stripping a routine changes no name. -/
@[simp] theorem lookup?_discardBody (builder : Builder) (id : Nat) (name : String) :
    (builder.discardBody id).lookup? name = builder.lookup? name :=
  lookup?_changeRoutine builder id Routine.withoutBody name

/-- Stripping a routine keeps a unit in good order. -/
theorem Sound.discardBody (sound : builder.Sound) (id : Nat) : (builder.discardBody id).Sound where
  faultless := sound.faultless
  isOpen := by
    obtain ⟨unit, isOpen⟩ := sound.isOpen
    exact ⟨_, by rw [Builder.discardBody, isOpen]; rfl⟩
  named := by
    intro name place means
    rw [lookup?_discardBody] at means
    obtain ⟨routine, found, same⟩ := sound.named means
    rw [routine?_discardBody, found]
    split
    · exact ⟨_, rfl, same⟩
    · exact ⟨_, rfl, same⟩
  found := by
    intro place routine here body ordinary
    rw [routine?_discardBody] at here
    rw [lookup?_discardBody]
    split at here
    · obtain ⟨held, _, rfl⟩ := Option.map_eq_some_iff.1 here
      contradiction
    · exact sound.found here body ordinary
  bare := by
    intro place routine here empty
    rw [routine?_discardBody] at here
    split at here
    · obtain ⟨held, _, rfl⟩ := Option.map_eq_some_iff.1 here
      rfl
    · exact sound.bare here empty

/-- Stripping the routine being filled is growth. -/
theorem grows_discardBody (registry : Registry) (builder : Builder) (id : Nat) :
    Grows registry (some id) builder (builder.discardBody id) where
  heading := by
    intro place routine found
    rw [routine?_discardBody, found]
    split
    · exact ⟨_, rfl, rfl, rfl⟩
    · exact ⟨_, rfl, rfl, rfl⟩
  kept := by
    intro place routine other found _
    rw [routine?_discardBody, if_neg]
    · exact found
    · rintro rfl
      exact other rfl
  lookup _ means := by rwa [lookup?_discardBody]
  finished := by
    intro place routine other found _
    rw [routine?_discardBody, if_neg] at found
    · exact .inl found
    · rintro rfl
      exact other rfl

/-- A routine that was filled from nothing counts like the others if it is finished. -/
theorem Grows.complete (grows : Grows registry (some id) before after)
    (empty : before.hasBody id = false)
    (finished : ∀ {routine : Routine}, after.routine? id = some routine →
      routine.hasBody = true → Finished registry after routine) :
    Grows registry none before after where
  heading := grows.heading
  kept := by
    intro place routine _ found body
    refine grows.kept ?_ found body
    rintro ⟨⟩
    rw [hasBody, found, Option.any_some, body] at empty
    contradiction
  lookup := grows.lookup
  finished := by
    intro place routine _ found body
    by_cases own : place = id
    · subst own
      exact .inr (finished found body)
    · exact grows.finished (by simpa using Ne.symm own) found body

/-- What a unit holds for a name when one routine has changed its body. -/
theorem status?_of_changed {other : Builder} {name : String} (sound : builder.Sound)
    (lookups : ∀ key, other.lookup? key = builder.lookup? key)
    (same : ∀ place, place ≠ id → other.routine? place = builder.routine? place)
    (means : builder.lookup? name = some id) (found : other.routine? id = some routine)
    (key : String) :
    other.status? key =
      if key = name then some (routine.parameters.length, routine.hasBody)
      else builder.status? key := by
  rw [status?, status?, lookups]
  by_cases own : key = name
  · subst own
    rw [means, if_pos rfl, Option.map_some, parameterCount, hasBody, found]
    rfl
  · rw [if_neg own]
    cases held : builder.lookup? key with
    | none => rfl
    | some place =>
      have different : place ≠ id := by
        rintro rfl
        obtain ⟨first, foundFirst, named⟩ := sound.named means
        obtain ⟨second, foundSecond, keyed⟩ := sound.named held
        cases foundFirst.symm.trans foundSecond
        exact own (keyed.symm.trans named)
      simp only [Option.map_some, parameterCount, hasBody, same place different]

/-- A unit and a ledger go on to match when the routine of one name has changed its body and the
ledger notes so. -/
theorem Matches.of_changed {other : Builder} {ledger : Ledger} {name : String} {status : Status}
    (agree : builder.Matches ledger) (sound : builder.Sound)
    (lookups : ∀ key, other.lookup? key = builder.lookup? key)
    (same : ∀ place, place ≠ id → other.routine? place = builder.routine? place)
    (means : builder.lookup? name = some id) (found : other.routine? id = some routine)
    (arity : routine.parameters.length = status.arity)
    (filled : routine.hasBody = status.source.isSome) :
    other.Matches (ledger.set name (some status)) := by
  intro key ordinary
  rw [status?_of_changed sound lookups same means found, ← agree key ordinary, Ledger.known_set]
  split
  · rw [Option.map_some, arity, filled]
  · rfl

end Builder

namespace Lower

variable {registry : Registry} {state : Lowering} {ledger : Ledger} {id : Nat}

/-- Parameters get their slots. -/
theorem agrees_bindParameters {β : Type} {next : Scope SlotRef → Lower β} {check : Check PUnit}
    {names : List String} :
    ∀ {index : Nat} (scope : Scope Nat) {draft : Draft} {state : Lowering}
      {target : β → Lowering → Prop},
      Tallies registry state ledger → state.builder.Filling id draft →
      index + names.length ≤ draft.routine.parameters.length →
      (∀ middle : Lowering, Tallies registry middle ledger →
        middle.builder.Filling id (Draft.bindParameters index names scope draft).2 →
        Agrees registry (some id) (next ((Draft.bindParameters index names scope draft).1.refs id))
          check middle ledger fun result after =>
            Builder.Grows registry (some id) middle.builder after.builder → target result after) →
      Agrees registry (some id)
        (do let scope ← bindParameters id index names (scope.refs id); next scope)
        check state ledger target := by
  induction names with
  | nil =>
    intro index scope draft state target tallies filling _ back
    exact (back state tallies filling).imp fun result after noted leaves holds => holds leaves.grows
  | cons name rest hypothesis =>
    intro index scope draft state target tallies filling count back
    rw [List.length_cons] at count
    simp only [bindParameters, bind_assoc]
    refine Agrees.hold tallies filling (Draft.continues_reserve filling.inside name)
      (Build.slot_eq filling name) fun reserved tallies filling => ?_
    refine Agrees.ask (Build.parameter_eq filling ?_) ?_
    · show index < draft.routine.parameters.length
      omega
    refine Agrees.hold tallies filling (Draft.continues_push filling.inside _)
      (Build.store_eq filling _ _) fun stored tallies filling => ?_
    refine hypothesis (scope.bind name draft.slotCount) tallies filling ?_
      fun middle tallies filling => ?_
    · show index + 1 + rest.length ≤ draft.routine.parameters.length
      omega
    · exact (back middle tallies filling).imp fun result after noted leaves holds grows _ _ =>
        holds grows

/-- A routine that could not be filled has no body. -/
theorem hasBody_of_discardingOnError {action : Lower PUnit} {state after : Lowering} {id : Nat}
    {error : LowerError} (failed : discardingOnError id action state = .error error after) :
    after.builder.hasBody id = false := by
  unfold discardingOnError at failed
  split at failed
  · contradiction
  · cases failed
    exact Builder.hasBody_discardBody ..

section Filling

variable {revive : Prototype → Expr → Lower Nat} {check : Prototype → Expr → Check PUnit}
  {name : String} {shown names : List String} {tree : Expr}

/-- The code of a routine that is filled, once its first block is there. -/
theorem agrees_body (sound : registry.IsSound) (recalls : RecallAgrees registry revive check)
    (isBody : tree.IsBody) (ordinary : tree.CallsOrdinary) (tallies : Tallies registry state ledger)
    (filling : state.builder.Filling id (Draft.opened (.declared name shown)))
    (count : shown.length = names.length) :
    Agrees registry (some id)
      (do
        let scope ← bindParameters id 0 names .empty
        let found ← lower revive scope tree
        let value ← asValue tree.span found
        build (.ret value))
      (Check.expr registry check names.reverse tree) state ledger fun _ after =>
        ∃ routine, after.builder.routine? id = some routine ∧
          ∀ callee, after.builder.Reads callee →
            routine = Draft.compile callee names tree (.declared name shown) := by
  refine agrees_bindParameters .empty tallies filling (by
    show 0 + names.length ≤ shown.length
    omega) fun bound tallies filling => ?_
  generalize parameters : Draft.bindParameters 0 names .empty (.opened (.declared name shown)) = front
    at *
  have visible : names.reverse = front.1.names := by
    rw [← parameters, Draft.names_bindParameters]
    simp [Scope.names, Scope.empty]
  rw [visible]
  refine agrees_value_last (agrees_lower sound recalls tree front.1 isBody ordinary front.2 bound
    ledger tallies filling) fun value middle noted tallies writes => ?_
  obtain ⟨back, filling, _, written⟩ := writes
  rw [← bind_pure (build (.ret value))]
  refine Agrees.hold tallies filling (Draft.continues_finish filling.inside _)
    (Build.ret_eq filling value) fun last tallies filling => ?_
  refine .pure tallies fun _ grown _ => ⟨_, filling.found, fun callee reads => ?_⟩
  have same : Draft.lower callee front.1 tree front.2 = (value, back) :=
    written callee (reads.earlier grown)
  simp only [Draft.compile, parameters, same]

/-- A routine without a body is filled as it is checked. -/
theorem agrees_fill (sound : registry.IsSound) (recalls : RecallAgrees registry revive check)
    (isBody : tree.IsBody) (ordinary : tree.CallsOrdinary) (start discard : Ledger → Ledger)
    (tallies : Tallies registry state ledger)
    (found : state.builder.routine? id = some (.declared name shown))
    (count : shown.length = names.length)
    (linked : IsOrdinary name → state.builder.lookup? name = some id)
    (starts : (state.builder.hold id (.opened (.declared name shown))).Matches (start ledger))
    (discards : ∀ after noted, Tallies registry after noted →
      Builder.Grows registry (some id) state.builder after.builder →
      (after.builder.discardBody id).Matches (discard noted)) :
    Agrees registry (some id)
      (discardingOnError id (fill id names fun scope => do
        asValue tree.span (← lower revive scope tree)))
      (Check.fillWith start discard tree (Check.expr registry check names.reverse tree))
      state ledger fun _ after => ∃ routine, after.builder.routine? id = some routine ∧
        after.builder.Holds routine names tree := by
  have exists_id : (state.builder.routine? id).isSome := by rw [found]; rfl
  let opened : Lowering :=
    { state with builder := state.builder.hold id (.opened (.declared name shown)) }
  have grows : Builder.Grows registry (some id) state.builder opened.builder :=
    Builder.grows_hold registry found rfl rfl
  have filling : opened.builder.Filling id (.opened (.declared name shown)) :=
    Builder.filling_hold tallies.sound.faultless exists_id (by simp)
  have tallied : Tallies registry opened (start ledger) :=
    ⟨tallies.registry_eq, tallies.sound.hold found rfl filling.hasBody linked, starts⟩
  have filled := agrees_body sound recalls isBody ordinary tallied filling count
  have same : (fill id names fun scope => do asValue tree.span (← lower revive scope tree)) state =
      (do
        let scope ← bindParameters id 0 names .empty
        let found ← lower revive scope tree
        let value ← asValue tree.span found
        build (.ret value)) opened := by
    obtain ⟨middle, appends, moves⟩ := Build.open_eq tallies.sound.faultless found "entry"
    have blocks : (Routine.declared name shown).blocks.size = 0 := rfl
    rw [blocks] at appends moves
    simp only [fill, bind_assoc]
    show EStateM.bind (build (.appendBlock id "entry")) _ state = _
    simp only [EStateM.bind, build, appends, Bind.bind, moves]
    rfl
  have heading : ∀ after noted, Leaves registry (some id) opened after noted →
      Leaves registry (some id) state after noted := fun after noted leaves =>
    ⟨leaves.tallies, leaves.anonymous_eq, grows.trans leaves.grows⟩
  rw [agrees_iff] at filled ⊢
  unfold discardingOnError Check.fillWith
  rw [same]
  generalize (do
    let scope ← bindParameters id 0 names .empty
    let found ← lower revive scope tree
    let value ← asValue tree.span found
    build (.ret value) : Lower PUnit) opened = result at filled
  generalize Check.expr registry check names.reverse tree (start ledger) = verdict at filled
  cases filled with
  | ok leaves holds =>
    obtain ⟨routine, here, compiled⟩ := holds
    obtain ⟨tallies, anonymous, grown⟩ := heading _ _ leaves
    obtain ⟨later, hereLater, sameName, sameParameters⟩ := grown.heading found
    cases here.symm.trans hereLater
    refine .ok ⟨⟨tallies.registry_eq, tallies.sound, tallies.agree⟩, anonymous, grown⟩
      ⟨routine, here, ?_, fun callee reads => ?_⟩
    · rw [sameParameters]
      exact count
    · rw [sameName, sameParameters]
      exact compiled callee reads
  | @error error after noted leaves =>
    obtain ⟨tallies, anonymous, grown⟩ := heading after noted leaves
    exact .error ⟨⟨tallies.registry_eq, tallies.sound.discardBody id,
      discards after noted tallies grown⟩, anonymous,
      grown.trans (Builder.grows_discardBody registry after.builder id)⟩

/-- A definition of the registry is lowered as it is checked. -/
theorem agrees_define (sound : registry.IsSound) (recalls : RecallAgrees registry revive check)
    {prototype : Prototype} (registered : registry.lookup? prototype.linkedName =
      some (.function prototype tree)) (tallies : Tallies registry state ledger) :
    Agrees registry none
      (define prototype fun scope => do asValue tree.span (← lower revive scope tree))
      (Check.define prototype tree fun names => Check.expr registry check names tree)
      state ledger fun target after =>
        after.builder.lookup? prototype.linkedName = some target := by
  have named : prototype.isAnonymous = false := (sound.ordinary registered).1
  have ordinary := (sound.ordinary registered).2
  obtain ⟨isBody, calls⟩ := sound.bodies registered
  refine (agrees_declare tallies named ordinary).bind ?_
  rintro id middle noted tallies ⟨means, _, shown, count, found⟩
  have empty : middle.builder.hasBody id = false := by
    rw [Builder.hasBody, found]
    rfl
  have exists_id : (middle.builder.routine? id).isSome := by rw [found]; rfl
  have filled := agrees_fill sound recalls isBody calls
    (fun ledger => ledger.set prototype.linkedName
      (some ⟨prototype.parameters.length, some (prototype.parameters, tree)⟩))
    (fun ledger => ledger.set prototype.linkedName (some ⟨prototype.parameters.length, none⟩))
    tallies found count (fun _ => means) ?_ ?_
  · rw [agrees_iff] at filled ⊢
    rw [return_apply]
    unfold Check.fill
    generalize lowered : discardingOnError id (fill id prototype.parameters fun scope => do
      asValue tree.span (← lower revive scope tree)) middle = result at filled
    simp only
    generalize Check.fillWith _ _ tree _ noted = verdict at filled ⊢
    cases filled with
    | @ok done after final leaves holds =>
      obtain ⟨tallied, anonymous, grows⟩ := leaves
      obtain ⟨routine, here, holds⟩ := holds
      have name : routine.name = prototype.linkedName := by
        obtain ⟨later, hereLater, sameName, _⟩ := grows.heading found
        cases here.symm.trans hereLater
        exact sameName
      refine .ok ⟨tallied, anonymous, grows.complete empty ?_⟩ fun _ => grows.lookup ordinary means
      intro other hereOther _
      cases here.symm.trans hereOther
      exact ⟨prototype, tree, by rw [name, registered], holds⟩
    | @error error after final leaves =>
      obtain ⟨tallied, anonymous, grows⟩ := leaves
      refine .error ⟨tallied, anonymous, grows.complete empty ?_⟩
      intro routine here body
      have discarded := hasBody_of_discardingOnError lowered
      rw [Builder.hasBody, here, Option.any_some, body] at discarded
      contradiction
  · refine tallies.agree.of_changed tallies.sound (fun key => Builder.lookup?_hold ..) ?_ means
      ((Builder.routine?_hold exists_id _ id).trans (if_pos rfl)) count rfl
    intro place other
    rw [Builder.routine?_hold exists_id, if_neg other]
  · intro after final tallied grows
    obtain ⟨later, here, _, sameParameters⟩ := grows.heading found
    have own : (after.builder.discardBody id).routine? id = some later.withoutBody := by
      rw [Builder.routine?_discardBody, if_pos rfl, here]
      rfl
    have arity : later.withoutBody.parameters.length = prototype.parameters.length := by
      rw [Routine.withoutBody, sameParameters]
      exact count
    refine tallied.agree.of_changed tallied.sound (fun key => Builder.lookup?_discardBody ..) ?_
      (grows.lookup ordinary means) own arity rfl
    intro place other
    rw [Builder.routine?_discardBody, if_neg other]

end Filling

/-- Definitions of the registry are lowered as they are checked, however deeply others are nested in
them. -/
theorem recallAgrees_recallWithin (sound : registry.IsSound) (depth : Nat) :
    RecallAgrees registry (recallWithin depth) (Check.recallWithin registry depth) := by
  induction depth with
  | zero => exact fun _ _ _ _ _ tallies => .throw _ tallies
  | succ depth hypothesis =>
    intro prototype body state ledger registered tallies
    exact agrees_define sound hypothesis registered tallies

end Lower

end Kaleidoscope
