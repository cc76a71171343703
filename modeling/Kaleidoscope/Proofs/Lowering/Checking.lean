import Kaleidoscope.Proofs.Lowering.Ledger

/-!
# What checking does to a ledger

Whether checking succeeds or not, a ledger only grows: names keep their routines and definitions,
and a routine that gets a body is filled from the definition of its name in the registry, whose
variables are visible and whose calls have the right number of arguments (`Ledger.Grows`). If it
succeeds, every call goes to a routine with a body or to a name that is declared
(`Ledger.Settles`).
-/
namespace Kaleidoscope

namespace Ledger

/-- A definition of the registry that is complete: its variables are visible, and its calls have as
many arguments as the routines that they go to have parameters. -/
structure IsComplete (registry : Registry) (ledger : Ledger) (name : String)
    (source : List String × Expr) : Prop where
  /-- It is the definition of its name. -/
  registered : ∃ prototype, registry.lookup? name = some (.function prototype source.2) ∧
    source.1 = prototype.parameters
  /-- Its parameters have different names. -/
  distinct : Lower.duplicate? [] source.1 = none
  /-- Its variables are visible. -/
  closed : source.2.Scoped source.1.reverse
  /-- Its calls fit. -/
  fits : ∀ call ∈ source.2.calls, ledger.arity? call.1 = some call.2

/-- What checking may do to a ledger. -/
structure Grows (registry : Registry) (before after : Ledger) : Prop where
  /-- Names keep the number of parameters. -/
  arity_kept : ∀ {name : String} {arity : Nat}, before.arity? name = some arity →
    after.arity? name = some arity
  /-- Names keep the definition. -/
  source_kept : ∀ {name : String} {source : List String × Expr},
    before.source? name = some source → after.source? name = some source
  /-- New names have as many parameters as in the registry. -/
  arity_new : ∀ {name : String} {arity : Nat}, after.arity? name = some arity →
    before.arity? name = none → ∃ entry, registry.lookup? name = some entry ∧
      arity = entry.prototype.parameters.length
  /-- New definitions are complete. -/
  source_new : ∀ {name : String} {source : List String × Expr},
    after.source? name = some source → before.source? name = none →
    IsComplete registry after name source
  /-- The names called by new definitions have been noted. -/
  used_iff : ∀ {name : String}, name ∈ after.used ↔ name ∈ before.used ∨
    ∃ other source, after.source? other = some source ∧ before.source? other = none ∧
      name ∈ source.2.calls.map (·.1)

/-- A call of a name goes to a routine with a body or to a name that is declared. -/
def IsSettled (registry : Registry) (ledger : Ledger) (name : String) : Prop :=
  (ledger.source? name).isSome ∨
    ∃ prototype, registry.lookup? name = some (.declaration prototype)

/-- Some calls fit and are settled. -/
def Resolves (registry : Registry) (ledger : Ledger) (calls : List (String × Nat)) : Prop :=
  ∀ call ∈ calls, ledger.arity? call.1 = some call.2 ∧ ledger.IsSettled registry call.1

/-- The calls of new definitions are settled. -/
def Settles (registry : Registry) (before after : Ledger) : Prop :=
  ∀ name source, after.source? name = some source → before.source? name = none →
    ∀ call ∈ source.2.calls, after.IsSettled registry call.1

section Reading

variable (ledger : Ledger) (name : String) (status : Option Status) (body : Expr)

@[simp] theorem arity?_set (other : String) :
    (ledger.set name status).arity? other =
      if other = name then status.map (·.arity) else ledger.arity? other := by
  unfold arity? set
  by_cases same : other = name <;> simp [same]

@[simp] theorem source?_set (other : String) :
    (ledger.set name status).source? other =
      if other = name then status.bind (·.source) else ledger.source? other := by
  unfold source? set
  by_cases same : other = name <;> simp [same]

@[simp] theorem used_set : (ledger.set name status).used = ledger.used := rfl

@[simp] theorem arity?_note (other : String) :
    (ledger.note body).arity? other = ledger.arity? other := rfl

@[simp] theorem source?_note (other : String) :
    (ledger.note body).source? other = ledger.source? other := rfl

/-- A name without a routine has no definition. -/
theorem source?_eq_none {name : String} (unknown : ledger.arity? name = none) :
    ledger.source? name = none := by
  unfold arity? at unknown
  unfold source?
  rw [Option.map_eq_none_iff.1 unknown]
  rfl

end Reading

/-- What is changed for a name changes nothing for others. -/
theorem source?_set_of_ne {ledger : Ledger} {name other : String} {status : Option Status}
    (different : other ≠ name) :
    (ledger.set name status).source? other = ledger.source? other := by
  rw [source?_set, if_neg different]

/-- Whatever a routine is filled from, it has as many parameters as before. -/
theorem arity?_set_of_arity {ledger : Ledger} {name : String} {count : Nat}
    (arity : ledger.arity? name = some count) (source : Option (List String × Expr))
    (other : String) : (ledger.set name (some ⟨count, source⟩)).arity? other = ledger.arity? other := by
  rw [arity?_set]
  split
  · next same =>
    rw [same, arity]
    rfl
  · rfl

/-- Of two names only one of which has a definition, each is another one. -/
theorem ne_of_source {ledger : Ledger} {name other : String} {source : List String × Expr}
    (known : ledger.source? name = some source) (empty : ledger.source? other = none) :
    name ≠ other := by
  rintro rfl
  rw [empty] at known
  contradiction

variable {registry : Registry} {before middle after : Ledger}

/-- Definitions stay complete. -/
theorem IsComplete.mono {name : String} {source : List String × Expr}
    (complete : IsComplete registry before name source) (grows : Grows registry before after) :
    IsComplete registry after name source :=
  { complete with fits := fun call member => grows.arity_kept (complete.fits call member) }

/-- Calls stay settled. -/
theorem IsSettled.mono {name : String} (settled : before.IsSettled registry name)
    (grows : Grows registry before after) : after.IsSettled registry name := by
  rcases settled with filled | declared
  · obtain ⟨source, found⟩ := Option.isSome_iff_exists.1 filled
    exact .inl (by rw [grows.source_kept found]; rfl)
  · exact .inr declared

/-- Calls stay resolved. -/
theorem Resolves.mono {calls : List (String × Nat)} (resolves : before.Resolves registry calls)
    (grows : Grows registry before after) : after.Resolves registry calls :=
  fun call member =>
    ⟨grows.arity_kept (resolves call member).1, (resolves call member).2.mono grows⟩

/-- Calls of two lists are resolved together. -/
theorem Resolves.append {front back : List (String × Nat)} (first : after.Resolves registry front)
    (second : after.Resolves registry back) : after.Resolves registry (front ++ back) := by
  intro call member
  rcases List.mem_append.1 member with early | late
  · exact first call early
  · exact second call late

namespace Grows

/-- Without new definitions only numbers of parameters matter. -/
theorem of_sources (sources : ∀ name, after.source? name = before.source? name)
    (used : after.used = before.used)
    (arity_kept : ∀ name arity, before.arity? name = some arity → after.arity? name = some arity)
    (arity_new : ∀ name arity, after.arity? name = some arity → before.arity? name = none →
      ∃ entry, registry.lookup? name = some entry ∧ arity = entry.prototype.parameters.length) :
    Grows registry before after where
  arity_kept known := arity_kept _ _ known
  source_kept known := by rw [sources, known]
  arity_new known unknown := arity_new _ _ known unknown
  source_new known unknown := by rw [sources, unknown] at known; contradiction
  used_iff := by
    intro name
    rw [used]
    constructor
    · exact .inl
    · rintro (member | ⟨other, source, known, unknown, _⟩)
      · exact member
      · rw [sources, unknown] at known
        contradiction

/-- Nothing may happen. -/
theorem refl (registry : Registry) (ledger : Ledger) : Grows registry ledger ledger :=
  of_sources (fun _ => rfl) rfl (fun _ _ known => known) fun name arity known unknown => by
    rw [known] at unknown
    contradiction

/-- What happens may happen in turn. -/
theorem trans (front : Grows registry before middle) (back : Grows registry middle after) :
    Grows registry before after where
  arity_kept known := back.arity_kept (front.arity_kept known)
  source_kept known := back.source_kept (front.source_kept known)
  arity_new := by
    intro name arity known unknown
    cases between : middle.arity? name with
    | none => exact back.arity_new known between
    | some other =>
      rw [back.arity_kept between, Option.some.injEq] at known
      exact front.arity_new (known ▸ between) unknown
  source_new := by
    intro name source known unknown
    cases between : middle.source? name with
    | none => exact back.source_new known between
    | some other =>
      rw [back.source_kept between, Option.some.injEq] at known
      exact (front.source_new (known ▸ between) unknown).mono back
  used_iff := by
    intro name
    rw [back.used_iff, front.used_iff]
    constructor
    · rintro ((used | ⟨other, source, known, unknown, member⟩) |
        ⟨other, source, known, unknown, member⟩)
      · exact .inl used
      · exact .inr ⟨other, source, back.source_kept known, unknown, member⟩
      · refine .inr ⟨other, source, known, ?_, member⟩
        cases early : before.source? other with
        | none => rfl
        | some first =>
          rw [front.source_kept early] at unknown
          contradiction
    · rintro (used | ⟨other, source, known, unknown, member⟩)
      · exact .inl (.inl used)
      · cases between : middle.source? other with
        | none => exact .inr ⟨other, source, known, between, member⟩
        | some second =>
          rw [back.source_kept between, Option.some.injEq] at known
          exact .inl (.inr ⟨other, source, known ▸ between, unknown, member⟩)

end Grows

/-- The calls of all new definitions are settled if those of each step are. -/
theorem Settles.trans (front : Settles registry before middle)
    (grows : Grows registry middle after) (back : Settles registry middle after) :
    Settles registry before after := by
  intro name source known unknown call member
  cases between : middle.source? name with
  | none => exact back name source known between call member
  | some other =>
    rw [grows.source_kept between, Option.some.injEq] at known
    exact (front name source (known ▸ between) unknown call member).mono grows

/-- Without new definitions there is nothing to settle. -/
theorem Settles.of_sources (sources : ∀ name, after.source? name = before.source? name) :
    Settles registry before after := by
  intro name source known unknown
  rw [sources, unknown] at known
  contradiction

/-- If nothing happens there is nothing to settle. -/
theorem Settles.refl (registry : Registry) (ledger : Ledger) : Settles registry ledger ledger :=
  .of_sources fun _ => rfl

end Ledger

/-- A registry made from forms: names are those of their entries, and definitions are built from
expressions alone. -/
structure Registry.IsSound (registry : Registry) : Prop where
  /-- Entries stand under their own names. -/
  linked : ∀ {name : String} {entry : Entry}, registry.lookup? name = some entry →
    entry.prototype.linkedName = name
  /-- No entry is an expression to run. -/
  ordinary : ∀ {name : String} {entry : Entry}, registry.lookup? name = some entry →
    entry.prototype.isAnonymous = false ∧ IsOrdinary name
  /-- Bodies are built from expressions alone and call ordinary names. -/
  bodies : ∀ {name : String} {prototype : Prototype} {body : Expr},
    registry.lookup? name = some (.function prototype body) → body.IsBody ∧ body.CallsOrdinary

namespace Check

open Ledger

/-- What can be said of an action of checking, and of the ledger it leads to if it succeeds. -/
def Yields (registry : Registry) (action : Check PUnit) (before : Ledger)
    (post : Ledger → Prop) : Prop :=
  match action before with
  | .ok _ after => Grows registry before after ∧ Settles registry before after ∧ post after
  | .error _ after => Grows registry before after

namespace Yields

variable {registry : Registry} {action next : Check PUnit} {before : Ledger}
  {post rest : Ledger → Prop}

/-- Doing nothing. -/
theorem pure (holds : post before) : Yields registry (pure ⟨⟩) before post :=
  ⟨.refl registry before, .refl registry before, holds⟩

/-- Failing. -/
theorem throw (error : LowerError) : Yields registry (throw error) before post :=
  .refl registry before

/-- One action after another. -/
theorem bind (front : Yields registry action before post)
    (back : ∀ middle, Grows registry before middle → post middle →
      Yields registry next middle rest) :
    Yields registry (do action; next) before rest := by
  unfold Yields at front ⊢
  simp only [Bind.bind, EStateM.bind]
  cases done : action before with
  | error error middle =>
    rw [done] at front
    exact front
  | ok value middle =>
    rw [done] at front
    obtain ⟨grows, settles, holds⟩ := front
    have second := back middle grows holds
    unfold Yields at second
    cases last : next middle with
    | error error after =>
      simp only [last] at second ⊢
      exact grows.trans second
    | ok value after =>
      simp only [last] at second ⊢
      exact ⟨grows.trans second.1, settles.trans second.1 second.2.1, second.2.2⟩

/-- Looking at the ledger. -/
theorem get {next : Ledger → Check PUnit} (yields : Yields registry (next before) before post) :
    Yields registry (do next (← get)) before post :=
  yields

/-- What follows from what holds afterwards. -/
theorem imp (yields : Yields registry action before post)
    (follows : ∀ after, Grows registry before after → post after → rest after) :
    Yields registry action before rest := by
  unfold Yields at yields ⊢
  cases done : action before with
  | error error after => simpa only [done] using yields
  | ok value after =>
    simp only [done] at yields ⊢
    exact ⟨yields.1, yields.2.1, follows after yields.1 yields.2.2⟩

end Yields

variable {registry : Registry} {before : Ledger}

/-- Declaring yields a routine without a body, of as many parameters as the prototype. -/
theorem yields_declare (entry : Entry)
    (found : registry.lookup? entry.prototype.linkedName = some entry) :
    Yields registry (declare entry.prototype) before fun after =>
      after.arity? entry.prototype.linkedName = some entry.prototype.parameters.length ∧
        after.source? entry.prototype.linkedName = none ∧
        Lower.duplicate? [] entry.prototype.parameters = none := by
  unfold declare
  cases twice : Lower.duplicate? [] entry.prototype.parameters with
  | some name => exact .throw _
  | none =>
    simp only [Yields, Bind.bind, EStateM.bind, get_apply]
    cases held : before.known entry.prototype.linkedName with
    | none =>
      simp only [modify_apply]
      have unknown : before.arity? entry.prototype.linkedName = none := by
        rw [arity?, held]
        rfl
      have empty := source?_eq_none before unknown
      have sources : ∀ name, (before.set entry.prototype.linkedName
          (some ⟨entry.prototype.parameters.length, none⟩)).source? name = before.source? name := by
        intro name
        rw [source?_set]
        split
        · next same => rw [same, empty]; rfl
        · rfl
      refine ⟨.of_sources sources rfl ?_ ?_, .of_sources sources, by simp, by simp, trivial⟩
      · intro name arity known
        rw [arity?_set]
        split
        · next same =>
          rw [same, unknown] at known
          contradiction
        · exact known
      · intro name arity known fresh
        rw [arity?_set] at known
        split at known
        · next same =>
          cases known
          exact ⟨entry, same ▸ found, rfl⟩
        · rw [known] at fresh
          contradiction
    | some status =>
      simp only
      by_cases arity : status.arity = entry.prototype.parameters.length
      · rw [if_neg (by simp [arity])]
        cases filled : status.source with
        | some source => exact .refl registry before
        | none =>
          refine ⟨.refl registry before, .refl registry before, ?_, ?_, trivial⟩
          · rw [arity?_of_known held, arity]
          · rw [source?_of_known held, filled]
      · rw [if_pos (by simp [arity])]
        exact .refl registry before

section Filling

variable {prototype : Prototype} {body : Expr} {inner : Check PUnit}

/-- A routine that is filled while it has no body, seen before and after. -/
theorem grows_fill {after : Ledger}
    (found : registry.lookup? prototype.linkedName = some (.function prototype body))
    (arity : before.arity? prototype.linkedName = some prototype.parameters.length)
    (empty : before.source? prototype.linkedName = none)
    (distinct : Lower.duplicate? [] prototype.parameters = none)
    (grows : Grows registry (before.set prototype.linkedName
      (some ⟨prototype.parameters.length, some (prototype.parameters, body)⟩)) after)
    (closed : body.Scoped prototype.parameters.reverse)
    (resolves : after.Resolves registry body.calls) : Grows registry before (after.note body) where
  arity_kept known := grows.arity_kept ((arity?_set_of_arity arity _ _).trans known)
  arity_new known fresh := grows.arity_new known ((arity?_set_of_arity arity _ _).trans fresh)
  source_kept known :=
    grows.source_kept ((source?_set_of_ne (ne_of_source known empty)).trans known)
  source_new := by
    intro name source known fresh
    have filled : after.source? prototype.linkedName = some (prototype.parameters, body) :=
      grows.source_kept (by simp)
    by_cases own : name = prototype.linkedName
    · subst own
      cases filled.symm.trans known
      exact ⟨⟨prototype, found, rfl⟩, distinct, closed, fun call member => (resolves call member).1⟩
    · exact { grows.source_new known ((source?_set_of_ne own).trans fresh) with }
  used_iff := by
    intro name
    have filled : after.source? prototype.linkedName = some (prototype.parameters, body) :=
      grows.source_kept (by simp)
    simp only [note, List.mem_append, grows.used_iff, used_set]
    constructor
    · rintro (own | used | ⟨other, source, known, fresh, member⟩)
      · exact .inr ⟨_, _, filled, empty, own⟩
      · exact .inl used
      · have different : other ≠ prototype.linkedName := by
          rintro rfl
          simp at fresh
        exact .inr ⟨other, source, known, (source?_set_of_ne different).symm.trans fresh, member⟩
    · rintro (used | ⟨other, source, known, fresh, member⟩)
      · exact .inr (.inl used)
      · by_cases own : other = prototype.linkedName
        · subst own
          cases filled.symm.trans known
          exact .inl member
        · exact .inr (.inr ⟨other, source, known, (source?_set_of_ne own).trans fresh, member⟩)

/-- A routine that could not be filled, seen before and after. -/
theorem grows_discard {after : Ledger}
    (arity : before.arity? prototype.linkedName = some prototype.parameters.length)
    (empty : before.source? prototype.linkedName = none)
    (grows : Grows registry (before.set prototype.linkedName
      (some ⟨prototype.parameters.length, some (prototype.parameters, body)⟩)) after) :
    Grows registry before
      (after.set prototype.linkedName (some ⟨prototype.parameters.length, none⟩)) := by
  have own : after.arity? prototype.linkedName = some prototype.parameters.length :=
    grows.arity_kept (by simp)
  have discarded : ∀ {name : String} {source : List String × Expr},
      (after.set prototype.linkedName (some ⟨prototype.parameters.length, none⟩)).source? name =
        some source ↔ name ≠ prototype.linkedName ∧ after.source? name = some source := by
    intro name source
    rw [source?_set]
    split
    · next same => simp [same]
    · next other => simp [other]
  constructor
  · intro name count known
    rw [arity?_set_of_arity own]
    exact grows.arity_kept ((arity?_set_of_arity arity _ _).trans known)
  · intro name source known
    have other := ne_of_source known empty
    exact discarded.2 ⟨other, grows.source_kept ((source?_set_of_ne other).trans known)⟩
  · intro name count known fresh
    rw [arity?_set_of_arity own] at known
    exact grows.arity_new known ((arity?_set_of_arity arity _ _).trans fresh)
  · intro name source known fresh
    obtain ⟨other, known⟩ := discarded.1 known
    have complete := grows.source_new known ((source?_set_of_ne other).trans fresh)
    refine { complete with fits := fun call member => ?_ }
    rw [arity?_set_of_arity own]
    exact complete.fits call member
  · intro name
    simp only [used_set, grows.used_iff, discarded]
    refine or_congr_right (exists_congr fun other => exists_congr fun source => ?_)
    constructor
    · rintro ⟨known, fresh, member⟩
      have different : other ≠ prototype.linkedName := by
        rintro rfl
        simp at fresh
      exact ⟨⟨different, known⟩, (source?_set_of_ne different).symm.trans fresh, member⟩
    · rintro ⟨⟨different, known⟩, fresh, member⟩
      exact ⟨known, (source?_set_of_ne different).trans fresh, member⟩

/-- A definition of the registry that checks is complete afterwards. -/
theorem yields_define {inner : List String → Check PUnit}
    (found : registry.lookup? prototype.linkedName = some (.function prototype body))
    (checks : ∀ ledger, Yields registry (inner prototype.parameters.reverse) ledger fun after =>
      body.Scoped prototype.parameters.reverse ∧ after.Resolves registry body.calls) :
    Yields registry (define prototype body inner) before fun after =>
      after.arity? prototype.linkedName = some prototype.parameters.length ∧
        (after.source? prototype.linkedName).isSome := by
  refine Yields.bind (yields_declare (.function prototype body) found) ?_
  rintro middle _ ⟨arity, empty, distinct⟩
  have filled := checks (middle.set prototype.linkedName
    (some ⟨prototype.parameters.length, some (prototype.parameters, body)⟩))
  unfold Yields at filled ⊢
  unfold fill fillWith
  cases done : inner prototype.parameters.reverse (middle.set prototype.linkedName
      (some ⟨prototype.parameters.length, some (prototype.parameters, body)⟩)) with
  | error error after =>
    simp only [done] at filled ⊢
    exact grows_discard arity empty filled
  | ok value after =>
    simp only [done] at filled ⊢
    obtain ⟨grows, settles, closed, resolves⟩ := filled
    have own : after.source? prototype.linkedName = some (prototype.parameters, body) :=
      grows.source_kept (by simp)
    refine ⟨grows_fill found arity empty distinct grows closed resolves, ?_, ?_, ?_⟩
    · intro name source known fresh call member
      by_cases same : name = prototype.linkedName
      · subst same
        cases own.symm.trans known
        exact (resolves call member).2
      · refine settles name source known ?_ call member
        rw [source?_set, if_neg same]
        exact fresh
    · exact grows.arity_kept (by simp)
    · rw [source?_note, own]
      rfl

end Filling

/-- Wrapping an error changes nothing else. -/
theorem yields_inDefinition {action : Check PUnit} {post : Ledger → Prop} (name : String)
    (span : Span) (yields : Yields registry action before post) :
    Yields registry (inDefinition name span action) before post := by
  unfold Yields at yields ⊢
  unfold inDefinition
  cases done : action before with
  | ok value after => simpa only [done] using yields
  | error error after => simpa only [done] using yields

/-- A visible variable is visible. -/
theorem yields_visible (names : List String) (name : String) (span : Span) :
    Yields registry (visible names name span) before fun _ => name ∈ names := by
  unfold visible
  split
  · next visible => exact .pure visible
  · exact .throw _

section Rules

variable {revive : Prototype → Expr → Check PUnit}

/-- A rule for definitions of the registry leaves them complete. -/
def Recalls (registry : Registry) (revive : Prototype → Expr → Check PUnit) : Prop :=
  ∀ prototype body ledger,
    registry.lookup? prototype.linkedName = some (.function prototype body) →
    Yields registry (revive prototype body) ledger fun after =>
      after.arity? prototype.linkedName = some prototype.parameters.length ∧
        (after.source? prototype.linkedName).isSome

/-- A call goes to a routine that is there, and is settled. -/
theorem yields_resolve (sound : registry.IsSound) (recalls : Recalls registry revive)
    (name : String) (span : Span) :
    Yields registry (resolve registry revive name span) before fun after =>
      (∃ arity, after.arity? name = some arity) ∧ after.IsSettled registry name := by
  refine .get ?_
  simp only
  cases filled : (before.known name).filter (·.source.isSome) with
  | some status =>
    obtain ⟨known, source⟩ := Option.filter_eq_some_iff.1 filled
    refine .pure ⟨⟨status.arity, arity?_of_known known⟩, .inl ?_⟩
    rw [source?_of_known known]
    exact source
  | none =>
    cases found : registry.lookup? name with
    | none => exact .throw _
    | some entry =>
      have linked := sound.linked found
      subst linked
      cases entry with
      | function prototype body =>
        refine yields_inDefinition _ _ ((recalls prototype body before found).imp ?_)
        rintro after _ ⟨arity, source⟩
        exact ⟨⟨_, arity⟩, .inl source⟩
      | declaration prototype =>
        cases known : before.known (Entry.declaration prototype).prototype.linkedName with
        | some status =>
          exact .pure ⟨⟨status.arity, arity?_of_known known⟩, .inr ⟨prototype, found⟩⟩
        | none =>
          refine (yields_declare (.declaration prototype) found).imp ?_
          rintro after _ ⟨arity, _⟩
          exact ⟨⟨_, arity⟩, .inr ⟨prototype, found⟩⟩

/-- A call of a name fits and is settled. -/
theorem yields_callee (sound : registry.IsSound) (recalls : Recalls registry revive)
    (name : String) (count : Nat) (span : Span) :
    Yields registry (callee registry revive name count span) before fun after =>
      after.Resolves registry [(name, count)] := by
  refine (yields_resolve sound recalls name span).bind ?_
  rintro middle _ ⟨⟨arity, known⟩, settled⟩
  show Yields registry (if (middle.arity? name).getD 0 ≠ count then _ else _) middle _
  rw [known, Option.getD_some]
  by_cases same : arity = count
  · rw [if_neg (by simp [same])]
    refine .pure fun call member => ?_
    obtain rfl := List.mem_singleton.1 member
    exact ⟨known.trans (by rw [same]), settled⟩
  · rw [if_pos same]
    exact .throw _

/-- What holds of a tree that checks: its variables are visible, and its calls are resolved. -/
def Good (registry : Registry) (closed : Prop) (calls : List (String × Nat)) (after : Ledger) :
    Prop := closed ∧ after.Resolves registry calls

/-- A call of a name that checks is resolved. -/
theorem good_callee (sound : registry.IsSound) (recalls : Recalls registry revive)
    (name : String) (count : Nat) (span : Span) :
    Yields registry (callee registry revive name count span) before
      (Good registry True [(name, count)]) :=
  (yields_callee sound recalls name count span).imp fun _ _ resolves => ⟨trivial, resolves⟩

/-- What holds of two trees that check holds of both together. -/
theorem yields_both {first second : Check PUnit} {closed further both : Prop}
    {calls more : List (String × Nat)} (front : Yields registry first before (Good registry closed calls))
    (back : ∀ ledger, Yields registry second ledger (Good registry further more))
    (together : closed → further → both) :
    Yields registry (do first; second) before (Good registry both (calls ++ more)) := by
  refine front.bind fun middle _ good => (back middle).imp fun after grows rest => ?_
  exact ⟨together good.1 rest.1, (good.2.mono grows).append rest.2⟩

mutual

/-- A tree that checks has visible variables and resolved calls. -/
theorem yields_expr (sound : registry.IsSound) (recalls : Recalls registry revive) :
    ∀ (tree : Expr) (names : List String) (before : Ledger), tree.IsBody →
      Yields registry (expr registry revive names tree) before
        (Good registry (tree.Scoped names) tree.calls)
  | .number _ _, _, _, _ => .pure ⟨trivial, by simp [Resolves, Expr.calls]⟩
  | .var name span, names, before, _ =>
    (yields_visible names name span).imp fun after _ visible =>
      ⟨visible, by simp [Resolves, Expr.calls]⟩
  | .binary _ .assign left right _, names, before, isBody => by
    cases left with
    | var name place =>
      have visible : ∀ ledger, Yields registry (Check.visible names name place) ledger
          (Good registry (name ∈ names) []) := fun ledger =>
        (yields_visible names name place).imp fun after _ visible => ⟨visible, by simp [Resolves]⟩
      have both := yields_both (yields_expr sound recalls right names before isBody.2) visible
        And.intro
      rwa [List.append_nil] at both
    | _ => exact .throw _
  | .binary _ (.user name) left right span, names, before, isBody => by
    exact yields_both (good_callee sound recalls ("binary_" ++ name) 2 span)
      (fun ledger => yields_both (yields_expr sound recalls left names ledger isBody.1)
        (fun ledger => yields_expr sound recalls right names ledger isBody.2) And.intro)
      fun _ both => both
  | .binary _ (.builtin _) left right _, names, before, isBody =>
    yields_both (yields_expr sound recalls left names before isBody.1)
      (fun ledger => yields_expr sound recalls right names ledger isBody.2) And.intro
  | .unary operator operand span, names, before, isBody => by
    exact yields_both (good_callee sound recalls (Expr.unaryCallee operator) 1 span)
      (fun ledger => yields_expr sound recalls operand names ledger isBody) fun _ closed => closed
  | .call name arguments span, names, before, isBody => by
    exact yields_both (good_callee sound recalls name arguments.length span)
      (fun ledger => yields_exprs sound recalls arguments names ledger isBody) fun _ closed => closed
  | .conditional condition consequent alternative _, names, before, isBody =>
    yields_both (yields_expr sound recalls condition names before isBody.1)
      (fun ledger => yields_both (yields_expr sound recalls consequent names ledger isBody.2.1)
        (fun ledger => yields_expr sound recalls alternative names ledger isBody.2.2) And.intro)
      And.intro
  | .loop counter start limit step body _, names, before, isBody =>
    yields_both (yields_expr sound recalls start names before isBody.1)
      (fun ledger => yields_both
        (yields_expr sound recalls body (counter :: names) ledger isBody.2.2.2)
        (fun ledger => yields_both
          (yields_optional sound recalls step (counter :: names) ledger isBody.2.2.1)
          (fun ledger => yields_expr sound recalls limit (counter :: names) ledger isBody.2.1)
          And.intro) And.intro) And.intro
  | .binding name initializer body _, names, before, isBody =>
    yields_both (yields_optional sound recalls initializer names before isBody.1)
      (fun ledger => yields_expr sound recalls body (name :: names) ledger isBody.2) And.intro
  | .prototype _, _, _, isBody | .function _ _ _, _, _, isBody | .declaration _ _, _, _, isBody =>
    isBody.elim

/-- Arguments that check have visible variables and resolved calls. -/
theorem yields_exprs (sound : registry.IsSound) (recalls : Recalls registry revive) :
    ∀ (trees : List Expr) (names : List String) (before : Ledger), Expr.AreBodies trees →
      Yields registry (exprs registry revive names trees) before
        (Good registry (Expr.AreScoped names trees) (Expr.callsOfAll trees))
  | [], _, _, _ => .pure ⟨trivial, by simp [Resolves, Expr.callsOfAll]⟩
  | tree :: rest, names, before, areBodies =>
    yields_both (yields_expr sound recalls tree names before areBodies.1)
      (fun ledger => yields_exprs sound recalls rest names ledger areBodies.2) And.intro

/-- A tree that may be left out and checks has visible variables and resolved calls. -/
theorem yields_optional (sound : registry.IsSound) (recalls : Recalls registry revive) :
    ∀ (tree : Option Expr) (names : List String) (before : Ledger), Expr.IsOptionalBody tree →
      Yields registry (optional registry revive names tree) before
        (Good registry (Expr.IsOptionalScoped names tree) (Expr.callsOfOptional tree))
  | none, _, _, _ => .pure ⟨trivial, by simp [Resolves, Expr.callsOfOptional]⟩
  | some tree, names, before, isBody => yields_expr sound recalls tree names before isBody

end

end Rules

/-- Definitions of the registry are complete once they have been checked, however deeply others
may be nested in them. -/
theorem recalls_recallWithin (sound : registry.IsSound) (depth : Nat) :
    Recalls registry (recallWithin registry depth) := by
  induction depth with
  | zero => exact fun _ _ _ _ => .throw _
  | succ depth hypothesis =>
    intro prototype body ledger found
    exact yields_define found fun middle =>
      yields_expr sound hypothesis body _ middle (sound.bodies found).1

end Check

end Kaleidoscope
