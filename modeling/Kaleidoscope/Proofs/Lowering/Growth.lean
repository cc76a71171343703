import Kaleidoscope.Proofs.Lowering.Building
import Kaleidoscope.Proofs.Lowering.Ledger

/-!
# What lowering does to a unit

Between the steps of lowering a unit is in good order (`Builder.Sound`) and holds for each name what
a ledger says (`Builder.Matches`). While one routine is filled, the others only come to be: those
with a body stay as they are, names keep their routines, and a new body is the code of the
definition of its name in the registry, with its calls going where the names of the unit say
(`Builder.Grows`). The routine that is being filled is left out of this account.
-/
namespace Kaleidoscope

open Code

/-- A draft that goes on from another one: it has the same heading, and its block exists. -/
structure Code.Draft.Continues (draft next : Draft) : Prop where
  /-- The name stays. -/
  name_eq : next.routine.name = draft.routine.name
  /-- The parameters stay. -/
  parameters_eq : next.routine.parameters = draft.routine.parameters
  /-- The block being filled exists. -/
  inside : next.block < next.size

namespace Code.Draft

variable {draft : Draft} (inside : draft.block < draft.size)
include inside

theorem continues_push (instruction : Instruction) : draft.Continues (draft.push instruction) :=
  ⟨rfl, rfl, by simpa using inside⟩

theorem continues_emit (make : Nat → Instruction) : draft.Continues (draft.emit make).2 :=
  ⟨rfl, rfl, by simpa [emit] using inside⟩

theorem continues_finish (terminator : Terminator) : draft.Continues (draft.finish terminator) :=
  ⟨rfl, rfl, by simpa using inside⟩

theorem continues_append (name : String) : draft.Continues (draft.append name) :=
  ⟨rfl, rfl, by simp; omega⟩

theorem continues_reserve (name : String) : draft.Continues (draft.reserve name) :=
  ⟨rfl, rfl, inside⟩

end Code.Draft

/-- Any block that exists can be filled next. -/
theorem Code.Draft.continues_moveTo {draft : Draft} (block : Nat) (inside : block < draft.size) :
    draft.Continues (draft.moveTo block) :=
  ⟨rfl, rfl, inside⟩

namespace Builder

/-- A unit in good order. -/
structure Sound (builder : Builder) : Prop where
  /-- No faults are to come. -/
  faultless : builder.faults = []
  /-- A unit is open. -/
  isOpen : ∃ unit, builder.unit = some unit
  /-- Names mean routines of that name. -/
  named : ∀ {name : String} {id : Nat}, builder.lookup? name = some id →
    ∃ routine, builder.routine? id = some routine ∧ routine.name = name
  /-- Routines with a body are found by their name. -/
  found : ∀ {id : Nat} {routine : Routine}, builder.routine? id = some routine →
    routine.hasBody = true → IsOrdinary routine.name → builder.lookup? routine.name = some id
  /-- Routines without a body have nothing else. -/
  bare : ∀ {id : Nat} {routine : Routine}, builder.routine? id = some routine →
    routine.hasBody = false → routine = .declared routine.name routine.parameters

/-- What a unit holds for a name: how many parameters its routine has, and whether that has a
body. -/
def status? (builder : Builder) (name : String) : Option (Nat × Bool) :=
  (builder.lookup? name).map fun id => (builder.parameterCount id, builder.hasBody id)

/-- A unit that holds for each name what a ledger says. -/
def Matches (builder : Builder) (ledger : Ledger) : Prop :=
  ∀ name, IsOrdinary name →
    (ledger.known name).map (fun status => (status.arity, status.source.isSome)) =
      builder.status? name

/-- Calls that go where the names of a unit say. -/
def Reads (builder : Builder) (callee : String → Nat) : Prop :=
  ∀ {name : String} {id : Nat}, IsOrdinary name → builder.lookup? name = some id →
    callee name = id

/-- A routine that holds the code of a definition. -/
def Holds (builder : Builder) (routine : Routine) (parameters : List String) (body : Expr) : Prop :=
  routine.parameters.length = parameters.length ∧ ∀ callee, builder.Reads callee →
    routine = Draft.compile callee parameters body (.declared routine.name routine.parameters)

/-- A routine that holds the code of the definition of its name in a registry. -/
def Finished (registry : Registry) (builder : Builder) (routine : Routine) : Prop :=
  ∃ prototype body, registry.lookup? routine.name = some (.function prototype body) ∧
    builder.Holds routine prototype.parameters body

/-- What may happen to a unit while one routine is filled. -/
structure Grows (registry : Registry) (current : Option Nat) (before after : Builder) : Prop where
  /-- Routines keep their names and parameters. -/
  heading : ∀ {id : Nat} {routine : Routine}, before.routine? id = some routine →
    ∃ later, after.routine? id = some later ∧ later.name = routine.name ∧
      later.parameters = routine.parameters
  /-- Other routines with a body stay as they are. -/
  kept : ∀ {id : Nat} {routine : Routine}, current ≠ some id →
    before.routine? id = some routine → routine.hasBody = true →
    after.routine? id = some routine
  /-- Names keep their routines. -/
  lookup : ∀ {name : String} {id : Nat}, IsOrdinary name → before.lookup? name = some id →
    after.lookup? name = some id
  /-- Other routines with a new body are finished. -/
  finished : ∀ {id : Nat} {routine : Routine}, current ≠ some id →
    after.routine? id = some routine → routine.hasBody = true →
    before.routine? id = some routine ∨ Finished registry after routine

variable {registry : Registry} {current : Option Nat} {before middle after builder : Builder}

/-- Calls that go where the names say later go where they say now. -/
theorem Reads.earlier {callee : String → Nat} (reads : after.Reads callee)
    (grows : Grows registry current before after) : before.Reads callee :=
  fun ordinary found => reads ordinary (grows.lookup ordinary found)

/-- What a routine holds stays in force. -/
theorem Holds.later {routine : Routine} {parameters : List String} {body : Expr}
    (holds : before.Holds routine parameters body)
    (grows : Grows registry current before after) : after.Holds routine parameters body :=
  ⟨holds.1, fun callee reads => holds.2 callee (reads.earlier grows)⟩

namespace Grows

/-- Nothing may happen. -/
theorem refl (registry : Registry) (current : Option Nat) (builder : Builder) :
    Grows registry current builder builder where
  heading found := ⟨_, found, rfl, rfl⟩
  kept _ found _ := found
  lookup _ found := found
  finished _ found _ := .inl found

/-- What happens may happen in turn. -/
theorem trans (front : Grows registry current before middle)
    (back : Grows registry current middle after) : Grows registry current before after where
  heading := by
    intro id routine found
    obtain ⟨next, foundNext, name, parameters⟩ := front.heading found
    obtain ⟨last, foundLast, sameName, sameParameters⟩ := back.heading foundNext
    exact ⟨last, foundLast, sameName.trans name, sameParameters.trans parameters⟩
  kept other found body := back.kept other (front.kept other found body) body
  lookup ordinary found := back.lookup ordinary (front.lookup ordinary found)
  finished := by
    intro id routine other found body
    rcases back.finished other found body with old | new
    · rcases front.finished other old body with older | ⟨prototype, tree, registered, holds⟩
      · exact .inl older
      · exact .inr ⟨prototype, tree, registered, holds.later back⟩
    · exact .inr new

/-- What may happen while nothing is filled may happen while something is. -/
theorem weaken (grows : Grows registry none before after) (current : Option Nat) :
    Grows registry current before after where
  heading := grows.heading
  kept _ := grows.kept (by simp)
  lookup := grows.lookup
  finished _ := grows.finished (by simp)

/-- Moving the cursor is of no account. -/
theorem moveTo (grows : Grows registry current before after) (block : BlockRef) :
    Grows registry current before (after.moveTo block) :=
  ⟨grows.heading, grows.kept, grows.lookup, grows.finished⟩

end Grows

section Hold

variable {id : Nat} {draft next : Draft} {routine : Routine}

/-- A routine whose block being filled exists has a body. -/
theorem Filling.hasBody (filling : builder.Filling id draft) : draft.routine.hasBody = true := by
  have inside := filling.inside
  simp only [Routine.hasBody, Array.isEmpty, Bool.not_eq_true', decide_eq_false_iff_not]
  intro empty
  rw [Draft.size] at inside
  omega

/-- Holding a draft with the heading of the routine keeps a unit in good order. -/
theorem Sound.hold (sound : builder.Sound) (found : builder.routine? id = some routine)
    (name : draft.routine.name = routine.name) (body : draft.routine.hasBody = true)
    (linked : IsOrdinary routine.name → builder.lookup? routine.name = some id) :
    (builder.hold id draft).Sound := by
  have exists_id : (builder.routine? id).isSome := by rw [found]; rfl
  constructor
  · exact sound.faultless
  · obtain ⟨unit, isOpen⟩ := sound.isOpen
    exact ⟨_, by rw [Builder.hold, isOpen]; rfl⟩
  · intro other place means
    rw [lookup?_hold] at means
    obtain ⟨held, here, same⟩ := sound.named means
    rw [routine?_hold exists_id]
    by_cases own : place = id
    · subst own
      cases found.symm.trans here
      exact ⟨draft.routine, if_pos rfl, name.trans same⟩
    · exact ⟨held, by rw [if_neg own, here], same⟩
  · intro place held here bodied ordinary
    rw [routine?_hold exists_id] at here
    rw [lookup?_hold]
    split at here
    · next own =>
      cases here
      rw [own, name]
      exact linked (name ▸ ordinary)
    · exact sound.found here bodied ordinary
  · intro place held here empty
    rw [routine?_hold exists_id] at here
    split at here
    · cases here
      rw [body] at empty
      contradiction
    · exact sound.bare here empty

/-- Holding a draft that goes on from the one being filled changes nothing that a ledger says. -/
theorem Matches.hold {ledger : Ledger} (agree : builder.Matches ledger)
    (filling : builder.Filling id draft) (continues : draft.Continues next) :
    (builder.hold id next).Matches ledger := by
  intro name ordinary
  rw [agree name ordinary, status?, status?, lookup?_hold]
  have exists_id : (builder.routine? id).isSome := by rw [filling.found]; rfl
  have held := filling.hold continues.inside
  congr 1
  funext place
  by_cases own : place = id
  · subst own
    simp only [parameterCount, hasBody, filling.found, held.found, continues.parameters_eq,
      Option.any_some, filling.hasBody, held.hasBody]
  · simp only [parameterCount, hasBody, routine?_hold exists_id, if_neg own]

/-- Holding a draft of the routine being filled is growth. -/
theorem grows_hold (registry : Registry) (found : builder.routine? id = some routine)
    (name : draft.routine.name = routine.name)
    (parameters : draft.routine.parameters = routine.parameters) :
    Grows registry (some id) builder (builder.hold id draft) := by
  have exists_id : (builder.routine? id).isSome := by rw [found]; rfl
  constructor
  · intro place held here
    rw [routine?_hold exists_id]
    by_cases own : place = id
    · subst own
      cases found.symm.trans here
      exact ⟨draft.routine, if_pos rfl, name, parameters⟩
    · exact ⟨held, by rw [if_neg own, here], rfl, rfl⟩
  · intro place held other here _
    rw [routine?_hold exists_id, if_neg]
    · exact here
    · rintro rfl
      exact other rfl
  · intro other place _ means
    rw [lookup?_hold]
    exact means
  · intro place held other here _
    rw [routine?_hold exists_id, if_neg] at here
    · exact .inl here
    · rintro rfl
      exact other rfl

end Hold

section Declare

variable {name : String} {parameters : List String} {unit : CodeUnit}

/-- A unit with one more routine. -/
def declared (builder : Builder) (unit : CodeUnit) (name : String) (parameters : List String) :
    Builder := { builder with unit := some (unit.declare name parameters).2 }

/-- The new routine comes last. -/
theorem routine?_declared (id : Nat) :
    (builder.declared unit name parameters).routine? id =
      if id = unit.routines.size then some (.declared name parameters) else unit.routines[id]? := by
  simp only [declared, routine?, CodeUnit.declare, Option.bind_some, Array.getElem?_push]

/-- The new routine is what its name means. -/
theorem lookup?_declared (other : String) :
    (builder.declared unit name parameters).lookup? other =
      if other = name then some unit.routines.size else unit.lookup? other := by
  simp only [declared, lookup?, CodeUnit.declare, Option.bind_some, CodeUnit.lookup?,
    List.lookup_cons]
  by_cases same : other = name
  · simp [same]
  · simp [same, beq_eq_false_iff_ne.2 same]

variable (isOpen : builder.unit = some unit)
include isOpen

/-- Declaring a routine without faults to come. -/
theorem declareFunction_eq (faultless : builder.faults = []) :
    Build.declareFunction name parameters builder =
      .ok unit.routines.size (builder.declared unit name parameters) := by
  rw [Build.declareFunction, Build.bind_attempt faultless]
  obtain ⟨held, cursor, faults⟩ := builder
  cases isOpen
  rfl

/-- A routine that was there is there still, and is not the new one. -/
theorem routine?_of_declared {id : Nat} {routine : Routine}
    (found : builder.routine? id = some routine) :
    unit.routines[id]? = some routine ∧ id ≠ unit.routines.size := by
  rw [routine?, isOpen, Option.bind_some] at found
  refine ⟨found, ?_⟩
  rintro rfl
  rw [Array.getElem?_eq_none (Nat.le_refl _)] at found
  contradiction

/-- Names that were in use stay in use, but for the new one. -/
theorem lookup?_of_open (other : String) : builder.lookup? other = unit.lookup? other := by
  rw [lookup?, isOpen, Option.bind_some]

/-- A new routine keeps a unit in good order if its name is free. -/
theorem Sound.declared (sound : builder.Sound)
    (free : IsOrdinary name → builder.lookup? name = none) :
    (builder.declared unit name parameters).Sound where
  faultless := sound.faultless
  isOpen := ⟨_, rfl⟩
  named := by
    intro other id means
    rw [lookup?_declared] at means
    rw [routine?_declared]
    split at means
    · next same =>
      cases means
      exact ⟨_, if_pos rfl, same.symm⟩
    · rw [← lookup?_of_open isOpen] at means
      obtain ⟨routine, here, named⟩ := sound.named means
      obtain ⟨inside, other⟩ := routine?_of_declared isOpen here
      exact ⟨routine, by rw [if_neg other, inside], named⟩
  found := by
    intro id routine here body ordinary
    rw [routine?_declared] at here
    split at here
    · cases here
      contradiction
    · have old : builder.routine? id = some routine := by
        rw [routine?, isOpen, Option.bind_some, here]
      have linked := sound.found old body ordinary
      rw [lookup?_declared, if_neg, ← lookup?_of_open isOpen, linked]
      rintro rfl
      rw [free ordinary] at linked
      contradiction
  bare := by
    intro id routine here empty
    rw [routine?_declared] at here
    split at here
    · cases here
      rfl
    · exact sound.bare (by rw [routine?, isOpen, Option.bind_some, here]) empty

/-- A new routine is growth if its name is free. -/
theorem grows_declared (registry : Registry) (current : Option Nat)
    (free : IsOrdinary name → builder.lookup? name = none) :
    Grows registry current builder (builder.declared unit name parameters) where
  heading := by
    intro id routine here
    obtain ⟨inside, other⟩ := routine?_of_declared isOpen here
    exact ⟨routine, by rw [routine?_declared, if_neg other, inside], rfl, rfl⟩
  kept := by
    intro id routine _ here _
    obtain ⟨inside, other⟩ := routine?_of_declared isOpen here
    rw [routine?_declared, if_neg other, inside]
  lookup := by
    intro other id ordinary means
    rw [lookup?_declared, if_neg, ← lookup?_of_open isOpen, means]
    rintro rfl
    rw [free ordinary] at means
    contradiction
  finished := by
    intro id routine _ here body
    rw [routine?_declared] at here
    split at here
    · cases here
      contradiction
    · exact .inl (by rw [routine?, isOpen, Option.bind_some, here])

/-- What a unit holds for a name after a routine has been declared. -/
theorem status?_declared (sound : builder.Sound) (other : String) :
    (builder.declared unit name parameters).status? other =
      if other = name then some (parameters.length, false) else builder.status? other := by
  rw [status?, status?, lookup?_declared]
  by_cases same : other = name
  · rw [if_pos same, if_pos same, Option.map_some, parameterCount, hasBody, routine?_declared,
      if_pos rfl]
    rfl
  · rw [if_neg same, if_neg same, lookup?_of_open isOpen]
    cases means : unit.lookup? other with
    | none => rfl
    | some id =>
      rw [← lookup?_of_open isOpen] at means
      obtain ⟨routine, here, _⟩ := sound.named means
      obtain ⟨inside, last⟩ := routine?_of_declared isOpen here
      simp only [Option.map_some, parameterCount, hasBody, here, routine?_declared, if_neg last,
        inside]

end Declare

end Builder

end Kaleidoscope
