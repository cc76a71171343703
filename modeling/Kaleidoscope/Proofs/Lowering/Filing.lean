import Kaleidoscope.Proofs.Code.Calls
import Kaleidoscope.Proofs.Lowering.Defining

/-!
# Units between forms

Between forms every routine with a body holds the code of a definition, and the ledger knows which
(`Builder.Filed`). The definition of each routine is kept as a partial function from routines, since
the routines of expressions to run have no name in the ledger.
-/
namespace Kaleidoscope

open Code

/-- The definitions that routines are filled from. -/
abbrev Sources := Nat → Option (List String × Expr)

/-- More routines are filled. -/
def Sources.Extends (before after : Sources) : Prop :=
  ∀ id source, before id = some source → after id = some source

/-- What is known of a definition that a routine is filled from. -/
structure Ledger.Closed (ledger : Ledger) (source : List String × Expr) : Prop where
  /-- The body is built from expressions alone. -/
  isBody : source.2.IsBody
  /-- Its variables are visible. -/
  closed : source.2.Scoped source.1.reverse
  /-- It calls ordinary names. -/
  ordinary : source.2.CallsOrdinary
  /-- Its calls have as many arguments as the routines have parameters. -/
  fits : ∀ call ∈ source.2.calls, ledger.arity? call.1 = some call.2

/-- A definition stays complete when the ledger grows. -/
theorem Ledger.Closed.mono {registry : Registry} {ledger noted : Ledger}
    {source : List String × Expr} (closed : ledger.Closed source)
    (grows : Ledger.Grows registry ledger noted) : noted.Closed source :=
  { closed with fits := fun call member => grows.arity_kept (closed.fits call member) }

/-- A definition stays complete when the calls of others are noted. -/
theorem Ledger.Closed.note {ledger : Ledger} {source : List String × Expr}
    (closed : ledger.Closed source) (body : Expr) : (ledger.note body).Closed source :=
  ⟨closed.isBody, closed.closed, closed.ordinary, closed.fits⟩

namespace Builder

/-- A routine that holds the code of a definition, with its calls going where the names of a unit
say. -/
def Contains (builder : Builder) (routine : Routine) (source : List String × Expr) : Prop :=
  ∃ callee : String → Nat, (∀ call ∈ source.2.calls,
      builder.lookup? call.1 = some (callee call.1)) ∧
    routine.parameters.length = source.1.length ∧
    routine = Draft.compile callee source.1 source.2 (.declared routine.name routine.parameters)

/-- A unit between forms. -/
structure Filed (builder : Builder) (ledger : Ledger) (sources : Sources) : Prop where
  /-- It is in good order. -/
  sound : builder.Sound
  /-- It holds what the ledger says. -/
  agree : builder.Matches ledger
  /-- Routines hold their definitions. -/
  held : ∀ {id : Nat} {source : List String × Expr}, sources id = some source →
    ∃ routine, builder.routine? id = some routine ∧ builder.Contains routine source
  /-- Every routine with a body has a definition. -/
  bodied : ∀ {id : Nat} {routine : Routine}, builder.routine? id = some routine →
    routine.hasBody = true → (sources id).isSome
  /-- Definitions are complete. -/
  complete : ∀ {id : Nat} {source : List String × Expr}, sources id = some source →
    ledger.Closed source
  /-- The ledger knows the definitions of ordinary names. -/
  linked : ∀ {name : String} {id : Nat}, IsOrdinary name → builder.lookup? name = some id →
    ledger.source? name = sources id
  /-- The ledger notes the names that are called. -/
  used_iff : ∀ {name : String}, name ∈ ledger.used ↔
    ∃ id source, sources id = some source ∧ name ∈ source.2.calls.map (·.1)

variable {builder before after : Builder} {ledger noted : Ledger} {sources : Sources}

/-- A name that means a routine with some number of parameters is found. -/
theorem lookup?_of_arity? (agree : builder.Matches ledger) {name : String} {arity : Nat}
    (ordinary : IsOrdinary name) (known : ledger.arity? name = some arity) :
    ∃ id, builder.lookup? name = some id ∧ builder.parameterCount id = arity := by
  rcases Lower.matches_cases agree ordinary with
    ⟨unknown, _⟩ | ⟨status, id, held, means, count, _⟩
  · rw [Ledger.arity?, unknown] at known
    contradiction
  · rw [Ledger.arity?, held, Option.map_some, Option.some.injEq] at known
    exact ⟨id, means, count.symm.trans known⟩

/-- A name has a definition exactly if its routine has a body. -/
theorem isSome_source? (agree : builder.Matches ledger) {name : String} {id : Nat}
    (ordinary : IsOrdinary name) (means : builder.lookup? name = some id) :
    (ledger.source? name).isSome = builder.hasBody id := by
  rcases Lower.matches_cases agree ordinary with
    ⟨_, free⟩ | ⟨status, other, held, found, _, filled⟩
  · rw [means] at free
    contradiction
  · cases means.symm.trans found
    rw [Ledger.source?, held, Option.bind_some, filled]

/-- A name with a definition means a routine with a body. -/
theorem lookup?_of_source? (agree : builder.Matches ledger) {name : String}
    {source : List String × Expr} (ordinary : IsOrdinary name)
    (known : ledger.source? name = some source) :
    ∃ id, builder.lookup? name = some id ∧ builder.hasBody id = true := by
  rcases Lower.matches_cases agree ordinary with
    ⟨unknown, _⟩ | ⟨status, id, held, means, _, filled⟩
  · rw [Ledger.source?, unknown] at known
    contradiction
  · refine ⟨id, means, ?_⟩
    rw [Ledger.source?, held, Option.bind_some] at known
    rw [← filled, known]
    rfl

/-- What holds whatever calls mean holds when they go where the names say. -/
theorem Holds.contains {routine : Routine} {source : List String × Expr}
    (holds : builder.Holds routine source.1 source.2) (agree : builder.Matches ledger)
    (closed : ledger.Closed source) : builder.Contains routine source := by
  refine ⟨fun name => (builder.lookup? name).getD 0, fun call member => ?_, holds.1, ?_⟩
  · obtain ⟨id, means, _⟩ :=
      lookup?_of_arity? agree (closed.ordinary call member) (closed.fits call member)
    show _ = some ((builder.lookup? call.1).getD 0)
    rw [means]
    rfl
  · refine holds.2 _ fun {name id} _ means => ?_
    show (builder.lookup? name).getD 0 = id
    rw [means]
    rfl

/-- The code of a definition stays in force while the names that it calls keep their routines. -/
theorem Contains.mono {routine : Routine} {source : List String × Expr}
    (contains : before.Contains routine source) (kept : ∀ call ∈ source.2.calls, ∀ id,
      before.lookup? call.1 = some id → after.lookup? call.1 = some id) :
    after.Contains routine source := by
  obtain ⟨callee, means, code⟩ := contains
  exact ⟨callee, fun call member => kept call member _ (means call member), code⟩

/-- A routine that holds the code of a definition has a body. -/
theorem Contains.hasBody {routine : Routine} {source : List String × Expr}
    (contains : builder.Contains routine source) (closed : ledger.Closed source) :
    routine.hasBody = true := by
  obtain ⟨callee, _, _, code⟩ := contains
  rw [code]
  exact Draft.hasBody_compile closed.closed

/-- A routine with a body exists. -/
theorem exists_of_hasBody {id : Nat} (body : builder.hasBody id = true) :
    ∃ routine, builder.routine? id = some routine ∧ routine.hasBody = true := by
  rw [hasBody] at body
  cases found : builder.routine? id with
  | none =>
    rw [found] at body
    contradiction
  | some routine =>
    rw [found] at body
    exact ⟨routine, rfl, body⟩

/-- The routines with a definition are those with a body. -/
theorem Filed.isSome_iff (filed : builder.Filed ledger sources) (id : Nat) :
    (sources id).isSome = true ↔ builder.hasBody id = true := by
  constructor
  · intro known
    obtain ⟨source, known⟩ := Option.isSome_iff_exists.1 known
    obtain ⟨routine, found, contains⟩ := filed.held known
    rw [hasBody, found, Option.any_some]
    exact contains.hasBody (filed.complete known)
  · intro body
    obtain ⟨routine, found, body⟩ := exists_of_hasBody body
    exact filed.bodied found body

/-- The definitions of routines once more of them have been filled: old ones stay, and new ones are
those that the ledger holds for their names. -/
def filedLater (before after : Builder) (noted : Ledger) (sources : Sources) : Sources := fun id =>
  if before.hasBody id then sources id
  else ((after.routine? id).filter Routine.hasBody).bind fun routine => noted.source? routine.name

/-- Routines keep their definitions. -/
theorem Filed.extends_later (filed : before.Filed ledger sources) :
    Sources.Extends sources (filedLater before after noted sources) := by
  intro id source known
  rw [filedLater, if_pos ((filed.isSome_iff id).1 (by rw [known]; rfl))]
  exact known

section Growth

variable {registry : Registry} (registered : registry.IsSound)
  (filed : before.Filed ledger sources) (sound : after.Sound) (agree : after.Matches noted)
  (grows : Grows registry none before after) (ledgers : Ledger.Grows registry ledger noted)
include registered filed sound agree grows ledgers

/-- A routine with a new body holds the definition of its name. -/
theorem Filed.contains_new {id : Nat} {routine : Routine} (empty : before.hasBody id = false)
    (found : after.routine? id = some routine) (body : routine.hasBody = true) :
    ∃ source, noted.source? routine.name = some source ∧ ledger.source? routine.name = none ∧
      noted.Closed source ∧ after.Contains routine source := by
  have old : before.routine? id ≠ some routine := by
    intro same
    rw [hasBody, same, Option.any_some, body] at empty
    contradiction
  obtain ⟨prototype, tree, defined, holds⟩ :=
    (grows.finished (by simp) found body).resolve_left old
  have ordinary := (registered.ordinary defined).2
  have means := sound.found found body ordinary
  have filled : (noted.source? routine.name).isSome = true := by
    rw [isSome_source? agree ordinary means, hasBody, found, Option.any_some, body]
  obtain ⟨source, known⟩ := Option.isSome_iff_exists.1 filled
  have fresh : ledger.source? routine.name = none := by
    rw [← Option.not_isSome_iff_eq_none]
    intro early
    obtain ⟨first, early⟩ := Option.isSome_iff_exists.1 early
    obtain ⟨other, meant, bodied⟩ := lookup?_of_source? filed.agree ordinary early
    cases means.symm.trans (grows.lookup ordinary meant)
    rw [empty] at bodied
    contradiction
  obtain ⟨⟨signature, registration, parameters⟩, _, closed, fits⟩ := ledgers.source_new known fresh
  cases registration.symm.trans defined
  obtain ⟨isBody, calls⟩ := registered.bodies defined
  have complete : noted.Closed source := ⟨isBody, closed, calls, fits⟩
  rw [← parameters] at holds
  exact ⟨source, known, fresh, complete, holds.contains agree complete⟩

/-- A routine with a definition had it before, or its body is new and holds the definition of its
name. -/
theorem Filed.old_or_new {id : Nat} {source : List String × Expr}
    (known : filedLater before after noted sources id = some source) :
    sources id = some source ∨
      ∃ routine, after.routine? id = some routine ∧ noted.source? routine.name = some source ∧
        ledger.source? routine.name = none ∧ noted.Closed source ∧ after.Contains routine source := by
  unfold filedLater at known
  split at known
  · exact .inl known
  · next empty =>
    obtain ⟨routine, found, known⟩ := Option.bind_eq_some_iff.1 known
    obtain ⟨found, body⟩ := Option.filter_eq_some_iff.1 found
    obtain ⟨other, knownOther, fresh, complete, contains⟩ :=
      filed.contains_new registered sound agree grows ledgers (by simpa using empty) found body
    cases known.symm.trans knownOther
    exact .inr ⟨routine, found, known, fresh, complete, contains⟩

omit registered sound agree ledgers in
/-- A routine that had a definition keeps it and its code. -/
theorem Filed.contains_old {id : Nat} {source : List String × Expr}
    (known : sources id = some source) :
    ∃ routine, after.routine? id = some routine ∧ after.Contains routine source := by
  obtain ⟨routine, found, contains⟩ := filed.held known
  have complete := filed.complete known
  refine ⟨routine, grows.kept (by simp) found (contains.hasBody complete), ?_⟩
  exact contains.mono fun call member id means =>
    grows.lookup (complete.ordinary call member) means

omit registered in
/-- The ledger knows the definitions of the routines that ordinary names mean. -/
theorem Filed.linked_later {name : String} {id : Nat} (ordinary : IsOrdinary name)
    (means : after.lookup? name = some id) :
    noted.source? name = filedLater before after noted sources id := by
  obtain ⟨routine, found, named⟩ := sound.named means
  unfold filedLater
  cases early : before.hasBody id with
  | true =>
    obtain ⟨first, foundFirst, body⟩ := exists_of_hasBody early
    obtain ⟨later, foundLater, sameName, _⟩ := grows.heading foundFirst
    cases found.symm.trans foundLater
    rw [named] at sameName
    have meant := filed.sound.found foundFirst body (sameName ▸ ordinary)
    rw [← sameName] at meant
    obtain ⟨source, known⟩ :=
      Option.isSome_iff_exists.1 ((filed.isSome_iff id).2 early)
    rw [if_pos rfl, known]
    exact ledgers.source_kept ((filed.linked ordinary meant).trans known)
  | false =>
    rw [if_neg (by simp), found]
    cases body : routine.hasBody with
    | true =>
      rw [Option.filter_some_pos body, Option.bind_some, named]
    | false =>
      rw [Option.filter_some_neg (by simp [body]), Option.bind_none]
      rw [← Option.not_isSome_iff_eq_none, isSome_source? agree ordinary means, hasBody, found,
        Option.any_some, body]
      simp

/-- When definitions of a registry have been lowered, every routine with a body holds a definition
again. -/
theorem Filed.later : after.Filed noted (filedLater before after noted sources) where
  sound := sound
  agree := agree
  held := by
    intro id source known
    rcases filed.old_or_new registered sound agree grows ledgers known with
      old | ⟨routine, found, _, _, _, contains⟩
    · exact filed.contains_old grows old
    · exact ⟨routine, found, contains⟩
  bodied := by
    intro id routine found body
    unfold filedLater
    split
    · next early => exact (filed.isSome_iff id).2 early
    · next empty =>
      obtain ⟨source, known, _⟩ :=
        filed.contains_new registered sound agree grows ledgers (by simpa using empty) found body
      rw [found, Option.filter_some_pos body, Option.bind_some, known]
      rfl
  complete := by
    intro id source known
    rcases filed.old_or_new registered sound agree grows ledgers known with
      old | ⟨_, _, _, _, complete, _⟩
    · exact (filed.complete old).mono ledgers
    · exact complete
  linked := filed.linked_later sound agree grows ledgers
  used_iff := by
    intro name
    rw [ledgers.used_iff, filed.used_iff]
    constructor
    · rintro (⟨id, source, known, member⟩ | ⟨other, source, known, fresh, member⟩)
      · exact ⟨id, source, filed.extends_later id source known, member⟩
      · obtain ⟨⟨prototype, defined, _⟩, _⟩ := ledgers.source_new known fresh
        have ordinary := (registered.ordinary defined).2
        obtain ⟨id, means, _⟩ := lookup?_of_source? agree ordinary known
        refine ⟨id, source, ?_, member⟩
        rw [← filed.linked_later sound agree grows ledgers ordinary means, known]
    · rintro ⟨id, source, known, member⟩
      rcases filed.old_or_new registered sound agree grows ledgers known with
        old | ⟨routine, _, known, fresh, _⟩
      · exact .inl ⟨id, source, old, member⟩
      · exact .inr ⟨routine.name, source, known, fresh, member⟩

end Growth

/-- What becomes of a routine that no ordinary name means is nothing to a ledger. -/
theorem Matches.change {other : Builder} {id : Nat} {routine : Routine}
    (agree : builder.Matches ledger) (sound : builder.Sound)
    (found : builder.routine? id = some routine) (unnamed : ¬IsOrdinary routine.name)
    (lookups : ∀ name, other.lookup? name = builder.lookup? name)
    (same : ∀ place, place ≠ id → other.routine? place = builder.routine? place) :
    other.Matches ledger := by
  intro name ordinary
  rw [agree name ordinary, status?, status?, lookups]
  cases means : builder.lookup? name with
  | none => rfl
  | some place =>
    have different : place ≠ id := by
      rintro rfl
      obtain ⟨held, here, named⟩ := sound.named means
      cases found.symm.trans here
      exact unnamed (named ▸ ordinary)
    simp only [Option.map_some, parameterCount, hasBody, same place different]

/-- The definitions of routines once one more of them has been filled. -/
def filledWith (sources : Sources) (id : Nat) (source : List String × Expr) : Sources :=
  fun other => if other = id then some source else sources other

/-- A routine with a definition is the one that has been filled, or had it before. -/
theorem filledWith_eq_some {id other : Nat} {source known : List String × Expr} :
    filledWith sources id source other = some known ↔
      other = id ∧ source = known ∨ other ≠ id ∧ sources other = some known := by
  unfold filledWith
  split
  · next own => simp [own]
  · next different => simp [different]

/-- A routine that no ordinary name means is filled from a definition. -/
theorem Filed.fill {id : Nat} {routine : Routine} {source : List String × Expr}
    (filed : (builder.discardBody id).Filed ledger sources) (sound : builder.Sound)
    (found : builder.routine? id = some routine) (unnamed : ¬IsOrdinary routine.name)
    (holds : builder.Holds routine source.1 source.2) (complete : ledger.Closed source) :
    builder.Filed (ledger.note source.2) (filledWith sources id source) := by
  have keeps : ∀ {other : Nat}, other ≠ id →
      (builder.discardBody id).routine? other = builder.routine? other := by
    intro other different
    rw [routine?_discardBody, if_neg different]
  have stripped : (builder.discardBody id).routine? id = some routine.withoutBody := by
    rw [routine?_discardBody, if_pos rfl, found]
    rfl
  have agree : builder.Matches (ledger.note source.2) :=
    filed.agree.change filed.sound stripped unnamed (fun name => (lookup?_discardBody ..).symm)
      fun other different => (keeps different).symm
  have empty : sources id = none := by
    rw [← Option.not_isSome_iff_eq_none, filed.isSome_iff, hasBody, routine?_discardBody, if_pos rfl,
      found]
    simp [Routine.withoutBody, Routine.hasBody, Routine.declared]
  refine
    { sound := sound
      agree := agree
      held := ?_
      bodied := ?_
      complete := ?_
      linked := ?_
      used_iff := ?_ }
  · intro other known listed
    rcases filledWith_eq_some.1 listed with ⟨rfl, rfl⟩ | ⟨different, listed⟩
    · exact ⟨routine, found, holds.contains agree (complete.note source.2)⟩
    · obtain ⟨held, here, contains⟩ := filed.held listed
      rw [keeps different] at here
      exact ⟨held, here, contains.mono fun call member place means => by
        rwa [lookup?_discardBody] at means⟩
  · intro other held here body
    unfold filledWith
    split
    · rfl
    · next different => exact filed.bodied ((keeps different).trans here) body
  · intro other known listed
    rcases filledWith_eq_some.1 listed with ⟨_, rfl⟩ | ⟨_, listed⟩
    · exact complete.note _
    · exact (filed.complete listed).note _
  · intro name other ordinary means
    have different : other ≠ id := by
      rintro rfl
      obtain ⟨held, here, named⟩ := sound.named means
      cases found.symm.trans here
      exact unnamed (named ▸ ordinary)
    rw [filledWith, if_neg different]
    exact filed.linked ordinary (by rwa [lookup?_discardBody])
  · intro name
    simp only [Ledger.note, List.mem_append, filed.used_iff]
    constructor
    · rintro (own | ⟨other, known, listed, member⟩)
      · exact ⟨id, source, if_pos rfl, own⟩
      · refine ⟨other, known, filledWith_eq_some.2 (.inr ⟨?_, listed⟩), member⟩
        rintro rfl
        rw [empty] at listed
        contradiction
    · rintro ⟨other, known, listed, member⟩
      rcases filledWith_eq_some.1 listed with ⟨_, rfl⟩ | ⟨_, listed⟩
      · exact .inl member
      · exact .inr ⟨other, known, listed, member⟩

section Forget

variable {name : String} {id : Nat}

/-- A routine that is called is what a name means, and the definition of the caller calls this
name. -/
theorem Filed.exists_call (filed : builder.Filed ledger sources) {caller : Nat} {routine : Routine}
    (found : builder.routine? caller = some routine) (calls : routine.calls id = true) :
    ∃ source, sources caller = some source ∧
      ∃ call ∈ source.2.calls, builder.lookup? call.1 = some id := by
  have body : routine.hasBody = true := by
    rw [← Bool.not_eq_false]
    intro empty
    rw [filed.sound.bare found empty] at calls
    simp [Routine.calls, Routine.declared] at calls
  obtain ⟨source, known⟩ := Option.isSome_iff_exists.1 (filed.bodied found body)
  obtain ⟨held, here, callee, goes, _, code⟩ := filed.held known
  cases found.symm.trans here
  rw [code, Draft.calls_compile (filed.complete known).closed] at calls
  obtain ⟨call, member, target⟩ := calls
  exact ⟨source, known, call, member, target ▸ goes call member⟩

/-- Code calls the routine of a name exactly if a definition calls the name. -/
theorem Filed.calls_iff (filed : builder.Filed ledger sources) (ordinary : IsOrdinary name)
    (means : builder.lookup? name = some id) :
    (∃ other routine, builder.routine? other = some routine ∧ routine.calls id = true) ↔
      name ∈ ledger.used := by
  rw [filed.used_iff]
  constructor
  · rintro ⟨other, routine, found, calls⟩
    obtain ⟨source, known, call, member, meant⟩ := filed.exists_call found calls
    refine ⟨other, source, known, List.mem_map.2 ⟨call, member, ?_⟩⟩
    obtain ⟨first, foundFirst, named⟩ := filed.sound.named means
    obtain ⟨second, foundSecond, called⟩ := filed.sound.named meant
    cases foundFirst.symm.trans foundSecond
    exact called.symm.trans named
  · rintro ⟨other, source, known, member⟩
    obtain ⟨call, listed, rfl⟩ := List.mem_map.1 member
    obtain ⟨routine, found, callee, goes, _, code⟩ := filed.held known
    refine ⟨other, routine, found, ?_⟩
    rw [code, Draft.calls_compile (filed.complete known).closed]
    exact ⟨call, listed, Option.some.inj ((goes call listed).symm.trans means)⟩

/-- The routine of a name can be forgotten exactly if it has no body and no definition calls the
name. -/
theorem Filed.isForgettable_iff (filed : builder.Filed ledger sources) (ordinary : IsOrdinary name)
    (means : builder.lookup? name = some id) :
    builder.isForgettable id = true ↔ builder.hasBody id = false ∧ name ∉ ledger.used := by
  obtain ⟨unit, isOpen⟩ := filed.sound.isOpen
  obtain ⟨routine, found, named⟩ := filed.sound.named means
  have here : unit.routines[id]? = some routine := by
    rwa [routine?, isOpen, Option.bind_some] at found
  have linked : unit.lookup? routine.name = some id := by
    rwa [lookup?, isOpen, Option.bind_some, ← named] at means
  have called : (unit.routines.any (·.calls id)) = true ↔ name ∈ ledger.used := by
    rw [← filed.calls_iff ordinary means, Array.any_eq_true']
    constructor
    · rintro ⟨caller, member, calls⟩
      obtain ⟨other, same⟩ := Array.getElem?_of_mem member
      exact ⟨other, caller, by rw [routine?, isOpen, Option.bind_some, same], calls⟩
    · rintro ⟨other, caller, same, calls⟩
      rw [routine?, isOpen, Option.bind_some] at same
      exact ⟨caller, Array.mem_of_getElem? same, calls⟩
  rw [isForgettable, isOpen, Option.any_some, CodeUnit.isForgettable, here, hasBody, found,
    Option.any_some]
  simp only [linked, decide_true, Bool.and_true, Bool.and_eq_true, Bool.not_eq_true', ← called,
    Bool.not_eq_true]

/-- Forgetting a routine that cannot be forgotten changes nothing. -/
theorem forget_eq_self (kept : builder.isForgettable id = false) : builder.forget id = builder := by
  obtain ⟨unit, cursor, faults⟩ := builder
  cases unit with
  | none => rfl
  | some unit =>
    have kept : unit.isForgettable id = false := kept
    simp only [forget, Option.map_some, CodeUnit.forget, kept, Bool.false_eq_true, if_false]
    cases unit.routines[id]? <;> simp

/-- Forgetting a routine changes no routine. -/
theorem routine?_forget (builder : Builder) (id other : Nat) :
    (builder.forget id).routine? other = builder.routine? other := by
  unfold forget routine?
  cases builder.unit with
  | none => rfl
  | some unit =>
    simp only [Option.map_some, Option.bind_some, CodeUnit.forget]
    split
    · rfl
    · split <;> rfl

/-- A forgotten routine loses its name. -/
theorem lookup?_forget {routine : Routine} (found : builder.routine? id = some routine)
    (forgettable : builder.isForgettable id = true) (other : String) :
    (builder.forget id).lookup? other =
      if other = routine.name then none else builder.lookup? other := by
  obtain ⟨unit, cursor, faults⟩ := builder
  cases unit with
  | none => contradiction
  | some unit =>
    have forgettable : unit.isForgettable id = true := forgettable
    have found : unit.routines[id]? = some routine := found
    simp only [forget, Option.map_some, CodeUnit.forget, forgettable, found, if_true, lookup?,
      Option.bind_some, CodeUnit.lookup?]
    generalize unit.names = names
    induction names with
    | nil => simp
    | cons entry rest hypothesis =>
      obtain ⟨key, place⟩ := entry
      by_cases dropped : key = routine.name
      · rw [List.filter_cons_of_neg (by simp [dropped]), hypothesis, List.lookup_cons]
        by_cases own : other = routine.name
        · rw [if_pos own, if_pos own]
        · rw [if_neg own, if_neg own, beq_eq_false_iff_ne.2 (fun same => own (same.trans dropped))]
      · rw [List.filter_cons_of_pos (by simp [dropped]), List.lookup_cons, List.lookup_cons,
          hypothesis]
        by_cases same : other = key
        · subst same
          simp [dropped]
        · rw [beq_eq_false_iff_ne.2 same]

/-- The other names mean what they meant. -/
theorem lookup?_forget_eq_some {routine : Routine} (found : builder.routine? id = some routine)
    (forgettable : builder.isForgettable id = true) {other : String} {place : Nat} :
    (builder.forget id).lookup? other = some place ↔
      other ≠ routine.name ∧ builder.lookup? other = some place := by
  rw [lookup?_forget found forgettable]
  split
  · next same => simp [same]
  · next different => simp [different]

/-- A unit stays in good order when a routine without a body is forgotten. -/
theorem Sound.forget (sound : builder.Sound) {routine : Routine}
    (found : builder.routine? id = some routine) (means : builder.lookup? routine.name = some id)
    (empty : builder.hasBody id = false) (forgettable : builder.isForgettable id = true) :
    (builder.forget id).Sound where
  faultless := sound.faultless
  isOpen := by
    obtain ⟨unit, isOpen⟩ := sound.isOpen
    exact ⟨_, by rw [Builder.forget, isOpen]; rfl⟩
  named := by
    intro other place meant
    rw [routine?_forget]
    exact sound.named ((lookup?_forget_eq_some found forgettable).1 meant).2
  found := by
    intro place held here body usual
    rw [routine?_forget] at here
    have meant := sound.found here body usual
    refine (lookup?_forget_eq_some found forgettable).2 ⟨fun same => ?_, meant⟩
    rw [same] at meant
    cases means.symm.trans meant
    rw [hasBody, here, Option.any_some, body] at empty
    contradiction
  bare := by
    intro place held here bare
    rw [routine?_forget] at here
    exact sound.bare here bare

/-- A name whose routine has no body and is not called can be freed. -/
theorem Filed.forget (filed : builder.Filed ledger sources) (ordinary : IsOrdinary name)
    (means : builder.lookup? name = some id) (empty : builder.hasBody id = false)
    (unused : name ∉ ledger.used) : (builder.forget id).Filed (ledger.set name none) sources := by
  obtain ⟨routine, found, rfl⟩ := filed.sound.named means
  have forgettable := (filed.isForgettable_iff ordinary means).2 ⟨empty, unused⟩
  have uncalled : ∀ {place : Nat} {source : List String × Expr}, sources place = some source →
      ∀ call ∈ source.2.calls, call.1 ≠ routine.name := by
    intro place source known call member same
    exact unused (filed.used_iff.2 ⟨place, source, known, List.mem_map.2 ⟨call, member, same⟩⟩)
  refine
    { sound := filed.sound.forget found means empty forgettable
      agree := ?_
      held := ?_
      bodied := ?_
      complete := ?_
      linked := ?_
      used_iff := filed.used_iff }
  · intro other usual
    rw [status?, lookup?_forget found forgettable, Ledger.known_set]
    split
    · rfl
    · rw [filed.agree other usual, status?]
      simp only [parameterCount, hasBody, routine?_forget]
  · intro place source known
    obtain ⟨held, here, contains⟩ := filed.held known
    refine ⟨held, by rw [routine?_forget, here], contains.mono fun call member target meant => ?_⟩
    exact (lookup?_forget_eq_some found forgettable).2 ⟨uncalled known call member, meant⟩
  · intro place held here body
    rw [routine?_forget] at here
    exact filed.bodied here body
  · intro place source known
    have complete := filed.complete known
    refine { complete with fits := fun call member => ?_ }
    rw [Ledger.arity?_set, if_neg (uncalled known call member)]
    exact complete.fits call member
  · intro other place usual meant
    obtain ⟨different, before⟩ := (lookup?_forget_eq_some found forgettable).1 meant
    rw [Ledger.source?_set_of_ne different]
    exact filed.linked usual before

end Forget

end Builder

end Kaleidoscope
