import Kaleidoscope.Proofs.Batch.Preservation
import Kaleidoscope.Proofs.Code.Naming
import Kaleidoscope.Proofs.Lowering.Narrowing

/-!
# The code of a definition, wherever it is lowered

A definition can be lowered as a form of a batch, or on demand where the body of another one calls
it; the batch may be any, and forms of it may have failed before (`Evaluator.Places`). The slots and
blocks of its routine are the same everywhere, with the routines that it calls known by their names,
and so are the lines of its listing between the braces (`Evaluator.content_eq_of_places`).

The routines of a unit are filled from definitions of the registry in force, also by a form that
fails in the end (`Check.draws_forms`). What is filed for a routine determines its code up to the
numbers of the routines that it calls.
-/
namespace Kaleidoscope

open Code

namespace Ledger

variable {registry : Registry} {before after : Ledger}

/-- New definitions are those that a registry has for their names. -/
def Draws (registry : Registry) (before after : Ledger) : Prop :=
  ∀ name source, after.source? name = some source → before.source? name = none →
    ∃ prototype, registry.lookup? name = some (.function prototype source.2) ∧
      source.1 = prototype.parameters

/-- What checking may do to a ledger adds definitions of the registry alone. -/
theorem Grows.draws (grows : Grows registry before after) : Draws registry before after :=
  fun _ _ filled empty => (grows.source_new filled empty).registered

/-- Undoing a form that has failed adds no definition. -/
theorem Draws.undo (draws : Draws registry before after) (name : String) :
    Draws registry before (Check.undo name before after) := by
  unfold Check.undo
  split
  · exact draws
  · intro other source filled
    rw [source?_set] at filled
    split at filled
    · contradiction
    · exact draws other source filled

end Ledger

namespace Check

/-- What checking a form leads to adds definitions of a registry alone. -/
def FormDraws (registry : Registry) (before : Standing) :
    EStateM.Result LowerError Standing PUnit → Prop
  | .ok _ after | .error _ after => before.ledger.Draws registry after.ledger

variable {before : Standing} {tree : Expr}

/-- A form that introduces a name adds definitions of the registry with its entry. -/
theorem formDraws_introduce {name : String} {entry : Entry} {action : Registry → Check PUnit}
    {post : Ledger → Prop}
    (yields : Yields (before.registry.insert name entry)
      (action (before.registry.insert name entry)) before.ledger post) :
    FormDraws (before.registry.insert name entry) before (introduce name entry action before) := by
  unfold Yields at yields
  unfold introduce
  simp only
  generalize action (before.registry.insert name entry) before.ledger = checked at yields
  cases checked with
  | ok done after => exact yields.1.draws
  | error error after => exact yields.draws.undo name

/-- A form adds definitions of the registry with its own entry alone, also if it fails. -/
theorem formDraws_form (sound : before.registry.IsSound) (isForm : tree.IsForm) :
    FormDraws (before.registry.enter tree) before (form tree before) := by
  have registered := sound.enter isForm
  cases isForm with
  | @job signature body span anonymous closed isBody calls =>
    have yields := yields_expr sound (recalls_recallWithin sound
      (before.registry.definitionCount + (body.definitionCount + 1))) body [] before.ledger isBody
    rw [form_job anonymous, Registry.enter, Expr.entry?, if_pos anonymous]
    unfold job fillWith
    unfold Yields at yields
    simp only [id]
    generalize expr before.registry _ [] body before.ledger = checked at yields
    cases checked with
    | ok done after => exact yields.1.draws
    | error error after => exact yields.draws
  | @definition signature body span named ordinary isBody calls =>
    simp only [Registry.enter, Expr.entry?, named, Bool.false_eq_true, if_false] at registered ⊢
    rw [form_definition named]
    refine formDraws_introduce (yields_define ?_ fun ledger => yields_expr registered
      (recalls_recallWithin registered _) body _ ledger isBody)
    exact (Registry.lookup?_insert ..).trans (if_pos rfl)
  | @declaration signature span named ordinary =>
    rw [form_declaration]
    refine formDraws_introduce (yields_declare (.declaration signature) ?_)
    exact (Registry.lookup?_insert ..).trans (if_pos rfl)

/-- A form on its own adds definitions of the registry with its own entry alone. -/
theorem draws_forms (sound : before.registry.IsSound) (isForm : tree.IsForm) (index : Nat) :
    before.ledger.Draws (before.registry.enter tree) (forms before index [tree]).2.2.ledger := by
  have draws := formDraws_form sound isForm
  simp only [forms]
  cases checked : form tree before <;> rw [checked] at draws <;> exact draws

/-- A definition that checks had no body before and has one afterwards. -/
theorem source_of_definition {signature : Prototype} {body : Expr} {span : Span}
    (isForm : (Expr.function signature body span).IsForm) (sound : before.registry.IsSound)
    (named : signature.isAnonymous = false) {done : PUnit} {after : Standing}
    (checked : form (.function signature body span) before = .ok done after) :
    before.ledger.source? signature.linkedName = none ∧
      (after.ledger.source? signature.linkedName).isSome := by
  have registered := registry_form checked ▸ sound.enter isForm
  rw [form_definition named] at checked
  obtain ⟨entered, introduced⟩ := of_introduce_ok checked
  have found : after.registry.lookup? signature.linkedName = some (.function signature body) := by
    rw [entered, Registry.lookup?_insert, if_pos rfl]
  refine ⟨?_, (of_define_ok registered found introduced).2⟩
  rcases (declares_of_define introduced).2 with unknown | bare
  · exact Ledger.source?_of_unknown unknown
  · exact Ledger.source?_of_known bare

end Check

namespace Lower

variable {before after : Lowering} {standing : Standing} {sources : Sources} {signature : Prototype}
  {body : Expr} {span : Span} {id : Nat}

/-- The routine of a definition is what its name means once it has been lowered. -/
theorem lookup?_of_definition (stands : Stands before standing sources)
    (isForm : (Expr.function signature body span).IsForm) (named : signature.isAnonymous = false)
    (lowers : form (.function signature body span) before = .ok id after) :
    after.builder.lookup? signature.linkedName = some id := by
  have registered := stands.registered.enter isForm
  simp only [Registry.enter, Expr.entry?, named, Bool.false_eq_true, if_false] at registered
  have found : (standing.registry.insert signature.linkedName (.function signature body)).lookup?
      signature.linkedName = some (.function signature body) := by
    rw [Registry.lookup?_insert, if_pos rfl]
  rw [form_definition_eq span before named] at lowers
  have tallies : Tallies (standing.registry.insert signature.linkedName (.function signature body))
      { before with registry :=
          before.registry.insert signature.linkedName (.function signature body) } standing.ledger :=
    ⟨by rw [stands.registry_eq], stands.filed.sound, stands.filed.agree⟩
  have agrees := agrees_define registered (recallAgrees_recallWithin registered
    (before.registry.definitionCount + (body.definitionCount + 1))) found tallies
  rw [agrees_iff] at agrees
  generalize define signature _ _ = lowered at agrees lowers
  generalize Check.define signature body _ _ = checked at agrees
  cases agrees with
  | ok leaves means =>
    cases lowers
    exact means
  | error leaves => contradiction

/-- What a name means after a form is filed under the definition that the registry in force has for
it, if it has a body then and had none before. -/
theorem source_of_enter {tree : Expr} (stands : Stands before standing sources)
    (isForm : tree.IsForm) (index : Nat)
    (entry : (before.registry.enter tree).lookup? signature.linkedName =
      some (.function signature body))
    (empty : ∀ early, before.builder.lookup? signature.linkedName = some early →
      before.builder.hasBody early = false)
    (means : (Evaluator.lowerForms before index [tree]).2.2.builder.lookup? signature.linkedName =
      some id)
    (filled : (Evaluator.lowerForms before index [tree]).2.2.builder.hasBody id = true) :
    ∃ later, Stands (Evaluator.lowerForms before index [tree]).2.2
      (Check.forms standing index [tree]).2.2 later ∧
      later id = some (signature.parameters, body) := by
  obtain ⟨later, after, _⟩ := stands_forms (List.forall_mem_singleton.2 isForm) index stands
  rw [stands.registry_eq] at entry
  have ordinary := ((stands.registered.enter isForm).ordinary entry).2
  have unfilled : standing.ledger.source? signature.linkedName = none := by
    rcases matches_cases stands.filed.agree ordinary with
      ⟨unknown, _⟩ | ⟨status, early, known, held, _, same⟩
    · exact Ledger.source?_of_unknown unknown
    · rw [Ledger.source?_of_known known]
      rw [empty early held] at same
      simpa using same
  refine ⟨later, after, ?_⟩
  obtain ⟨source, known⟩ := Option.isSome_iff_exists.1 ((after.filed.isSome_iff id).2 filled)
  have own := (after.filed.linked ordinary means).trans known
  obtain ⟨prototype, found, parameters⟩ :=
    Check.draws_forms stands.registered isForm index _ source own unfilled
  cases entry.symm.trans found
  rw [known, ← parameters]

/-- The routine of a form that can be lowered is filed under its definition. -/
theorem source_of_lowers (stands : Stands before standing sources)
    (isForm : (Expr.function signature body span).IsForm)
    (lowers : form (.function signature body span) before = .ok id after) :
    ∃ standing later, Stands after standing later ∧
      later id = some (signature.parameters, body) := by
  have followed := stands_form stands isForm
  rw [lowers] at followed
  cases checked : Check.form (.function signature body span) standing with
  | error error next =>
    rw [checked] at followed
    exact followed.elim
  | ok done next =>
    rw [checked] at followed
    obtain ⟨later, holds, _, job⟩ := followed
    have alone : (Evaluator.lowerForms before 0 [.function signature body span]).2.2 = after := by
      simp only [Evaluator.lowerForms, lowers]
    cases named : signature.isAnonymous with
    | true =>
      have closed : signature.parameters = [] := by
        cases isForm with
        | job span _ closed => exact closed
        | definition span other => rw [named] at other; contradiction
      refine ⟨next, later, holds, ?_⟩
      rw [closed]
      exact job body (if_pos named)
    | false =>
      obtain ⟨unfilled, filled⟩ := Check.source_of_definition isForm stands.registered named checked
      have means := lookup?_of_definition stands isForm named lowers
      have entry : (before.registry.enter (.function signature body span)).lookup?
          signature.linkedName = some (.function signature body) := by
        simp only [Registry.enter, Expr.entry?, named, Bool.false_eq_true, if_false]
        exact (Registry.lookup?_insert ..).trans (if_pos rfl)
      have ordinary := ((stands.registered.enter isForm).ordinary (stands.registry_eq ▸ entry)).2
      have empty : ∀ early, before.builder.lookup? signature.linkedName = some early →
          before.builder.hasBody early = false := fun early held => by
        rw [← Builder.isSome_source? stands.filed.agree ordinary held, unfilled, Option.isSome_none]
      have bodied : after.builder.hasBody id = true := by
        rw [← Builder.isSome_source? holds.filed.agree ordinary means, filled]
      rw [← alone] at means bodied ⊢
      exact ⟨_, source_of_enter stands isForm 0 entry empty means bodied⟩

end Lower

namespace Evaluator

open Lower

/-- The state of lowering after some forms of a batch. -/
def lowered (evaluator : Evaluator) (forms : List Expr) : Lowering :=
  (lowerForms evaluator.opened 0 forms).2.2

/-- The routine that a definition has been lowered to in the unit of a batch. -/
inductive Places (evaluator : Evaluator) (forms : List Expr) (prototype : Prototype) (body : Expr) :
    Nat → Prop
  /-- The definition is a form of the batch, which can be lowered. -/
  | directly {front back : List Expr} {span : Span} {id : Nat} {after : Lowering}
      (split : forms = front ++ .function prototype body span :: back)
      (lowers : form (.function prototype body span) (evaluator.lowered front) = .ok id after) :
      Places evaluator forms prototype body id
  /-- The registry in force during a form, which may fail, has the definition, and its name has no
  body before the form and one afterwards. -/
  | onDemand {front back : List Expr} {tree : Expr} {id : Nat}
      (split : forms = front ++ tree :: back)
      (entry : ((evaluator.lowered front).registry.enter tree).lookup? prototype.linkedName =
        some (.function prototype body))
      (empty : ∀ early,
        (evaluator.lowered front).builder.lookup? prototype.linkedName = some early →
        (evaluator.lowered front).builder.hasBody early = false)
      (means : (evaluator.lowered (front ++ [tree])).builder.lookup? prototype.linkedName = some id)
      (filled : (evaluator.lowered (front ++ [tree])).builder.hasBody id = true) :
      Places evaluator forms prototype body id

/-- Forms are lowered one list after the other. -/
theorem lowerForms_append (front back : List Expr) : ∀ (state : Lowering) (index : Nat),
    (lowerForms state index (front ++ back)).2.2 =
      (lowerForms (lowerForms state index front).2.2 (index + front.length) back).2.2 := by
  induction front with
  | nil => exact fun _ _ => rfl
  | cons tree rest hypothesis =>
    intro state index
    have place : index + 1 + rest.length = index + (tree :: rest).length := by
      rw [List.length_cons]
      omega
    rw [List.cons_append, lowerForms, lowerForms]
    cases form tree state <;> simp only [hypothesis, place]

variable {evaluator : Evaluator} {forms : List Expr} {prototype : Prototype} {body : Expr}
  {id : Nat}

/-- The routine that a definition has been lowered to is filed under it at the end of the batch. -/
theorem source_of_places (reachable : evaluator.Reachable) (areForms : ∀ form ∈ forms, form.IsForm)
    (places : evaluator.Places forms prototype body id) :
    ∃ standing sources, Stands (evaluator.lowered forms) standing sources ∧
      sources id = some (prototype.parameters, body) := by
  have start := stands_opened reachable.ready.registered
  -- Once its form is over, the routine keeps its definition to the end.
  have onward : ∀ {front back : List Expr} {standing : Standing} {sources : Sources},
      (∀ form ∈ front ++ back, form.IsForm) → Stands (evaluator.lowered front) standing sources →
      sources id = some (prototype.parameters, body) →
      ∃ standing sources, Stands (evaluator.lowered (front ++ back)) standing sources ∧
        sources id = some (prototype.parameters, body) := by
    intro front back standing sources areForms stands filed
    obtain ⟨last, ends, keeps, _⟩ := stands_forms
      (fun form member => areForms form (List.mem_append_right _ member)) (0 + front.length) stands
    rw [lowered, lowerForms_append]
    exact ⟨_, last, ends, keeps id _ filed⟩
  cases places with
  | @directly front back span id after split lowers =>
    subst split
    obtain ⟨sources, stands, _⟩ := stands_forms
      (fun form member => areForms form (List.mem_append_left _ member)) 0 start
    have isForm := areForms _ (List.mem_append_right _ List.mem_cons_self)
    obtain ⟨standing, later, holds, filed⟩ := source_of_lowers stands isForm lowers
    have alone : evaluator.lowered (front ++ [.function prototype body span]) = after := by
      rw [lowered, lowerForms_append, ← lowered]
      simp only [lowerForms, lowers]
    rw [List.append_cons] at areForms ⊢
    exact onward areForms (alone ▸ holds) filed
  | @onDemand front back tree id split entry empty means filled =>
    subst split
    obtain ⟨sources, stands, _⟩ := stands_forms
      (fun form member => areForms form (List.mem_append_left _ member)) 0 start
    have isForm := areForms _ (List.mem_append_right _ List.mem_cons_self)
    have alone : evaluator.lowered (front ++ [tree]) =
      (lowerForms (evaluator.lowered front) (0 + front.length) [tree]).2.2 := lowerForms_append ..
    rw [alone] at means filled
    obtain ⟨later, holds, filed⟩ := source_of_enter stands isForm _ entry empty means filled
    rw [List.append_cons] at areForms ⊢
    exact onward areForms (alone ▸ holds) filed

/-- A routine that is filed under a definition holds its code, with calls of the names that the
definition calls. -/
theorem routine_of_filed {builder : Builder} {ledger : Ledger} {sources : Sources} {unit : CodeUnit}
    {source : List String × Expr} (filed : builder.Filed ledger sources)
    (isOpen : builder.unit = some unit) (known : sources id = some source) :
    ∃ routine callee, unit.routines[id]? = some routine ∧ routine.hasBody = true ∧
      routine = Draft.compile callee source.1 source.2 (.declared routine.name routine.parameters) ∧
      ∀ call ∈ source.2.calls, unit.nameOf (callee call.1) = call.1 := by
  obtain ⟨routine, found, contains⟩ := filed.held known
  have body := contains.hasBody (filed.complete known)
  obtain ⟨callee, goes, _, code⟩ := contains
  rw [Builder.routine?, isOpen, Option.bind_some] at found
  refine ⟨routine, callee, found, body, code, fun call member => ?_⟩
  obtain ⟨called, here, name⟩ := filed.sound.named (goes call member)
  rw [Builder.routine?, isOpen, Option.bind_some] at here
  simp only [CodeUnit.nameOf, here, name]

/-- A definition has the same code in all units that it has been lowered in, with the routines that
it calls known by their names: the same slots, the same blocks with their instructions and ends, and
so the same lines between the braces of its listing. It may have been lowered as a form of the batch
or on demand, in one session or in two, and before or after any forms that failed. -/
theorem content_eq_of_places {first second : Evaluator} (reachable : first.Reachable)
    (reachableOther : second.Reachable) {forms others : List Expr}
    (areForms : ∀ form ∈ forms, form.IsForm) (areOthers : ∀ form ∈ others, form.IsForm)
    {prototype : Prototype} {body : Expr} {id place : Nat}
    (places : first.Places forms prototype body id)
    (placesOther : second.Places others prototype body place) :
    ∃ unit other routine copy, (first.lowered forms).builder.unit = some unit ∧
      (second.lowered others).builder.unit = some other ∧
      unit.routines[id]? = some routine ∧ other.routines[place]? = some copy ∧
      routine.hasBody = true ∧ copy.hasBody = true ∧
      routine.content unit.nameOf = copy.content other.nameOf ∧
      routine.bodyLines unit.nameOf = copy.bodyLines other.nameOf := by
  obtain ⟨_, _, stands, known⟩ := source_of_places reachable areForms places
  obtain ⟨_, _, standsOther, knownOther⟩ := source_of_places reachableOther areOthers placesOther
  obtain ⟨unit, isOpen⟩ := stands.filed.sound.isOpen
  obtain ⟨other, isOpenOther⟩ := standsOther.filed.sound.isOpen
  obtain ⟨routine, callee, found, filled, code, names⟩ :=
    routine_of_filed stands.filed isOpen known
  obtain ⟨copy, target, foundOther, filledOther, codeOther, namesOther⟩ :=
    routine_of_filed standsOther.filed isOpenOther knownOther
  have same : routine.content unit.nameOf = copy.content other.nameOf := by
    rw [code, codeOther]
    exact Draft.content_compile
      (fun call member => (names call member).trans (namesOther call member).symm) ..
  exact ⟨unit, other, routine, copy, isOpen, isOpenOther, found, foundOther, filled, filledOther,
    same, Routine.bodyLines_eq same⟩

/-- A definition is a form of the first batch. In the next batch of the session a call of a name
that is not known fails, and then another call has the definition lowered on demand. -/
theorem content_eq_of_places_demanded :
    let span : Span := default
    let helper : Expr := .function ⟨"g", ["x"], .function, span⟩ (.var "x" span) span
    let shown : Prototype := ⟨"f", ["x"], .function, span⟩
    let body : Expr := .call "g" [.var "x" span] span
    let unknown : Expr := (Expr.call "h" [] span).anonymous
    let use : Expr := (Expr.call "f" [.number 1 span] span).anonymous
    let first : List Expr := [helper, .function shown body span]
    ∃ (evaluator : Evaluator) (report : Report) (unit other : CodeUnit) (routine copy : Routine),
      (Evaluator.new false []).Reachable ∧ evaluator.Reachable ∧
      (Evaluator.new false []).runBatch ⟨⟨.none, 4⟩, 10⟩ first = some (report, evaluator) ∧
      (∀ form ∈ first, form.IsForm) ∧ (∀ form ∈ [unknown, use], form.IsForm) ∧
      (Evaluator.new false []).Places first shown body 1 ∧
      evaluator.Places [unknown, use] shown body 2 ∧
      ((Evaluator.new false []).lowered first).builder.unit = some unit ∧
      (evaluator.lowered [unknown, use]).builder.unit = some other ∧
      unit.routines[1]? = some routine ∧ other.routines[2]? = some copy ∧
      routine.content unit.nameOf = copy.content other.nameOf ∧
      routine.bodyLines unit.nameOf = copy.bodyLines other.nameOf := by
  intro span helper shown body unknown use first
  have ordinary : IsOrdinary "f" ∧ IsOrdinary "g" ∧ IsOrdinary "h" :=
    ⟨isOrdinary_of_head? (by decide), isOrdinary_of_head? (by decide),
      isOrdinary_of_head? (by decide)⟩
  have areFirst : ∀ form ∈ first, form.IsForm := by
    simp only [first, List.forall_mem_cons, List.not_mem_nil, false_implies, implies_true, and_true]
    refine ⟨.definition span rfl ordinary.2.1 ?_ ?_, .definition span rfl ordinary.1 ?_ ?_⟩ <;>
      simp [body, Expr.IsBody, Expr.AreBodies, Expr.CallsOrdinary, Expr.calls, Expr.callsOfAll,
        ordinary]
  have areSecond : ∀ form ∈ [unknown, use], form.IsForm := by
    simp only [List.forall_mem_cons, List.not_mem_nil, false_implies, implies_true, and_true]
    refine ⟨Expr.isForm_anonymous ?_ ?_, Expr.isForm_anonymous ?_ ?_⟩ <;>
      simp [Expr.IsBody, Expr.AreBodies, Expr.CallsOrdinary, Expr.calls, Expr.callsOfAll, ordinary]
  have areUnknown : unknown.IsForm := areSecond unknown List.mem_cons_self
  have lowers : (form (.function shown body span)).run'
      ((Evaluator.new false []).lowered [helper]) = some 1 := by
    decide +kernel
  have runs : ((Evaluator.new false []).runBatch ⟨⟨.none, 4⟩, 10⟩ first).map (fun result =>
      let states := (result.2.lowered [unknown], result.2.lowered [unknown, use])
      (states.1.builder.lookup? "f", states.2.builder.lookup? "f", states.2.builder.hasBody 2)) =
        some (none, some 2, true) := by
    decide +kernel
  have allLower : (Evaluator.new false []).AllLower first := List.isEmpty_iff.1 (by decide +kernel)
  obtain ⟨⟨report, evaluator⟩, done, states⟩ := Option.map_eq_some_iff.1 runs
  obtain ⟨empty, states⟩ := Prod.mk.inj states
  obtain ⟨means, filled⟩ := Prod.mk.inj states
  have start : (Evaluator.new false []).Reachable := .new false
  have reachable : evaluator.Reachable := start.batch areFirst done
  have registry := registry_of_runBatch start areFirst allLower done
  have places : (Evaluator.new false []).Places first shown body 1 := by
    have split : first = [helper] ++ .function shown body span :: [] := rfl
    delta EStateM.run' EStateM.run at lowers
    cases same : form (.function shown body span) ((Evaluator.new false []).lowered [helper]) with
    | ok id after =>
      rw [same] at lowers
      cases lowers
      exact .directly split same
    | error error after =>
      rw [same] at lowers
      cases lowers
  have placesOther : evaluator.Places [unknown, use] shown body 2 := by
    have split : [unknown, use] = [unknown] ++ use :: [] := rfl
    refine .onDemand split ?_ (fun early held => by cases empty.symm.trans held) means filled
    have kept : (evaluator.lowered [unknown]).registry = evaluator.registry := by
      obtain ⟨_, stands, _⟩ := stands_forms (List.forall_mem_singleton.2 areUnknown) 0
        (stands_opened reachable.ready.registered)
      refine stands.registry_eq.trans ?_
      rw [registry]
      rfl
    rw [kept, registry]
    rfl
  obtain ⟨unit, other, routine, copy, isOpen, isOpenOther, found, foundOther, _, _, same, lines⟩ :=
    content_eq_of_places start reachable areFirst areSecond places placesOther
  exact ⟨evaluator, report, unit, other, routine, copy, start, reachable, done, areFirst, areSecond,
    places, placesOther, isOpen, isOpenOther, found, foundOther, same, lines⟩

end Evaluator

end Kaleidoscope
