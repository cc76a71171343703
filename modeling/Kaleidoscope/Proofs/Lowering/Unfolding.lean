import Kaleidoscope.Proofs.Lowering.Retaining
import Kaleidoscope.Proofs.Lowering.Succeeding
import Kaleidoscope.Proofs.Lowering.Visits

/-!
# How definitions unfold

A routine has a body from the moment it is filled until its filling fails, and then everything around
it fails as well. So a definition that has been entered is not entered again, and one less is left
for those nested in it (`Lower.ends_recallWithin`). Hence lowering a form ends, and the depth that it
is given beforehand is never used up (`Lower.form_ends_once`).
-/
namespace Kaleidoscope

open Code

/-- Names of a registry that are entered while something is lowered: they had no body before. -/
structure Lowering.Enters (registry : Registry) (before : Lowering) (names : List String)
    (after : Lowering) : Prop where
  /-- What was there is still there. -/
  retains : before.Retains after
  /-- No name is entered twice. -/
  nodup : names.Nodup
  /-- The names are those of definitions that had no body. -/
  unfilled : names ⊆ registry.unfilled before.builder

/-- What names entered come to: if all goes well, they have a body in the end. -/
def Lowering.Leads {α : Type} (registry : Registry) (before : Lowering) (names : List String) :
    EStateM.Result LowerError Lowering α → Prop
  | .ok _ after =>
    before.Enters registry names after ∧ ∀ name ∈ names, after.builder.isFilled name = true
  | .error _ after => before.Enters registry names after

namespace Lowering

variable {registry : Registry} {before middle after : Lowering} {names more : List String}

/-- Nothing is entered. -/
theorem Retains.enters (retains : before.Retains after) : before.Enters registry [] after :=
  ⟨retains, List.nodup_nil, List.nil_subset _⟩

/-- Names may be entered in turn: those that have a body by now are not entered again. -/
theorem Enters.append (sound : registry.IsSound) (front : before.Enters registry names middle)
    (filled : ∀ name ∈ names, middle.builder.isFilled name = true)
    (back : middle.Enters registry more after) : before.Enters registry (names ++ more) after where
  retains := front.retains.trans back.retains
  nodup := by
    refine List.nodup_append.2 ⟨front.nodup, back.nodup, ?_⟩
    rintro name early _ late rfl
    have empty := (Registry.mem_unfilled.1 (back.unfilled late)).2
    rw [filled name early] at empty
    contradiction
  unfilled := List.append_subset.2
    ⟨front.unfilled, fun _ late => front.retains.unfilled_subset sound (back.unfilled late)⟩

/-- Names that are entered are ordinary. -/
theorem Enters.isOrdinary (sound : registry.IsSound) (enters : before.Enters registry names after)
    {name : String} (member : name ∈ names) : IsOrdinary name := by
  obtain ⟨prototype, body, found⟩ :=
    Registry.mem_defined.1 (Registry.mem_unfilled.1 (enters.unfilled member)).1
  exact (sound.ordinary found).2

/-- What is entered had no body, whatever comes of it. -/
theorem Leads.unfilled {α : Type} {result : EStateM.Result LowerError Lowering α}
    (leads : before.Leads registry names result) : names ⊆ registry.unfilled before.builder := by
  cases result with
  | ok value after => exact leads.1.unfilled
  | error error after => exact Enters.unfilled leads

/-- What is entered is entered once, whatever comes of it. -/
theorem Leads.nodup {α : Type} {result : EStateM.Result LowerError Lowering α}
    (leads : before.Leads registry names result) : names.Nodup := by
  cases result with
  | ok value after => exact leads.1.nodup
  | error error after => exact Enters.nodup leads

/-- What is entered after other names, which have a body by then. -/
theorem Leads.behind {α : Type} {result : EStateM.Result LowerError Lowering α}
    (sound : registry.IsSound) (front : before.Enters registry names middle)
    (filled : ∀ name ∈ names, middle.builder.isFilled name = true)
    (leads : middle.Leads registry more result) :
    before.Leads registry (names ++ more) result := by
  cases result with
  | ok value last =>
    refine ⟨front.append sound filled leads.1, fun name member => ?_⟩
    rcases List.mem_append.1 member with early | late
    · exact leads.1.retains.isFilled (front.isOrdinary sound early) (filled name early)
    · exact leads.2 name late
  | error error last => exact front.append sound filled leads

/-- What is entered after something else has happened. -/
theorem Leads.earlier {α : Type} {result : EStateM.Result LowerError Lowering α}
    (sound : registry.IsSound) (retains : before.Retains middle)
    (leads : middle.Leads registry names result) : before.Leads registry names result :=
  leads.behind sound retains.enters (by simp)

end Lowering

/-- An outcome of lowering from some state, given how definitions are lowered: what it asks for ends,
and enters each definition once at most. -/
def Unfolds {α : Type} (registry : Registry) (depth : Nat) (revive : Revival) (before : Lowering)
    (outcome : Revival → EStateM.Result LowerError Lowering α) : Prop :=
  ∃ inner : List (Visit × List String),
    revive.Asks outcome (inner.map (·.1)) ∧
    (∀ entry ∈ inner, entry.1.Ends depth (revive.answer entry.1) entry.2) ∧
    before.Leads registry (inner.flatMap (·.2)) (outcome revive)

/-- Definitions without a body can be lowered, if those that are left may nest. -/
def RecallEnds (registry : Registry) (depth : Nat) (revive : Revival) : Prop :=
  ∀ {prototype : Prototype} {body : Expr} {state : Lowering},
    registry.lookup? prototype.linkedName = some (.function prototype body) →
    state.registry = registry → prototype.linkedName ∈ registry.unfilled state.builder →
    (registry.unfilled state.builder).length ≤ depth →
    ∃ names, Visit.Ends depth ⟨prototype, body, state⟩ (revive prototype body state) names ∧
      state.Leads registry names (revive prototype body state)

namespace Unfolds

variable {α β : Type} {registry : Registry} {depth : Nat} {revive : Revival}
  {before : Lowering}

/-- Nothing is asked. -/
theorem of_leads {result : EStateM.Result LowerError Lowering α}
    (leads : before.Leads registry [] result) :
    Unfolds registry depth revive before fun _ => result :=
  ⟨[], .nothing result, by simp, leads⟩

/-- What an outcome asks for after something else has happened. -/
theorem earlier (sound : registry.IsSound) {middle : Lowering}
    {outcome : Revival → EStateM.Result LowerError Lowering α} (retains : before.Retains middle)
    (unfolds : Unfolds registry depth revive middle outcome) :
    Unfolds registry depth revive before outcome := by
  obtain ⟨inner, asks, ends, leads⟩ := unfolds
  exact ⟨inner, asks, ends, leads.earlier sound retains⟩

/-- What is done with an outcome asks for nothing more. -/
theorem map {outcome : Revival → EStateM.Result LowerError Lowering α}
    (unfolds : Unfolds registry depth revive before outcome)
    (change : EStateM.Result LowerError Lowering α → EStateM.Result LowerError Lowering β)
    (kept : ∀ names, before.Leads registry names (outcome revive) →
      before.Leads registry names (change (outcome revive))) :
    Unfolds registry depth revive before fun other => change (outcome other) := by
  obtain ⟨inner, asks, ends, leads⟩ := unfolds
  exact ⟨inner, asks.map change, ends, kept _ leads⟩

/-- One action after another. -/
theorem bind (sound : registry.IsSound) {first : Revival → Lower α}
    {next : α → Revival → Lower β}
    (front : Unfolds registry depth revive before fun other => first other before)
    (back : ∀ value middle, before.Retains middle →
      Unfolds registry depth revive middle fun other => next value other middle) :
    Unfolds registry depth revive before
      fun other => (first other >>= fun value => next value other) before := by
  obtain ⟨inner, asks, ends, leads⟩ := front
  let follow (result : EStateM.Result LowerError Lowering α) (other : Revival) :
      EStateM.Result LowerError Lowering β :=
    match result with
    | .ok value middle => next value other middle
    | .error error after => .error error after
  have same : (fun other => (first other >>= fun value => next value other) before) =
      fun other => follow (first other before) other := by
    funext other
    rw [bind_apply]
    cases first other before <;> rfl
  rw [same]
  change before.Leads registry _ (first revive before) at leads
  have next_asks : ∀ {more : List Visit},
      revive.Asks (follow (first revive before)) more →
        revive.Asks (fun other => follow (first other before) other) (inner.map (·.1) ++ more) :=
    fun follows => asks.bind follow follows
  cases ran : first revive before with
  | ok value middle =>
    rw [ran] at leads
    obtain ⟨enters, filled⟩ := leads
    obtain ⟨outer, others, deeper, later⟩ := back value middle enters.retains
    refine ⟨inner ++ outer, ?_, ?_, ?_⟩
    · rw [List.map_append]
      exact next_asks (by rw [ran]; exact others)
    · intro entry member
      rcases List.mem_append.1 member with early | late
      · exact ends entry early
      · exact deeper entry late
    · show before.Leads registry _ (follow (first revive before) revive)
      rw [List.flatMap_append, ran]
      exact later.behind sound enters filled
  | error error after =>
    rw [ran] at leads
    refine ⟨inner, ?_, ends, ?_⟩
    · have failed : revive.Asks _ (inner.map (·.1) ++ []) :=
        next_asks (by rw [ran]; exact .nothing _)
      rwa [List.append_nil] at failed
    · show before.Leads registry _ (follow (first revive before) revive)
      rw [ran]
      exact leads

end Unfolds

namespace Lower

variable {registry : Registry} {depth : Nat} {revive : Revival} {state : Lowering}

/-- An operation that fills routines. -/
theorem unfolds_build {α : Type} {action : Build α}
    (lasts : ∀ (holds : Builder → Prop) [Builder.Lasting holds], Preserves holds action) :
    Unfolds registry depth revive state fun _ => build action state := by
  have kept := retains_build lasts state
  refine .of_leads ?_
  cases ran : build action state <;> rw [ran] at kept
  · exact ⟨kept.enters, by simp⟩
  · exact kept.enters

/-- The routine of a declaration. -/
theorem unfolds_declare (prototype : Prototype) :
    Unfolds registry depth revive state fun _ => declare prototype state := by
  have declared := retains_declare prototype state
  refine .of_leads ?_
  cases ran : declare prototype state <;> rw [ran] at declared
  · exact ⟨declared.1.enters, by simp⟩
  · exact declared.enters

/-- Going on with an earlier block asks for nothing. -/
theorem leads_inDefinition {α : Type} {name : String} {span : Span} {saved : Option BlockRef}
    {action : Lower α} {first : Lowering} {names : List String}
    (leads : first.Leads registry names (action state)) :
    first.Leads registry names (inDefinition name span saved action state) := by
  have back : ∀ {after : Lowering} (block : BlockRef), first.Enters registry names after →
      first.Enters registry names { after with builder := after.builder.moveTo block } :=
    fun block enters => ⟨enters.retains.moveTo block, enters.nodup, enters.unfilled⟩
  unfold inDefinition
  cases ran : action state with
  | ok value after =>
    rw [ran] at leads
    cases saved with
    | none => exact leads
    | some block => exact ⟨back block leads.1, leads.2⟩
  | error error after =>
    rw [ran] at leads
    cases error <;> cases saved <;> first | exact leads | exact back _ leads

/-- What a definition comes to once its routine has been filled. -/
def close (id : Nat) :
    EStateM.Result LowerError Lowering PUnit → EStateM.Result LowerError Lowering Nat
  | .ok _ after => .ok id after
  | .error error after => .error error { after with builder := after.builder.discardBody id }

/-- A definition is filled from its first block on. -/
theorem define_eq_close {prototype : Prototype} {id : Nat} {entry : BlockRef}
    {fresh filling : Lowering} (fills : Scope SlotRef → Lower Operand)
    (declared : declare prototype state = .ok id fresh)
    (opened : build (.appendBlock id "entry") fresh = .ok entry filling) :
    define prototype fills state =
      close id (fillFrom id prototype.parameters fills entry filling) := by
  rw [define_eq declared]
  simp only [discardingOnError, fill_eq, bind_apply, opened]
  cases fillFrom id prototype.parameters fills entry filling <;> rfl

/-- Closing a definition whose routine had no body asks for nothing. -/
theorem leads_close {id : Nat} {result : EStateM.Result LowerError Lowering PUnit}
    {names : List String} (empty : state.builder.hasBody id = false)
    (leads : state.Leads registry names result) : state.Leads registry names (close id result) := by
  cases result with
  | ok done after => exact leads
  | error error after => exact ⟨leads.retains.discardBody empty, leads.nodup, leads.unfilled⟩

/-- A definition that has no body yet. -/
theorem unfolds_visit (recalls : RecallEnds registry depth revive) {prototype : Prototype}
    {body : Expr} (found : registry.lookup? prototype.linkedName = some (.function prototype body))
    (same : state.registry = registry)
    (unfilled : prototype.linkedName ∈ registry.unfilled state.builder)
    (enough : (registry.unfilled state.builder).length ≤ depth) :
    Unfolds registry depth revive state fun other => other prototype body state := by
  obtain ⟨names, ends, leads⟩ := recalls found same unfilled enough
  refine ⟨[(⟨prototype, body, state⟩, names)],
    .visit ⟨prototype, body, state⟩ (fun answer _ => answer) (.nothing _), ?_, ?_⟩
  · intro entry member
    rw [List.mem_singleton.1 member]
    exact ends
  · simpa using leads

/-- The routine that a call goes to. -/
theorem unfolds_resolve (sound : registry.IsSound) (recalls : RecallEnds registry depth revive)
    (name : String) (span : Span) (same : state.registry = registry)
    (enough : (registry.unfilled state.builder).length ≤ depth) :
    Unfolds registry depth revive state fun other => resolve other name span state := by
  simp only [resolve, bind_apply, get_apply, same]
  cases filled : (state.builder.lookup? name).filter state.builder.hasBody with
  | some id => exact .of_leads ⟨(Lowering.Retains.refl state).enters, by simp⟩
  | none =>
    cases found : registry.lookup? name with
    | none => exact .of_leads (Lowering.Retains.refl state).enters
    | some entry =>
      obtain rfl := sound.linked found
      cases entry with
      | function prototype body =>
        have unfilled : prototype.linkedName ∈ registry.unfilled state.builder :=
          Registry.mem_unfilled.2 ⟨Registry.mem_defined.2 ⟨prototype, body, found⟩, by
            rw [← Bool.not_eq_true, Builder.isFilled_iff]
            rintro ⟨id, means, bodied⟩
            exact Option.filter_eq_none_iff.1 filled id means bodied⟩
        obtain ⟨saved, paused, asked, retains, unchanged⟩ := insertBlock_eq state
        rw [← unchanged registry] at unfilled enough
        have visited := unfolds_visit recalls found (retains.registry_eq.trans same) unfilled enough
        simp only [bind_apply, asked]
        exact (visited.map (fun result => inDefinition _ span saved (fun _ => result) paused)
          fun _ leads => leads_inDefinition leads).earlier sound retains
      | declaration prototype =>
        cases state.builder.lookup? (Entry.declaration prototype).prototype.linkedName with
        | some id => exact .of_leads ⟨(Lowering.Retains.refl state).enters, by simp⟩
        | none => exact unfolds_declare prototype

/-- What bodies are woven from. -/
theorem unfolds_woven (sound : registry.IsSound) (recalls : RecallEnds registry depth revive)
    {α : Type} {action : Revival → Lower α} (woven : Woven action) :
    ∀ {state : Lowering}, state.registry = registry →
      (registry.unfilled state.builder).length ≤ depth →
      Unfolds registry depth revive state fun other => action other state := by
  induction woven with
  | pure value => exact fun {state} _ _ => .of_leads ⟨(Lowering.Retains.refl state).enters, by simp⟩
  | throw error => exact fun {state} _ _ => .of_leads (Lowering.Retains.refl state).enters
  | build lasts => exact fun _ _ => unfolds_build lasts
  | resolve name span => exact fun same enough => unfolds_resolve sound recalls name span same enough
  | get _ back => exact fun {state} same enough => back state same enough
  | bind _ _ front back =>
    intro state same enough
    refine (front same enough).bind sound fun value middle retains => ?_
    refine back value (retains.registry_eq.trans same) (Nat.le_trans ?_ enough)
    exact Registry.length_unfilled_le (retains.unfilled_subset sound)

/-- A definition enters other definitions that have no body when its own filling starts. Its own name
is not among them, and if all goes well, it means a routine with a body in the end. -/
theorem unfolds_define (sound : registry.IsSound) (recalls : RecallEnds registry depth revive)
    {prototype : Prototype} {body : Expr} (isBody : body.IsBody) (same : state.registry = registry)
    (ordinary : prototype.isAnonymous = false → IsOrdinary prototype.linkedName)
    (enough : ∀ later : Lowering, state.Retains later →
      (prototype.isAnonymous = false → later.builder.isFilled prototype.linkedName = true) →
      (registry.unfilled later.builder).length ≤ depth) :
    ∃ inner : List (Visit × List String),
      revive.Asks (fun other => define prototype (fun scope => do
        asValue body.span (← lower other scope body)) state) (inner.map (·.1)) ∧
      (∀ entry ∈ inner, entry.1.Ends depth (revive.answer entry.1) entry.2) ∧
      state.Leads registry (inner.flatMap (·.2)) (define prototype (fun scope => do
        asValue body.span (← lower revive scope body)) state) ∧
      (prototype.isAnonymous = false → prototype.linkedName ∉ inner.flatMap (·.2) ∧
        ∀ id after, define prototype (fun scope => do
            asValue body.span (← lower revive scope body)) state = .ok id after →
          after.builder.isFilled prototype.linkedName = true) := by
  have declared := retains_declare prototype state
  cases ran : declare prototype state with
  | error error after =>
    rw [ran] at declared
    simp only [define, bind_apply, ran]
    exact ⟨[], .nothing _, by simp, declared.enters, by simp⟩
  | ok id fresh =>
    rw [ran] at declared
    obtain ⟨retains, empty, means⟩ := declared
    have opening := retains_build (fun _ _ => Build.preserves_appendBlock id "entry") fresh
    cases opened : build (.appendBlock id "entry") fresh with
    | error error after =>
      rw [opened] at opening
      simp only [define_eq ran, discardingOnError, fill_eq, bind_apply, opened]
      exact ⟨[], .nothing _, by simp, (retains.trans (opening.discardBody empty)).enters, by simp⟩
    | ok entry filling =>
      rw [opened] at opening
      have filled : prototype.isAnonymous = false →
          filling.builder.isFilled prototype.linkedName = true := fun named =>
        Builder.isFilled_iff.2 ⟨id, opening.lookup (ordinary named) (means named),
          hasBody_of_appendBlock opened⟩
      obtain ⟨inner, asks, ends, leads⟩ : Unfolds registry depth revive filling fun other =>
          fillFrom id prototype.parameters (fun scope => do
            asValue body.span (← lower other scope body)) entry filling :=
        unfolds_woven sound recalls
          (woven_fillFrom id prototype.parameters (woven_value isBody) entry)
          ((opening.registry_eq.trans retains.registry_eq).trans same)
          (enough filling (retains.trans opening) filled)
      change filling.Leads registry _ (fillFrom id prototype.parameters (fun scope => do
        asValue body.span (← lower revive scope body)) entry filling) at leads
      simp only [define_eq_close _ ran opened]
      have closed := leads_close empty (leads.earlier sound opening)
      refine ⟨inner, asks.map (close id), ends, closed.earlier sound retains, fun named => ⟨?_, ?_⟩⟩
      · intro member
        have open_still := (Registry.mem_unfilled.1 (leads.unfilled member)).2
        rw [filled named] at open_still
        contradiction
      · intro same after done
        generalize fillFrom id prototype.parameters _ entry filling = result at leads done
        cases result with
        | error error last => contradiction
        | ok value last =>
          cases done
          exact leads.1.retains.isFilled (ordinary named) (filled named)

/-- Definitions of the registry end, with as many others nested in them as are without a body. -/
theorem ends_recallWithin (sound : registry.IsSound) (limit : Nat) :
    ∀ depth, depth ≤ limit → RecallEnds registry depth (recallWithin limit) := by
  induction limit with
  | zero =>
    intro depth none prototype body state _ _ unfilled enough
    have some_left := List.length_pos_of_mem unfilled
    omega
  | succ limit hypothesis =>
    intro depth bound prototype body state found same unfilled enough
    -- The definition itself is one of those that are without a body.
    obtain ⟨less, rfl⟩ : ∃ less, depth = less + 1 :=
      ⟨depth - 1, by have some_left := List.length_pos_of_mem unfilled; omega⟩
    have named : prototype.isAnonymous = false := (sound.ordinary found).1
    obtain ⟨inner, asks, ends, leads, apart⟩ := unfolds_define sound (hypothesis less (by omega))
      (sound.bodies found).1 same (fun _ => (sound.ordinary found).2) fun later retains filled => by
        have fewer := Registry.length_unfilled_lt (retains.unfilled_subset sound) unfilled
          (filled named)
        omega
    obtain ⟨fresh, closed⟩ := apart named
    refine ⟨_, .enter _ inner asks ends, ?_⟩
    show state.Leads registry (prototype.linkedName :: _) (define _ _ _)
    have enters : ∀ {after : Lowering}, state.Enters registry (inner.flatMap (·.2)) after →
        state.Enters registry (prototype.linkedName :: inner.flatMap (·.2)) after :=
      fun enters => ⟨enters.retains, List.nodup_cons.2 ⟨fresh, enters.nodup⟩,
        List.cons_subset.2 ⟨unfilled, enters.unfilled⟩⟩
    cases ran : define prototype (fun scope => do
        asValue body.span (← lower (recallWithin limit) scope body)) state with
    | error error after =>
      rw [ran] at leads
      exact enters leads
    | ok id after =>
      rw [ran] at leads
      exact ⟨enters leads.1, List.forall_mem_cons.2 ⟨closed id after ran, leads.2⟩⟩

/-- Lowering a form ends, whatever has been lowered before it and however the definitions of the
registry call each other: no more definitions are nested than the registry has, and none is entered
twice, that of the form itself included. -/
theorem form_ends_once {tree : Expr} (isForm : tree.IsForm) (state : Lowering)
    (sound : state.registry.IsSound) :
    ∃ names, FormEnds state.registry.defined.length tree state (form tree state) names ∧
      names.Nodup ∧
      (∀ name ∈ names, name ∈ state.registry.defined ∧ tree.introduced? ≠ some name) ∧
      ∀ depth other later, FormEnds depth tree state other later → other = form tree state := by
  suffices ∃ names, FormEnds state.registry.defined.length tree state (form tree state) names ∧
      names.Nodup ∧ ∀ name ∈ names, name ∈ state.registry.defined ∧ tree.introduced? ≠ some name by
    obtain ⟨names, ends, nodup, known⟩ := this
    exact ⟨names, ends, nodup, known, fun _ _ _ again => again.unique ends⟩
  rw [form_eq]
  have bound := Registry.length_defined_le state.registry
  cases isForm with
  | @job signature body span anonymous closed isBody calls =>
    obtain ⟨inner, asks, ends, leads, _⟩ := unfolds_define sound
      (ends_recallWithin sound _ _ (Nat.le_trans bound (Nat.le_add_right _ _))) isBody (Eq.refl _)
      (fun named => absurd (anonymous.symm.trans named) (by simp))
      fun later _ _ => Registry.length_unfilled_le (List.filter_subset_self ..)
    refine ⟨_, .lower _ inner ?_ ends, leads.nodup, fun name member => ⟨?_, ?_⟩⟩
    · simpa only [formWith_job_eq _ span state anonymous] using asks
    · exact (Registry.mem_unfilled.1 (leads.unfilled member)).1
    · simp [Expr.introduced?, Expr.entry?, anonymous]
  | @definition signature body span named ordinary isBody calls =>
    have registered := sound.insert (.function signature body) named ordinary
      fun _ _ same => by cases same; exact ⟨isBody, calls⟩
    have others : ∀ name ∈ (state.registry.insert signature.linkedName
        (.function signature body)).defined, name ≠ signature.linkedName →
          name ∈ state.registry.defined := by
      intro name member different
      obtain ⟨prototype, other, found⟩ := Registry.mem_defined.1 member
      rw [Registry.lookup?_insert, if_neg different] at found
      exact Registry.mem_defined.2 ⟨prototype, other, found⟩
    obtain ⟨inner, asks, ends, leads, apart⟩ := unfolds_define registered
      (ends_recallWithin registered _ _ (Nat.le_trans bound (Nat.le_add_right _ _))) isBody
      (Eq.refl ({ state with registry := _ } : Lowering).registry) (fun _ => ordinary)
      fun later _ filled => Registry.length_unfilled_le fun name member => by
        obtain ⟨defined, empty⟩ := Registry.mem_unfilled.1 member
        refine others name defined ?_
        rintro rfl
        rw [filled named] at empty
        contradiction
    refine ⟨_, .lower _ inner ?_ ends, leads.nodup, fun name member => ?_⟩
    · simp only [formWith_definition_eq _ span state named]
      exact asks.map (undone signature.linkedName state)
    · have different : name ≠ signature.linkedName := by
        rintro rfl
        exact (apart named).1 member
      refine ⟨others name (Registry.mem_unfilled.1 (leads.unfilled member)).1 different, ?_⟩
      simpa [Expr.introduced?, Expr.entry?, named, Entry.prototype] using different.symm
  | @declaration signature span named ordinary =>
    refine ⟨[], .lower _ [] ?_ (by simp), List.nodup_nil, by simp⟩
    simp only [formWith_declaration_eq]
    exact .nothing _

/-- An expression that calls one of two definitions that call each other, in a unit that holds
neither of them. -/
theorem form_ends_once_circle :
    let span : Span := default
    let first : Expr :=
      .function ⟨"f", ["x"], .function, span⟩ (.call "g" [.var "x" span] span) span
    let second : Expr :=
      .function ⟨"g", ["x"], .function, span⟩ (.call "f" [.var "x" span] span) span
    let state : Lowering :=
      ⟨⟨some (.new "unit.2"), none, []⟩, (Registry.empty.enter first).enter second, 0⟩
    let job : Expr := (Expr.call "f" [.number 1 span] span).anonymous
    job.IsForm ∧ state.registry.IsSound ∧ state.registry.defined = ["g", "f"] ∧
      ∃ names, FormEnds state.registry.defined.length job state (form job state) names ∧
        names.Nodup ∧
        (∀ name ∈ names, name ∈ state.registry.defined ∧ job.introduced? ≠ some name) ∧
        ∀ depth other later, FormEnds depth job state other later → other = form job state := by
  intro span first second state job
  have ordinary : IsOrdinary "f" ∧ IsOrdinary "g" :=
    ⟨isOrdinary_of_head? (by decide), isOrdinary_of_head? (by decide)⟩
  have isFirst : first.IsForm := .definition span rfl ordinary.1 ⟨trivial, trivial⟩ (by
    simp [Expr.CallsOrdinary, Expr.calls, Expr.callsOfAll, ordinary])
  have isSecond : second.IsForm := .definition span rfl ordinary.2 ⟨trivial, trivial⟩ (by
    simp [Expr.CallsOrdinary, Expr.calls, Expr.callsOfAll, ordinary])
  have isJob : job.IsForm := Expr.isForm_anonymous ⟨trivial, trivial⟩ (by
    simp [Expr.CallsOrdinary, Expr.calls, Expr.callsOfAll, ordinary])
  have sound : state.registry.IsSound := (Registry.isSound_empty.enter isFirst).enter isSecond
  exact ⟨isJob, sound, rfl, form_ends_once isJob state sound⟩

end Lower

end Kaleidoscope
