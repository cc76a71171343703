import Mathlib.Data.List.Forall2
import Kaleidoscope.Batch
import Kaleidoscope.Proofs.Lowering.Filing
import Kaleidoscope.Proofs.Lowering.Standing

/-!
# Lowering of forms, followed form by form

Between forms a unit holds what a ledger says (`Lower.Stands`), and a form is lowered as it is
checked, with the same error if it fails (`Lower.stands_form`). Whatever becomes of a form, routines
that hold a definition keep it, and the routine of an expression to run holds that expression.
-/
namespace Kaleidoscope.Lower

open Code

/-- A state of lowering between forms. -/
structure Stands (state : Lowering) (standing : Standing) (sources : Sources) : Prop where
  /-- The registry is the one that checking knows. -/
  registry_eq : state.registry = standing.registry
  /-- It is made from forms. -/
  registered : standing.registry.IsSound
  /-- The unit holds what the ledger says. -/
  filed : state.builder.Filed standing.ledger sources

/-- Lowering a form, given how definitions of the registry are lowered. -/
def formWith (revive : Prototype → Expr → Lower Nat) (tree : Expr) : Lower Nat :=
  match tree.prototype? with
  | none => throw (.expectedFunction tree.span)
  | some _ => undoingOnError tree do asRoutine tree.span (← lower revive .empty tree)

/-- The outcome of a form that introduces a name, given the state before it: failures are undone. -/
def undone (name : String) (before : Lowering) :
    EStateM.Result LowerError Lowering Nat → EStateM.Result LowerError Lowering Nat
  | .ok id after => .ok id after
  | .error error after => .error error (undo name before after)

section Equations

/-- Definitions of the registry nest as deeply as there are definitions. -/
theorem form_eq (tree : Expr) (before : Lowering) :
    form tree before =
      formWith (recallWithin (before.registry.definitionCount + tree.definitionCount)) tree
        before := by
  unfold form formWith undoingOnError
  cases tree.prototype? <;> rfl

variable (revive : Prototype → Expr → Lower Nat) {signature : Prototype} {body : Expr} (span : Span)
  (before : Lowering)

/-- A definition is lowered with its own entry in the registry already. -/
theorem formWith_definition_eq (named : signature.isAnonymous = false) :
    formWith revive (.function signature body span) before =
      undone signature.linkedName before
        (define signature (fun scope => do asValue body.span (← lower revive scope body))
          { before with registry :=
              before.registry.insert signature.linkedName (.function signature body) }) := by
  simp only [formWith, Expr.prototype?, undoingOnError, lower, named, Expr.isAnonymous,
    Expr.linkedName?, Option.map_some, Bool.not_false, Bool.false_eq_true, if_false, if_true]
  simp only [Bind.bind, EStateM.bind, register, modify_apply]
  generalize define signature _ _ = result
  cases result <;> rfl

/-- A declaration is lowered with its own entry in the registry already. -/
theorem formWith_declaration_eq :
    formWith revive (.declaration signature span) before =
      undone signature.linkedName before
        (declare signature
          { before with registry :=
              before.registry.insert signature.linkedName (.declaration signature) }) := by
  simp only [formWith, Expr.prototype?, undoingOnError, lower, Expr.isAnonymous, Expr.linkedName?,
    Option.map_some, Bool.false_eq_true, if_false]
  simp only [Bind.bind, EStateM.bind, register, modify_apply]
  generalize declare signature _ = result
  cases result <;> rfl

/-- An expression to run is lowered with the registry as it is. -/
theorem formWith_job_eq (anonymous : signature.isAnonymous = true) :
    formWith revive (.function signature body span) before =
      define signature (fun scope => do asValue body.span (← lower revive scope body)) before := by
  simp only [formWith, Expr.prototype?, undoingOnError, lower, anonymous, Expr.isAnonymous,
    Bool.not_true, Bool.false_eq_true, if_false, if_true]
  simp only [Bind.bind, EStateM.bind, Pure.pure, EStateM.pure]
  generalize define signature _ _ = result
  cases result <;> rfl

/-- What lowering a definition comes to. -/
theorem form_definition_eq (named : signature.isAnonymous = false) :
    form (.function signature body span) before =
      undone signature.linkedName before
        (define signature (fun scope => do
            asValue body.span (← lower (recallWithin (before.registry.definitionCount +
              (body.definitionCount + 1))) scope body))
          { before with registry :=
              before.registry.insert signature.linkedName (.function signature body) }) :=
  (form_eq _ _).trans (formWith_definition_eq _ span before named)

/-- What lowering a declaration comes to. -/
theorem form_declaration_eq :
    form (.declaration signature span) before =
      undone signature.linkedName before
        (declare signature
          { before with registry :=
              before.registry.insert signature.linkedName (.declaration signature) }) :=
  (form_eq _ _).trans (formWith_declaration_eq _ span before)

/-- What lowering an expression to run comes to. -/
theorem form_job_eq (anonymous : signature.isAnonymous = true) :
    form (.function signature body span) before =
      define signature (fun scope => do
        asValue body.span (← lower (recallWithin (before.registry.definitionCount +
          (body.definitionCount + 1))) scope body)) before :=
  (form_eq _ _).trans (formWith_job_eq _ span before anonymous)

end Equations

/-- A form and its check have come to the same, routines have kept their definitions, and something
more holds if both have succeeded. -/
def Follows (sources : Sources) (post : Nat → Sources → Prop) :
    EStateM.Result LowerError Lowering Nat → EStateM.Result LowerError Standing PUnit → Prop
  | .ok id after, .ok _ standing =>
    ∃ later, Stands after standing later ∧ Sources.Extends sources later ∧ post id later
  | .error error after, .error other standing =>
    error = other ∧ ∃ later, Stands after standing later ∧ Sources.Extends sources later
  | _, _ => False

/-- What follows from what holds afterwards. -/
theorem Follows.imp {sources : Sources} {post rest : Nat → Sources → Prop}
    {lowered : EStateM.Result LowerError Lowering Nat}
    {checked : EStateM.Result LowerError Standing PUnit} (follows : Follows sources post lowered checked)
    (implies : ∀ id later, post id later → rest id later) : Follows sources rest lowered checked := by
  cases lowered <;> cases checked
  · obtain ⟨later, stands, extends_sources, holds⟩ := follows
    exact ⟨later, stands, extends_sources, implies _ _ holds⟩
  · exact follows
  · exact follows
  · exact follows

/-- However a form ends, the unit holds what a ledger says. -/
theorem Follows.exists_stands {sources : Sources} {post : Nat → Sources → Prop}
    {lowered : EStateM.Result LowerError Lowering Nat}
    {checked : EStateM.Result LowerError Standing PUnit}
    (follows : Follows sources post lowered checked) :
    EndsIn (fun after => ∃ standing later, Stands after standing later) lowered := by
  cases lowered <;> cases checked
  · obtain ⟨later, stands, _⟩ := follows
    exact ⟨_, later, stands⟩
  · exact follows.elim
  · exact follows.elim
  · obtain ⟨_, later, stands, _⟩ := follows
    exact ⟨_, later, stands⟩

section Introduce

variable {before after : Lowering} {standing : Standing} {sources : Sources} {name : String}
  {entry : Entry}

/-- What a failed form has introduced is undone as it is in the ledger. -/
theorem stands_undo {noted : Ledger} {later : Sources} (stands : Stands before standing sources)
    (ordinary : IsOrdinary name) (registry : after.registry = standing.registry.insert name entry)
    (filed : after.builder.Filed noted later) :
    Stands (undo name before after)
      ⟨(standing.registry.insert name entry).restore name (standing.registry.lookup? name),
        Check.undo name standing.ledger noted⟩ later := by
  have known : (before.builder.lookup? name).isSome = (standing.ledger.known name).isSome := by
    rcases matches_cases stands.filed.agree ordinary with
      ⟨unknown, free⟩ | ⟨status, id, held, means, _⟩
    · rw [unknown, free]
      rfl
    · rw [held, means]
      rfl
  refine ⟨?_, stands.registered.congr fun other => ?_, ?_⟩
  · show after.registry.restore name (before.registry.lookup? name) = _
    rw [registry, stands.registry_eq]
  · exact Registry.lookup?_restore_insert standing.registry name other entry
  · unfold undo Check.undo
    simp only
    rw [known]
    cases early : (standing.ledger.known name).isSome with
    | true => simpa [early] using filed
    | false =>
      simp only [Bool.false_eq_true, if_false, false_or]
      rcases matches_cases filed.agree ordinary with
        ⟨unknown, free⟩ | ⟨status, id, held, means, _, body⟩
      · have same : noted.set name none = noted := by
          unfold Ledger.set
          congr 1
          funext other
          split
          · next same => rw [same, unknown]
          · rfl
        rw [free, same, ite_self]
        exact filed
      · rw [means]
        simp only
        rw [Ledger.source?, held, Option.bind_some, body]
        cases bodied : after.builder.hasBody id with
        | true =>
          have kept : after.builder.isForgettable id = false := by
            rw [← Bool.not_eq_true, filed.isForgettable_iff ordinary means]
            simp [bodied]
          rw [Builder.forget_eq_self kept]
          simpa using filed
        | false =>
          by_cases used : name ∈ noted.used
          · have kept : after.builder.isForgettable id = false := by
              rw [← Bool.not_eq_true, filed.isForgettable_iff ordinary means]
              simp [used]
            rw [Builder.forget_eq_self kept, if_pos (by simp [used])]
            exact filed
          · rw [if_neg (by simp [used])]
            exact filed.forget ordinary means bodied used

/-- A form that introduces a name is followed. -/
theorem follows_introduce {action : Lower Nat} (check : Registry → Check PUnit)
    {post : Ledger → Prop} {target : Nat → Lowering → Prop}
    (stands : Stands before standing sources) (ordinary : IsOrdinary name)
    (registered : (standing.registry.insert name entry).IsSound)
    (agrees : Tallies (standing.registry.insert name entry)
        { before with registry := before.registry.insert name entry } standing.ledger →
      Agrees (standing.registry.insert name entry) none action
        (check (standing.registry.insert name entry))
        { before with registry := before.registry.insert name entry } standing.ledger target)
    (yields : Check.Yields (standing.registry.insert name entry)
      (check (standing.registry.insert name entry)) standing.ledger post) :
    Follows sources (fun _ _ => True)
      (undone name before (action { before with registry := before.registry.insert name entry }))
      (Check.introduce name entry check standing) := by
  have agrees := agrees ⟨by rw [stands.registry_eq], stands.filed.sound, stands.filed.agree⟩
  have later : ∀ after noted, Leaves (standing.registry.insert name entry) none
      { before with registry := before.registry.insert name entry } after noted →
      Ledger.Grows (standing.registry.insert name entry) standing.ledger noted →
      after.builder.Filed noted
        (Builder.filedLater before.builder after.builder noted sources) :=
    fun after noted leaves grows =>
      stands.filed.later registered leaves.tallies.sound leaves.tallies.agree leaves.grows grows
  rw [agrees_iff] at agrees
  unfold Check.Yields at yields
  unfold Check.introduce
  simp only
  generalize action { before with registry := before.registry.insert name entry } = lowered
    at agrees
  generalize check (standing.registry.insert name entry) standing.ledger = checked
    at agrees yields
  cases agrees with
  | @ok id after noted leaves holds =>
    exact ⟨_, ⟨leaves.tallies.registry_eq, registered, later after noted leaves yields.1⟩,
      stands.filed.extends_later, trivial⟩
  | @error error after noted leaves =>
    exact ⟨rfl, _, stands_undo stands ordinary leaves.tallies.registry_eq
      (later after noted leaves yields), stands.filed.extends_later⟩

end Introduce

section Job

variable {before : Lowering} {standing : Standing} {sources : Sources} {signature : Prototype}
  {body : Expr}

/-- The names of expressions to run are not ordinary. -/
theorem not_isOrdinary (number : Nat) : ¬IsOrdinary (anonymousName ++ "." ++ Nat.repr number) :=
  fun ordinary => ordinary number rfl

/-- The state in which the routine of an expression to run is filled. -/
def openedFor (before : Lowering) (unit : CodeUnit) : Lowering :=
  { before with
    builder := before.builder.declared unit (anonymousName ++ "." ++ Nat.repr before.anonymous) []
    anonymous := before.anonymous + 1 }

/-- An expression to run gets a routine of its own. -/
theorem declare_job_eq {unit : CodeUnit} (faultless : before.builder.faults = [])
    (isOpen : before.builder.unit = some unit) (anonymous : signature.isAnonymous = true)
    (closed : signature.parameters = []) :
    declare signature before = .ok unit.routines.size (openedFor before unit) := by
  unfold declare
  rw [closed]
  simp only [duplicate?, anonymous, if_true]
  simp only [Bind.bind, EStateM.bind, get_apply, modify_apply, build,
    Builder.declareFunction_eq isOpen faultless]
  rfl

/-- The routine of an expression to run is the last one, and has no body at first. -/
theorem routine?_openedFor (before : Lowering) (unit : CodeUnit) :
    (openedFor before unit).builder.routine? unit.routines.size =
      some (.declared (anonymousName ++ "." ++ Nat.repr before.anonymous) []) := by
  rw [openedFor, Builder.routine?_declared, if_pos rfl]

/-- A routine for an expression to run is growth. -/
theorem grows_openedFor {unit : CodeUnit} (isOpen : before.builder.unit = some unit)
    (registry : Registry) :
    Builder.Grows registry none before.builder (openedFor before unit).builder :=
  Builder.grows_declared isOpen registry none
    fun ordinary => absurd ordinary (not_isOrdinary before.anonymous)

/-- The routine of an expression to run is filled as the expression is checked. -/
theorem agrees_job {unit : CodeUnit} (stands : Stands before standing sources)
    (isOpen : before.builder.unit = some unit) (isBody : body.IsBody) (calls : body.CallsOrdinary)
    (depth : Nat) :
    Agrees standing.registry (some unit.routines.size)
      (discardingOnError unit.routines.size (fill unit.routines.size [] fun scope => do
        asValue body.span (← lower (recallWithin depth) scope body)))
      (Check.fillWith id id body
        (Check.expr standing.registry (Check.recallWithin standing.registry depth) [] body))
      (openedFor before unit) standing.ledger fun _ after =>
        ∃ routine, after.builder.routine? unit.routines.size = some routine ∧
          after.builder.Holds routine [] body := by
  have unnamed := not_isOrdinary before.anonymous
  have found := routine?_openedFor before unit
  have sound : (openedFor before unit).builder.Sound :=
    stands.filed.sound.declared isOpen fun ordinary => absurd ordinary unnamed
  have agree : (openedFor before unit).builder.Matches standing.ledger := by
    intro other ordinary
    rw [openedFor, Builder.status?_declared isOpen stands.filed.sound, if_neg]
    · exact stands.filed.agree other ordinary
    · rintro rfl
      exact unnamed ordinary
  exact agrees_fill stands.registered (recallAgrees_recallWithin stands.registered depth)
    isBody calls id id ⟨stands.registry_eq, sound, agree⟩ found (Eq.refl ([] : List String).length)
    (fun ordinary => absurd ordinary unnamed)
    (agree.change sound found unnamed (fun _ => Builder.lookup?_hold ..) fun place other => by
      rw [Builder.routine?_hold (by rw [found]; rfl), if_neg other])
    fun after noted tallies grows => by
      obtain ⟨later, here, sameName, _⟩ := grows.heading found
      exact tallies.agree.change tallies.sound here (by rwa [sameName])
        (fun _ => Builder.lookup?_discardBody ..) fun place other => by
          rw [Builder.routine?_discardBody, if_neg other]

/-- A definition is a declaration and a body. -/
theorem define_eq {prototype : Prototype} {state : Lowering} {id : Nat}
    (declared : declare prototype before = .ok id state) (fills : Scope SlotRef → Lower Operand) :
    define prototype fills before =
      match discardingOnError id (fill id prototype.parameters fills) state with
      | .ok _ after => .ok id after
      | .error error after => .error error after := by
  unfold define
  show EStateM.bind _ _ _ = _
  simp only [EStateM.bind, declared, Bind.bind]
  cases discardingOnError id (fill id prototype.parameters fills) state <;> rfl

/-- An expression to run is followed. -/
theorem follows_job (stands : Stands before standing sources)
    (anonymous : signature.isAnonymous = true) (closed : signature.parameters = [])
    (isBody : body.IsBody) (calls : body.CallsOrdinary) (depth : Nat) :
    Follows sources (fun id later => later id = some ([], body))
      (define signature (fun scope => do
        asValue body.span (← lower (recallWithin depth) scope body)) before)
      (match Check.job standing.registry depth body standing.ledger with
      | .ok _ ledger => .ok ⟨⟩ { standing with ledger := ledger }
      | .error error ledger => .error error { standing with ledger := ledger }) := by
  obtain ⟨unit, isOpen⟩ := stands.filed.sound.isOpen
  have declared := declare_job_eq stands.filed.sound.faultless isOpen anonymous closed
  have unnamed := not_isOrdinary before.anonymous
  have found := routine?_openedFor before unit
  have grown := grows_openedFor isOpen standing.registry
  have filled := agrees_job stands isOpen isBody calls depth
  have yields := Check.yields_expr stands.registered
    (Check.recalls_recallWithin stands.registered depth) body [] standing.ledger isBody
  -- Without its own body the routine is one more declaration, so the others are filed as always.
  have later : ∀ (after : Builder) (noted : Ledger), after.Sound → after.Matches noted →
      Builder.Grows standing.registry (some unit.routines.size) (openedFor before unit).builder
        after →
      after.hasBody unit.routines.size = false →
      Ledger.Grows standing.registry standing.ledger noted →
      after.Filed noted (Builder.filedLater before.builder after noted sources) := by
    intro after noted sound agree grows empty ledgers
    refine stands.filed.later stands.registered sound agree
      (grown.trans (grows.complete ?_ ?_)) ledgers
    · rw [Builder.hasBody, found]
      rfl
    · intro routine here body
      rw [Builder.hasBody, here, Option.any_some, body] at empty
      contradiction
  rw [define_eq declared, closed]
  rw [agrees_iff] at filled
  unfold Check.Yields at yields
  unfold Check.job
  unfold Check.fillWith at filled ⊢
  generalize lowered : discardingOnError unit.routines.size (fill unit.routines.size [] fun scope => do
    asValue body.span (← lower (recallWithin depth) scope body)) (openedFor before unit) = result
    at filled
  simp only [id] at filled ⊢
  generalize Check.expr standing.registry (Check.recallWithin standing.registry depth) [] body
    standing.ledger = checked at filled yields
  cases checked with
  | ok value noted =>
    obtain ⟨ledgers, _, good⟩ := yields
    cases filled with
    | @ok _ after _ leaves holds =>
      obtain ⟨tallies, _, grows⟩ := leaves
      obtain ⟨routine, here, holds⟩ := holds
      have stripped := grows.trans
        (Builder.grows_discardBody standing.registry after.builder unit.routines.size)
      obtain ⟨last, hereLast, sameName, _⟩ := grows.heading found
      cases here.symm.trans hereLast
      have unmeant : ¬IsOrdinary routine.name := by rwa [sameName]
      have agreeing : (after.builder.discardBody unit.routines.size).Matches noted :=
        tallies.agree.change tallies.sound here unmeant (fun _ => Builder.lookup?_discardBody ..)
          fun place other => by rw [Builder.routine?_discardBody, if_neg other]
      have bare : (after.builder.discardBody unit.routines.size).hasBody unit.routines.size =
          false := Builder.hasBody_discardBody ..
      have others := later _ noted (tallies.sound.discardBody _) agreeing stripped bare ledgers
      have complete : noted.Closed ([], body) :=
        ⟨isBody, good.1, calls, fun call member => (good.2 call member).1⟩
      refine ⟨Builder.filledWith _ unit.routines.size ([], body), ⟨tallies.registry_eq,
        stands.registered, others.fill tallies.sound here unmeant holds complete⟩, ?_, if_pos rfl⟩
      intro place source known
      rw [Builder.filledWith, if_neg]
      · exact stands.filed.extends_later place source known
      · rintro rfl
        obtain ⟨old, foundOld, _⟩ := stands.filed.held known
        exact (Builder.routine?_of_declared isOpen foundOld).2 rfl
  | error error noted =>
    cases filled with
    | error leaves =>
      obtain ⟨tallies, _, grows⟩ := leaves
      exact ⟨rfl, _, ⟨tallies.registry_eq, stands.registered, later _ noted tallies.sound
        tallies.agree grows (hasBody_of_discardingOnError lowered) yields⟩,
        stands.filed.extends_later⟩

end Job

/-- A form is followed. -/
theorem stands_form {before : Lowering} {standing : Standing} {sources : Sources} {tree : Expr}
    (stands : Stands before standing sources) (isForm : tree.IsForm) :
    Follows sources (fun id later => ∀ body, tree.job? = some body → later id = some ([], body))
      (form tree before) (Check.form tree standing) := by
  cases isForm with
  | @job signature body span anonymous closed isBody calls =>
    have followed := follows_job stands anonymous closed isBody calls
      (standing.registry.definitionCount + (body.definitionCount + 1))
    rw [← stands.registry_eq, ← form_job_eq span before anonymous, stands.registry_eq] at followed
    rw [Check.form_job anonymous]
    refine followed.imp fun id later held tree same => ?_
    rw [Expr.job?, anonymous, if_pos rfl] at same
    cases same
    exact held
  | @definition signature body span named ordinary isBody calls =>
    have registered : (standing.registry.insert signature.linkedName
        (.function signature body)).IsSound :=
      stands.registered.insert (.function signature body) named ordinary
        fun _ _ same => by cases same; exact ⟨isBody, calls⟩
    have found : (standing.registry.insert signature.linkedName
        (.function signature body)).lookup? signature.linkedName =
          some (.function signature body) := by
      rw [Registry.lookup?_insert, if_pos rfl]
    have depths : before.registry.definitionCount = standing.registry.definitionCount := by
      rw [stands.registry_eq]
    rw [form_definition_eq span before named, Check.form_definition named, depths]
    generalize standing.registry.definitionCount + (body.definitionCount + 1) = depth
    refine (follows_introduce (fun registry => Check.define signature body fun names =>
        Check.expr registry (Check.recallWithin registry depth) names body) stands ordinary registered
      (agrees_define registered (recallAgrees_recallWithin registered depth) found)
      (Check.yields_define found fun ledger => Check.yields_expr registered
        (Check.recalls_recallWithin registered depth) body _ ledger isBody)).imp ?_
    intro _ _ _ tree same
    rw [Expr.job?, named] at same
    contradiction
  | @declaration signature span named ordinary =>
    have registered := stands.registered.insert (.declaration signature) named ordinary
      fun _ _ same => by cases same
    rw [form_declaration_eq, Check.form_declaration]
    refine (follows_introduce (fun _ => Check.declare signature) stands ordinary registered
      (fun tallies => agrees_declare tallies named ordinary)
      (Check.yields_declare (.declaration signature) ?_)).imp ?_
    · exact (Registry.lookup?_insert ..).trans (if_pos rfl)
    · intro _ _ _ tree same
      contradiction

/-- The routines of expressions to run, and the expressions that they hold. -/
def Runs (sources : Sources) (jobs : List Job) (tasks : List Task) : Prop :=
  List.Forall₂ (fun job task => job.index = task.index ∧ job.span = task.span ∧
    sources job.routine = some ([], task.body)) jobs tasks

/-- Every routine of an expression to run holds an expression. -/
theorem Runs.exists_body {sources : Sources} {jobs : List Job} {tasks : List Task}
    (runs : Runs sources jobs tasks) {job : Job} (member : job ∈ jobs) :
    ∃ body, sources job.routine = some ([], body) := by
  induction runs with
  | nil => contradiction
  | cons first rest hypothesis =>
    rcases List.mem_cons.1 member with rfl | later
    · exact ⟨_, first.2.2⟩
    · exact hypothesis later

/-- The forms of a batch are lowered as they are checked. -/
theorem stands_forms {forms : List Expr} (areForms : ∀ form ∈ forms, form.IsForm) :
    ∀ {before : Lowering} {standing : Standing} {sources : Sources} (index : Nat),
      Stands before standing sources →
      ∃ later, Stands (Evaluator.lowerForms before index forms).2.2
          (Check.forms standing index forms).2.2 later ∧ Sources.Extends sources later ∧
        (Evaluator.lowerForms before index forms).2.1 =
          (Check.forms standing index forms).2.1 ∧
        Runs later (Evaluator.lowerForms before index forms).1
          (Check.forms standing index forms).1 := by
  induction forms with
  | nil => exact fun _ stands => ⟨_, stands, fun _ _ known => known, rfl, .nil⟩
  | cons tree rest hypothesis =>
    intro before standing sources index stands
    have followed := stands_form stands (areForms tree (List.mem_cons_self ..))
    have others := fun form member => areForms form (List.mem_cons_of_mem tree member)
    unfold Evaluator.lowerForms Check.forms
    cases lowered : form tree before with
    | ok id after =>
      cases checked : Check.form tree standing with
      | error other next => simp only [lowered, checked, Follows] at followed
      | ok done next =>
        simp only [lowered, checked, Follows] at followed ⊢
        obtain ⟨middle, here, early, held⟩ := followed
        obtain ⟨last, stands, late, errors, runs⟩ := hypothesis others (index + 1) here
        refine ⟨last, stands, fun place source known => late place source (early place source known),
          errors, ?_⟩
        unfold Check.task?
        cases job : tree.job? with
        | none =>
          rw [Expr.isAnonymous_of_job? job]
          exact runs
        | some body =>
          rw [Expr.isAnonymous_of_job? job]
          exact .cons ⟨rfl, rfl, late id _ (held body job)⟩ runs
    | error error after =>
      cases checked : Check.form tree standing with
      | ok done next => simp only [lowered, checked, Follows] at followed
      | error other next =>
        simp only [lowered, checked, Follows] at followed ⊢
        obtain ⟨same, middle, here, early⟩ := followed
        obtain ⟨last, stands, late, errors, runs⟩ := hypothesis others (index + 1) here
        exact ⟨last, stands, fun place source known => late place source (early place source known),
          by rw [same, errors], runs⟩

end Kaleidoscope.Lower
