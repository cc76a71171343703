import Kaleidoscope.Proofs.Batch.Cutting

/-!
# Which expressions can be lowered

An expression to run can be lowered in a batch of its own exactly if it is well formed in the
registry: its variables are visible, its assignments are to variables, and each of its calls names
an entry with as many parameters as there are arguments; and the same holds of every definition
that its calls lead to, from body to body through the registry (`Registry.Accepts`).

Lowering visits the definitions in the order in which they are called and stops at each that has
been entered already. If it succeeds, the ledger of the unit is closed under calls, so everything
that is reached has been checked. Conversely the entries that are reached form a whole ledger, into
which lowering can always go on (`Ledger.IsWhole`).
-/
namespace Kaleidoscope

namespace Registry

/-- An expression makes sense where some variables are visible: it uses no others, it assigns to
variables only, and its calls name entries with as many parameters as there are arguments. -/
def Admits (registry : Registry) (visible : List String) (body : Expr) : Prop :=
  body.Scoped visible ∧ ∀ call ∈ body.calls, ∃ entry, registry.lookup? call.1 = some entry ∧
    entry.prototype.parameters.length = call.2

/-- The names that the calls of an expression lead to, through the bodies of definitions. -/
inductive Reaches (registry : Registry) (body : Expr) : String → Prop
  /-- A name that the expression calls. -/
  | call {call : String × Nat} (member : call ∈ body.calls) : Reaches registry body call.1
  /-- A name that a definition calls whose own name is reached. -/
  | through {name : String} {prototype : Prototype} {inner : Expr} {call : String × Nat}
      (reaches : Reaches registry body name)
      (found : registry.lookup? name = some (.function prototype inner))
      (member : call ∈ inner.calls) : Reaches registry body call.1

/-- An expression to run is well formed: it makes sense without any variable, and every definition
that its calls lead to makes sense where the parameters are visible. -/
structure Accepts (registry : Registry) (body : Expr) : Prop where
  /-- The expression makes sense. -/
  own : registry.Admits [] body
  /-- So do the definitions that its calls lead to. -/
  reached : ∀ {name : String} {prototype : Prototype} {inner : Expr},
    registry.Reaches body name → registry.lookup? name = some (.function prototype inner) →
    registry.Admits prototype.parameters.reverse inner

end Registry

/-- The status of an entry has as many parameters as its prototype. -/
theorem Entry.arity_status (entry : Entry) :
    entry.status.arity = entry.prototype.parameters.length := by
  cases entry <;> rfl

namespace Ledger

variable {registry : Registry} {body : Expr} {ledger : Ledger}

/-- Calls that fit a ledger that has grown from nothing name entries of the registry. -/
theorem Grows.admits (grows : Grows registry .empty ledger) {visible : List String}
    (closed : body.Scoped visible) (fits : ledger.Fits body.calls) :
    registry.Admits visible body := by
  refine ⟨closed, fun call member => ?_⟩
  obtain ⟨entry, found, arity⟩ := grows.arity_new (fits call member) rfl
  exact ⟨entry, found, arity.symm⟩

/-- A settled name that has a definition is filled from it. -/
theorem Grows.complete_of_settled (grows : Grows registry .empty ledger) {name : String}
    (settled : ledger.IsSettled registry name) {prototype : Prototype} {inner : Expr}
    (found : registry.lookup? name = some (.function prototype inner)) :
    ledger.source? name = some (prototype.parameters, inner) ∧
      IsComplete registry ledger name (prototype.parameters, inner) := by
  rcases settled with filled | ⟨declared, other⟩
  · obtain ⟨⟨parameters, own⟩, filled⟩ := Option.isSome_iff_exists.1 filled
    have complete := grows.source_new filled rfl
    obtain ⟨signature, registered, same⟩ := complete.registered
    cases found.symm.trans registered
    cases same
    exact ⟨filled, complete⟩
  · cases found.symm.trans other

/-- Once an expression has been checked, every name that its calls lead to is settled. -/
theorem isSettled_of_reaches (grows : Grows registry .empty ledger)
    (settles : Settles registry .empty ledger) (resolves : ledger.Resolves registry body.calls)
    {name : String} (reaches : registry.Reaches body name) : ledger.IsSettled registry name := by
  induction reaches with
  | call member => exact (resolves _ member).2
  | @through name prototype inner call _ found member hypothesis =>
    obtain ⟨filled, _⟩ := grows.complete_of_settled hypothesis found
    exact settles name _ filled rfl call member

open Classical in
/-- What a unit holds once all names that an expression leads to have been lowered. -/
noncomputable def reached (registry : Registry) (body : Expr) : Ledger :=
  ⟨fun name => if registry.Reaches body name then registry.statuses name else none, []⟩

/-- A name that is reached and has an entry is held with its parameters. -/
theorem arity?_reached {name : String} {entry : Entry} (reaches : registry.Reaches body name)
    (found : registry.lookup? name = some entry) :
    (reached registry body).arity? name = some entry.prototype.parameters.length := by
  simp only [arity?, reached, if_pos reaches, Registry.statuses, found, Option.map_some,
    Entry.arity_status]

/-- The names that a well-formed expression leads to form a whole ledger. -/
theorem isWhole_reached (distinct : registry.IsDistinct) (accepts : registry.Accepts body) :
    (reached registry body).IsWhole registry where
  current := by
    intro name status known
    simp only [reached] at known
    split at known
    · exact known
    · contradiction
  complete := by
    intro name source filled
    obtain ⟨status, known, filled⟩ := Option.bind_eq_some_iff.1 filled
    simp only [reached] at known
    split at known
    case isFalse => contradiction
    case isTrue reaches =>
      obtain ⟨entry, found, rfl⟩ := Option.map_eq_some_iff.1 known
      cases entry with
      | declaration declared => contradiction
      | function prototype inner =>
        cases filled
        obtain ⟨closed, calls⟩ := accepts.reached reaches found
        refine ⟨⟨prototype, found, rfl⟩, distinct found, closed, fun call member => ?_⟩
        obtain ⟨entry, own, count⟩ := calls call member
        rw [arity?_reached (.through reaches found member) own, count]

/-- The calls of a well-formed expression fit the names that it leads to. -/
theorem fits_reached (accepts : registry.Accepts body) :
    (reached registry body).Fits body.calls := by
  intro call member
  obtain ⟨entry, found, count⟩ := accepts.own.2 call member
  rw [arity?_reached (.call member) found, count]

end Ledger

namespace Check

open Ledger

variable {registry : Registry} {body : Expr}

/-- An expression that checks in a new unit is well formed. -/
theorem accepts_of_job (sound : registry.IsSound) (isBody : body.IsBody) {depth : Nat}
    {last : Ledger} {done : PUnit} (same : job registry depth body .empty = .ok done last) :
    registry.Accepts body := by
  unfold job fillWith at same
  split at same
  · next middle checked =>
    have yields := yields_expr sound (recalls_recallWithin sound depth) body [] .empty isBody
    rw [id] at checked
    rw [Yields, checked] at yields
    obtain ⟨grows, settles, closed, resolves⟩ := yields
    refine ⟨grows.admits closed fun call member => (resolves call member).1, ?_⟩
    intro name prototype inner reaches found
    obtain ⟨_, complete⟩ :=
      grows.complete_of_settled (isSettled_of_reaches grows settles resolves reaches) found
    exact grows.admits complete.closed complete.fits
  · contradiction

/-- A well-formed expression checks in a new unit, if all definitions may nest. -/
theorem job_of_accepts (sound : registry.IsSound) (distinct : registry.IsDistinct)
    (accepts : registry.Accepts body) {depth : Nat} (enough : registry.definitionCount ≤ depth) :
    ∃ last, job registry depth body .empty = .ok ⟨⟩ last := by
  have whole := isWhole_reached distinct accepts
  have calls : CallsRevisit registry (reached registry body) depth (recallWithin registry depth) :=
    fun span held => revisits_callee sound distinct whole
      (recallRevisits_recallWithin sound distinct whole depth) held span
  obtain ⟨last, ran, _⟩ := revisits_expr calls body [] accepts.own.1 (fits_reached accepts) .empty
    (fun known => by contradiction) (Nat.le_trans (pending_le registry .empty) enough)
  refine ⟨last.note body, ?_⟩
  simp only [job, fillWith, id, ran]

/-- A form on its own has no error exactly if it checks. -/
theorem forms_singleton (standing : Standing) (index : Nat) (tree : Expr) :
    (forms standing index [tree]).2.1 = [] ↔ ∃ after, form tree standing = .ok ⟨⟩ after := by
  simp only [forms]
  cases form tree standing <;> simp

end Check

namespace Evaluator

/-- In every state between batches, an expression can be lowered in a batch of its own exactly if it
is well formed in the registry. -/
theorem allLower_iff_accepts {evaluator : Evaluator} (reachable : evaluator.Reachable)
    {form body : Expr} (isForm : form.IsForm) (job : form.job? = some body) :
    Build.beginUnit ("unit." ++ Nat.repr (evaluator.units + 1)) evaluator.builder =
        .ok ⟨⟩ evaluator.opened.builder ∧
      (evaluator.AllLower [form] ↔ evaluator.registry.Accepts body) := by
  refine ⟨beginUnit_eq reachable.ready, ?_⟩
  have sound := reachable.ready.registered
  rw [allLower_iff reachable (by simpa using isForm), Check.forms_singleton]
  obtain ⟨signature, span, anonymous, rfl⟩ := Expr.of_job? job
  have isBody : body.IsBody := by
    cases isForm <;> assumption
  rw [Check.form_job anonymous]
  constructor
  · rintro ⟨after, same⟩
    split at same
    · next checked => exact Check.accepts_of_job sound isBody checked
    · contradiction
  · intro accepts
    obtain ⟨last, ran⟩ := Check.job_of_accepts sound reachable.isDistinct accepts
      (Nat.le_add_right _ (body.definitionCount + 1))
    exact ⟨_, by rw [ran]⟩

/-- A function is called by a definition and then defined anew with another number of parameters: a
call of it can be lowered, and a call of the definition, whose body has not changed, cannot. -/
theorem allLower_iff_accepts_stale :
    let span : Span := default
    let first : List Expr := [.function ⟨"g", ["x"], .function, span⟩ (.var "x" span) span,
      .function ⟨"f", ["x"], .function, span⟩ (.call "g" [.var "x" span] span) span]
    let second : List Expr := [.function ⟨"g", ["a", "b"], .function, span⟩ (.var "a" span) span]
    let fresh : Expr := .call "g" [.number 1 span, .number 2 span] span
    let stale : Expr := .call "f" [.number 1 span] span
    ∃ evaluator : Evaluator, evaluator.Reachable ∧
      (∃ report middle before, (Evaluator.new false []).runBatch ⟨⟨.none, 4⟩, 10⟩ first =
          some (before, middle) ∧
        middle.runBatch ⟨⟨.none, 4⟩, 10⟩ second = some (report, evaluator)) ∧
      fresh.anonymous.IsForm ∧ fresh.anonymous.job? = some fresh ∧
      stale.anonymous.IsForm ∧ stale.anonymous.job? = some stale ∧
      evaluator.registry.Accepts fresh ∧ ¬evaluator.registry.Accepts stale := by
  intro span first second fresh stale
  have ordinary : IsOrdinary "f" ∧ IsOrdinary "g" :=
    ⟨isOrdinary_of_head? (by decide), isOrdinary_of_head? (by decide)⟩
  have areFirst : ∀ form ∈ first, form.IsForm := by
    simp only [first, List.forall_mem_cons, List.not_mem_nil, false_implies, implies_true, and_true]
    refine ⟨.definition span rfl ordinary.2 ?_ ?_, .definition span rfl ordinary.1 ?_ ?_⟩ <;>
      simp [Expr.IsBody, Expr.AreBodies, Expr.CallsOrdinary, Expr.calls, Expr.callsOfAll, ordinary]
  have areSecond : ∀ form ∈ second, form.IsForm := by
    refine List.forall_mem_singleton.2 (.definition span rfl ordinary.2 ?_ ?_) <;>
      simp [Expr.IsBody, Expr.CallsOrdinary, Expr.calls]
  have isFresh : fresh.anonymous.IsForm := by
    refine Expr.isForm_anonymous ?_ ?_ <;>
      simp [fresh, Expr.IsBody, Expr.AreBodies, Expr.CallsOrdinary, Expr.calls, Expr.callsOfAll,
        ordinary]
  have isStale : stale.anonymous.IsForm := by
    refine Expr.isForm_anonymous ?_ ?_ <;>
      simp [stale, Expr.IsBody, Expr.AreBodies, Expr.CallsOrdinary, Expr.calls, Expr.callsOfAll,
        ordinary]
  have runs : (((Evaluator.new false []).runBatch ⟨⟨.none, 4⟩, 10⟩ first).bind fun early =>
      (early.2.runBatch ⟨⟨.none, 4⟩, 10⟩ second).map fun late =>
        ((lowerForms late.2.opened 0 [fresh.anonymous]).2.1.isEmpty,
          (lowerForms late.2.opened 0 [stale.anonymous]).2.1.isEmpty)) = some (true, false) := by
    decide +kernel
  obtain ⟨⟨before, middle⟩, early, runs⟩ := Option.bind_eq_some_iff.1 runs
  obtain ⟨⟨report, evaluator⟩, late, runs⟩ := Option.map_eq_some_iff.1 runs
  obtain ⟨lowersFresh, failsStale⟩ := Prod.mk.inj runs
  have between : middle.Reachable := (Reachable.new false).batch areFirst early
  have reachable : evaluator.Reachable := between.batch areSecond late
  refine ⟨evaluator, reachable, ⟨report, middle, before, early, late⟩, isFresh, rfl, isStale, rfl,
    ?_, ?_⟩
  · exact (allLower_iff_accepts reachable isFresh rfl).2.1 (List.isEmpty_iff.1 lowersFresh)
  · intro accepts
    have allLower := (allLower_iff_accepts reachable isStale rfl).2.2 accepts
    exact Bool.false_ne_true (failsStale.symm.trans (List.isEmpty_iff.2 allLower))

end Evaluator

end Kaleidoscope
