import Kaleidoscope.Proofs.Batch.Preservation
import Kaleidoscope.Proofs.Lowering.Narrowing
import Kaleidoscope.Proofs.Meaning.Dependence

/-!
# Where batches are cut

Forms that can all be lowered in one batch give the same in two batches, wherever they are cut:
the second batch lowers again from the registry what it calls, and the expressions of the first batch
mean what they meant, unless a name that was only declared for them is defined later
(`Evaluator.runBatch_append`).
-/
namespace Kaleidoscope

open Code Meaning

/-- No form defines a name that a registry has a declaration of. -/
def Registry.KeepsDeclarations (registry : Registry) (forms : List Expr) : Prop :=
  ∀ form ∈ forms, ∀ prototype body declared, form.entry? = some (.function prototype body) →
    registry.lookup? prototype.linkedName ≠ some (.declaration declared)

namespace Registry.KeepsDeclarations

variable {registry : Registry} {forms : List Expr}

/-- No forms define nothing. -/
theorem nil : registry.KeepsDeclarations [] := fun _ member => by contradiction

/-- An expression to run defines nothing. -/
theorem job {body : Expr} (keeps : registry.KeepsDeclarations forms) :
    registry.KeepsDeclarations (body.anonymous :: forms) := by
  intro form member
  rcases List.mem_cons.1 member with rfl | member
  · intro prototype inner declared defines
    rcases Expr.of_entry? defines with ⟨_, _, _, named, same, _⟩ | ⟨_, _, same, _⟩
    · cases same
      have anonymous : (Prototype.anonymous body.span).isAnonymous = true := decide_eq_true rfl
      rw [anonymous] at named
      contradiction
    · cases same
  · exact keeps form member

/-- A definition defines its own name. -/
theorem definition {signature : Prototype} {body : Expr} {span : Span}
    (free : ∀ declared, registry.lookup? signature.linkedName ≠ some (.declaration declared))
    (keeps : registry.KeepsDeclarations forms) :
    registry.KeepsDeclarations (.function signature body span :: forms) := by
  intro form member
  rcases List.mem_cons.1 member with rfl | member
  · intro prototype inner declared defines
    rcases Expr.of_entry? defines with ⟨_, _, _, _, same, own⟩ | ⟨_, _, same, _⟩
    · cases same
      cases own
      exact free declared
    · cases same
  · exact keeps form member

/-- A name that is declared has no definition after forms that define no such name. -/
theorem source_eq_none (keeps : registry.KeepsDeclarations forms) {name : String}
    {declared : Prototype} {entry : Entry}
    (found : registry.lookup? name = some (.declaration declared))
    (refound : (registry.enterAll forms).lookup? name = some entry) : entry.status.source = none := by
  rcases lookup?_enterAll forms refound with early | ⟨form, member, own, linked⟩
  · cases found.symm.trans early
    rfl
  · cases entry with
    | declaration prototype => rfl
    | function prototype body =>
      exact absurd (linked ▸ found) (keeps form member prototype body declared own)

end Registry.KeepsDeclarations

namespace Check

/-- What a unit knows means the same after more forms that can all be lowered and define no name that
is declared. -/
theorem agrees_forms {standing : Standing} {index : Nat} {trees : List Expr}
    (areForms : ∀ tree ∈ trees, tree.IsForm) (isWhole : standing.IsWhole)
    (succeeds : (forms standing index trees).2.1 = [])
    (keeps : standing.registry.KeepsDeclarations trees) :
    Agrees standing.registry.statuses (forms standing index trees).2.2.registry.statuses
      fun name => (standing.ledger.known name).isSome where
  same := by
    intro name inside
    obtain ⟨status, known⟩ := Option.isSome_iff_exists.1 inside
    obtain ⟨arities, sources⟩ := kept_forms areForms standing index isWhole succeeds
    obtain ⟨_, _, entered⟩ :=
      current_forms areForms standing index isWhole.sound isWhole.whole.current succeeds
    have last := isWhole_forms areForms standing index isWhole succeeds
    have stated := isWhole.whole.statuses_eq known
    obtain ⟨later, held, arity⟩ :=
      Option.map_eq_some_iff.1 (arities (Ledger.arity?_of_known known))
    have restated := last.whole.statuses_eq held
    have source : status.source = later.source := by
      cases filled : status.source with
      | some source =>
        have kept := sources ((Ledger.source?_of_known known).trans filled)
        rw [Ledger.source?_of_known held] at kept
        exact kept.symm
      | none =>
        obtain ⟨entry, found, rfl⟩ := Option.map_eq_some_iff.1 stated
        obtain ⟨other, refound, rfl⟩ := Option.map_eq_some_iff.1 restated
        cases entry with
        | function prototype body => contradiction
        | declaration declared => exact (keeps.source_eq_none found (entered ▸ refound)).symm
    rw [stated, restated]
    obtain ⟨count, definition⟩ := status
    obtain ⟨other, definition⟩ := later
    cases arity
    cases source
    rfl
  closed := by
    intro name arity parameters body inside defined call member
    obtain ⟨status, known⟩ := Option.isSome_iff_exists.1 inside
    cases defined.symm.trans (isWhole.whole.statuses_eq known)
    have complete := isWhole.whole.complete (Ledger.source?_of_known known)
    obtain ⟨target, found, _⟩ := Option.map_eq_some_iff.1 (complete.fits call member)
    rw [found]
    rfl

end Check

namespace Evaluator

variable {evaluator : Evaluator} {forms first second : List Expr}

/-- A batch comes to an end: it gives a report and leads to another evaluator. -/
def Ends (environment : Environment) (evaluator : Evaluator) (forms : List Expr) (report : Report)
    (after : Evaluator) : Prop :=
  ∃ steps, evaluator.runBatch ⟨environment, steps⟩ forms = some (report, after)

/-- In states between batches, the parameters of all entries have different names. -/
theorem Reachable.isDistinct (reachable : evaluator.Reachable) : evaluator.registry.IsDistinct := by
  induction reachable with
  | new keepListing => exact Registry.isDistinct_empty
  | batch earlier areForms done hypothesis =>
    rw [(earlier.ready.runBatch areForms done).2]
    exact Check.isDistinct_forms _ _ 0 hypothesis

/-- Nothing has been lowered in a new unit. -/
theorem Reachable.isWhole (reachable : evaluator.Reachable) :
    Standing.IsWhole ⟨evaluator.registry, .empty⟩ :=
  Standing.isWhole_empty reachable.ready.registered reachable.isDistinct

/-- All forms of a batch can be lowered if checking them finds no errors. -/
theorem allLower_iff (reachable : evaluator.Reachable) (areForms : ∀ form ∈ forms, form.IsForm) :
    evaluator.AllLower forms ↔ (Check.forms ⟨evaluator.registry, .empty⟩ 0 forms).2.1 = [] := by
  obtain ⟨_, _, _, errors, _⟩ :=
    Lower.stands_forms areForms 0 (stands_opened reachable.ready.registered)
  rw [AllLower, errors]

section Cut

variable (reachable : evaluator.Reachable) (areFirst : ∀ form ∈ first, form.IsForm)
  (areSecond : ∀ form ∈ second, form.IsForm) (allLower : evaluator.AllLower (first ++ second))
include reachable areFirst areSecond allLower

/-- If all forms of a batch can be lowered, those in front can, and then those behind them in the
same unit, which is whole in between. -/
theorem checks_of_allLower :
    evaluator.AllLower first ∧ (lowerForms evaluator.opened 0 first).2.2.registry =
        evaluator.registry.enterAll first ∧
      ∃ standing : Standing, standing.IsWhole ∧
        standing.registry = evaluator.registry.enterAll first ∧
        (∀ task ∈ Check.tasks 0 first, standing.ledger.Fits task.body.calls) ∧
        (Check.forms standing first.length second).2.1 = [] := by
  have areForms : ∀ form ∈ first ++ second, form.IsForm :=
    List.forall_mem_append.2 ⟨areFirst, areSecond⟩
  have checked := (allLower_iff reachable areForms).1 allLower
  rw [Check.forms_append, List.append_eq_nil_iff, Nat.zero_add] at checked
  obtain ⟨front, back⟩ := checked
  obtain ⟨_, stands, _⟩ :=
    Lower.stands_forms areFirst 0 (stands_opened reachable.ready.registered)
  obtain ⟨_, _, registered⟩ := Check.current_forms areFirst ⟨evaluator.registry, .empty⟩ 0
    reachable.ready.registered (fun _ _ known => by contradiction) front
  exact ⟨(allLower_iff reachable areFirst).2 front, stands.registry_eq.trans registered, _,
    Check.isWhole_forms areFirst _ 0 reachable.isWhole front, registered,
    Check.fits_forms areFirst _ 0 reachable.isWhole front, back⟩

/-- Forms of one batch can be lowered in a batch of their own. -/
theorem allLower_second {middle : Evaluator} (later : middle.Reachable)
    (registry : middle.registry = evaluator.registry.enterAll first) : middle.AllLower second := by
  obtain ⟨_, _, standing, whole, registered, _, succeeds⟩ :=
    checks_of_allLower reachable areFirst areSecond allLower
  rw [allLower_iff later areSecond, registry, ← registered]
  exact Check.narrows_forms areSecond standing .empty _ 0 whole (fun known => by contradiction)
    succeeds

/-- The expressions in front mean what they mean without the forms behind them. -/
theorem runAll_first
    (keeps : (lowerForms evaluator.opened 0 first).2.2.registry.KeepsDeclarations second)
    (environment : Environment) (rounds : Nat) (calls : Array HostCall) :
    Meaning.runAll (evaluator.registry.enterAll first).statuses environment rounds calls
        (Check.tasks 0 first) =
      Meaning.runAll (evaluator.registry.enterAll (first ++ second)).statuses environment rounds calls
        (Check.tasks 0 first) := by
  obtain ⟨_, kept, standing, whole, registered, fits, succeeds⟩ :=
    checks_of_allLower reachable areFirst areSecond allLower
  rw [kept, ← registered] at keeps
  have agrees := Check.agrees_forms areSecond whole succeeds keeps
  obtain ⟨_, _, entered⟩ := Check.current_forms areSecond standing first.length whole.sound
    whole.whole.current succeeds
  rw [entered, registered, ← Registry.enterAll_append] at agrees
  refine runAll_congr agrees environment rounds (fun task member call inside => ?_) calls
  obtain ⟨status, known, _⟩ := Option.map_eq_some_iff.1 (fits task member call inside)
  rw [known]
  rfl

end Cut

/-- Forms that can all be lowered in one batch give in two batches what they give in one, if the
second batch defines no name that is only declared after the first: the values and errors of the one
batch and then those of the other, after the same calls of host functions, and with the same registry.
The one batch comes to an end if and only if both do. -/
theorem runBatch_append (reachable : evaluator.Reachable)
    (areFirst : ∀ form ∈ first, form.IsForm) (areSecond : ∀ form ∈ second, form.IsForm)
    (allLower : evaluator.AllLower (first ++ second))
    (keeps : (lowerForms evaluator.opened 0 first).2.2.registry.KeepsDeclarations second)
    (environment : Environment) :
    evaluator.AllLower first ∧
    (∀ early middle, evaluator.Ends environment first early middle → middle.AllLower second) ∧
    ∀ report calls registry,
      (∃ after, evaluator.Ends environment (first ++ second) report after ∧ after.calls = calls ∧
        after.registry = registry) ↔
      ∃ early middle late after, evaluator.Ends environment first early middle ∧
        middle.Ends environment second late after ∧
        report = early.append (late.shift first.length) ∧ after.calls = calls ∧
        after.registry = registry := by
  have areForms : ∀ form ∈ first ++ second, form.IsForm :=
    List.forall_mem_append.2 ⟨areFirst, areSecond⟩
  have lowers := (checks_of_allLower reachable areFirst areSecond allLower).1
  have meaning := runAll_first reachable areFirst areSecond allLower keeps environment
  have follows : ∀ {early : Report} {middle : Evaluator},
      evaluator.Ends environment first early middle →
        middle.Reachable ∧ middle.AllLower second ∧
          middle.registry.enterAll second = evaluator.registry.enterAll (first ++ second) := by
    rintro early middle ⟨steps, done⟩
    have later := reachable.batch areFirst done
    have registry := registry_of_runBatch reachable areFirst lowers done
    exact ⟨later, allLower_second reachable areFirst areSecond allLower later registry,
      by rw [registry, Registry.enterAll_append]⟩
  refine ⟨lowers, fun early middle ends => (follows ends).2.1, fun report calls registry => ⟨?_, ?_⟩⟩
  · rintro ⟨after, ⟨steps, done⟩, rfl, rfl⟩
    have ends := meaning_of_runBatch reachable areForms allLower done (Nat.le_refl steps)
    obtain ⟨early, called, late, earlyEnds, lateEnds, rfl⟩ := (runAll_tasks_append ..).1 ends
    rw [← meaning] at earlyEnds
    obtain ⟨fewer, enough⟩ := runBatch_of_meaning reachable areFirst lowers earlyEnds
    obtain ⟨middle, doneFirst, rfl⟩ := enough fewer (Nat.le_refl fewer)
    obtain ⟨later, lowersSecond, registry⟩ := follows ⟨fewer, doneFirst⟩
    rw [← registry] at lateEnds
    obtain ⟨more, enough⟩ := runBatch_of_meaning later areSecond lowersSecond lateEnds
    obtain ⟨other, doneSecond, called⟩ := enough more (Nat.le_refl more)
    refine ⟨early, middle, late, other, ⟨fewer, doneFirst⟩, ⟨more, doneSecond⟩, rfl, called, ?_⟩
    rw [registry_of_runBatch later areSecond lowersSecond doneSecond, registry,
      registry_of_runBatch reachable areForms allLower done]
  · rintro ⟨early, middle, late, after, ⟨fewer, doneFirst⟩, ⟨more, doneSecond⟩, rfl, rfl, rfl⟩
    obtain ⟨later, lowersSecond, registry⟩ := follows ⟨fewer, doneFirst⟩
    have earlyEnds :=
      meaning_of_runBatch reachable areFirst lowers doneFirst (Nat.le_max_left fewer more)
    have lateEnds :=
      meaning_of_runBatch later areSecond lowersSecond doneSecond (Nat.le_max_right fewer more)
    rw [meaning] at earlyEnds
    rw [registry] at lateEnds
    obtain ⟨steps, enough⟩ := runBatch_of_meaning reachable areForms allLower
      ((runAll_tasks_append ..).2 ⟨early, middle.calls, late, earlyEnds, lateEnds, rfl⟩)
    obtain ⟨other, done, called⟩ := enough steps (Nat.le_refl steps)
    refine ⟨other, ⟨steps, done⟩, called, ?_⟩
    rw [registry_of_runBatch reachable areForms allLower done, ← registry,
      registry_of_runBatch later areSecond lowersSecond doneSecond]

/-- A declaration, a definition and a call of it, and then a definition that calls the first one, a
call of that and a call of what the host does not have: the error of the last form has its place in the
one batch. -/
theorem runBatch_append_calls :
    let span : Span := default
    let define (name : String) (body : Expr) : Expr :=
      .function ⟨name, ["x"], .function, span⟩ body span
    let first : List Expr := [.declaration ⟨"h", ["x"], .function, span⟩ span,
      define "f" (.var "x" span), .anonymous (.call "f" [.number 1 span] span)]
    let second : List Expr := [define "g" (.call "f" [.var "x" span] span),
      .anonymous (.call "g" [.number 2 span] span), .anonymous (.call "h" [.number 3 span] span)]
    (Evaluator.new false []).Reachable ∧ (∀ form ∈ first, form.IsForm) ∧
      (∀ form ∈ second, form.IsForm) ∧ (Evaluator.new false []).AllLower (first ++ second) ∧
      (lowerForms (Evaluator.new false []).opened 0 first).2.2.registry.KeepsDeclarations second ∧
      ∃ early middle late after, (Evaluator.new false []).Ends ⟨.none, 4⟩ first early middle ∧
        middle.Ends ⟨.none, 4⟩ second late after ∧
        early.append (late.shift 3) =
          ⟨[1, 2], [⟨some 5, some span, .code (.unresolvedSymbol "h")⟩]⟩ ∧ after.calls = #[] := by
  intro span define first second
  have ordinary : IsOrdinary "f" ∧ IsOrdinary "g" ∧ IsOrdinary "h" :=
    ⟨isOrdinary_of_head? (by decide), isOrdinary_of_head? (by decide),
      isOrdinary_of_head? (by decide)⟩
  have areFirst : ∀ form ∈ first, form.IsForm := by
    simp only [first, List.forall_mem_cons, List.not_mem_nil, false_implies, implies_true, and_true]
    refine ⟨.declaration span rfl ordinary.2.2, .definition span rfl ordinary.1 ?_ ?_,
      Expr.isForm_anonymous ?_ ?_⟩ <;>
      simp [Expr.IsBody, Expr.AreBodies, Expr.CallsOrdinary, Expr.calls, Expr.callsOfAll, ordinary]
  have areSecond : ∀ form ∈ second, form.IsForm := by
    simp only [second, List.forall_mem_cons, List.not_mem_nil, false_implies, implies_true, and_true]
    refine ⟨.definition span rfl ordinary.2.1 ?_ ?_, Expr.isForm_anonymous ?_ ?_,
      Expr.isForm_anonymous ?_ ?_⟩ <;>
      simp [Expr.IsBody, Expr.AreBodies, Expr.CallsOrdinary, Expr.calls, Expr.callsOfAll, ordinary]
  have allLower : (Evaluator.new false []).AllLower (first ++ second) :=
    List.isEmpty_iff.1 (by decide +kernel)
  have keeps :
      (lowerForms (Evaluator.new false []).opened 0 first).2.2.registry.KeepsDeclarations second := by
    have free : ((lowerForms (Evaluator.new false []).opened 0 first).2.2.registry.lookup? "g").isNone :=
      by decide +kernel
    refine .definition (fun declared => ?_) (.job (.job .nil))
    have unknown := Option.isNone_iff_eq_none.1 free
    exact fun found => by cases unknown.symm.trans found
  have means : Meaning.runAll
      ((Evaluator.new false []).registry.enterAll (first ++ second)).statuses ⟨.none, 4⟩ 0 #[]
      (Check.tasks 0 (first ++ second)) =
        some (⟨[1, 2], [⟨some 5, some span, .code (.unresolvedSymbol "h")⟩]⟩, #[]) := by
    decide +kernel
  have areForms := List.forall_mem_append.2 ⟨areFirst, areSecond⟩
  obtain ⟨steps, enough⟩ := runBatch_of_meaning (.new false) areForms allLower means
  obtain ⟨last, done, called⟩ := enough steps (Nat.le_refl steps)
  obtain ⟨early, middle, late, after, endsFirst, endsSecond, same, none, _⟩ :=
    ((runBatch_append (.new false) areFirst areSecond allLower keeps ⟨.none, 4⟩).2.2 _ #[] _).1
      ⟨last, ⟨steps, done⟩, called, rfl⟩
  exact ⟨.new false, areFirst, areSecond, allLower, keeps, early, middle, late, after, endsFirst,
    endsSecond, same.symm, none⟩

end Evaluator

end Kaleidoscope
