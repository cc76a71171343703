import Kaleidoscope.Proofs.Lowering.Revisiting

/-!
# Forms in units that hold less

A form that can be lowered in a unit can be lowered in any unit that holds a part of it, with the
same registry: what is missing is lowered again from there, and the rest of the unit is not needed
(`Check.narrows_form`). So forms that can all be lowered after others can be lowered in a unit of
their own as well (`Check.narrows_forms`).
-/
namespace Kaleidoscope

namespace Registry

variable {registry : Registry}

/-- Dropping a name adds no definitions. -/
theorem definitionCount_erase_le (registry : Registry) (name : String) :
    (registry.erase name).definitionCount ≤ registry.definitionCount := by
  unfold definitionCount
  simp only [erase]
  induction registry.entries with
  | nil => exact Nat.le_refl _
  | cons entry rest hypothesis =>
    simp only [List.foldr_cons, List.filter_cons] at hypothesis ⊢
    split
    · rw [List.foldr_cons]
      omega
    · omega

/-- Introducing a name adds at most the definitions of its entry. -/
theorem definitionCount_insert_le (registry : Registry) (name : String) (entry : Entry) :
    (registry.insert name entry).definitionCount ≤
      registry.definitionCount + entry.definitionCount := by
  have erased := definitionCount_erase_le registry name
  unfold definitionCount at erased ⊢
  simp only [insert, List.foldr_cons]
  omega

/-- The registry of a new session has no parameters. -/
theorem isDistinct_empty : empty.IsDistinct := fun found => by contradiction

/-- Only entries matter. -/
theorem IsDistinct.congr {other : Registry} (distinct : registry.IsDistinct)
    (same : ∀ name, other.lookup? name = registry.lookup? name) : other.IsDistinct :=
  fun found => distinct (same _ ▸ found)

/-- A form may enter if its parameters have different names. -/
theorem IsDistinct.enter (distinct : registry.IsDistinct) {form : Expr}
    (own : ∀ {entry : Entry}, form.entry? = some entry →
      Lower.duplicate? [] entry.prototype.parameters = none) : (registry.enter form).IsDistinct := by
  intro name entry found
  rw [lookup?_enter] at found
  split at found
  · exact own found
  · exact distinct found

/-- Forms enter one list after the other. -/
theorem enterAll_append (registry : Registry) (front back : List Expr) :
    registry.enterAll (front ++ back) = (registry.enterAll front).enterAll back :=
  List.foldl_append

/-- An entry after forms that could be lowered is that of one of them, or was there before. -/
theorem lookup?_enterAll {name : String} {entry : Entry} (forms : List Expr)
    (found : (registry.enterAll forms).lookup? name = some entry) :
    registry.lookup? name = some entry ∨
      ∃ form ∈ forms, form.entry? = some entry ∧ entry.prototype.linkedName = name := by
  induction forms generalizing registry with
  | nil => exact .inl found
  | cons form rest hypothesis =>
    rcases hypothesis found with early | ⟨other, member, own⟩
    · rw [lookup?_enter] at early
      split at early
      · next introduces =>
        rw [Expr.introduced?, early] at introduces
        exact .inr ⟨form, List.mem_cons_self, early, Option.some.inj introduces⟩
      · exact .inl early
    · exact .inr ⟨other, List.mem_cons_of_mem _ member, own⟩

end Registry

/-- A standing in which definitions of the unit can be lowered again. -/
structure Standing.IsWhole (standing : Standing) : Prop where
  /-- The registry is made from forms. -/
  sound : standing.registry.IsSound
  /-- Parameters of its entries have different names. -/
  distinct : standing.registry.IsDistinct
  /-- The unit is as the registry says, and its definitions are complete. -/
  whole : standing.ledger.IsWhole standing.registry

/-- A new unit is whole. -/
theorem Standing.isWhole_empty {registry : Registry} (sound : registry.IsSound)
    (distinct : registry.IsDistinct) : Standing.IsWhole ⟨registry, .empty⟩ where
  sound := sound
  distinct := distinct
  whole := ⟨fun _ _ known => by contradiction, fun known => by contradiction⟩

namespace Expr

/-- A form that runs an expression is one without a name. -/
theorem of_job? {form body : Expr} (job : form.job? = some body) :
    ∃ signature span, signature.isAnonymous = true ∧ form = function signature body span := by
  cases form with
  | function signature inner span =>
    rw [job?] at job
    split at job
    · next anonymous =>
      cases job
      exact ⟨signature, span, anonymous, rfl⟩
    · contradiction
  | _ => contradiction

/-- A form that introduces something is a definition or a declaration. -/
theorem of_entry? {form : Expr} {entry : Entry} (introduces : form.entry? = some entry) :
    (∃ signature body span, signature.isAnonymous = false ∧ form = function signature body span ∧
      entry = .function signature body) ∨
    ∃ signature span, form = declaration signature span ∧ entry = .declaration signature := by
  cases form with
  | function signature body span =>
    cases named : signature.isAnonymous with
    | true => simp [named, entry?] at introduces
    | false =>
      have own : Entry.function signature body = entry := by simpa [named, entry?] using introduces
      exact .inl ⟨signature, body, span, named, rfl, own.symm⟩
  | declaration signature span => exact .inr ⟨signature, span, rfl, (Option.some.inj introduces).symm⟩
  | _ => contradiction

end Expr

namespace Check

open Ledger

variable {tree : Expr} {before after : Standing} {done : PUnit} {error : LowerError}

/-- What follows from an action that succeeds. -/
theorem Yields.of_ok {registry : Registry} {action : Check PUnit} {ledger last : Ledger}
    {post : Ledger → Prop} (yields : Yields registry action ledger post)
    (same : action ledger = .ok done last) : Grows registry ledger last ∧ post last := by
  unfold Yields at yields
  rw [same] at yields
  exact ⟨yields.1, yields.2.2⟩

/-- A definition that checks could be declared. -/
theorem declares_of_define {prototype : Prototype} {body : Expr}
    {inner : List String → Check PUnit} {ledger last : Ledger}
    (same : define prototype body inner ledger = .ok done last) :
    Lower.duplicate? [] prototype.parameters = none ∧
      (ledger.known prototype.linkedName = none ∨
        ledger.known prototype.linkedName = some ⟨prototype.parameters.length, none⟩) := by
  simp only [define, Bind.bind, EStateM.bind] at same
  cases declared : declare prototype ledger with
  | error error middle =>
    rw [declared] at same
    contradiction
  | ok value middle =>
    obtain ⟨distinct, ⟨unknown, _⟩ | ⟨bare, _⟩⟩ := declare_eq_ok.1 declared
    · exact ⟨distinct, .inl unknown⟩
    · exact ⟨distinct, .inr bare⟩

/-- A definition that checks in the registry that has it. -/
theorem of_define_ok {registry : Registry} (sound : registry.IsSound) {depth : Nat}
    {signature : Prototype} {body : Expr} {ledger last : Ledger}
    (found : registry.lookup? signature.linkedName = some (.function signature body))
    (same : define signature body
      (fun names => expr registry (recallWithin registry depth) names body) ledger =
        .ok done last) :
    Grows registry ledger last ∧ (last.source? signature.linkedName).isSome :=
  have yields := (recalls_recallWithin sound (depth + 1) signature body ledger found).of_ok same
  ⟨yields.1, yields.2.2⟩

/-- An expression to run that checks has visible variables, and its calls fit. -/
theorem of_job_ok {registry : Registry} (sound : registry.IsSound) {depth : Nat} {body : Expr}
    (isBody : body.IsBody) {ledger last : Ledger}
    (same : job registry depth body ledger = .ok done last) :
    ∃ middle, last = middle.note body ∧ Grows registry ledger middle ∧ body.Scoped [] ∧
      middle.Fits body.calls := by
  unfold job fillWith at same
  split at same
  · next middle checked =>
    cases same
    obtain ⟨grows, closed, resolves⟩ :=
      (yields_expr sound (recalls_recallWithin sound depth) body [] ledger isBody).of_ok checked
    exact ⟨middle, rfl, grows, closed, fun call member => (resolves call member).1⟩
  · contradiction

/-- What is known of the unit after a form that can be lowered, apart from the names noted. -/
theorem grows_form (isForm : tree.IsForm) (sound : before.registry.IsSound)
    (same : form tree before = .ok done after) :
    ∃ ledger, Grows after.registry before.ledger ledger ∧ after.ledger.known = ledger.known := by
  have registered := sound.enter isForm
  rw [← registry_form same] at registered
  cases isForm with
  | job span anonymous closed isBody calls =>
    rw [form_job anonymous] at same
    split at same
    · next checked =>
      cases same
      obtain ⟨middle, rfl, grows, _⟩ := of_job_ok registered isBody checked
      exact ⟨middle, grows, rfl⟩
    · contradiction
  | @definition signature body span named ordinary isBody calls =>
    rw [form_definition named] at same
    obtain ⟨entered, introduced⟩ := of_introduce_ok same
    have found : after.registry.lookup? signature.linkedName = some (.function signature body) := by
      rw [entered, Registry.lookup?_insert, if_pos rfl]
    exact ⟨after.ledger, (of_define_ok registered found introduced).1, rfl⟩
  | @declaration signature span named ordinary =>
    rw [form_declaration] at same
    obtain ⟨entered, introduced⟩ := of_introduce_ok same
    have found : after.registry.lookup? signature.linkedName = some (.declaration signature) := by
      rw [entered, Registry.lookup?_insert, if_pos rfl]
    exact ⟨after.ledger, ((yields_declare (.declaration signature) found).of_ok introduced).1, rfl⟩

/-- A form whose name differs keeps what is known of a name. -/
theorem known_of_other (isForm : tree.IsForm) (sound : before.registry.IsSound)
    (current : Current before) (same : form tree before = .ok done after) {name : String}
    {status : Status} (other : tree.introduced? ≠ some name)
    (known : before.ledger.known name = some status) : after.ledger.known name = some status := by
  obtain ⟨ledger, grows, equal⟩ := grows_form isForm sound same
  obtain ⟨later, found, _⟩ := Option.map_eq_some_iff.1 (grows.arity_kept (arity?_of_known known))
  rw [← equal] at found
  have stated := current_form isForm sound current same name later found
  rw [registry_form same, Registry.statuses, Registry.lookup?_enter, if_neg other] at stated
  rw [found, ← stated]
  exact current name status known

/-- A form that can be lowered has parameters of different names. -/
theorem distinct_form (same : form tree before = .ok done after) {entry : Entry}
    (introduces : tree.entry? = some entry) :
    Lower.duplicate? [] entry.prototype.parameters = none := by
  rcases Expr.of_entry? introduces with ⟨signature, body, span, named, rfl, rfl⟩ |
    ⟨signature, span, rfl, rfl⟩
  · rw [form_definition named] at same
    exact (declares_of_define (of_introduce_ok same).2).1
  · rw [form_declaration] at same
    exact (declare_eq_ok.1 (of_introduce_ok same).2).1

/-- A form that can be lowered leaves a unit whole. -/
theorem isWhole_form (isForm : tree.IsForm) (isWhole : before.IsWhole)
    (same : form tree before = .ok done after) : after.IsWhole := by
  have entered := registry_form same
  have current := current_form isForm isWhole.sound isWhole.whole.current same
  refine ⟨entered ▸ isWhole.sound.enter isForm, ?_, current, ?_⟩
  · rw [entered]
    exact Registry.IsDistinct.enter isWhole.distinct fun introduces => distinct_form same introduces
  · intro name source found
    obtain ⟨ledger, grows, equal⟩ := grows_form isForm isWhole.sound same
    -- The definition may have been introduced anew since, but then it could not be filled already.
    obtain ⟨status, known, filled⟩ := Option.bind_eq_some_iff.1 found
    have registered := current name status known
    obtain ⟨entry, here, stated⟩ := Option.map_eq_some_iff.1 registered
    have own : ∃ prototype, after.registry.lookup? name = some (.function prototype source.2) ∧
        source.1 = prototype.parameters := by
      subst stated
      cases entry with
      | function prototype body =>
        cases filled
        exact ⟨prototype, here, rfl⟩
      | declaration prototype => contradiction
    have sources : after.ledger.source? name = ledger.source? name := by
      rw [source?, source?, equal]
    have arities : ∀ other, after.ledger.arity? other = ledger.arity? other := by
      intro other
      rw [arity?, arity?, equal]
    cases early : before.ledger.source? name with
    | none =>
      have complete := grows.source_new (sources ▸ found) early
      exact ⟨own, complete.distinct, complete.closed, fun call member => by
        rw [arities]
        exact complete.fits call member⟩
    | some other =>
      have equal := (grows.source_kept early).symm.trans (sources ▸ found)
      cases equal
      have complete := isWhole.whole.complete early
      exact ⟨own, complete.distinct, complete.closed, fun call member => by
        rw [arities]
        exact grows.arity_kept (complete.fits call member)⟩

/-- A form that can be lowered in a unit can be lowered in one that holds a part of it. -/
theorem narrows_form (isForm : tree.IsForm) (isWhole : before.IsWhole)
    (same : form tree before = .ok done after) {ledger : Ledger}
    (inside : ledger.Inside before.ledger) :
    ∃ last, form tree ⟨before.registry, ledger⟩ = .ok ⟨⟩ ⟨after.registry, last⟩ ∧
      last.Inside after.ledger := by
  have later := isWhole_form isForm isWhole same
  have others : ∀ {name : String} {status : Status}, tree.introduced? ≠ some name →
      ledger.known name = some status → after.ledger.known name = some status :=
    fun other known => known_of_other isForm isWhole.sound isWhole.whole.current same other
      (inside known)
  have calls : ∀ depth, CallsRevisit after.registry after.ledger depth
      (recallWithin after.registry depth) := fun depth {name count} span held =>
    revisits_callee later.sound later.distinct later.whole
      (recallRevisits_recallWithin later.sound later.distinct later.whole depth) held span
  cases isForm with
  | @job signature body span anonymous closed isBody ordinary =>
    rw [form_job anonymous] at same ⊢
    have enough := Nat.le_trans (pending_le before.registry ledger)
      (Nat.le_add_right _ (body.definitionCount + 1))
    generalize before.registry.definitionCount + (body.definitionCount + 1) = depth at same enough ⊢
    split at same
    · next checked =>
      cases same
      obtain ⟨middle, rfl, _, closed, fits⟩ := of_job_ok isWhole.sound isBody checked
      obtain ⟨last, ran, leads⟩ := revisits_expr (calls depth) body [] closed fits ledger
        (fun known => others (by simp [Expr.introduced?, Expr.entry?, anonymous]) known) enough
      refine ⟨last.note body, ?_, leads.inside⟩
      simp only [job, fillWith, id, ran]
    · contradiction
  | @definition signature body span named ordinary isBody _ =>
    rw [form_definition named] at same ⊢
    obtain ⟨entered, introduced⟩ := of_introduce_ok same
    have found : after.registry.lookup? signature.linkedName = some (.function signature body) := by
      rw [entered, Registry.lookup?_insert, if_pos rfl]
    obtain ⟨distinct, free⟩ := declares_of_define introduced
    obtain ⟨_, filled⟩ := of_define_ok later.sound found introduced
    have holds := later.whole.known_of_isSome found filled
    have complete := later.whole.complete (source?_of_known holds)
    have enough : (ledger.set signature.linkedName (some ⟨signature.parameters.length,
        some (signature.parameters, body)⟩)).pending after.registry ≤
          before.registry.definitionCount + (body.definitionCount + 1) :=
      Nat.le_trans (pending_le _ _) (entered ▸ Registry.definitionCount_insert_le ..)
    generalize before.registry.definitionCount + (body.definitionCount + 1) = depth at enough ⊢
    obtain ⟨last, ran, leads⟩ := revisits_define
      (fun names => expr after.registry (recallWithin after.registry depth) names body) distinct holds
      (fun other known => others (by
        simpa [Expr.introduced?, Expr.entry?, named, Entry.prototype] using Ne.symm other) known)
      (inside.free free)
      (revisits_expr (calls depth) body _ complete.closed complete.fits) enough
    refine ⟨last, ?_, leads.inside⟩
    simp only [introduce, ← entered, ran]
  | @declaration signature span named ordinary =>
    rw [form_declaration] at same ⊢
    obtain ⟨entered, introduced⟩ := of_introduce_ok same
    obtain ⟨distinct, declared⟩ := declare_eq_ok.1 introduced
    have holds : after.ledger.known signature.linkedName =
        some ⟨signature.parameters.length, none⟩ := by
      rcases declared with ⟨_, changed⟩ | ⟨bare, kept⟩
      · rw [changed, known_set, if_pos rfl]
      · rw [kept, bare]
    have free := declared.imp And.left And.left
    refine ⟨_, ?_, inside_set holds fun other known =>
      others (fun same => other (Option.some.inj same).symm) known⟩
    simp only [introduce, ← entered, declare_of_free distinct (inside.free free)]

/-- A form that cannot be lowered leaves every entry as it was. -/
theorem lookup?_of_error (same : form tree before = .error error after) (name : String) :
    after.registry.lookup? name = before.registry.lookup? name := by
  have introduction : ∀ {own : String} {entry : Entry} {action : Registry → Check PUnit},
      introduce own entry action before = .error error after →
        after.registry.lookup? name = before.registry.lookup? name := by
    intro own entry action same
    simp only [introduce] at same
    split at same
    · contradiction
    · cases same
      exact Registry.lookup?_restore_insert ..
  cases tree with
  | function signature body span =>
    cases named : signature.isAnonymous with
    | true =>
      rw [form_job named] at same
      split at same
      · contradiction
      · cases same
        rfl
    | false =>
      rw [form_definition named] at same
      exact introduction same
  | declaration signature span =>
    rw [form_declaration] at same
    exact introduction same
  | _ =>
    cases same
    rfl

section Forms

variable {trees : List Expr}

/-- Whatever becomes of forms, the parameters of entries have different names. -/
theorem isDistinct_forms (trees : List Expr) : ∀ (standing : Standing) (index : Nat),
    standing.registry.IsDistinct → (forms standing index trees).2.2.registry.IsDistinct := by
  induction trees with
  | nil => exact fun _ _ distinct => distinct
  | cons tree rest hypothesis =>
    intro standing index distinct
    rw [forms]
    cases checked : form tree standing with
    | ok done next =>
      refine hypothesis next (index + 1) ?_
      rw [registry_form checked]
      exact Registry.IsDistinct.enter distinct fun introduces => distinct_form checked introduces
    | error error next =>
      exact hypothesis next (index + 1)
        (Registry.IsDistinct.congr distinct (lookup?_of_error checked))

/-- Forms are checked one list after the other. -/
theorem forms_append (front back : List Expr) : ∀ (standing : Standing) (index : Nat),
    forms standing index (front ++ back) =
      let first := forms standing index front
      let second := forms first.2.2 (index + front.length) back
      (first.1 ++ second.1, first.2.1 ++ second.2.1, second.2.2) := by
  induction front with
  | nil => exact fun _ _ => rfl
  | cons tree rest hypothesis =>
    intro standing index
    have place : index + 1 + rest.length = index + (tree :: rest).length := by
      rw [List.length_cons]
      omega
    rw [List.cons_append, forms, forms]
    cases form tree standing <;> simp only [hypothesis, place, List.append_assoc, List.cons_append]

/-- Forms that can all be lowered leave a unit whole. -/
theorem isWhole_forms (areForms : ∀ tree ∈ trees, tree.IsForm) :
    ∀ (standing : Standing) (index : Nat), standing.IsWhole →
      (forms standing index trees).2.1 = [] → (forms standing index trees).2.2.IsWhole := by
  induction trees with
  | nil => exact fun _ _ isWhole _ => isWhole
  | cons tree rest hypothesis =>
    intro standing index isWhole succeeds
    obtain ⟨next, checked, succeeds, equal⟩ := of_forms_ok succeeds
    rw [equal]
    exact hypothesis (fun tree member => areForms tree (List.mem_cons_of_mem _ member)) next _
      (isWhole_form (areForms tree List.mem_cons_self) isWhole checked) succeeds

/-- Forms that can all be lowered keep the numbers of parameters, and the definitions that have been
filled. -/
theorem kept_forms (areForms : ∀ tree ∈ trees, tree.IsForm) :
    ∀ (standing : Standing) (index : Nat), standing.IsWhole →
      (forms standing index trees).2.1 = [] →
      (∀ {name : String} {arity : Nat}, standing.ledger.arity? name = some arity →
        (forms standing index trees).2.2.ledger.arity? name = some arity) ∧
      ∀ {name : String} {source : List String × Expr}, standing.ledger.source? name = some source →
        (forms standing index trees).2.2.ledger.source? name = some source := by
  induction trees with
  | nil => exact fun _ _ _ _ => ⟨fun known => known, fun known => known⟩
  | cons tree rest hypothesis =>
    intro standing index isWhole succeeds
    have isForm := areForms tree List.mem_cons_self
    obtain ⟨next, checked, succeeds, equal⟩ := of_forms_ok succeeds
    obtain ⟨ledger, grows, same⟩ := grows_form isForm isWhole.sound checked
    obtain ⟨arities, sources⟩ := hypothesis
      (fun tree member => areForms tree (List.mem_cons_of_mem _ member)) next _
      (isWhole_form isForm isWhole checked) succeeds
    rw [equal]
    refine ⟨fun known => arities ?_, fun known => sources ?_⟩
    · rw [arity?, same]
      exact grows.arity_kept known
    · rw [source?, same]
      exact grows.source_kept known

/-- The calls of the expressions that forms run fit, if the forms can all be lowered. -/
theorem fits_forms (areForms : ∀ tree ∈ trees, tree.IsForm) :
    ∀ (standing : Standing) (index : Nat), standing.IsWhole →
      (forms standing index trees).2.1 = [] → ∀ task ∈ tasks index trees,
        (forms standing index trees).2.2.ledger.Fits task.body.calls := by
  induction trees with
  | nil => exact fun _ _ _ _ _ member => by contradiction
  | cons tree rest hypothesis =>
    intro standing index isWhole succeeds task member
    have isForm := areForms tree List.mem_cons_self
    have others : ∀ tree ∈ rest, tree.IsForm :=
      fun tree member => areForms tree (List.mem_cons_of_mem _ member)
    obtain ⟨next, checked, succeeds, equal⟩ := of_forms_ok succeeds
    have later := isWhole_form isForm isWhole checked
    rw [equal]
    rcases List.mem_append.1 member with own | member
    · obtain ⟨body, job, rfl⟩ := Option.map_eq_some_iff.1 (Option.mem_toList.1 own)
      obtain ⟨signature, span, anonymous, rfl⟩ := Expr.of_job? job
      cases isForm with
      | definition span named => rw [anonymous] at named; contradiction
      | job span _ closed isBody calls =>
        rw [form_job anonymous] at checked
        split at checked
        · next ran =>
          cases checked
          obtain ⟨middle, rfl, _, _, fits⟩ := of_job_ok isWhole.sound isBody ran
          exact fun call member => (kept_forms others _ _ later succeeds).1 (fits call member)
        · contradiction
    · exact hypothesis others next _ later succeeds task member

/-- Forms that can all be lowered in a unit can all be lowered in one that holds a part of it. -/
theorem narrows_forms (areForms : ∀ tree ∈ trees, tree.IsForm) :
    ∀ (standing : Standing) (ledger : Ledger) (index other : Nat), standing.IsWhole →
      ledger.Inside standing.ledger → (forms standing index trees).2.1 = [] →
      (forms ⟨standing.registry, ledger⟩ other trees).2.1 = [] := by
  induction trees with
  | nil => exact fun _ _ _ _ _ _ _ => rfl
  | cons tree rest hypothesis =>
    intro standing ledger index other isWhole inside succeeds
    have isForm := areForms tree List.mem_cons_self
    obtain ⟨next, checked, succeeds, _⟩ := of_forms_ok succeeds
    obtain ⟨last, narrow, part⟩ := narrows_form isForm isWhole checked inside
    rw [forms, narrow]
    exact hypothesis (fun tree member => areForms tree (List.mem_cons_of_mem _ member)) next last _
      _ (isWhole_form isForm isWhole checked) part succeeds

end Forms

end Check

end Kaleidoscope
