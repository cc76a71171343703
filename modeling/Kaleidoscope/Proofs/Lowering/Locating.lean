import Kaleidoscope.Proofs.Lowering.Surviving
import Kaleidoscope.Proofs.Syntax.Nesting

/-!
# Where the errors of forms stand

An error of lowering a form stands at the place of a tree of that form, or it is one of code and has
no place (`Lower.isAt_form`). Trees of other forms are reached through the registry alone, and nothing
inside of them is reported at its own place: an error of a definition that is lowered again is wrapped
at the call that needs it, however deeply such calls are nested in each other, and a declaration that
the registry has kept gives none, since its parameters are known to be distinct
(`Registry.DeclaresDistinct`).
-/
namespace Kaleidoscope

/-- An error has a place of some kind, or no place at all. -/
def LowerError.IsAt (holds : Span → Prop) (error : LowerError) : Prop :=
  ∀ span ∈ error.span?, holds span

namespace LowerError

variable {holds : Span → Prop} {error : LowerError} {span : Span}

/-- An error with a place of the kind. -/
theorem isAt_of_span? (same : error.span? = some span) (own : holds span) : error.IsAt holds := by
  intro other found
  rw [same] at found
  exact Option.some.inj found ▸ own

/-- An error of code has no place. -/
theorem isAt_code (error : CodeError) : (LowerError.code error).IsAt holds :=
  fun _ none => by contradiction

end LowerError

/-- No declaration in a registry has two parameters of one name. -/
def Registry.DeclaresDistinct (registry : Registry) : Prop :=
  ∀ (name : String) (prototype : Prototype),
    registry.lookup? name = some (.declaration prototype) →
      Lower.duplicate? [] prototype.parameters = none

namespace Registry

variable {registry : Registry}

/-- The registry of a new session has no declarations. -/
theorem declaresDistinct_empty : empty.DeclaresDistinct :=
  fun _ _ none => by contradiction

/-- Registries in which all names mean the same have the same declarations. -/
theorem DeclaresDistinct.congr {other : Registry} (distinct : registry.DeclaresDistinct)
    (same : ∀ name, other.lookup? name = registry.lookup? name) : other.DeclaresDistinct :=
  fun name prototype found => distinct name prototype (same name ▸ found)

/-- One more entry, the parameters of which are distinct if it is a declaration. -/
theorem DeclaresDistinct.insert (distinct : registry.DeclaresDistinct) (own : String) (entry : Entry)
    (parameters : ∀ prototype, entry = .declaration prototype →
      Lower.duplicate? [] prototype.parameters = none) : (registry.insert own entry).DeclaresDistinct := by
  intro name prototype found
  rw [lookup?_insert] at found
  split at found
  · exact parameters prototype (Option.some.inj found)
  · exact distinct name prototype found

/-- A form that could be lowered, and the parameters of which are distinct if it is a declaration. -/
theorem DeclaresDistinct.enter (distinct : registry.DeclaresDistinct) {tree : Expr}
    (parameters : ∀ prototype, tree.entry? = some (.declaration prototype) →
      Lower.duplicate? [] prototype.parameters = none) : (registry.enter tree).DeclaresDistinct := by
  unfold Registry.enter
  cases introduces : tree.entry? with
  | none => exact distinct
  | some entry =>
    refine distinct.insert _ entry fun prototype same => parameters prototype ?_
    rw [introduces, same]

end Registry

/-- An action keeps a registry and an open unit until it fails, and then its error has a place of
some kind. -/
def Locates {α : Type} (holds : Span → Prop) (registry : Registry) (name : String)
    (action : Lower α) : Prop :=
  ∀ state, Lowering.IsWithin registry name state → match action state with
    | .ok _ after => Lowering.IsWithin registry name after
    | .error error _ => error.IsAt holds

namespace Locates

variable {α β : Type} {holds : Span → Prop} {registry : Registry} {name : String}
  {action : Lower α}

/-- Yielding a value. -/
theorem pure (value : α) : Locates holds registry name (Pure.pure value : Lower α) :=
  fun _ within => within

/-- Failing at a place. -/
theorem throw {error : LowerError} (own : error.IsAt holds) :
    Locates holds registry name (MonadExcept.throw error : Lower α) :=
  fun _ _ => own

/-- One action after another. -/
theorem bind {next : α → Lower β} (front : Locates holds registry name action)
    (back : ∀ value, Locates holds registry name (next value)) :
    Locates holds registry name (action >>= next) := by
  intro state within
  have between := front state within
  simp only [Bind.bind, EStateM.bind]
  cases ran : action state with
  | ok value middle =>
    simp only [ran] at between
    exact back value middle between
  | error error middle =>
    simp only [ran] at between
    exact between

/-- Reading the state. -/
theorem get {next : Lowering → Lower α}
    (back : ∀ state, Lowering.IsWithin registry name state →
      Locates holds registry name (next state)) :
    Locates holds registry name (get >>= next) :=
  fun state within => back state within state within

/-- An action whose errors are known. -/
theorem of_preserves (kept : Preserves (Lowering.IsWithin registry name) action)
    (located : ∀ state error after, Lowering.IsWithin registry name state →
      action state = .error error after → error.IsAt holds) :
    Locates holds registry name action := by
  intro state within
  have last := kept state within
  cases ran : action state with
  | ok value after =>
    simp only [ran] at last
    exact last
  | error error after => exact located state error after within ran

/-- The place of an error. -/
theorem isAt {state after : Lowering} {error : LowerError}
    (located : Locates holds registry name action) (failed : action state = .error error after)
    (within : Lowering.IsWithin registry name state) : error.IsAt holds := by
  have own := located state within
  rw [failed] at own
  exact own

end Locates

namespace Lower

open Code Build

variable {holds : Span → Prop} {registry : Registry} {name : String}

/-- Actions of the builder fail with errors of code. -/
theorem locates_build {α : Type} {action : Build α}
    (preserves : Preserves (Builder.IsOpen name) action) :
    Locates holds registry name (build action) := by
  refine .of_preserves (preserves_build preserves) fun state error after _ failed => ?_
  unfold build at failed
  cases ran : action state.builder <;> rw [ran] at failed <;> cases failed
  exact LowerError.isAt_code _

/-- The number that a tree yields. -/
theorem locates_asValue {span : Span} (own : holds span) (artifact : Artifact) :
    Locates holds registry name (asValue span artifact) := by
  cases artifact with
  | value operand => exact .pure _
  | routine id => exact .throw (LowerError.isAt_of_span? rfl own)

/-- The routine being filled. -/
theorem locates_currentFunction : Locates holds registry name currentFunction := by
  refine .bind (locates_build (preserves_ask _ _)) fun found => ?_
  cases found with
  | some id => exact .pure _
  | none => exact .throw (LowerError.isAt_code _)

/-- The slot of a variable. -/
theorem locates_slotOf (scope : Scope SlotRef) (own : String) {span : Span} (place : holds span) :
    Locates holds registry name (slotOf scope own span) := by
  unfold slotOf
  cases scope.lookup? own with
  | some slot => exact .pure _
  | none => exact .throw (LowerError.isAt_of_span? rfl place)

/-- The routine of a prototype. -/
theorem locates_declare {prototype : Prototype} (own : holds prototype.span) :
    Locates holds registry name (declare prototype) := by
  unfold declare
  cases duplicate? [] prototype.parameters with
  | some twice => exact .throw (LowerError.isAt_of_span? rfl own)
  | none =>
    cases prototype.isAnonymous with
    | true =>
      refine .get fun state _ => .bind (fun state within => ?_) fun _ =>
        locates_build (preserves_declareFunction _ _)
      exact ⟨within.registry_eq, within.isOpen⟩
    | false =>
      refine .get fun state _ => ?_
      simp only
      split
      · exact locates_build (preserves_declareFunction _ _)
      · split
        · exact .throw (LowerError.isAt_of_span? rfl own)
        · split
          · exact .throw (LowerError.isAt_of_span? rfl own)
          · exact .pure _

/-- Giving parameters their slots. -/
theorem locates_bindParameters (id : Nat) (names : List String) :
    ∀ (index : Nat) (scope : Scope SlotRef),
      Locates holds registry name (bindParameters id index names scope) := by
  induction names with
  | nil => exact fun _ _ => .pure _
  | cons own rest hypothesis =>
    exact fun index scope => .bind (locates_build (preserves_slot _ _)) fun _ =>
      .bind (locates_build (preserves_parameter _ _)) fun _ =>
        .bind (locates_build (preserves_store _ _)) fun _ => hypothesis _ _

/-- Filling a routine. -/
theorem locates_fill (id : Nat) (names : List String) {body : Scope SlotRef → Lower Operand}
    (inside : ∀ scope, Locates holds registry name (body scope)) :
    Locates holds registry name (fill id names body) :=
  .bind (locates_build (preserves_appendBlock _ _)) fun _ =>
    .bind (locates_build (preserves_moveTo _)) fun _ =>
      .bind (locates_bindParameters _ _ _ _) fun _ => .bind (inside _) fun _ =>
        locates_build (preserves_attempt_terminate _ _)

/-- The routine of a definition. -/
theorem locates_define {prototype : Prototype} (own : holds prototype.span)
    {body : Scope SlotRef → Lower Operand}
    (inside : ∀ scope, Locates holds registry name (body scope)) :
    Locates holds registry name (define prototype body) := by
  refine .bind (locates_declare own) fun id => .bind (fun state within => ?_) fun _ => .pure _
  have filled := locates_fill id prototype.parameters inside state within
  unfold discardingOnError
  cases ran : fill id prototype.parameters body state with
  | ok value after =>
    simp only [ran] at filled
    exact filled
  | error error after =>
    simp only [ran] at filled
    exact filled

/-- Lowering a definition again fails at the call that needs it, or with an error of code. -/
theorem locates_inDefinition {α : Type} (own : String) {span : Span} (place : holds span)
    (saved : Option BlockRef) {action : Lower α}
    (inside : Preserves (Lowering.IsWithin registry name) action) :
    Locates holds registry name (inDefinition own span saved action) := by
  refine .of_preserves ((stable_isWithin registry name).inDefinition own span saved inside) ?_
  intro state error after _ failed
  unfold inDefinition at failed
  cases ran : action state with
  | ok value middle => simp only [ran] at failed; contradiction
  | error cause middle =>
    simp only [ran] at failed
    cases cause with
    | code cause =>
      cases failed
      exact LowerError.isAt_code _
    | _ =>
      cases failed
      exact LowerError.isAt_of_span? rfl place

/-- Taking a name anew for a declaration of the registry fails with an error of code alone: the name
is free, and its parameters are distinct. -/
theorem isAt_declare {prototype : Prototype} {state after : Lowering} {error : LowerError}
    (distinct : duplicate? [] prototype.parameters = none)
    (free : state.builder.lookup? prototype.linkedName = none)
    (failed : declare prototype state = .error error after) : error.IsAt holds := by
  have ofCode : ∀ (own : String) (first : Lowering),
      build (.declareFunction own prototype.parameters) first = .error error after →
        error.IsAt holds := by
    intro own first failed
    unfold build at failed
    cases ran : Build.declareFunction own prototype.parameters first.builder <;>
      rw [ran] at failed <;> cases failed
    exact LowerError.isAt_code _
  unfold declare at failed
  rw [distinct] at failed
  cases anonymous : prototype.isAnonymous with
  | true =>
    simp only [anonymous, if_true] at failed
    exact ofCode _ _ failed
  | false =>
    simp only [anonymous, Bool.false_eq_true, if_false, Bind.bind, EStateM.bind, get_apply,
      free] at failed
    exact ofCode _ _ failed

section Rules

variable {revive : Prototype → Expr → Lower Nat}

/-- Calls that cannot be lowered fail at the place of the call, or with an error of code. -/
def CallsLocate (holds : Span → Prop) (registry : Registry) (name : String)
    (revive : Prototype → Expr → Lower Nat) : Prop :=
  ∀ own count span, holds span → Locates holds registry name (callee revive own count span)

/-- The routine that a call goes to. -/
theorem locates_resolve (sound : registry.IsSound) (distinct : registry.DeclaresDistinct)
    (revives : Lowering.Stable.Revives registry (Lowering.IsWithin registry name) revive)
    (own : String) {span : Span} (place : holds span) :
    Locates holds registry name (resolve revive own span) := by
  refine .of_preserves ((stable_isWithin registry name).resolve sound revives own span) ?_
  intro state error after within failed
  unfold resolve at failed
  simp only [Bind.bind, EStateM.bind, get_apply] at failed
  cases filled : (state.builder.lookup? own).filter state.builder.hasBody with
  | some id =>
    rw [filled] at failed
    contradiction
  | none =>
    rw [filled, within.registry_eq] at failed
    cases found : registry.lookup? own with
    | none =>
      rw [found] at failed
      cases failed
      exact LowerError.isAt_of_span? rfl place
    | some entry =>
      rw [found] at failed
      cases entry with
      | function prototype body =>
        have located : Locates holds registry name (build .insertBlock >>= fun saved =>
            inDefinition own span saved (revive prototype body)) :=
          .bind (locates_build (preserves_ask _ _)) fun saved =>
            locates_inDefinition own place saved (revives found)
        exact located.isAt failed within
      | declaration prototype =>
        have linked : prototype.linkedName = own := sound.linked found
        cases free : state.builder.lookup? own with
        | some id =>
          rw [free] at failed
          contradiction
        | none =>
          rw [free] at failed
          exact isAt_declare (distinct own prototype found) (linked ▸ free) failed

/-- The routine that a call goes to, with the number of its parameters checked. -/
theorem locates_callee (sound : registry.IsSound) (distinct : registry.DeclaresDistinct)
    (revives : Lowering.Stable.Revives registry (Lowering.IsWithin registry name) revive) :
    CallsLocate holds registry name revive := by
  intro own count span place
  refine .bind (locates_resolve sound distinct revives own place) fun id => .get fun state _ => ?_
  simp only
  split
  · exact .throw (LowerError.isAt_of_span? rfl place)
  · exact .pure _

/-- A tree that is lowered to a number, before what is done with the number. -/
theorem locates_operand {α : Type} {tree : Expr} {scope : Scope SlotRef} {next : Operand → Lower α}
    (inside : Locates holds registry name (lower revive scope tree)) (nested : tree.IsNested holds)
    (back : ∀ value, Locates holds registry name (next value)) :
    Locates holds registry name
      (lower revive scope tree >>= fun found => asValue tree.span found >>= next) :=
  .bind inside fun found => .bind (locates_asValue nested.own found) back

mutual

/-- Lowering a body. -/
theorem locates_lower (calls : CallsLocate holds registry name revive) : ∀ (tree : Expr),
    tree.IsBody → tree.IsNested holds → ∀ scope,
    Locates holds registry name (lower revive scope tree)
  | .number _ _, _, _, _ => .pure _
  | .var own _, _, nested, scope =>
    .bind (locates_slotOf scope own nested.own) fun _ =>
      .bind (locates_build (preserves_attempt_emit _ _)) fun _ => .pure _
  | .binary _ .assign left right _, isBody, nested, scope => by
    have ⟨first, second⟩ := nested.pair
    cases left with
    | var own place =>
      exact locates_operand (locates_lower calls right isBody.2 second scope) second fun _ =>
        .bind (locates_slotOf scope own first.own) fun _ =>
          .bind (locates_build (preserves_store _ _)) fun _ => .pure _
    | _ => exact .throw (LowerError.isAt_of_span? rfl first.own)
  | .binary _ (.user _) left right _, isBody, nested, scope =>
    have ⟨first, second⟩ := nested.pair
    .bind (calls _ 2 _ nested.own) fun _ =>
      locates_operand (locates_lower calls left isBody.1 first scope) first fun _ =>
        locates_operand (locates_lower calls right isBody.2 second scope) second fun _ =>
          .bind (locates_build (preserves_attempt_emit _ _)) fun _ => .pure _
  | .binary _ (.builtin operator) left right _, isBody, nested, scope =>
    have ⟨first, second⟩ := nested.pair
    locates_operand (locates_lower calls left isBody.1 first scope) first fun _ =>
      locates_operand (locates_lower calls right isBody.2 second scope) second fun _ =>
        .bind (locates_build (by cases operator <;> exact preserves_attempt_emit _ _)) fun _ =>
          .pure _
  | .unary _ operand _, isBody, nested, scope =>
    have inner := nested.child List.mem_cons_self
    .bind (calls _ 1 _ nested.own) fun _ =>
      locates_operand (locates_lower calls operand isBody inner scope) inner fun _ =>
        .bind (locates_build (preserves_attempt_emit _ _)) fun _ => .pure _
  | .call own arguments _, isBody, nested, scope =>
    .bind (calls own _ _ nested.own) fun _ =>
      .bind (locates_lowerArguments calls arguments isBody (fun _ => nested.child) scope) fun _ =>
        .bind (locates_build (preserves_attempt_emit _ _)) fun _ => .pure _
  | .conditional condition consequent alternative _, isBody, nested, scope =>
    have chosen := nested.child List.mem_cons_self
    have one := nested.child (List.mem_cons_of_mem _ List.mem_cons_self)
    have other := nested.child (List.mem_cons_of_mem _ (List.mem_cons_of_mem _ List.mem_cons_self))
    locates_operand (locates_lower calls condition isBody.1 chosen scope) chosen fun _ =>
      .bind (locates_build (preserves_attempt_emit _ _)) fun _ =>
      .bind locates_currentFunction fun _ =>
      .bind (locates_build (preserves_appendBlock _ _)) fun _ =>
      .bind (locates_build (preserves_appendBlock _ _)) fun _ =>
      .bind (locates_build (preserves_appendBlock _ _)) fun _ =>
      .bind (locates_build (preserves_attempt_terminate _ _)) fun _ =>
      .bind (locates_build (preserves_moveTo _)) fun _ =>
      locates_operand (locates_lower calls consequent isBody.2.1 one scope) one fun _ =>
      .bind (locates_build (preserves_attempt_terminate _ _)) fun _ =>
      .bind (locates_build (preserves_ask _ _)) fun _ =>
      .bind (locates_build (preserves_moveTo _)) fun _ =>
      locates_operand (locates_lower calls alternative isBody.2.2 other scope) other fun _ =>
      .bind (locates_build (preserves_attempt_terminate _ _)) fun _ =>
      .bind (locates_build (preserves_ask _ _)) fun _ =>
      .bind (locates_build (preserves_moveTo _)) fun _ =>
      .bind (locates_build (preserves_attempt_emit _ _)) fun _ => .pure _
  | .loop _ start limit step body _, isBody, nested, scope =>
    have one := nested.child List.mem_cons_self
    have two := nested.child (List.mem_cons_of_mem _ List.mem_cons_self)
    have rest : ∀ expr ∈ step.toList ++ [body], expr.IsNested holds := fun _ member =>
      nested.child (List.mem_cons_of_mem _ (List.mem_cons_of_mem _ member))
    have ⟨three, last⟩ := List.forall_mem_append.1 rest
    have four := last body List.mem_cons_self
    .bind locates_currentFunction fun _ =>
      locates_operand (locates_lower calls start isBody.1 one scope) one fun _ =>
      .bind (locates_build (preserves_slot _ _)) fun _ =>
      .bind (locates_build (preserves_store _ _)) fun _ =>
      .bind (locates_build (preserves_appendBlock _ _)) fun _ =>
      .bind (locates_build (preserves_attempt_terminate _ _)) fun _ =>
      .bind (locates_build (preserves_moveTo _)) fun _ =>
      locates_operand (locates_lower calls body isBody.2.2.2 four _) four fun _ =>
      .bind (locates_build (preserves_attempt_emit _ _)) fun _ =>
      .bind (locates_lowerOptional calls step isBody.2.2.1 three _ _) fun _ =>
      .bind (locates_build (preserves_attempt_emit _ _)) fun _ =>
      .bind (locates_build (preserves_store _ _)) fun _ =>
      locates_operand (locates_lower calls limit isBody.2.1 two _) two fun _ =>
      .bind (locates_build (preserves_attempt_emit _ _)) fun _ =>
      .bind (locates_build (preserves_appendBlock _ _)) fun _ =>
      .bind (locates_build (preserves_attempt_terminate _ _)) fun _ =>
      .bind (locates_build (preserves_moveTo _)) fun _ => .pure _
  | .binding _ initializer body _, isBody, nested, scope =>
    have ⟨first, last⟩ := List.forall_mem_append.1 fun _ => nested.child
    have inner := last body List.mem_cons_self
    .bind locates_currentFunction fun _ =>
      .bind (locates_lowerOptional calls initializer isBody.1 first scope _) fun _ =>
      .bind (locates_build (preserves_slot _ _)) fun _ =>
      .bind (locates_build (preserves_store _ _)) fun _ =>
      locates_operand (locates_lower calls body isBody.2 inner _) inner fun _ => .pure _
  | .prototype _, isBody, _, _ | .function _ _ _, isBody, _, _ | .declaration _ _, isBody, _, _ =>
    isBody.elim

/-- Lowering arguments. -/
theorem locates_lowerArguments (calls : CallsLocate holds registry name revive) :
    ∀ (trees : List Expr), Expr.AreBodies trees → (∀ tree ∈ trees, tree.IsNested holds) → ∀ scope,
    Locates holds registry name (lowerArguments revive scope trees)
  | [], _, _, _ => .pure _
  | tree :: rest, areBodies, nested, scope =>
    have own := nested tree List.mem_cons_self
    locates_operand (locates_lower calls tree areBodies.1 own scope) own fun _ =>
      .bind (locates_lowerArguments calls rest areBodies.2
        (fun other member => nested other (List.mem_cons_of_mem _ member)) scope) fun _ => .pure _

/-- Lowering a tree that may be left out. -/
theorem locates_lowerOptional (calls : CallsLocate holds registry name revive) :
    ∀ (tree : Option Expr), Expr.IsOptionalBody tree →
      (∀ expr ∈ tree.toList, expr.IsNested holds) → ∀ scope absent,
    Locates holds registry name (lowerOptional revive scope absent tree)
  | none, _, _, _, _ => .pure _
  | some tree, isBody, nested, scope, _ =>
    have own := nested tree List.mem_cons_self
    .bind (locates_lower calls tree isBody own scope) fun _ => locates_asValue own.own _

end

end Rules

/-- A definition fails at its prototype or at a tree of its body, or with an error of code. -/
theorem locates_definition (sound : registry.IsSound) (distinct : registry.DeclaresDistinct)
    {signature : Prototype} {body : Expr} {span : Span} (isBody : body.IsBody)
    (nested : (Expr.function signature body span).IsNested holds) (depth : Nat) :
    Locates holds registry name (define signature fun scope => do
      asValue body.span (← lower (recallWithin depth) scope body)) := by
  have own := (nested.child List.mem_cons_self).own
  have inner := nested.child (List.mem_cons_of_mem _ List.mem_cons_self)
  have calls : CallsLocate holds registry name (recallWithin depth) :=
    locates_callee sound distinct ((stable_isWithin registry name).recallWithin sound depth)
  exact locates_define own fun scope =>
    .bind (locates_lower calls body isBody inner scope) fun _ => locates_asValue inner.own _

/-- What a form introduces is undone after an error, which stays the same. -/
theorem error_of_undone {own : String} {before after : Lowering} {error : LowerError}
    {result : EStateM.Result LowerError Lowering Nat}
    (failed : undone own before result = .error error after) :
    ∃ last, result = .error error last := by
  cases result with
  | ok id last => contradiction
  | error cause last =>
    cases failed
    exact ⟨last, rfl⟩

/-- An error of a form stands at the place of one of its trees, or it is one of code. -/
theorem isAt_form {tree : Expr} (isForm : tree.IsForm) (nested : tree.IsNested holds)
    {before after : Lowering} (sound : before.registry.IsSound)
    (distinct : before.registry.DeclaresDistinct) (isOpen : before.builder.IsOpen name)
    {error : LowerError} (failed : form tree before = .error error after) : error.IsAt holds := by
  have entered := sound.enter isForm
  cases isForm with
  | @job signature body span anonymous closed isBody calls =>
    rw [form_job_eq span before anonymous] at failed
    exact (locates_definition sound distinct isBody nested _).isAt failed ⟨rfl, isOpen⟩
  | @definition signature body span named ordinary isBody calls =>
    have introduces : Expr.entry? (.function signature body span) = some (.function signature body) :=
      if_neg (by simp [named])
    rw [Registry.enter, introduces] at entered
    have others := distinct.insert signature.linkedName (.function signature body)
      fun _ same => by contradiction
    rw [form_definition_eq span before named] at failed
    obtain ⟨last, failed⟩ := error_of_undone failed
    exact (locates_definition entered others isBody nested _).isAt failed ⟨rfl, isOpen⟩
  | @declaration signature span named ordinary =>
    rw [form_declaration_eq span before] at failed
    obtain ⟨last, failed⟩ := error_of_undone failed
    have own : holds signature.span := (nested.child List.mem_cons_self).own
    exact (locates_declare own).isAt failed ⟨rfl, isOpen⟩

/-- The parameters of a declaration that could be lowered are distinct. -/
theorem distinct_of_form {tree : Expr} {before after : Lowering} {id : Nat}
    (done : form tree before = .ok id after) (prototype : Prototype)
    (introduces : tree.entry? = some (.declaration prototype)) :
    duplicate? [] prototype.parameters = none := by
  cases tree with
  | declaration signature span =>
    cases introduces
    rw [form_declaration_eq span before] at done
    cases twice : duplicate? [] prototype.parameters with
    | none => rfl
    | some own =>
      unfold declare at done
      rw [twice] at done
      contradiction
  | function signature body span =>
    simp only [Expr.entry?] at introduces
    split at introduces <;> cases introduces
  | _ => cases introduces

end Lower

end Kaleidoscope
