import Kaleidoscope.Proofs.Lowering.Agreement

/-!
# Lowering of expressions, followed step by step

An expression is lowered as it is checked, and the code that comes about is that of `Draft.lower`
(`Lower.agrees_lower`). Definitions that are lowered on the way are left to a rule that is taken to
agree with the rule of checking (`Lower.RecallAgrees`); they leave the routine being filled alone.
-/
namespace Kaleidoscope.Lower

open Code

/-- A rule for definitions of the registry agrees with one of checking. -/
def RecallAgrees (registry : Registry) (revive : Prototype → Expr → Lower Nat)
    (check : Prototype → Expr → Check PUnit) : Prop :=
  ∀ prototype body state ledger,
    registry.lookup? prototype.linkedName = some (.function prototype body) →
    Tallies registry state ledger →
    Agrees registry none (revive prototype body) (check prototype body) state ledger
      fun target after => after.builder.lookup? prototype.linkedName = some target

/-- A value has been written into a routine of some number of blocks or more, as it is written into
a draft when calls go where the names of the unit say. -/
def Writes {α : Type} (id blocks : Nat) (written : (String → Nat) → α × Draft) (value : α)
    (after : Lowering) : Prop :=
  ∃ draft, after.builder.Filling id draft ∧ blocks ≤ draft.size ∧
    ∀ callee, after.builder.Reads callee → written callee = (value, draft)

/-- What a ledger and a unit that match hold for a name. -/
theorem matches_cases {builder : Builder} {ledger : Ledger} (agree : builder.Matches ledger)
    {name : String} (ordinary : IsOrdinary name) :
    (ledger.known name = none ∧ builder.lookup? name = none) ∨
      ∃ status id, ledger.known name = some status ∧ builder.lookup? name = some id ∧
        status.arity = builder.parameterCount id ∧ status.source.isSome = builder.hasBody id := by
  have same := agree name ordinary
  rw [Builder.status?] at same
  cases known : ledger.known name with
  | none =>
    rw [known, Option.map_none, eq_comm, Option.map_eq_none_iff] at same
    exact .inl ⟨rfl, same⟩
  | some status =>
    rw [known, Option.map_some, eq_comm, Option.map_eq_some_iff] at same
    obtain ⟨id, found, both⟩ := same
    obtain ⟨arity, filled⟩ := Prod.mk.inj both
    exact .inr ⟨status, id, rfl, found, arity.symm, filled.symm⟩

section Steps

variable {registry : Registry} {state : Lowering} {ledger : Ledger} {id : Nat} {draft : Draft}

/-- A variable is visible to lowering exactly if it is to checking. -/
theorem agrees_slotOf {current : Option Nat} (tallies : Tallies registry state ledger)
    (scope : Scope Nat) (name : String) (span : Span) :
    Agrees registry current (slotOf (scope.refs id) name span)
      (Check.visible scope.names name span) state ledger fun slot after =>
        slot = ⟨id, Draft.slotOf scope name⟩ ∧ after = state := by
  have visible : (scope.lookup? name).isSome ↔ name ∈ scope.names := by
    unfold Scope.lookup? Scope.names
    rw [List.lookup_isSome_iff, List.mem_map]
    constructor
    · rintro ⟨entry, member, same⟩
      exact ⟨entry, member, (beq_iff_eq.1 same).symm⟩
    · rintro ⟨entry, member, same⟩
      exact ⟨entry, member, beq_iff_eq.2 same.symm⟩
  unfold slotOf Check.visible
  rw [Scope.lookup?_refs]
  cases found : scope.lookup? name with
  | none =>
    rw [if_neg (by rw [← visible, found]; simp)]
    exact .throw _ tallies
  | some slot =>
    rw [if_pos (by rw [← visible, found]; rfl)]
    refine .pure tallies ⟨?_, rfl⟩
    rw [Draft.slotOf, found]
    rfl

/-- The number of a tree is what the rest goes on with. -/
theorem agrees_value {β : Type} {action : Lower Artifact} {next : Operand → Lower β}
    {check rest : Check PUnit} {span : Span} {blocks : Nat}
    {written : (String → Nat) → Operand × Draft}
    {target : β → Lowering → Prop}
    (front : Agrees registry (some id) action check state ledger fun artifact after =>
      ∃ operand, artifact = .value operand ∧ Writes id blocks written operand after)
    (back : ∀ operand middle noted, Tallies registry middle noted →
      Writes id blocks written operand middle →
      Agrees registry (some id) (next operand) rest middle noted fun result after =>
        Builder.Grows registry (some id) middle.builder after.builder → target result after) :
    Agrees registry (some id) (do let found ← action; let operand ← asValue span found; next operand)
      (do check; rest) state ledger target := by
  refine front.bind ?_
  rintro _ middle noted tallies ⟨operand, rfl, writes⟩
  exact back operand middle noted tallies writes

/-- The number of a tree is what the rest goes on with that needs no check. -/
theorem agrees_value_last {β : Type} {action : Lower Artifact} {next : Operand → Lower β}
    {check : Check PUnit} {span : Span} {blocks : Nat}
    {written : (String → Nat) → Operand × Draft}
    {target : β → Lowering → Prop}
    (front : Agrees registry (some id) action check state ledger fun artifact after =>
      ∃ operand, artifact = .value operand ∧ Writes id blocks written operand after)
    (back : ∀ operand middle noted, Tallies registry middle noted →
      Writes id blocks written operand middle →
      Agrees registry (some id) (next operand) (Pure.pure ⟨⟩) middle noted fun result after =>
        Builder.Grows registry (some id) middle.builder after.builder → target result after) :
    Agrees registry (some id) (do let found ← action; let operand ← asValue span found; next operand)
      check state ledger target := by
  refine front.bind_last ?_
  rintro _ middle noted tallies ⟨operand, rfl, writes⟩
  exact back operand middle noted tallies writes

/-- The routine being filled stays when others are lowered. -/
theorem filling_of_grows {after : Lowering} (filling : state.builder.Filling id draft)
    (tallies : Tallies registry after ledger)
    (grows : Builder.Grows registry none state.builder after.builder) :
    (after.builder.moveTo ⟨id, draft.block⟩).Filling id draft where
  faultless := tallies.sound.faultless
  found := grows.kept (by simp) filling.found filling.hasBody
  cursor_eq := rfl
  inside := filling.inside

/-- Moving the cursor changes nothing that a ledger says. -/
theorem tallies_moveTo (tallies : Tallies registry state ledger) (block : BlockRef) :
    Tallies registry { state with builder := state.builder.moveTo block } ledger :=
  ⟨tallies.registry_eq,
    ⟨tallies.sound.faultless, tallies.sound.isOpen, tallies.sound.named, tallies.sound.found,
      tallies.sound.bare⟩, tallies.agree⟩

/-- What happens while nothing is filled may happen while something is. -/
theorem Agrees.weaken {α : Type} {action : Lower α} {check : Check PUnit}
    {post : α → Lowering → Prop}
    (agrees : Agrees registry none action check state ledger post) (id : Nat) :
    Agrees registry (some id) action check state ledger fun value after =>
      post value after ∧ Builder.Grows registry none state.builder after.builder := by
  rw [agrees_iff] at agrees ⊢
  generalize action state = lowered at agrees ⊢
  generalize check ledger = checked at agrees ⊢
  obtain ⟨⟨tallies, anonymous, grows⟩, holds⟩ | ⟨tallies, anonymous, grows⟩ := agrees
  · exact .ok ⟨tallies, anonymous, grows.weaken _⟩ ⟨holds, grows⟩
  · exact .error ⟨tallies, anonymous, grows.weaken _⟩

/-- A routine is declared as it is checked: it has no body, and the name means it. -/
theorem agrees_declare (tallies : Tallies registry state ledger) {prototype : Prototype}
    (named : prototype.isAnonymous = false) (ordinary : IsOrdinary prototype.linkedName) :
    Agrees registry none (declare prototype) (Check.declare prototype) state ledger
      fun target after => after.builder.lookup? prototype.linkedName = some target ∧
        after.builder.cursor = state.builder.cursor ∧
        ∃ shown, shown.length = prototype.parameters.length ∧
          after.builder.routine? target = some (.declared prototype.linkedName shown) := by
  unfold declare Check.declare
  cases duplicate? [] prototype.parameters with
  | some name => exact .throw _ tallies
  | none =>
    simp only [named, Bool.false_eq_true, if_false]
    rcases matches_cases tallies.agree ordinary with
      ⟨unknown, free⟩ | ⟨status, target, known, means, arity, filled⟩
    · obtain ⟨unit, isOpen⟩ := tallies.sound.isOpen
      simp only [Agrees, Bind.bind, EStateM.bind, get_apply, free,
        unknown, build, Builder.declareFunction_eq isOpen tallies.sound.faultless, modify_apply]
      refine ⟨⟨⟨tallies.registry_eq, tallies.sound.declared isOpen fun _ => free, ?_⟩, rfl,
        Builder.grows_declared isOpen registry none fun _ => free⟩, ?_, rfl,
        prototype.parameters, rfl, ?_⟩
      · intro name usual
        rw [Builder.status?_declared isOpen tallies.sound, ← tallies.agree name usual]
        simp only [Ledger.set]
        split <;> rfl
      · rw [Builder.lookup?_declared, if_pos rfl]
      · rw [Builder.routine?_declared, if_pos rfl]
    · simp only [Agrees, Bind.bind, EStateM.bind, get_apply, means,
        known, arity, filled]
      by_cases count : state.builder.parameterCount target = prototype.parameters.length
      · simp only [count, ne_eq, not_true_eq_false, if_false]
        cases body : state.builder.hasBody target with
        | true => exact ⟨rfl, .refl none tallies⟩
        | false =>
          refine ⟨.refl none tallies, means, rfl, ?_⟩
          obtain ⟨routine, here, same⟩ := tallies.sound.named means
          rw [Builder.hasBody, here, Option.any_some] at body
          rw [Builder.parameterCount, here] at count
          refine ⟨routine.parameters, count, ?_⟩
          rw [here, ← same, ← tallies.sound.bare here body]
      · simp only [ne_eq, count, not_false_eq_true, if_true]
        exact ⟨rfl, .refl none tallies⟩

section Resolving

variable {revive : Prototype → Expr → Lower Nat} {check : Prototype → Expr → Check PUnit}

/-- A definition of an earlier batch leaves the routine being filled as it was. -/
theorem agrees_inDefinition {action : Lower Nat} {checks : Check PUnit} {named : String}
    (filling : state.builder.Filling id draft) (name : String) (span : Span)
    (agrees : Agrees registry none action checks state ledger fun target after =>
      after.builder.lookup? named = some target) :
    Agrees registry (some id) (inDefinition name span (some ⟨id, draft.block⟩) action)
      (Check.inDefinition name span checks) state ledger fun target after =>
        after.builder.lookup? named = some target ∧ after.builder.Filling id draft := by
  rw [agrees_iff] at agrees ⊢
  unfold inDefinition Check.inDefinition
  generalize action state = lowered at agrees
  generalize checks ledger = checked at agrees
  cases agrees with
  | ok leaves means =>
    obtain ⟨tallies, anonymous, grows⟩ := leaves
    exact .ok ⟨tallies_moveTo tallies _, anonymous, (grows.weaken (some id)).moveTo _⟩
      ⟨means, filling_of_grows filling tallies grows⟩
  | @error error after noted leaves =>
    obtain ⟨tallies, anonymous, grows⟩ := leaves
    have leaves : Leaves registry (some id) state
        { after with builder := after.builder.moveTo ⟨id, draft.block⟩ } noted :=
      ⟨tallies_moveTo tallies _, anonymous, (grows.weaken (some id)).moveTo _⟩
    cases error <;> exact .error leaves

/-- A call goes to the routine of its name, as it is checked. -/
theorem agrees_resolve (sound : registry.IsSound) (recalls : RecallAgrees registry revive check)
    (tallies : Tallies registry state ledger) (filling : state.builder.Filling id draft)
    {name : String} (ordinary : IsOrdinary name) (span : Span) :
    Agrees registry (some id) (resolve revive name span) (Check.resolve registry check name span)
      state ledger fun target after =>
        after.builder.lookup? name = some target ∧ after.builder.Filling id draft := by
  unfold resolve Check.resolve
  refine .get ?_
  simp only
  rw [tallies.registry_eq]
  rcases matches_cases tallies.agree ordinary with
    ⟨unknown, free⟩ | ⟨status, target, known, means, _, filled⟩
  · rw [unknown, free]
    simp only [Option.filter_none]
    cases found : registry.lookup? name with
    | none => exact .throw _ tallies
    | some entry =>
      have linked := sound.linked found
      subst linked
      cases entry with
      | function prototype body =>
        refine Agrees.ask (Build.insertBlock_eq filling) ?_
        exact agrees_inDefinition filling _ span (recalls prototype body state ledger found tallies)
      | declaration prototype =>
        have named := (sound.ordinary found).1
        refine ((agrees_declare tallies named ordinary).weaken id).imp ?_
        rintro target after noted leaves ⟨⟨means, cursor, _⟩, grows⟩
        exact ⟨means, leaves.tallies.sound.faultless,
          grows.kept (by simp) filling.found filling.hasBody,
          by rw [cursor, filling.cursor_eq], filling.inside⟩
  · rw [known, means]
    cases body : state.builder.hasBody target with
    | true =>
      have source : status.source.isSome = true := filled.trans body
      rw [Option.filter_some, if_pos body, Option.filter_some, if_pos source]
      exact .pure tallies ⟨means, filling⟩
    | false =>
      have source : ¬ status.source.isSome = true := by rw [filled, body]; simp
      rw [Option.filter_some, if_neg (by simp [body]), Option.filter_some, if_neg source]
      cases found : registry.lookup? name with
      | none => exact .throw _ tallies
      | some entry =>
        have linked := sound.linked found
        subst linked
        cases entry with
        | function prototype tree =>
          refine Agrees.ask (Build.insertBlock_eq filling) ?_
          exact agrees_inDefinition filling _ span
            (recalls prototype tree state ledger found tallies)
        | declaration prototype => exact .pure tallies ⟨means, filling⟩

/-- A call with some number of arguments goes to the routine of its name, as it is checked. -/
theorem agrees_callee (sound : registry.IsSound) (recalls : RecallAgrees registry revive check)
    (tallies : Tallies registry state ledger) (filling : state.builder.Filling id draft)
    {name : String} (ordinary : IsOrdinary name) (count : Nat) (span : Span) :
    Agrees registry (some id) (callee revive name count span)
      (Check.callee registry check name count span) state ledger fun target after =>
        after.builder.lookup? name = some target ∧ after.builder.Filling id draft := by
  unfold callee Check.callee
  refine (agrees_resolve sound recalls tallies filling ordinary span).bind ?_
  rintro target middle noted here ⟨means, still⟩
  show Agrees registry (some id) (if middle.builder.parameterCount target ≠ count then _ else _)
    (if (noted.arity? name).getD 0 ≠ count then _ else _) middle noted _
  have arity : (noted.arity? name).getD 0 = middle.builder.parameterCount target := by
    rcases matches_cases here.agree ordinary with
      ⟨_, free⟩ | ⟨status, other, known, found, same, _⟩
    · rw [means] at free
      contradiction
    · cases means.symm.trans found
      rw [Ledger.arity?, known, Option.map_some, Option.getD_some, same]
  rw [arity]
  by_cases fits : middle.builder.parameterCount target = count
  · rw [if_neg (by simp [fits]), if_neg (by simp [fits])]
    exact .pure here fun _ => ⟨means, still⟩
  · rw [if_pos fits, if_pos fits]
    exact .throw _ here

end Resolving

section Growing

variable {β : Type} {target : β → Lowering → Prop} {check : Check PUnit}

/-- The routine being filled is known. -/
theorem agrees_currentFunction {next : Nat → Lower β} (filling : state.builder.Filling id draft)
    (back : Agrees registry (some id) (next id) check state ledger target) :
    Agrees registry (some id) (do let current ← currentFunction; next current) check state ledger
      target := by
  have same : (currentFunction >>= next) state = next id state := by
    show EStateM.bind _ _ _ = _
    simp only [EStateM.bind, currentFunction, Bind.bind, build, Build.currentFunction_eq filling]
    rfl
  rw [agrees_iff] at back ⊢
  rw [same]
  exact back

/-- A value is stored in a new slot. -/
theorem agrees_reserve {next : SlotRef → Lower β} (tallies : Tallies registry state ledger)
    (filling : state.builder.Filling id draft) (name : String) (value : Operand)
    (back : ∀ middle : Lowering, Tallies registry middle ledger →
      middle.builder.Filling id ((draft.reserve name).push (.store draft.slotCount value)) →
      Agrees registry (some id) (next ⟨id, draft.slotCount⟩) check middle ledger
        fun result after => Builder.Grows registry (some id) middle.builder after.builder →
          target result after) :
    Agrees registry (some id)
      (do let slot ← build (.slot id name); build (.store slot value); next slot)
      check state ledger target := by
  refine Agrees.hold tallies filling (Draft.continues_reserve filling.inside name)
    (Build.slot_eq filling name) fun middle tallies filling => ?_
  refine Agrees.hold tallies filling (Draft.continues_push filling.inside _)
    (Build.store_eq filling _ value) fun last tallies filling => ?_
  exact (back last tallies filling).imp fun result after noted leaves holds grows _ => holds grows

/-- Three blocks are added, of which the first is filled next. -/
theorem agrees_fork {next : BlockRef → BlockRef → BlockRef → Lower β}
    (tallies : Tallies registry state ledger) (filling : state.builder.Filling id draft)
    (condition : Operand)
    (back : ∀ middle : Lowering, Tallies registry middle ledger →
      middle.builder.Filling id (draft.fork condition) →
      Agrees registry (some id) (next ⟨id, draft.size⟩ ⟨id, draft.size + 1⟩ ⟨id, draft.size + 2⟩)
        check middle ledger fun result after =>
          Builder.Grows registry (some id) middle.builder after.builder → target result after) :
    Agrees registry (some id)
      (do
        let first ← build (.appendBlock id "then")
        let second ← build (.appendBlock id "else")
        let merge ← build (.appendBlock id "ifcont")
        build (.conditionalBranch condition first second)
        build (.moveTo first)
        next first second merge) check state ledger target := by
  refine Agrees.hold tallies filling (Draft.continues_append filling.inside _)
    (Build.appendBlock_eq filling _) fun _ tallies filling => ?_
  refine Agrees.hold tallies filling (Draft.continues_append filling.inside _)
    (Build.appendBlock_eq filling _) fun _ tallies filling => ?_
  refine Agrees.hold tallies filling (Draft.continues_append filling.inside _)
    (Build.appendBlock_eq filling _) fun _ tallies filling => ?_
  simp only [Draft.size_append]
  refine Agrees.hold tallies filling (Draft.continues_finish filling.inside _)
    (Build.conditionalBranch_eq filling condition _ _) fun _ tallies filling => ?_
  refine Agrees.hold tallies filling
    (Draft.continues_moveTo draft.size (by simp; omega))
    (Build.moveTo_eq filling _) fun last tallies filling => ?_
  exact (back last tallies filling).imp fun result after noted leaves holds grows _ _ _ _ =>
    holds grows

/-- A block is left for one of two others, and the next one is filled. -/
theorem agrees_leaveTo {next : Option BlockRef → Lower β} {merge : Nat} (block : Nat)
    (tallies : Tallies registry state ledger) (filling : state.builder.Filling id draft)
    (inside : block < draft.size)
    (back : ∀ middle : Lowering, Tallies registry middle ledger →
      middle.builder.Filling id (draft.leaveTo merge block) →
      Agrees registry (some id) (next (some ⟨id, draft.block⟩)) check middle ledger
        fun result after => Builder.Grows registry (some id) middle.builder after.builder →
          target result after) :
    Agrees registry (some id)
      (do
        build (.branch ⟨id, merge⟩)
        let last ← build .insertBlock
        build (.moveTo ⟨id, block⟩)
        next last) check state ledger target := by
  refine Agrees.hold tallies filling (Draft.continues_finish filling.inside _)
    (Build.branch_eq filling merge) fun _ tallies filling => ?_
  refine Agrees.ask (Build.insertBlock_eq filling) ?_
  refine Agrees.hold tallies filling (Draft.continues_moveTo block (by simpa using inside))
    (Build.moveTo_eq filling _) fun last tallies filling => ?_
  exact (back last tallies filling).imp fun result after noted leaves holds grows _ => holds grows

/-- The block of a loop is added and entered. -/
theorem agrees_enterLoop {next : BlockRef → Lower β} (tallies : Tallies registry state ledger)
    (filling : state.builder.Filling id draft)
    (back : ∀ middle : Lowering, Tallies registry middle ledger →
      middle.builder.Filling id draft.enterLoop →
      Agrees registry (some id) (next ⟨id, draft.size⟩) check middle ledger fun result after =>
        Builder.Grows registry (some id) middle.builder after.builder → target result after) :
    Agrees registry (some id)
      (do
        let repeated ← build (.appendBlock id "loop")
        build (.branch repeated)
        build (.moveTo repeated)
        next repeated) check state ledger target := by
  refine Agrees.hold tallies filling (Draft.continues_append filling.inside _)
    (Build.appendBlock_eq filling _) fun _ tallies filling => ?_
  refine Agrees.hold tallies filling (Draft.continues_finish filling.inside _)
    (Build.branch_eq filling _) fun _ tallies filling => ?_
  refine Agrees.hold tallies filling (Draft.continues_moveTo draft.size (by simp))
    (Build.moveTo_eq filling _) fun last tallies filling => ?_
  exact (back last tallies filling).imp fun result after noted leaves holds grows _ _ => holds grows

/-- A loop is repeated under a condition, and the block after it is filled next. -/
theorem agrees_leaveLoop {next : Lower β} (head : Nat) (tallies : Tallies registry state ledger)
    (filling : state.builder.Filling id draft) (condition : Operand)
    (back : ∀ middle : Lowering, Tallies registry middle ledger →
      middle.builder.Filling id (draft.leaveLoop condition head) →
      Agrees registry (some id) next check middle ledger fun result after =>
        Builder.Grows registry (some id) middle.builder after.builder → target result after) :
    Agrees registry (some id)
      (do
        let after ← build (.appendBlock id "afterloop")
        build (.conditionalBranch condition ⟨id, head⟩ after)
        build (.moveTo after)
        next) check state ledger target := by
  refine Agrees.hold tallies filling (Draft.continues_append filling.inside _)
    (Build.appendBlock_eq filling _) fun _ tallies filling => ?_
  refine Agrees.hold tallies filling (Draft.continues_finish filling.inside _)
    (Build.conditionalBranch_eq filling condition _ _) fun _ tallies filling => ?_
  refine Agrees.hold tallies filling (Draft.continues_moveTo draft.size (by simp))
    (Build.moveTo_eq filling _) fun last tallies filling => ?_
  exact (back last tallies filling).imp fun result after noted leaves holds grows _ _ => holds grows

end Growing

end Steps

section Expressions

variable (registry : Registry) (revive : Prototype → Expr → Lower Nat)
  (check : Prototype → Expr → Check PUnit) (id : Nat) (scope : Scope Nat)

/-- An expression is lowered as it is checked, to the code of `Draft.lower`. -/
def LowersAs (tree : Expr) : Prop :=
  ∀ (draft : Draft) (state : Lowering) (ledger : Ledger), Tallies registry state ledger →
    state.builder.Filling id draft →
    Agrees registry (some id) (lower revive (scope.refs id) tree)
      (Check.expr registry check scope.names tree) state ledger fun artifact after =>
        ∃ operand, artifact = .value operand ∧
          Writes id draft.size (fun callee => Draft.lower callee scope tree draft) operand after

/-- Arguments are lowered as they are checked. -/
def AllLowerAs (trees : List Expr) : Prop :=
  ∀ (draft : Draft) (state : Lowering) (ledger : Ledger), Tallies registry state ledger →
    state.builder.Filling id draft →
    Agrees registry (some id) (lowerArguments revive (scope.refs id) trees)
      (Check.exprs registry check scope.names trees) state ledger
      (Writes id draft.size fun callee => Draft.lowerArguments callee scope trees draft)

/-- An expression that may be left out is lowered as it is checked. -/
def OptionalLowersAs (absent : Float) (tree : Option Expr) : Prop :=
  ∀ (draft : Draft) (state : Lowering) (ledger : Ledger), Tallies registry state ledger →
    state.builder.Filling id draft →
    Agrees registry (some id) (lowerOptional revive (scope.refs id) absent tree)
      (Check.optional registry check scope.names tree) state ledger
      (Writes id draft.size fun callee => Draft.lowerOptional callee scope absent tree draft)

variable {registry : Registry} {revive : Prototype → Expr → Lower Nat}
  {check : Prototype → Expr → Check PUnit} {id : Nat} {scope : Scope Nat}

/-- A number is the operand itself. -/
theorem agrees_number (value : Float) (span : Span) :
    LowersAs registry revive check id scope (.number value span) := by
  intro draft state ledger tallies filling
  simp only [lower_number, Check.expr_number]
  exact .pure tallies ⟨_, rfl, draft, filling, Nat.le_refl _, fun callee _ => by
    simp only [Draft.lower]⟩

/-- A variable is loaded. -/
theorem agrees_var (name : String) (span : Span) :
    LowersAs registry revive check id scope (.var name span) := by
  intro draft state ledger tallies filling
  simp only [lower, Check.expr]
  refine (agrees_slotOf tallies scope name span).bind_last ?_
  rintro _ middle noted here ⟨rfl, rfl⟩
  refine Agrees.hold here filling (Draft.continues_emit filling.inside _)
    (Build.load_eq filling _) fun last tallies filling => ?_
  refine .pure tallies fun _ _ => ⟨_, rfl, _, filling, by simp [Draft.emit], fun callee _ => ?_⟩
  simp only [Draft.lower]

/-- An assignment stores the value of its right operand, if its left operand is a variable. -/
theorem agrees_assign {right : Expr} (ofRight : LowersAs registry revive check id scope right)
    (operator : Token) (left : Expr) (span : Span) :
    LowersAs registry revive check id scope (.binary operator .assign left right span) := by
  intro draft state ledger tallies filling
  cases left with
  | var name place =>
    simp only [lower, Check.expr]
    refine agrees_value (ofRight draft state ledger tallies filling) fun value middle noted tallies writes => ?_
    obtain ⟨between, filling, more, written⟩ := writes
    refine (agrees_slotOf tallies scope name place).bind_last ?_
    rintro _ middle noted here ⟨rfl, rfl⟩
    refine Agrees.hold here filling (Draft.continues_push filling.inside _)
      (Build.store_eq filling _ value) fun last tallies filling => ?_
    refine .pure tallies fun _ _ grown =>
      ⟨_, rfl, _, filling, by simpa using more, fun callee reads => ?_⟩
    have same : Draft.lower callee scope right draft = (value, between) :=
      written callee (reads.earlier grown)
    simp only [Draft.lower, same]
  | _ =>
    simp only [lower, Check.expr]
    exact .throw _ tallies

/-- A binary operator that a program has defined is called. -/
theorem agrees_userBinary (sound : registry.IsSound) (recalls : RecallAgrees registry revive check)
    {name : String} (named : IsOrdinary ("binary_" ++ name)) {left right : Expr}
    (ofLeft : LowersAs registry revive check id scope left)
    (ofRight : LowersAs registry revive check id scope right) (operator : Token) (span : Span) :
    LowersAs registry revive check id scope (.binary operator (.user name) left right span) := by
  intro draft state ledger tallies filling
  simp only [lower, Check.expr]
  refine (agrees_callee sound recalls tallies filling named 2 span).bind ?_
  rintro target called noted tallies ⟨means, filling⟩
  refine agrees_value (ofLeft draft called noted tallies filling)
    fun one first noted tallies writes => ?_
  obtain ⟨front, filling, frontMore, firstWritten⟩ := writes
  refine agrees_value_last (ofRight front first noted tallies filling)
    fun two second noted tallies writes => ?_
  obtain ⟨back, filling, backMore, secondWritten⟩ := writes
  refine Agrees.hold tallies filling (Draft.continues_emit filling.inside _)
    (Build.call_eq filling target _) fun last tallies filling => ?_
  refine .pure tallies fun _ secondGrown firstGrown calledGrown =>
    ⟨_, rfl, _, filling, by simp [Draft.emit]; omega, fun callee reads => ?_⟩
  have firstSame : Draft.lower callee scope left draft = (one, front) :=
    firstWritten callee (reads.earlier firstGrown)
  have secondSame : Draft.lower callee scope right front = (two, back) :=
    secondWritten callee (reads.earlier secondGrown)
  have targetSame : callee ("binary_" ++ name) = target :=
    reads named (calledGrown.lookup named means)
  simp only [Draft.lower, firstSame, secondSame, targetSame]

/-- A binary operator that is built in is computed. -/
theorem agrees_builtinBinary {left right : Expr}
    (ofLeft : LowersAs registry revive check id scope left)
    (ofRight : LowersAs registry revive check id scope right) (token : Token)
    (operator : BuiltinOperator) (span : Span) :
    LowersAs registry revive check id scope (.binary token (.builtin operator) left right span) := by
  intro draft state ledger tallies filling
  simp only [lower, Check.expr]
  refine agrees_value (ofLeft draft state ledger tallies filling)
    fun one first noted tallies writes => ?_
  obtain ⟨front, filling, frontMore, firstWritten⟩ := writes
  refine agrees_value_last (ofRight front first noted tallies filling)
    fun two second noted tallies writes => ?_
  obtain ⟨back, filling, backMore, secondWritten⟩ := writes
  refine Agrees.hold tallies filling (Draft.continues_emit filling.inside _)
    (Build.operate_eq filling operator one two) fun last tallies filling => ?_
  refine .pure tallies fun _ secondGrown firstGrown =>
    ⟨_, rfl, _, filling, by simp [Draft.emit]; omega, fun callee reads => ?_⟩
  have firstSame : Draft.lower callee scope left draft = (one, front) :=
    firstWritten callee (reads.earlier firstGrown)
  have secondSame : Draft.lower callee scope right front = (two, back) :=
    secondWritten callee (reads.earlier secondGrown)
  simp only [Draft.lower, firstSame, secondSame]
  rfl

/-- A unary operator is called. -/
theorem agrees_unary (sound : registry.IsSound) (recalls : RecallAgrees registry revive check)
    {operator : Token} (named : IsOrdinary (Expr.unaryCallee operator)) {operand : Expr}
    (ofOperand : LowersAs registry revive check id scope operand) (span : Span) :
    LowersAs registry revive check id scope (.unary operator operand span) := by
  intro draft state ledger tallies filling
  simp only [lower, Check.expr]
  refine (agrees_callee sound recalls tallies filling named 1 span).bind ?_
  rintro target called noted tallies ⟨means, filling⟩
  refine agrees_value_last (ofOperand draft called noted tallies filling)
    fun value middle noted tallies writes => ?_
  obtain ⟨between, filling, more, written⟩ := writes
  refine Agrees.hold tallies filling (Draft.continues_emit filling.inside _)
    (Build.call_eq filling target _) fun last tallies filling => ?_
  refine .pure tallies fun _ grown calledGrown =>
    ⟨_, rfl, _, filling, by simpa [Draft.emit] using more, fun callee reads => ?_⟩
  have same : Draft.lower callee scope operand draft = (value, between) :=
    written callee (reads.earlier grown)
  have targetSame : callee (Expr.unaryCallee operator) = target :=
    reads named (calledGrown.lookup named means)
  simp only [Draft.lower, same, targetSame]

/-- A call is made once its arguments have been computed. -/
theorem agrees_call (sound : registry.IsSound) (recalls : RecallAgrees registry revive check)
    {name : String} (named : IsOrdinary name) {arguments : List Expr}
    (ofArguments : AllLowerAs registry revive check id scope arguments) (span : Span) :
    LowersAs registry revive check id scope (.call name arguments span) := by
  intro draft state ledger tallies filling
  simp only [lower, Check.expr]
  refine (agrees_callee sound recalls tallies filling named arguments.length span).bind ?_
  rintro target called noted tallies ⟨means, filling⟩
  refine (ofArguments draft called noted tallies filling).bind_last ?_
  rintro values middle noted tallies ⟨between, filling, more, written⟩
  refine Agrees.hold tallies filling (Draft.continues_emit filling.inside _)
    (Build.call_eq filling target _) fun last tallies filling => ?_
  refine .pure tallies fun _ grown calledGrown =>
    ⟨_, rfl, _, filling, by simpa [Draft.emit] using more, fun callee reads => ?_⟩
  have same : Draft.lowerArguments callee scope arguments draft = (values, between) :=
    written callee (reads.earlier grown)
  have targetSame : callee name = target := reads named (calledGrown.lookup named means)
  simp only [Draft.lower, same, targetSame]

/-- A conditional joins the values of its two branches. -/
theorem agrees_conditional {condition consequent alternative : Expr}
    (ofCondition : LowersAs registry revive check id scope condition)
    (ofConsequent : LowersAs registry revive check id scope consequent)
    (ofAlternative : LowersAs registry revive check id scope alternative) (span : Span) :
    LowersAs registry revive check id scope
      (.conditional condition consequent alternative span) := by
  intro draft state ledger tallies filling
  simp only [lower, Check.expr]
  refine agrees_value (ofCondition draft state ledger tallies filling)
    fun chosen started noted tallies writes => ?_
  obtain ⟨front, filling, frontMore, chosenWritten⟩ := writes
  refine Agrees.hold tallies filling (Draft.continues_emit filling.inside _)
    (Build.truthTest_eq filling chosen) fun tested tallies filling => ?_
  generalize probed : front.emit (.truth · chosen) = probe at *
  have probeMore : front.size = probe.2.size := by
    rw [← probed]
    simp [Draft.emit]
  refine agrees_currentFunction filling ?_
  refine agrees_fork tallies filling probe.1 fun forked tallies filling => ?_
  refine agrees_value (ofConsequent _ forked noted tallies filling)
    fun one first noted tallies writes => ?_
  obtain ⟨left, filling, leftMore, firstWritten⟩ := writes
  rw [Draft.size_fork] at leftMore
  refine agrees_leaveTo (probe.2.size + 1) tallies filling (by omega)
    fun switched tallies filling => ?_
  refine agrees_value_last (ofAlternative _ switched noted tallies filling)
    fun two second noted tallies writes => ?_
  obtain ⟨right, filling, rightMore, secondWritten⟩ := writes
  rw [Draft.size_leaveTo] at rightMore
  refine agrees_leaveTo (probe.2.size + 2) tallies filling (by omega)
    fun merged tallies filling => ?_
  refine Agrees.hold tallies filling (Draft.continues_emit filling.inside _)
    (Build.phi_eq filling [(one, left.block), (two, right.block)])
    fun last tallies filling => ?_
  refine .pure tallies fun _ _ secondGrown _ firstGrown _ _ chosenGrown =>
    ⟨_, rfl, _, filling, by simp [Draft.emit]; omega, fun callee reads => ?_⟩
  have chosenSame : Draft.lower callee scope condition draft = (chosen, front) :=
    chosenWritten callee (reads.earlier chosenGrown)
  have firstSame : Draft.lower callee scope consequent (probe.2.fork probe.1) = (one, left) :=
    firstWritten callee (reads.earlier firstGrown)
  have secondSame : Draft.lower callee scope alternative
      (left.leaveTo (probe.2.size + 2) (probe.2.size + 1)) = (two, right) :=
    secondWritten callee (reads.earlier secondGrown)
  simp only [Draft.lower, chosenSame, probed, firstSame, secondSame]

/-- A loop repeats its body, with its counter in a slot of its own. -/
theorem agrees_loop {counter : String} {start limit body : Expr} {step : Option Expr}
    (ofStart : LowersAs registry revive check id scope start)
    (ofBody : ∀ slot, LowersAs registry revive check id (scope.bind counter slot) body)
    (ofStep : ∀ slot, OptionalLowersAs registry revive check id (scope.bind counter slot) 1 step)
    (ofLimit : ∀ slot, LowersAs registry revive check id (scope.bind counter slot) limit)
    (span : Span) :
    LowersAs registry revive check id scope (.loop counter start limit step body span) := by
  intro draft state ledger tallies filling
  simp only [lower, Check.expr]
  refine agrees_currentFunction filling ?_
  refine agrees_value (ofStart draft state ledger tallies filling)
    fun initial started noted tallies writes => ?_
  obtain ⟨front, filling, frontMore, startWritten⟩ := writes
  refine agrees_reserve tallies filling counter initial fun stored tallies filling => ?_
  generalize reserved : (front.reserve counter).push (.store front.slotCount initial) = kept at *
  have keptMore : front.size = kept.size := by
    rw [← reserved]
    simp
  refine agrees_enterLoop tallies filling fun entered tallies filling => ?_
  refine agrees_value (ofBody front.slotCount _ entered noted tallies filling)
    fun ignored repeated noted tallies writes => ?_
  obtain ⟨inner, filling, innerMore, bodyWritten⟩ := writes
  rw [Draft.size_enterLoop] at innerMore
  refine Agrees.hold tallies filling (Draft.continues_emit filling.inside _)
    (Build.load_eq filling _) fun loaded tallies filling => ?_
  generalize load : inner.emit (.load · front.slotCount) = current at *
  have currentMore : inner.size = current.2.size := by
    rw [← load]
    simp [Draft.emit]
  refine (ofStep front.slotCount _ loaded noted tallies filling).bind ?_
  rintro increment stepped noted tallies ⟨further, filling, furtherMore, stepWritten⟩
  refine Agrees.hold tallies filling (Draft.continues_emit filling.inside _)
    (Build.arith_eq filling _ _ _) fun added tallies filling => ?_
  generalize add : further.emit (.arith · .add current.1 increment) = next at *
  have nextMore : further.size = next.2.size := by
    rw [← add]
    simp [Draft.emit]
  refine Agrees.hold tallies filling (Draft.continues_push filling.inside _)
    (Build.store_eq filling _ _) fun moved tallies filling => ?_
  refine agrees_value_last (ofLimit front.slotCount _ moved noted tallies filling)
    fun bound limited noted tallies writes => ?_
  obtain ⟨last, filling, lastMore, limitWritten⟩ := writes
  rw [Draft.size_push] at lastMore
  refine Agrees.hold tallies filling (Draft.continues_emit filling.inside _)
    (Build.truthTest_eq filling _) fun tested tallies filling => ?_
  generalize probed : last.emit (.truth · bound) = probe at *
  have probeMore : last.size = probe.2.size := by
    rw [← probed]
    simp [Draft.emit]
  refine agrees_leaveLoop kept.size tallies filling probe.1 fun left tallies filling => ?_
  refine .pure tallies fun _ _ limitGrown _ _ stepGrown _ bodyGrown _ _ startGrown =>
    ⟨_, rfl, _, filling, by simp; omega, fun callee reads => ?_⟩
  have startSame : Draft.lower callee scope start draft = (initial, front) :=
    startWritten callee (reads.earlier startGrown)
  have bodySame : Draft.lower callee (scope.bind counter front.slotCount) body kept.enterLoop =
      (ignored, inner) := bodyWritten callee (reads.earlier bodyGrown)
  have stepSame : Draft.lowerOptional callee (scope.bind counter front.slotCount) 1 step
      current.2 = (increment, further) := stepWritten callee (reads.earlier stepGrown)
  have limitSame : Draft.lower callee (scope.bind counter front.slotCount) limit
      (next.2.push (.store front.slotCount next.1)) = (bound, last) :=
    limitWritten callee (reads.earlier limitGrown)
  simp only [Draft.lower, startSame, reserved, bodySame, load, stepSame, add, limitSame, probed]

/-- A local variable gets a slot of its own. -/
theorem agrees_binding {name : String} {initializer : Option Expr} {body : Expr}
    (ofInitializer : OptionalLowersAs registry revive check id scope 0 initializer)
    (ofBody : ∀ slot, LowersAs registry revive check id (scope.bind name slot) body) (span : Span) :
    LowersAs registry revive check id scope (.binding name initializer body span) := by
  intro draft state ledger tallies filling
  simp only [lower, Check.expr]
  refine agrees_currentFunction filling ?_
  refine (ofInitializer draft state ledger tallies filling).bind ?_
  rintro initial middle noted tallies ⟨front, filling, frontMore, initialWritten⟩
  refine agrees_reserve tallies filling name initial fun stored tallies filling => ?_
  refine agrees_value_last (ofBody front.slotCount _ stored noted tallies filling)
    fun value last noted tallies writes => ?_
  obtain ⟨back, filling, backMore, written⟩ := writes
  refine .pure tallies fun valueGrown _ initialGrown =>
    ⟨_, rfl, back, filling, by simp at backMore; omega, fun callee reads => ?_⟩
  have initialSame : Draft.lowerOptional callee scope 0 initializer draft = (initial, front) :=
    initialWritten callee (reads.earlier initialGrown)
  have same : Draft.lower callee (scope.bind name front.slotCount) body
      ((front.reserve name).push (.store front.slotCount initial)) = (value, back) :=
    written callee (reads.earlier valueGrown)
  simp only [Draft.lower, initialSame, same]

mutual

/-- Every expression is lowered as it is checked. -/
theorem agrees_lower (sound : registry.IsSound) (recalls : RecallAgrees registry revive check) :
    ∀ (tree : Expr) (scope : Scope Nat), tree.IsBody → (∀ call ∈ tree.calls, IsOrdinary call.1) →
      LowersAs registry revive check id scope tree
  | .number value span, _, _, _ => agrees_number value span
  | .var name span, _, _, _ => agrees_var name span
  | .binary operator .assign left right span, scope, isBody, ordinary =>
    agrees_assign (agrees_lower sound recalls right scope isBody.2 ordinary) operator left span
  | .binary operator (.user _) left right span, scope, isBody, ordinary =>
    have ⟨named, inside⟩ := List.forall_mem_cons.1 ordinary
    have ⟨ofLeft, ofRight⟩ := List.forall_mem_append.1 inside
    agrees_userBinary sound recalls named (agrees_lower sound recalls left scope isBody.1 ofLeft)
      (agrees_lower sound recalls right scope isBody.2 ofRight) operator span
  | .binary token (.builtin operator) left right span, scope, isBody, ordinary =>
    have ⟨ofLeft, ofRight⟩ := List.forall_mem_append.1 ordinary
    agrees_builtinBinary (agrees_lower sound recalls left scope isBody.1 ofLeft)
      (agrees_lower sound recalls right scope isBody.2 ofRight) token operator span
  | .unary _ operand span, scope, isBody, ordinary =>
    have ⟨named, inside⟩ := List.forall_mem_cons.1 ordinary
    agrees_unary sound recalls named (agrees_lower sound recalls operand scope isBody inside) span
  | .call _ arguments span, scope, isBody, ordinary =>
    have ⟨named, inside⟩ := List.forall_mem_cons.1 ordinary
    agrees_call sound recalls named
      (agrees_lowerArguments sound recalls arguments scope isBody inside) span
  | .conditional condition consequent alternative span, scope, isBody, ordinary =>
    have ⟨ofCondition, inside⟩ := List.forall_mem_append.1 ordinary
    have ⟨ofConsequent, ofAlternative⟩ := List.forall_mem_append.1 inside
    agrees_conditional (agrees_lower sound recalls condition scope isBody.1 ofCondition)
      (agrees_lower sound recalls consequent scope isBody.2.1 ofConsequent)
      (agrees_lower sound recalls alternative scope isBody.2.2 ofAlternative) span
  | .loop _ start limit step body span, scope, isBody, ordinary =>
    have ⟨ofStart, inside⟩ := List.forall_mem_append.1 ordinary
    have ⟨ofBody, inside⟩ := List.forall_mem_append.1 inside
    have ⟨ofStep, ofLimit⟩ := List.forall_mem_append.1 inside
    agrees_loop (agrees_lower sound recalls start scope isBody.1 ofStart)
      (fun _ => agrees_lower sound recalls body _ isBody.2.2.2 ofBody)
      (fun _ => agrees_lowerOptional sound recalls step _ 1 isBody.2.2.1 ofStep)
      (fun _ => agrees_lower sound recalls limit _ isBody.2.1 ofLimit) span
  | .binding _ initializer body span, scope, isBody, ordinary =>
    have ⟨ofInitializer, ofBody⟩ := List.forall_mem_append.1 ordinary
    agrees_binding (agrees_lowerOptional sound recalls initializer scope 0 isBody.1 ofInitializer)
      (fun _ => agrees_lower sound recalls body _ isBody.2 ofBody) span
  | .prototype _, _, isBody, _ | .function _ _ _, _, isBody, _ | .declaration _ _, _, isBody, _ =>
    isBody.elim

/-- Arguments are lowered as they are checked, one after the other. -/
theorem agrees_lowerArguments (sound : registry.IsSound)
    (recalls : RecallAgrees registry revive check) :
    ∀ (trees : List Expr) (scope : Scope Nat), Expr.AreBodies trees →
      (∀ call ∈ Expr.callsOfAll trees, IsOrdinary call.1) →
      AllLowerAs registry revive check id scope trees
  | [], scope, _, _, draft, state, ledger, tallies, filling => by
    simp only [lowerArguments, Check.exprs]
    exact .pure tallies
      ⟨draft, filling, Nat.le_refl _, fun callee _ => by simp only [Draft.lowerArguments]⟩
  | tree :: rest, scope, areBodies, ordinary, draft, state, ledger, tallies, filling => by
    simp only [lowerArguments, Check.exprs]
    obtain ⟨treeOrdinary, restOrdinary⟩ := List.forall_mem_append.1 ordinary
    refine agrees_value (agrees_lower sound recalls tree scope areBodies.1 treeOrdinary draft state
      ledger tallies filling) fun value first noted tallies writes => ?_
    obtain ⟨front, filling, frontMore, valueWritten⟩ := writes
    refine (agrees_lowerArguments sound recalls rest scope areBodies.2 restOrdinary front first noted
      tallies filling).bind_last ?_
    rintro values second noted tallies ⟨back, filling, backMore, valuesWritten⟩
    refine .pure tallies fun secondGrown firstGrown =>
      ⟨back, filling, Nat.le_trans frontMore backMore, fun callee reads => ?_⟩
    have valueSame : Draft.lower callee scope tree draft = (value, front) :=
      valueWritten callee (reads.earlier firstGrown)
    have valuesSame : Draft.lowerArguments callee scope rest front = (values, back) :=
      valuesWritten callee (reads.earlier secondGrown)
    simp only [Draft.lowerArguments, valueSame, valuesSame]

/-- An expression that may be left out is lowered as it is checked. -/
theorem agrees_lowerOptional (sound : registry.IsSound)
    (recalls : RecallAgrees registry revive check) :
    ∀ (tree : Option Expr) (scope : Scope Nat) (absent : Float), Expr.IsOptionalBody tree →
      (∀ call ∈ Expr.callsOfOptional tree, IsOrdinary call.1) →
      OptionalLowersAs registry revive check id scope absent tree
  | none, scope, absent, _, _, draft, state, ledger, tallies, filling => by
    simp only [lowerOptional, Check.optional]
    exact .pure tallies
      ⟨draft, filling, Nat.le_refl _, fun callee _ => by simp only [Draft.lowerOptional]⟩
  | some tree, scope, absent, isBody, ordinary, draft, state, ledger, tallies, filling => by
    simp only [lowerOptional, Check.optional]
    refine (agrees_lower sound recalls tree scope isBody ordinary draft state ledger tallies
      filling).bind_last ?_
    rintro _ middle noted tallies ⟨value, rfl, between, filling, more, written⟩
    refine .pure tallies fun grown => ⟨between, filling, more, fun callee reads => ?_⟩
    have same : Draft.lower callee scope tree draft = (value, between) :=
      written callee (reads.earlier grown)
    simp only [Draft.lowerOptional, same]

end

end Expressions

end Kaleidoscope.Lower
