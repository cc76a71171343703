import Kaleidoscope.Proofs.Meaning.Moves

/-!
# Runs follow the parts of expressions

A run that stands at a draft follows an evaluation through code that is added to the draft
(`Code.Follows`). Here this is shown for each kind of expression, given that it holds of the parts:
for variables and calls, for conditionals, for loops and for local variables. That calls are
followed is assumed, for calls from a fixed number of open frames.
-/
namespace Kaleidoscope.Code

open Meaning State Draft

/-- Runs follow calls: wherever a call stands, the run goes on behind it with the number that the
call gives. -/
def CallsFollow (environment : Environment) (unit : CodeUnit) (rounds depth : Nat)
    (call : String → List Float → Evaluation Float) (callee : String → Nat)
    (calls : List (String × Nat)) : Prop :=
  ∀ name count, (name, count) ∈ calls → ∀ (state moved : State) (store : Store) (target : Nat)
    (operands : List Operand), operands.length = count → moved.depth = depth →
    moved.calls = store.calls →
    state.step environment unit = stepCall environment unit moved target (callee name) operands →
    Simulates environment unit rounds state
      (fun value after last => after.numbers = store.numbers ∧
        last = { moved with top := moved.top.write target value, calls := after.calls })
      (call name (operands.map moved.top.read) store)

/-- Runs follow an evaluation through the code that is added to a draft, which yields the number in
an operand. -/
def Follows (environment : Environment) (unit : CodeUnit) (routine : Routine) (rounds depth : Nat)
    (scope : Scope Nat) (draft : Draft) (result : Operand × Draft) (action : Evaluation Float) :
    Prop :=
  routine.Carries result.2.routine → ∀ (store : Store) (state : State),
    Reached unit routine draft scope store state → state.depth = depth →
    Simulates environment unit rounds state
      (Yields unit routine result.2 scope draft.routine.registers state result.1) (action store)

section Following

variable {environment : Environment} {unit : CodeUnit} {routine : Routine} {rounds depth : Nat}
  {call : String → List Float → Evaluation Float} {callee : String → Nat}

/-- Fewer calls are followed if all are. -/
theorem CallsFollow.mono {calls fewer : List (String × Nat)}
    (follow : CallsFollow environment unit rounds depth call callee calls) (subset : fewer ⊆ calls) :
    CallsFollow environment unit rounds depth call callee fewer :=
  fun name count member => follow name count (subset member)

/-- No call opens or closes frames. -/
theorem depth_eq {registers : Nat} {before after : State} (since : Since registers before after) :
    after.depth = before.depth := by
  rw [State.depth, State.depth, since.callers_eq]

/-- A call is followed where its operands have been evaluated. -/
theorem follows_call {name : String} {values : List Float} {operands : List Operand}
    {calls : List (String × Nat)}
    (follow : CallsFollow environment unit rounds depth call callee calls)
    (member : (name, operands.length) ∈ calls) {draft : Draft} {scope : Scope Nat} {store : Store}
    {state : State} (reached : Reached unit routine draft scope store state) (isOpen : draft.Open)
    (carries : routine.Carries (draft.emit (.call · (callee name) operands)).2.routine)
    (opened : state.depth = depth) (read : operands.map state.top.read = values) :
    Simulates environment unit rounds state
      (Yields unit routine (draft.emit (.call · (callee name) operands)).2 scope
        draft.routine.registers state (draft.emit (.call · (callee name) operands)).1)
      (call name values store) := by
  have followed := follow name _ member state { state with top := state.top.pass } store
    draft.routine.registers operands rfl opened reached.calls_eq
    (step_call reached.found (reached.instruction isOpen carries))
  have same : operands.map state.top.pass.read = values := by
    rw [← read]
    exact List.map_congr_left fun operand _ => read_pass state.top operand
  rw [same] at followed
  refine followed.imp fun value after last arrived => ?_
  rw [arrived.2]
  exact reached.write isOpen carries value arrived.1

/-- A step after which the value is there is followed. -/
theorem follows_step {α : Type} {value : α} {store : Store} {state next : State}
    {post : α → Store → State → Prop} (moved : state.step environment unit = .next next)
    (holds : post value store next) :
    Simulates environment unit rounds state post ((Pure.pure value : Evaluation α) store) :=
  (Simulates.step moved (.pure holds)).weaken (Nat.le_succ rounds)

variable {draft : Draft} {scope : Scope Nat} {store : Store} {state : State}

/-- Reading a variable is followed. -/
theorem follows_read {name : String} {slot : Nat}
    (reached : Reached unit routine draft scope store state) (isOpen : draft.Open)
    (carries : routine.Carries (draft.emit (.load · slot)).2.routine)
    (visible : name ∈ scope.names) (same : slotOf scope name = slot) :
    Simulates environment unit rounds state
      (Yields unit routine (draft.emit (.load · slot)).2 scope draft.routine.registers state
        (draft.emit (.load · slot)).1) (read name store) := by
  obtain ⟨value, found, held⟩ := reached.cells.lookup visible
  rw [same] at held
  obtain ⟨next, moved, yields⟩ := reached.emit environment isOpen value
    carries (by simp) (by
      show Frame.execute _ (.load _ slot) = _
      simp only [Frame.execute, Frame.pass, held])
  have given : read name store = .ok value store := by
    simp only [Meaning.read, Bind.bind, EStateM.bind, get_apply, found]
    rfl
  rw [given]
  exact follows_step moved yields

variable (environment) in
/-- A slot is filled with the number of an operand where a variable is assigned to. -/
theorem State.Reached.assign {name : String} {slot : Nat} {operand : Operand}
    (reached : Reached unit routine draft scope store state) (isOpen : draft.Open)
    (lays : Lays scope draft.slotCount)
    (carries : routine.Carries (draft.push (.store slot operand)).routine)
    (visible : name ∈ scope.names) (same : slotOf scope name = slot) :
    ∃ next, state.step environment unit = .next next ∧
      Reached unit routine (draft.push (.store slot operand)) scope
        { store with numbers := store.numbers.assign name (state.top.read operand) } next ∧
      ∀ registers, Since registers state next := by
  have inside : slot < routine.slots.size := by
    rw [← same]
    exact Nat.lt_of_lt_of_le (lays.fits.slotOf_lt visible) carries.slots_le
  refine reached.put isOpen carries inside ?_
  rw [← same]
  refine reached.cells.assign lays.distinct visible ?_ _
  rw [same, reached.slots_size]
  exact inside

variable (environment) in
/-- A new slot is filled with the number of an operand where a variable is introduced. -/
theorem State.Reached.introduce {operand : Operand} (name : String)
    (reached : Reached unit routine draft scope store state) (isOpen : draft.Open)
    (lays : Lays scope draft.slotCount)
    (carries : routine.Carries
      ((draft.reserve name).push (.store draft.slotCount operand)).routine) :
    ∃ next, state.step environment unit = .next next ∧
      Reached unit routine ((draft.reserve name).push (.store draft.slotCount operand))
        (scope.bind name draft.slotCount)
        { store with numbers := store.numbers.bind name (state.top.read operand) } next ∧
      ∀ registers, Since registers state next := by
  have opened := (Stage.reserve isOpen name).isOpen
  have reserved : Reached unit routine (draft.reserve name) scope store state :=
    { reached with
      block_eq := reached.block_eq
      position_eq := reached.position_eq }
  have inside : draft.slotCount < routine.slots.size := by
    have enough := carries.slots_le
    rw [Draft.slots_push, Draft.slots_reserve, Array.size_push] at enough
    exact enough
  refine reserved.put opened carries inside (reached.cells.bind ?_ ?_ name _)
  · rw [reached.slots_size]
    exact inside
  · exact fun entry member => Nat.ne_of_lt (lays.fits entry member)

/-- Branches that meet again choose the number of the branch that was taken. -/
theorem State.Yields.meet {origin merge : Draft} {registers : Nat} {before : State} {operand : Operand}
    {value : Float} {incoming : List (Operand × Nat)}
    (yields : Yields unit routine origin scope registers before operand value store state)
    (ends : routine.terminator? origin.block = some (.branch merge.block))
    (extent : routine.extent origin.block = origin.routine.extent origin.block)
    (empty : merge.routine.extent merge.block = 0) (isOpen : merge.Open)
    (carries : routine.Carries (merge.emit (.phi · incoming)).2.routine)
    (found : incoming.find? (fun entry => some entry.2 = some origin.block) =
      some (operand, origin.block))
    (le : registers ≤ merge.routine.registers) :
    ∃ count last, Steps environment unit count state last ∧
      Yields unit routine (merge.emit (.phi · incoming)).2 scope registers before
        (merge.emit (.phi · incoming)).1 value store last := by
  have left := yields.reached.branch environment ends extent
  have arrived := yields.reached.jump merge empty
  obtain ⟨next, moved, last⟩ := arrived.emit environment isOpen value
    carries (by simp) (by
      have previous : (state.jump merge.block).top.pass.previous = some origin.block := by
        rw [← yields.reached.block_eq]
        rfl
      show Frame.execute _ (.phi _ incoming) = _
      simp only [Frame.execute, previous, found]
      rw [← yields.read_eq]
      cases operand <;> rfl)
  exact ⟨_, next, .step left (.step moved (.refl next)),
    last.after (yields.since.trans (since_jump registers state merge.block)) le⟩

/-- A loop is followed if each of its rounds is, from the head of the loop to the choice that either
repeats it or leaves it. -/
theorem follows_repeated (round : Evaluation Bool) (head exit : Store → State → Prop)
    (follows : ∀ store state, head store state → Simulates environment unit rounds state
      (fun again store after => ∃ next, after.step environment unit = .next next ∧
        if again then head store next else exit store next) (round store)) :
    ∀ fewer, fewer ≤ rounds → ∀ store state, head store state →
      Simulates environment unit fewer state (fun _ store after => exit store after)
        (repeated round fewer store) := by
  intro fewer
  induction fewer with
  | zero => exact fun _ store state _ => ⟨0, state, Nat.le_refl 0, .refl state⟩
  | succ fewer hypothesis =>
    intro le store state here
    refine ((follows store state here).weaken le).bind fun again middle after arrived => ?_
    obtain ⟨next, moved, holds⟩ := arrived
    cases again with
    | true => exact .step moved (hypothesis (Nat.le_of_succ_le le) middle next holds)
    | false => exact .step moved (.pure holds)

/-- Two evaluations in order are followed, with both numbers in operands afterwards. -/
theorem follows_both {first second : Evaluation Float} {others : Float → Float → Evaluation Float}
    {one two result : Operand × Draft}
    (front : Stage draft one.2) (below : one.1.Below one.2.routine.registers)
    (back : Stage one.2 two.2)
    (early : Follows environment unit routine rounds depth scope draft one first)
    (late : Follows environment unit routine rounds depth scope one.2 two second)
    (carries : routine.Carries result.2.routine → routine.Carries two.2.routine)
    (last : ∀ left right final after, routine.Carries result.2.routine →
      Reached unit routine two.2 scope final after → after.depth = depth →
      after.top.read one.1 = left → after.top.read two.1 = right →
      Simulates environment unit rounds after
        (Yields unit routine result.2 scope two.2.routine.registers after result.1)
        (others left right final)) :
    Follows environment unit routine rounds depth scope draft result (do
      let left ← first
      let right ← second
      others left right) := by
  intro carried store state reached opened
  have carriesTwo := carries carried
  refine (early (carriesTwo.earlier back front.isOpen) store state reached opened).bind
    fun left middle after yields => ?_
  have still := (depth_eq yields.since).trans opened
  refine (late carriesTwo middle after yields.reached still).bind fun right final ended arrives => ?_
  have since := yields.since.trans (arrives.since.mono front.registers_le)
  refine (last left right final ended carried arrives.reached ((depth_eq since).trans opened) ?_
    arrives.read_eq).imp fun value store last ends =>
      ends.after since (Nat.le_trans front.registers_le back.registers_le)
  rw [arrives.since.read_eq below, yields.read_eq]

/-- The blocks of a conditional are empty when a run comes to them, and its branches end in different
ones. -/
theorem blocks_branch {first second : Draft} {condition : Operand}
    (consequent : Stage (draft.fork condition) first)
    (alternative : Stage (first.leaveTo (draft.size + 2) (draft.size + 1)) second) :
    (first.leaveTo (draft.size + 2) (draft.size + 1)).routine.extent (draft.size + 1) = 0 ∧
      (second.leaveTo (draft.size + 2) (draft.size + 2)).routine.extent (draft.size + 2) = 0 ∧
      first.block ≠ second.block := by
  have inside := consequent.isOpen.inside
  have grown := consequent.extension.size_le
  have place := consequent.extension.place
  have other := alternative.extension.place
  rw [size_fork] at grown place
  rw [block_fork] at place
  rw [block_leaveTo, size_leaveTo] at other
  refine ⟨?_, ?_, by omega⟩
  · rw [extent_leaveTo, consequent.extension.extent_eq (by simp) (by simp), extent_fork,
      extent_size _ (by omega)]
  · rw [extent_leaveTo, alternative.extension.extent_eq (by rw [size_leaveTo]; omega) (by simp),
      extent_leaveTo, consequent.extension.extent_eq (by simp) (by simp), extent_fork,
      extent_size _ (by omega)]

/-- A conditional is followed. -/
theorem follows_conditional {chosen probe one two : Operand × Draft}
    {condition consequent alternative : Evaluation Float}
    (front : Stage draft chosen.2) (probed : chosen.2.emit (.truth · chosen.1) = probe)
    (first : Stage (probe.2.fork probe.1) one.2)
    (second : Stage (one.2.leaveTo (probe.2.size + 2) (probe.2.size + 1)) two.2)
    (choosing : Follows environment unit routine rounds depth scope draft chosen condition)
    (followsFirst : Follows environment unit routine rounds depth scope (probe.2.fork probe.1) one
      consequent)
    (followsSecond : Follows environment unit routine rounds depth scope
      (one.2.leaveTo (probe.2.size + 2) (probe.2.size + 1)) two alternative) :
    Follows environment unit routine rounds depth scope draft
      ((two.2.leaveTo (probe.2.size + 2) (probe.2.size + 2)).emit
        (.phi · [(one.1, one.2.block), (two.1, two.2.block)]))
      (do
        let value ← condition
        if isTrue value then consequent else alternative) := by
  intro carries store state reached opened
  have test : Stage chosen.2 probe.2 := probed ▸ Stage.emit front.isOpen _ rfl
  have openFirst := isOpen_fork test.isOpen probe.1
  have openSecond := isOpen_second test.isOpen first.extension
  have openMerge := isOpen_merge test.isOpen first.extension second.extension
  obtain ⟨emptySecond, emptyMerge, other⟩ := blocks_branch first second
  obtain ⟨carriesTwo, endsTwo, extentTwo⟩ := (carries.emit openMerge).leaveTo second.isOpen
  obtain ⟨carriesOne, endsOne, extentOne⟩ :=
    (carriesTwo.earlier second openSecond).leaveTo first.isOpen
  obtain ⟨carriesProbe, endsProbe, extentProbe⟩ := (carriesOne.earlier first openFirst).fork test.isOpen
  have carriesTest : routine.Carries (chosen.2.emit (.truth · chosen.1)).2.routine := by
    rwa [probed]
  have grown := Nat.le_trans front.registers_le test.registers_le
  have grownOne := first.registers_le
  have grownTwo := second.registers_le
  rw [registers_fork] at grownOne
  rw [registers_leaveTo] at grownTwo
  refine (choosing (carriesTest.emit front.isOpen) store state reached opened).bind
    fun value middle after yields => ?_
  obtain ⟨next, moved, tested⟩ := yields.reached.emit environment front.isOpen
    (ofTruth (isTrue value)) carriesTest (by simp) (by
      rw [← yields.read_eq]
      simp [Frame.execute])
  rw [probed] at tested
  have leaves := tested.reached.choose environment endsProbe extentProbe tested.read_eq
  have since := yields.since.trans (tested.since.mono front.registers_le)
  have still := (depth_eq since).trans opened
  cases truth : isTrue value with
  | true =>
    rw [truth] at leaves
    have arrived := tested.reached.jump (probe.2.fork probe.1)
      (by rw [extent_fork, block_fork, extent_size _ (Nat.le_refl _)])
    refine (Simulates.step moved (.step leaves ((followsFirst carriesOne middle _ arrived
      still).further fun result final last ends => ?_))).weaken (by omega)
    have met := ends.after (since.trans (since_jump _ next probe.2.size)) grown
    exact met.meet endsOne extentOne emptyMerge openMerge carries (by simp)
      (by simp only [registers_leaveTo]; omega)
  | false =>
    rw [truth] at leaves
    have arrived := tested.reached.jump
      (one.2.leaveTo (probe.2.size + 2) (probe.2.size + 1)) emptySecond
    refine (Simulates.step moved (.step leaves ((followsSecond carriesTwo middle _ arrived
      still).further fun result final last ends => ?_))).weaken (by omega)
    have met := ends.after (since.trans (since_jump _ next (probe.2.size + 1)))
      (by rw [registers_leaveTo]; omega)
    exact met.meet endsTwo extentTwo emptyMerge openMerge carries (by simp [other])
      (by simp only [registers_leaveTo]; omega)

/-- What an evaluation with one more variable comes to is followed if the evaluation is. -/
theorem follows_within {α : Type} {name : String} {value : Float} {action : Evaluation α}
    {post : α → Store → State → Prop} (target : α → Store → State → Prop)
    (inside : Simulates environment unit rounds state post
      (action { store with numbers := store.numbers.bind name value }))
    (leave : ∀ result final after, post result final after →
      target result { final with numbers := final.numbers.outer } after) :
    Simulates environment unit rounds state target (within name value action store) :=
  inside.bind fun result final after holds => .pure (leave result final after holds)

/-- A local variable is followed. -/
theorem follows_binding {name : String} {initial result : Operand × Draft}
    {initializer body : Evaluation Float} (front : Stage draft initial.2)
    (lays : Lays scope initial.2.slotCount)
    (back : Stage ((initial.2.reserve name).push (.store initial.2.slotCount initial.1)) result.2)
    (early : Follows environment unit routine rounds depth scope draft initial initializer)
    (late : Follows environment unit routine rounds depth (scope.bind name initial.2.slotCount)
      ((initial.2.reserve name).push (.store initial.2.slotCount initial.1)) result body) :
    Follows environment unit routine rounds depth scope draft result (do
      let value ← initializer
      within name value body) := by
  intro carries store state reached opened
  have reserved := Stage.reserve front.isOpen name
  have stored := Stage.push reserved.isOpen (.store initial.2.slotCount initial.1) rfl
  have carriesStored := carries.earlier back stored.isOpen
  have carriesInitial := (carriesStored.push reserved.isOpen).1.earlier reserved front.isOpen
  refine (early carriesInitial store state reached opened).bind fun value middle after yields => ?_
  obtain ⟨next, moved, arrived, since⟩ := yields.reached.introduce environment name
    front.isOpen lays carriesStored
  rw [yields.read_eq] at arrived
  have whole := yields.since.trans (since _)
  refine (Simulates.step moved (follows_within _ (late carries _ next arrived
    ((depth_eq whole).trans opened)) fun number final last ends => ?_)).weaken (Nat.le_succ _)
  exact ⟨{ ends.reached with cells := ends.reached.cells.outer },
    whole.trans (ends.since.mono front.registers_le), ends.read_eq⟩

/-- A round of a loop is followed up to the choice between the next round and the end. -/
theorem follows_round {counter : String} {slot : Nat}
    {looped current increment next condition tested : Operand × Draft}
    {body more limit : Evaluation Float} (lays : Lays scope increment.2.slotCount)
    (visible : counter ∈ scope.names) (same : slotOf scope counter = slot)
    (first : Stage draft looped.2) (loaded : looped.2.emit (.load · slot) = current)
    (second : Stage current.2 increment.2)
    (added : increment.2.emit (.arith · .add current.1 increment.1) = next)
    (third : Stage (next.2.push (.store slot next.1)) condition.2)
    (tried : condition.2.emit (.truth · condition.1) = tested)
    (followsBody : Follows environment unit routine rounds depth scope draft looped body)
    (followsMore : Follows environment unit routine rounds depth scope current.2 increment more)
    (followsLimit : Follows environment unit routine rounds depth scope
      (next.2.push (.store slot next.1)) condition limit)
    (carries : routine.Carries tested.2.routine)
    (reached : Reached unit routine draft scope store state) (opened : state.depth = depth) :
    Simulates environment unit rounds state
      (fun again store after =>
        Reached unit routine tested.2 scope store after ∧
        Since draft.routine.registers state after ∧
        after.top.read tested.1 = ofTruth again)
      (round counter body more limit store) := by
  have load : Stage looped.2 current.2 := loaded ▸ Stage.emit first.isOpen _ rfl
  have add : Stage increment.2 next.2 := added ▸ Stage.emit second.isOpen _ rfl
  have put := Stage.push add.isOpen (.store slot next.1) rfl
  subst tried
  have carriesLimit := carries.emit third.isOpen
  have carriesPut := carriesLimit.earlier third put.isOpen
  have carriesNext := (carriesPut.push add.isOpen).1
  have carriesMore := carriesNext.earlier add second.isOpen
  have carriesCurrent := carriesMore.earlier second load.isOpen
  have carriesBody := carriesCurrent.earlier load first.isOpen
  have grownFirst := Nat.le_trans first.registers_le load.registers_le
  have grownSecond := Nat.le_trans grownFirst second.registers_le
  have grownThird := Nat.le_trans grownSecond add.registers_le
  refine (followsBody carriesBody store state reached opened).bind fun _ storeOne one bodied => ?_
  subst loaded
  refine (follows_read bodied.reached first.isOpen carriesCurrent visible same).bind
    fun value storeTwo two read => ?_
  have sinceTwo := bodied.since.trans (read.since.mono first.registers_le)
  refine (followsMore carriesMore storeTwo two read.reached
    ((depth_eq sinceTwo).trans opened)).bind fun amount storeThree three stepped => ?_
  have sinceThree := sinceTwo.trans (stepped.since.mono grownFirst)
  subst added
  obtain ⟨four, movedAdd, sum⟩ := stepped.reached.emit environment second.isOpen
    (value + amount) carriesNext (by simp) (by
      have kept : three.top.read (looped.2.emit (.load · slot)).1 = value := by
        rw [stepped.since.read_eq (by exact Nat.lt_succ_self _), read.read_eq]
      simp [Frame.execute, Arithmetic.apply, kept, stepped.read_eq])
  obtain ⟨five, movedPut, stored, sincePut⟩ := sum.reached.assign environment
    add.isOpen (lays.mono add.slots_le) carriesPut visible same
  rw [sum.read_eq] at stored
  have sinceFive := (sinceThree.trans (sum.since.mono grownSecond)).trans (sincePut _)
  refine (Simulates.step movedAdd (.step movedPut ((followsLimit carriesLimit _ five stored
    ((depth_eq sinceFive).trans opened)).bind
    fun last final six chosen => ?_))).weaken (by omega)
  obtain ⟨seven, movedTest, tested⟩ := chosen.reached.emit environment third.isOpen
    (ofTruth (isTrue last)) carries (by simp) (by
      rw [← chosen.read_eq]
      simp [Frame.execute])
  have sinceSix := sinceFive.trans (chosen.since.mono grownThird)
  exact follows_step movedTest ⟨tested.reached,
    sinceSix.trans (tested.since.mono (Nat.le_trans grownThird third.registers_le)), tested.read_eq⟩

/-- A loop is followed. -/
theorem follows_loop {counter : String} {first looped current increment next condition tested :
    Operand × Draft}
    {start body more limit : Evaluation Float} {stored : Draft} (front : Stage draft first.2)
    (lays : Lays scope first.2.slotCount)
    (entered : (first.2.reserve counter).push (.store first.2.slotCount first.1) = stored)
    (one : Stage stored.enterLoop looped.2)
    (loaded : looped.2.emit (.load · first.2.slotCount) = current)
    (two : Stage current.2 increment.2)
    (added : increment.2.emit (.arith · .add current.1 increment.1) = next)
    (three : Stage (next.2.push (.store first.2.slotCount next.1)) condition.2)
    (tried : condition.2.emit (.truth · condition.1) = tested)
    (followsStart : Follows environment unit routine rounds depth scope draft first start)
    (followsBody : Follows environment unit routine rounds depth
      (scope.bind counter first.2.slotCount) stored.enterLoop looped body)
    (followsMore : Follows environment unit routine rounds depth
      (scope.bind counter first.2.slotCount) current.2 increment more)
    (followsLimit : Follows environment unit routine rounds depth
      (scope.bind counter first.2.slotCount) (next.2.push (.store first.2.slotCount next.1)) condition
      limit) :
    Follows environment unit routine rounds depth scope draft
      (.number 0, tested.2.leaveLoop tested.1 stored.size)
      (do
        let value ← start
        within counter value (repeated (round counter body more limit) rounds)
        return 0) := by
  intro carries store state reached opened
  have reserved := Stage.reserve front.isOpen counter
  have storing : Stage (first.2.reserve counter) stored :=
    entered ▸ Stage.push reserved.isOpen _ rfl
  have openEntry := isOpen_enterLoop storing.isOpen
  have load : Stage looped.2 current.2 := loaded ▸ Stage.emit one.isOpen _ rfl
  have add : Stage increment.2 next.2 := added ▸ Stage.emit two.isOpen _ rfl
  have put := Stage.push add.isOpen (.store first.2.slotCount next.1) rfl
  have test : Stage condition.2 tested.2 := tried ▸ Stage.emit three.isOpen _ rfl
  have early := one.trans (load.trans two)
  have whole := early.trans (add.trans (put.trans (three.trans test)))
  obtain ⟨carriesTest, endsTest, extentTest⟩ := carries.leaveLoop test.isOpen
  obtain ⟨carriesStored, endsStored, extentStored⟩ :=
    (carriesTest.earlier whole openEntry).enterLoop storing.isOpen
  have carriesFirst := carriesStored.earlier (reserved.trans storing) front.isOpen
  have emptyEntry : stored.enterLoop.routine.extent stored.enterLoop.block = 0 := by
    rw [extent_enterLoop, block_enterLoop, extent_size _ (Nat.le_refl _)]
  have inner : Lays (scope.bind counter first.2.slotCount) stored.enterLoop.slotCount := by
    have bound := lays.introduce counter (.store first.2.slotCount first.1)
    rwa [entered] at bound
  refine (followsStart carriesFirst store state reached opened).bind
    fun value middle after yields => ?_
  obtain ⟨begun, moved, arrived, since⟩ := yields.reached.introduce environment
    counter front.isOpen lays (by rwa [entered])
  rw [yields.read_eq, entered] at arrived
  have leaves := arrived.branch environment endsStored extentStored
  have entry := arrived.jump stored.enterLoop emptyEntry
  have sinceEntry := (yields.since.trans (since _)).trans (since_jump _ begun stored.size)
  have grown := Nat.le_trans front.registers_le (reserved.trans storing).registers_le
  have followed := follows_repeated (round counter body more limit)
    (fun store after => Reached unit routine stored.enterLoop
      (scope.bind counter first.2.slotCount) store after ∧ Since draft.routine.registers state after)
    (fun store after => Reached unit routine
      (tested.2.leaveLoop tested.1 stored.size)
      (scope.bind counter first.2.slotCount) store after ∧ Since draft.routine.registers state after)
    (by
      intro store here ⟨standing, still⟩
      refine (follows_round (inner.mono early.slots_le) List.mem_cons_self ?_ one loaded two added
        three tried followsBody followsMore followsLimit carriesTest standing
        ((depth_eq still).trans opened)).imp fun again final last arrives => ?_
      · simp [slotOf, Scope.lookup?, Scope.bind]
      obtain ⟨ends, kept, truth⟩ := arrives
      refine ⟨_, ends.choose environment endsTest extentTest truth, ?_⟩
      have since := still.trans (kept.mono grown)
      cases again with
      | true => exact ⟨ends.jump stored.enterLoop emptyEntry, since.trans (since_jump _ last stored.size)⟩
      | false =>
        refine ⟨ends.jump (tested.2.leaveLoop tested.1 stored.size) ?_,
          since.trans (since_jump _ last _)⟩
        rw [extent_leaveLoop, block_leaveLoop, extent_size _ (Nat.le_refl _)])
    rounds (Nat.le_refl rounds) _ _ ⟨entry, sinceEntry⟩
  refine (Simulates.step moved (.step leaves ((follows_within (fun _ store after =>
    Reached unit routine (tested.2.leaveLoop tested.1 stored.size) scope store after ∧
      Since draft.routine.registers state after) followed
    fun _ final last arrives => ?_).bind fun _ final last arrives => ?_))).weaken (by omega)
  · exact ⟨{ arrives.1 with cells := arrives.1.cells.outer }, arrives.2⟩
  · exact .pure ⟨arrives.1, arrives.2, rfl⟩

end Following

end Kaleidoscope.Code
