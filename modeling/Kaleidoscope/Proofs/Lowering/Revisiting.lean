import Kaleidoscope.Proofs.Lowering.Succeeding

/-!
# Definitions can be lowered again

A unit in which everything has been lowered shows which names belong together: it is as the registry
says, and the calls of its definitions go to names that it holds (`Ledger.IsWhole`). Another unit
that holds a part of it can be filled up to it at any time: whatever is called is lowered again from
the registry without an error (`Check.revisits_expr`). How deeply definitions nest in doing so is
bounded by the number of those that are not filled (`Ledger.pending`).

So forms that can all be lowered in one unit can also be lowered in a unit that holds less of what
was there before them (`Check.revisits_forms`).
-/
namespace Kaleidoscope

namespace Registry

/-- The parameters of every entry have different names. -/
def IsDistinct (registry : Registry) : Prop :=
  ∀ {name : String} {entry : Entry}, registry.lookup? name = some entry →
    Lower.duplicate? [] entry.prototype.parameters = none

end Registry

namespace Ledger

/-- Everything that one ledger holds, another one holds as well. -/
def Inside (inner outer : Ledger) : Prop :=
  ∀ {name : String} {status : Status}, inner.known name = some status →
    outer.known name = some status

/-- A name that the outer ledger can declare, the inner one can declare as well. -/
theorem Inside.free {inner outer : Ledger} (inside : inner.Inside outer) {name : String}
    {status : Status} (free : outer.known name = none ∨ outer.known name = some status) :
    inner.known name = none ∨ inner.known name = some status := by
  cases known : inner.known name with
  | none => exact .inl rfl
  | some other =>
    rw [inside known] at free
    exact free.imp (fun unknown => by contradiction) id

/-- What the outer ledger holds for a name may be set in the inner one. -/
theorem inside_set {inner outer : Ledger} {name : String} {status : Status}
    (holds : outer.known name = some status)
    (others : ∀ {other : String} {held : Status}, other ≠ name → inner.known other = some held →
      outer.known other = some held) : (inner.set name (some status)).Inside outer := by
  intro other held known
  rw [known_set] at known
  split at known
  · next own =>
    cases known
    rw [own, holds]
  · next different => exact others different known

/-- A ledger that is as the registry says, and whose definitions are complete. -/
structure IsWhole (registry : Registry) (ledger : Ledger) : Prop where
  /-- Names are held as the registry has them. -/
  current : ledger.Known fun name status => registry.statuses name = some status
  /-- Definitions are complete. -/
  complete : ∀ {name : String} {source : List String × Expr}, ledger.source? name = some source →
    IsComplete registry ledger name source

/-- A name that is known means what the registry says. -/
theorem IsWhole.statuses_eq {registry : Registry} {ledger : Ledger}
    (isWhole : ledger.IsWhole registry) {name : String} {status : Status}
    (known : ledger.known name = some status) : registry.statuses name = some status :=
  isWhole.current name status known

/-- What is set last stays. -/
theorem set_set (ledger : Ledger) (name : String) (first second : Option Status) :
    (ledger.set name first).set name second = ledger.set name second := by
  simp only [set, mk.injEq, and_true]
  funext other
  split <;> rfl

/-- Calls have as many arguments as the names that they go to have parameters. -/
def Fits (ledger : Ledger) (calls : List (String × Nat)) : Prop :=
  ∀ call ∈ calls, ledger.arity? call.1 = some call.2

namespace Fits

variable {ledger : Ledger} {name : String} {count : Nat} {calls front back : List (String × Nat)}

/-- The first call fits. -/
theorem head (fits : ledger.Fits ((name, count) :: calls)) : ledger.arity? name = some count :=
  fits _ List.mem_cons_self

/-- All calls but the first fit. -/
theorem tail (fits : ledger.Fits ((name, count) :: calls)) : ledger.Fits calls :=
  fun call member => fits call (List.mem_cons_of_mem _ member)

/-- The calls in front fit. -/
theorem left (fits : ledger.Fits (front ++ back)) : ledger.Fits front :=
  fun call member => fits call (List.mem_append_left _ member)

/-- The calls behind them fit. -/
theorem right (fits : ledger.Fits (front ++ back)) : ledger.Fits back :=
  fun call member => fits call (List.mem_append_right _ member)

end Fits

/-- How many definitions of a registry have not been filled. -/
def pending (registry : Registry) (ledger : Ledger) : Nat :=
  (registry.entries.filter fun entry =>
    entry.2.status.source.isSome && (ledger.source? entry.1).isNone).length

variable {registry : Registry} {ledger whole : Ledger}

/-- A name of a whole ledger that is filled is filled from its definition. -/
theorem IsWhole.known_of_isSome (isWhole : whole.IsWhole registry) {prototype : Prototype}
    {body : Expr} (found : registry.lookup? prototype.linkedName = some (.function prototype body))
    (filled : (whole.source? prototype.linkedName).isSome) :
    whole.known prototype.linkedName =
      some ⟨prototype.parameters.length, some (prototype.parameters, body)⟩ := by
  obtain ⟨source, filled⟩ := Option.isSome_iff_exists.1 filled
  obtain ⟨status, known, _⟩ := Option.bind_eq_some_iff.1 filled
  have stated := isWhole.statuses_eq known
  rw [Registry.statuses, found] at stated
  rw [known, ← Option.some.inj stated]
  rfl

/-- At most all definitions of a registry have not been filled. -/
theorem pending_le (registry : Registry) (ledger : Ledger) :
    ledger.pending registry ≤ registry.definitionCount := by
  unfold pending Registry.definitionCount
  induction registry.entries with
  | nil => exact Nat.le_refl _
  | cons entry rest hypothesis =>
    rw [List.foldr_cons, List.filter_cons]
    split
    · next counted =>
      have filled : 1 ≤ entry.2.definitionCount := by
        cases kind : entry.2 with
        | function prototype body => exact Nat.le_add_left _ _
        | declaration prototype =>
          rw [kind] at counted
          contradiction
      rw [List.length_cons]
      omega
    · omega

/-- Filling a definition leaves fewer of them. -/
theorem pending_set_lt {name : String} {entry : Entry} (arity : Nat) (source : List String × Expr)
    (found : registry.lookup? name = some entry) (defined : entry.status.source.isSome)
    (empty : ledger.source? name = none) :
    (ledger.set name (some ⟨arity, some source⟩)).pending registry < ledger.pending registry := by
  unfold pending
  have same : (registry.entries.filter fun entry => entry.2.status.source.isSome &&
        ((ledger.set name (some ⟨arity, some source⟩)).source? entry.1).isNone) =
      (registry.entries.filter fun entry => entry.2.status.source.isSome &&
        (ledger.source? entry.1).isNone).filter (·.1 ≠ name) := by
    rw [List.filter_filter]
    refine List.filter_congr fun other _ => ?_
    rw [source?_set]
    by_cases own : other.1 = name
    · simp [own]
    · simp [own]
  rw [same, List.length_filter_lt_length_iff_exists]
  refine ⟨(name, entry), List.mem_filter.2 ⟨?_, ?_⟩, by simp⟩
  · obtain ⟨front, back, split, _⟩ := List.lookup_eq_some_iff.1 found
    rw [split]
    exact List.mem_append_right _ List.mem_cons_self
  · simp [defined, empty]

/-- Only definitions that are filled count. -/
theorem pending_congr {other : Ledger} (same : ∀ name, other.source? name = ledger.source? name) :
    other.pending registry = ledger.pending registry := by
  unfold pending
  simp only [same]

/-- What one ledger inside a whole one leads to. -/
structure Leads (registry : Registry) (whole ledger last : Ledger) : Prop where
  /-- It is inside the whole one. -/
  inside : last.Inside whole
  /-- No more definitions have not been filled. -/
  fewer : last.pending registry ≤ ledger.pending registry
  /-- Names that are known stay known. -/
  kept : ∀ name, (ledger.known name).isSome → (last.known name).isSome

/-- Nothing may happen. -/
theorem Leads.refl (inside : ledger.Inside whole) : Leads registry whole ledger ledger :=
  ⟨inside, Nat.le_refl _, fun _ known => known⟩

/-- What happens may happen in turn. -/
theorem Leads.trans {middle last : Ledger} (front : Leads registry whole ledger middle)
    (back : Leads registry whole middle last) : Leads registry whole ledger last :=
  ⟨back.inside, Nat.le_trans back.fewer front.fewer, fun name known =>
    back.kept name (front.kept name known)⟩

end Ledger

namespace Check

open Ledger

variable {registry : Registry} {whole ledger : Ledger} {depth : Nat}

/-- An action succeeds on every ledger inside a whole one, if the definitions that are not filled may
nest, and leads to another one inside it. -/
def Revisits (registry : Registry) (whole : Ledger) (depth : Nat) (action : Check PUnit) : Prop :=
  ∀ ledger : Ledger, ledger.Inside whole → ledger.pending registry ≤ depth →
    ∃ last, action ledger = .ok ⟨⟩ last ∧ Leads registry whole ledger last

namespace Revisits

/-- Doing nothing. -/
theorem pure : Revisits registry whole depth (pure ⟨⟩) :=
  fun ledger inside _ => ⟨ledger, rfl, .refl inside⟩

/-- One action after another. -/
theorem bind {first second : Check PUnit} (front : Revisits registry whole depth first)
    (back : Revisits registry whole depth second) :
    Revisits registry whole depth (do first; second) := by
  intro ledger inside enough
  obtain ⟨middle, ran, leads⟩ := front ledger inside enough
  obtain ⟨last, done, further⟩ := back middle leads.inside (Nat.le_trans leads.fewer enough)
  refine ⟨last, ?_, leads.trans further⟩
  simp only [Bind.bind, EStateM.bind, ran, done]

end Revisits

/-- A name that is free or has no body can be declared. -/
theorem declare_of_free {prototype : Prototype}
    (distinct : Lower.duplicate? [] prototype.parameters = none)
    (free : ledger.known prototype.linkedName = none ∨
      ledger.known prototype.linkedName = some ⟨prototype.parameters.length, none⟩) :
    declare prototype ledger = .ok ⟨⟩
      (ledger.set prototype.linkedName (some ⟨prototype.parameters.length, none⟩)) := by
  refine declare_eq_ok.2 ⟨distinct, free.imp (⟨·, rfl⟩) fun bare => ⟨bare, ?_⟩⟩
  have same : (ledger.set prototype.linkedName
      (some ⟨prototype.parameters.length, none⟩)).known = ledger.known := by
    funext other
    rw [known_set]
    split
    · next own => rw [own, bare]
    · rfl
  simp only [Ledger.set] at same ⊢
  rw [same]

/-- A definition that the whole ledger holds can be filled. -/
theorem revisits_define {prototype : Prototype} {body : Expr} (inner : List String → Check PUnit)
    (distinct : Lower.duplicate? [] prototype.parameters = none)
    (holds : whole.known prototype.linkedName =
      some ⟨prototype.parameters.length, some (prototype.parameters, body)⟩)
    (others : ∀ {name : String} {status : Status}, name ≠ prototype.linkedName →
      ledger.known name = some status → whole.known name = some status)
    (free : ledger.known prototype.linkedName = none ∨
      ledger.known prototype.linkedName = some ⟨prototype.parameters.length, none⟩)
    (revisits : Revisits registry whole depth (inner prototype.parameters.reverse))
    (enough : (ledger.set prototype.linkedName
      (some ⟨prototype.parameters.length, some (prototype.parameters, body)⟩)).pending registry ≤
        depth) :
    ∃ last, define prototype body inner ledger = .ok ⟨⟩ last ∧
      Leads registry whole (ledger.set prototype.linkedName
        (some ⟨prototype.parameters.length, some (prototype.parameters, body)⟩)) last := by
  obtain ⟨last, done, leads⟩ := revisits _ (inside_set holds others) enough
  refine ⟨last.note body, ?_, leads.inside, leads.fewer, leads.kept⟩
  simp only [define, Bind.bind, EStateM.bind, declare_of_free distinct free, fill, fillWith,
    set_set, done]

section Rules

variable {revive : Prototype → Expr → Check PUnit}

/-- Definitions of the registry that the whole ledger holds can be filled. -/
def RecallRevisits (registry : Registry) (whole : Ledger) (depth : Nat)
    (revive : Prototype → Expr → Check PUnit) : Prop :=
  ∀ {prototype : Prototype} {body : Expr} {ledger : Ledger},
    registry.lookup? prototype.linkedName = some (.function prototype body) →
    whole.known prototype.linkedName =
      some ⟨prototype.parameters.length, some (prototype.parameters, body)⟩ →
    ledger.known prototype.linkedName = none → ledger.Inside whole →
    ledger.pending registry ≤ depth →
    ∃ last, revive prototype body ledger = .ok ⟨⟩ last ∧ Leads registry whole ledger last ∧
      (last.known prototype.linkedName).isSome

/-- A name that the whole ledger holds is found. -/
theorem revisits_resolve (sound : registry.IsSound) (distinct : registry.IsDistinct)
    (isWhole : whole.IsWhole registry) (recalls : RecallRevisits registry whole depth revive)
    {name : String} {count : Nat} (held : whole.arity? name = some count) (span : Span)
    (inside : ledger.Inside whole) (enough : ledger.pending registry ≤ depth) :
    ∃ last, resolve registry revive name span ledger = .ok ⟨⟩ last ∧
      Leads registry whole ledger last ∧ (last.known name).isSome := by
  obtain ⟨status, holds, _⟩ := Option.map_eq_some_iff.1 held
  obtain ⟨entry, found, same⟩ := Option.map_eq_some_iff.1 (isWhole.current name status holds)
  subst same
  rw [resolve_eq, found]
  cases known : ledger.known name with
  | some other =>
    have equal := (inside known).symm.trans holds
    cases equal
    have here : (ledger.known name).isSome := by rw [known]; rfl
    refine ⟨ledger, ?_, .refl inside, here⟩
    rw [source?_of_known known]
    cases entry <;> rfl
  | none =>
    have empty := source?_of_unknown known
    rw [if_neg (by simp [empty])]
    obtain rfl := sound.linked found
    cases entry with
    | function prototype body =>
      obtain ⟨last, ran, leads, here⟩ := recalls found holds known inside enough
      refine ⟨last, ?_, leads, here⟩
      change revive prototype body ledger = _ at ran
      simp only [inDefinition, ran]
    | declaration prototype =>
      refine ⟨_, declare_of_free (distinct found) (.inl known),
        ⟨inside_set holds fun _ known => inside known, ?_, ?_⟩, ?_⟩
      · refine Nat.le_of_eq (pending_congr fun other => ?_)
        rw [source?_set]
        split
        · next own =>
          rw [own]
          exact empty.symm
        · rfl
      · intro other found
        rw [known_set]
        split
        · rfl
        · exact found
      · change (Ledger.known _ prototype.linkedName).isSome
        rw [known_set, if_pos rfl]
        rfl

/-- A call that fits the whole ledger can be checked. -/
theorem revisits_callee (sound : registry.IsSound) (distinct : registry.IsDistinct)
    (isWhole : whole.IsWhole registry) (recalls : RecallRevisits registry whole depth revive)
    {name : String} {count : Nat} (held : whole.arity? name = some count) (span : Span) :
    Revisits registry whole depth (callee registry revive name count span) := by
  intro ledger inside enough
  obtain ⟨last, ran, leads, here⟩ :=
    revisits_resolve sound distinct isWhole recalls held span inside enough
  obtain ⟨status, known⟩ := Option.isSome_iff_exists.1 here
  have arity : last.arity? name = some count := by
    rw [← held, arity?, arity?, known, leads.inside known]
  refine ⟨last, ?_, leads⟩
  rw [callee_eq, ran]
  simp only [arity, Option.getD_some]
  rw [if_neg (by simp)]

/-- A visible variable can be read. -/
theorem revisits_visible {names : List String} {name : String} (visible : name ∈ names)
    (span : Span) : Revisits registry whole depth (Check.visible names name span) := by
  unfold Check.visible
  rw [if_pos visible]
  exact .pure

/-- Calls that fit the whole ledger can be checked. -/
def CallsRevisit (registry : Registry) (whole : Ledger) (depth : Nat)
    (revive : Prototype → Expr → Check PUnit) : Prop :=
  ∀ {name : String} {count : Nat} (span : Span), whole.arity? name = some count →
    Revisits registry whole depth (callee registry revive name count span)

mutual

/-- A tree whose calls fit the whole ledger can be checked where its variables are visible. -/
theorem revisits_expr (calls : CallsRevisit registry whole depth revive) :
    ∀ (tree : Expr) (names : List String), tree.Scoped names → whole.Fits tree.calls →
      Revisits registry whole depth (expr registry revive names tree)
  | .number _ _, _, _, _ => .pure
  | .var name span, names, visible, _ => revisits_visible visible span
  | .binary _ .assign left right _, names, closed, fits => by
    cases left with
    | var name place =>
      exact (revisits_expr calls right names closed.1 fits).bind (revisits_visible closed.2 place)
    | _ => exact closed.elim
  | .binary _ (.user name) left right span, names, closed, fits =>
    (calls span fits.head).bind ((revisits_expr calls left names closed.1 fits.tail.left).bind
      (revisits_expr calls right names closed.2 fits.tail.right))
  | .binary _ (.builtin _) left right _, names, closed, fits =>
    (revisits_expr calls left names closed.1 fits.left).bind
      (revisits_expr calls right names closed.2 fits.right)
  | .unary _ operand span, names, closed, fits =>
    (calls span fits.head).bind (revisits_expr calls operand names closed fits.tail)
  | .call name arguments span, names, closed, fits =>
    (calls span fits.head).bind (revisits_exprs calls arguments names closed fits.tail)
  | .conditional condition consequent alternative _, names, closed, fits =>
    (revisits_expr calls condition names closed.1 fits.left).bind
      ((revisits_expr calls consequent names closed.2.1 fits.right.left).bind
        (revisits_expr calls alternative names closed.2.2 fits.right.right))
  | .loop counter start limit step body _, names, closed, fits =>
    (revisits_expr calls start names closed.1 fits.left).bind
      ((revisits_expr calls body (counter :: names) closed.2.1 fits.right.left).bind
        ((revisits_optional calls step (counter :: names) closed.2.2.1 fits.right.right.left).bind
          (revisits_expr calls limit (counter :: names) closed.2.2.2 fits.right.right.right)))
  | .binding name initializer body _, names, closed, fits =>
    (revisits_optional calls initializer names closed.1 fits.left).bind
      (revisits_expr calls body (name :: names) closed.2 fits.right)
  | .prototype _, _, closed, _ | .function _ _ _, _, closed, _ | .declaration _ _, _, closed, _ =>
    closed.elim

/-- Arguments whose calls fit the whole ledger can be checked where their variables are visible. -/
theorem revisits_exprs (calls : CallsRevisit registry whole depth revive) :
    ∀ (trees : List Expr) (names : List String), Expr.AreScoped names trees →
      whole.Fits (Expr.callsOfAll trees) →
      Revisits registry whole depth (exprs registry revive names trees)
  | [], _, _, _ => .pure
  | tree :: rest, names, closed, fits =>
    (revisits_expr calls tree names closed.1 fits.left).bind
      (revisits_exprs calls rest names closed.2 fits.right)

/-- A tree that may be left out, whose calls fit the whole ledger, can be checked where its
variables are visible. -/
theorem revisits_optional (calls : CallsRevisit registry whole depth revive) :
    ∀ (tree : Option Expr) (names : List String), Expr.IsOptionalScoped names tree →
      whole.Fits (Expr.callsOfOptional tree) →
      Revisits registry whole depth (optional registry revive names tree)
  | none, _, _, _ => .pure
  | some tree, names, closed, fits => revisits_expr calls tree names closed fits

end

end Rules

/-- Definitions that the whole ledger holds can be filled from the registry, if those that are not
filled may nest. -/
theorem recallRevisits_recallWithin (sound : registry.IsSound) (distinct : registry.IsDistinct)
    (isWhole : whole.IsWhole registry) (depth : Nat) :
    RecallRevisits registry whole depth (recallWithin registry depth) := by
  induction depth with
  | zero =>
    intro prototype body ledger found _ unknown _ enough
    have empty := source?_of_unknown unknown
    have fewer := pending_set_lt 0 ([], body) found rfl empty
    exact absurd fewer (by omega)
  | succ depth hypothesis =>
    intro prototype body ledger found holds unknown inside enough
    have empty := source?_of_unknown unknown
    have complete := isWhole.complete (source?_of_known holds)
    have fewer := pending_set_lt prototype.parameters.length (prototype.parameters, body) found rfl empty
    have calls : CallsRevisit registry whole depth (recallWithin registry depth) :=
      fun span held => revisits_callee sound distinct isWhole hypothesis held span
    have enough : (ledger.set prototype.linkedName (some ⟨prototype.parameters.length,
        some (prototype.parameters, body)⟩)).pending registry ≤ depth := by omega
    obtain ⟨last, ran, leads⟩ := revisits_define
      (fun names => expr registry (recallWithin registry depth) names body) complete.distinct holds
      (fun _ known => inside known) (.inl unknown)
      (revisits_expr calls body _ complete.closed complete.fits) enough
    refine ⟨last, ran, ⟨leads.inside, Nat.le_trans leads.fewer (Nat.le_of_lt fewer), ?_⟩, ?_⟩
    · intro name known
      refine leads.kept name ?_
      rw [known_set]
      split
      · rfl
      · exact known
    · refine leads.kept _ ?_
      rw [known_set, if_pos rfl]
      rfl

end Check

end Kaleidoscope
