import Kaleidoscope.Proofs.Lowering.Standing

/-!
# What checks that succeed keep

A check that succeeds leaves every name that it has touched as the registry has it: with as many
parameters, and with its definition if it has one (`Entry.status`). So whatever holds of the
entries of the registry, and of the names that a ledger knows, holds of the names that it knows
afterwards (`Check.keeps_expr`).
-/
namespace Kaleidoscope

namespace Entry

/-- What a unit holds for the name of an entry once that has been lowered. -/
def status : Entry → Status
  | .function prototype body => ⟨prototype.parameters.length, some (prototype.parameters, body)⟩
  | .declaration prototype => ⟨prototype.parameters.length, none⟩

end Entry

namespace Registry

/-- What the names of a registry mean once their entries have been lowered. -/
def statuses (registry : Registry) (name : String) : Option Status :=
  (registry.lookup? name).map Entry.status

/-- Something holds of all entries of a registry. -/
def Entries (registry : Registry) (holds : String → Status → Prop) : Prop :=
  ∀ name entry, registry.lookup? name = some entry → holds name entry.status

end Registry

/-- Something holds of all names that a ledger knows. -/
def Ledger.Known (ledger : Ledger) (holds : String → Status → Prop) : Prop :=
  ∀ name status, ledger.known name = some status → holds name status

/-- A name that is set to something of which it holds keeps it. -/
theorem Ledger.Known.set {holds : String → Status → Prop} {ledger : Ledger} {name : String}
    {status : Status} (known : ledger.Known holds) (own : holds name status) :
    (ledger.set name (some status)).Known holds := by
  intro other found same
  rw [Ledger.known_set] at same
  split at same
  · next equal =>
    cases same
    rwa [equal]
  · exact known other found same

namespace Check

variable {holds : String → Status → Prop}

/-- What holds of all names that a ledger knows holds of them still when an action has succeeded. -/
def Keeps (holds : String → Status → Prop) (action : Check PUnit) : Prop :=
  ∀ before done after, before.Known holds → action before = .ok done after → after.Known holds

namespace Keeps

/-- Doing nothing. -/
theorem pure : Keeps holds (pure ⟨⟩) := by
  intro before done after known same
  cases same
  exact known

/-- Failing. -/
theorem throw (error : LowerError) : Keeps holds (throw error) := by
  intro before done after known same
  contradiction

/-- One action after another. -/
theorem bind {first second : Check PUnit} (front : Keeps holds first) (back : Keeps holds second) :
    Keeps holds (do first; second) := by
  intro before done after known same
  simp only [Bind.bind, EStateM.bind] at same
  cases early : first before with
  | error error middle =>
    rw [early] at same
    contradiction
  | ok value middle =>
    rw [early] at same
    exact back middle done after (front before value middle known early) same

end Keeps

/-- What declaring does, case by case. -/
theorem declare_eq (prototype : Prototype) (before : Ledger) :
    declare prototype before =
      match Lower.duplicate? [] prototype.parameters, before.known prototype.linkedName with
      | some name, _ =>
        .error (.duplicateParameter prototype.linkedName name prototype.span) before
      | none, none =>
        .ok ⟨⟩ (before.set prototype.linkedName (some ⟨prototype.parameters.length, none⟩))
      | none, some status =>
        if status.arity ≠ prototype.parameters.length then
          .error (.redefinitionArity prototype.linkedName status.arity prototype.parameters.length
            prototype.span) before
        else if status.source.isSome then
          .error (.redefinition prototype.linkedName prototype.span) before
        else .ok ⟨⟩ before := by
  unfold declare
  cases Lower.duplicate? [] prototype.parameters with
  | some name => rfl
  | none =>
    simp only [Bind.bind, EStateM.bind, get_apply]
    cases before.known prototype.linkedName with
    | none => rfl
    | some status =>
      simp only
      split
      · rfl
      · split <;> rfl

/-- A name can be declared if it is free or has no body, and its parameters differ. -/
theorem declare_eq_ok {prototype : Prototype} {before after : Ledger} {done : PUnit} :
    declare prototype before = .ok done after ↔
      Lower.duplicate? [] prototype.parameters = none ∧
      (before.known prototype.linkedName = none ∧
          after = before.set prototype.linkedName (some ⟨prototype.parameters.length, none⟩) ∨
        before.known prototype.linkedName = some ⟨prototype.parameters.length, none⟩ ∧
          after = before) := by
  rw [declare_eq]
  cases Lower.duplicate? [] prototype.parameters with
  | some name => simp
  | none =>
    cases known : before.known prototype.linkedName with
    | none => simp [eq_comm]
    | some status =>
      obtain ⟨arity, source⟩ := status
      by_cases same : arity = prototype.parameters.length <;> cases source <;> simp [same, eq_comm]

/-- Declaring a name keeps what holds of declared names. -/
theorem keeps_declare {prototype : Prototype}
    (own : holds prototype.linkedName ⟨prototype.parameters.length, none⟩) :
    Keeps holds (declare prototype) := by
  intro before done after known same
  obtain ⟨_, ⟨_, rfl⟩ | ⟨_, rfl⟩⟩ := declare_eq_ok.1 same
  · exact known.set own
  · exact known

/-- Checking a definition keeps what holds of it and of all that is checked for its body. Before it
has its definition, nothing holds of its name. -/
theorem keeps_define {prototype : Prototype} {body : Expr} {inner : List String → Check PUnit}
    (own : holds prototype.linkedName
      ⟨prototype.parameters.length, some (prototype.parameters, body)⟩)
    (checks : Keeps holds (inner prototype.parameters.reverse)) {before after : Ledger}
    {done : PUnit} (known : ∀ name status, name ≠ prototype.linkedName →
      before.known name = some status → holds name status)
    (same : define prototype body inner before = .ok done after) : after.Known holds := by
  simp only [define, Bind.bind, EStateM.bind] at same
  cases declared : declare prototype before with
  | error error middle =>
    rw [declared] at same
    contradiction
  | ok value middle =>
    simp only [declared, fill, fillWith] at same
    have start : (middle.set prototype.linkedName
        (some ⟨prototype.parameters.length, some (prototype.parameters, body)⟩)).Known holds := by
      intro name status found
      rw [Ledger.known_set] at found
      split at found
      · next equal =>
        cases found
        rwa [equal]
      · next other =>
        refine known name status other ?_
        obtain ⟨_, ⟨_, rfl⟩ | ⟨_, rfl⟩⟩ := declare_eq_ok.1 declared
        · rwa [Ledger.known_set, if_neg other] at found
        · exact found
    generalize middle.set _ _ = filled at start same
    cases inside : inner prototype.parameters.reverse filled with
    | error error last =>
      simp only [inside] at same
      contradiction
    | ok value last =>
      simp only [inside] at same
      cases same
      exact checks filled value last start inside

section Rules

variable {registry : Registry} {revive : Prototype → Expr → Check PUnit}

/-- Which routine a call goes to is looked up in a ledger. -/
theorem resolve_apply (name : String) (span : Span) (before : Ledger) :
    resolve registry revive name span before =
      (match (before.known name).filter (·.source.isSome) with
        | some _ => pure ⟨⟩
        | none =>
          match registry.lookup? name with
          | some (.function prototype body) => inDefinition name span (revive prototype body)
          | some (.declaration prototype) =>
            match before.known name with
            | some _ => pure ⟨⟩
            | none => declare prototype
          | none => throw (.unknownFunction name span) : Check PUnit) before := rfl

/-- Which routine a call goes to, case by case. -/
theorem resolve_eq (name : String) (span : Span) (before : Ledger) :
    resolve registry revive name span before =
      if (before.source? name).isSome then .ok ⟨⟩ before
      else match registry.lookup? name with
        | some (.function prototype body) => inDefinition name span (revive prototype body) before
        | some (.declaration prototype) =>
          if (before.known name).isSome then .ok ⟨⟩ before else declare prototype before
        | none => .error (.unknownFunction name span) before := by
  rw [resolve_apply, Ledger.source?]
  cases known : before.known name with
  | none =>
    cases registry.lookup? name with
    | none => rfl
    | some entry => cases entry <;> rfl
  | some status =>
    obtain ⟨arity, source⟩ := status
    cases source with
    | some source => rfl
    | none =>
      cases registry.lookup? name with
      | none => rfl
      | some entry => cases entry <;> rfl

/-- A call is checked once its routine is there. -/
theorem callee_eq (name : String) (count : Nat) (span : Span) (before : Ledger) :
    callee registry revive name count span before =
      match resolve registry revive name span before with
      | .ok _ after =>
        if (after.arity? name).getD 0 ≠ count then
          .error (.argumentCount name ((after.arity? name).getD 0) count span) after
        else .ok ⟨⟩ after
      | .error error after => .error error after := by
  simp only [callee, Bind.bind, EStateM.bind, get_apply]
  cases resolve registry revive name span before with
  | error error after => rfl
  | ok done after =>
    simp only
    split <;> rfl

/-- Wrapping errors changes nothing else. -/
theorem keeps_inDefinition (name : String) (span : Span) {action : Check PUnit}
    (keeps : Keeps holds action) : Keeps holds (inDefinition name span action) := by
  intro before done after known same
  unfold inDefinition at same
  cases inside : action before with
  | error error last =>
    simp only [inside] at same
    contradiction
  | ok value last =>
    simp only [inside] at same
    cases same
    exact keeps before value after known inside

/-- A rule for the definitions of a registry keeps what holds of names. -/
def RecallKeeps (holds : String → Status → Prop) (registry : Registry)
    (revive : Prototype → Expr → Check PUnit) : Prop :=
  ∀ prototype body, registry.lookup? prototype.linkedName = some (.function prototype body) →
    Keeps holds (revive prototype body)

/-- A call keeps what holds of names. -/
theorem keeps_callee (sound : registry.IsSound) (entries : registry.Entries holds)
    (recalls : RecallKeeps holds registry revive) (name : String) (count : Nat) (span : Span) :
    Keeps holds (callee registry revive name count span) := by
  have resolves : Keeps holds (resolve registry revive name span) := by
    intro before done after known same
    rw [resolve_eq] at same
    split at same
    · cases same
      exact known
    · cases found : registry.lookup? name with
      | none =>
        rw [found] at same
        contradiction
      | some entry =>
        have own := entries name entry found
        obtain rfl := sound.linked found
        cases entry with
        | function prototype body =>
          rw [found] at same
          exact keeps_inDefinition _ span (recalls prototype body found) before done after known same
        | declaration prototype =>
          rw [found] at same
          simp only at same
          split at same
          · cases same
            exact known
          · exact keeps_declare own before done after known same
  intro before done after known same
  rw [callee_eq] at same
  cases inside : resolve registry revive name span before with
  | error error last =>
    rw [inside] at same
    contradiction
  | ok value last =>
    simp only [inside] at same
    split at same
    · contradiction
    · cases same
      exact resolves before value after known inside

/-- Reading a variable changes nothing. -/
theorem keeps_visible (names : List String) (name : String) (span : Span) :
    Keeps holds (visible names name span) := by
  unfold visible
  split
  · exact .pure
  · exact .throw _

/-- Calls keep what holds of names. -/
def CallsKeep (holds : String → Status → Prop) (registry : Registry)
    (revive : Prototype → Expr → Check PUnit) : Prop :=
  ∀ name count span, Keeps holds (callee registry revive name count span)

mutual

/-- Checking a tree keeps what holds of names. -/
theorem keeps_expr (calls : CallsKeep holds registry revive) :
    ∀ (tree : Expr) (names : List String), Keeps holds (expr registry revive names tree)
  | .number _ _, _ => .pure
  | .var name span, names => keeps_visible names name span
  | .binary _ .assign left right _, names => by
    cases left with
    | var name place => exact (keeps_expr calls right names).bind (keeps_visible names name place)
    | _ => exact .throw _
  | .binary _ (.user name) left right span, names =>
    (calls _ 2 span).bind
      ((keeps_expr calls left names).bind (keeps_expr calls right names))
  | .binary _ (.builtin _) left right _, names =>
    (keeps_expr calls left names).bind (keeps_expr calls right names)
  | .unary _ operand span, names =>
    (calls _ 1 span).bind (keeps_expr calls operand names)
  | .call name arguments span, names =>
    (calls name _ span).bind (keeps_exprs calls arguments names)
  | .conditional condition consequent alternative _, names =>
    (keeps_expr calls condition names).bind
      ((keeps_expr calls consequent names).bind (keeps_expr calls alternative names))
  | .loop counter start limit step body _, names =>
    (keeps_expr calls start names).bind ((keeps_expr calls body (counter :: names)).bind
      ((keeps_optional calls step (counter :: names)).bind (keeps_expr calls limit (counter :: names))))
  | .binding name initializer body _, names =>
    (keeps_optional calls initializer names).bind (keeps_expr calls body (name :: names))
  | .prototype _, _ | .function _ _ _, _ | .declaration _ _, _ => .pure

/-- Checking arguments keeps what holds of names. -/
theorem keeps_exprs (calls : CallsKeep holds registry revive) :
    ∀ (trees : List Expr) (names : List String), Keeps holds (exprs registry revive names trees)
  | [], _ => .pure
  | tree :: rest, names => (keeps_expr calls tree names).bind (keeps_exprs calls rest names)

/-- Checking a tree that may be left out keeps what holds of names. -/
theorem keeps_optional (calls : CallsKeep holds registry revive) :
    ∀ (tree : Option Expr) (names : List String),
      Keeps holds (optional registry revive names tree)
  | none, _ => .pure
  | some tree, names => keeps_expr calls tree names

end

/-- Definitions of the registry keep what holds of names, however deeply others are nested in
them. -/
theorem keeps_recallWithin (sound : registry.IsSound) (entries : registry.Entries holds)
    (depth : Nat) :
    RecallKeeps holds registry (recallWithin registry depth) := by
  induction depth with
  | zero => exact fun _ _ _ => .throw _
  | succ depth hypothesis =>
    intro prototype body found before done after known same
    exact keeps_define (entries _ _ found)
      (keeps_expr (keeps_callee sound entries hypothesis) body _) (fun name status _ => known name status) same

end Rules

end Check

end Kaleidoscope
