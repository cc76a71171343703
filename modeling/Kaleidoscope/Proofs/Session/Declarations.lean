import Kaleidoscope.Proofs.Batch.Failures
import Kaleidoscope.Proofs.Syntax.Prototypes
import Kaleidoscope.Session
import Mathlib.Data.List.Find

/-!
# Operators in a session

The table of operators and the registry are written at different times: the table when a prototype
is accepted, the registry when the form is lowered. A form that fails is taken back from the
registry, but nothing is ever taken back from the table. Both are therefore read off the prototypes
that have been accepted in a session, the latest first (`Session.Reachable`): the table holds the
latest of each operator, and the registry the latest whose form was lowered (`Session.Stands`). So
the two agree on an operator unless the form of its latest prototype was malformed or failed
(`Session.operators_agree`).
-/
namespace Kaleidoscope

/-- A sign or word that names an operator. -/
structure Token.IsSign (token : Token) (name : String) : Prop where
  /-- It is of a kind that operators are named by. -/
  kind : token.kind = .operator ∨ token.kind = .ident
  /-- Its text is the name. -/
  lexeme_eq : token.lexeme = name
  /-- It carries the name. -/
  name?_eq : token.name? = some name

namespace OperatorTable

/-- The table after some prototypes, the latest first. -/
def ofPrototypes (prototypes : List Prototype) : OperatorTable :=
  prototypes.foldr (fun prototype table => table.declare prototype) .empty

variable {table : OperatorTable} {token : Token} {name : String}

/-- A declared precedence is that of every token with the name, unless the operator is built in. -/
theorem precedence?_eq {precedence : Float} (declared : table.binary.lookup name = some precedence)
    (other : isBuiltin name = false) (sign : token.IsSign name) :
    table.precedence? token = some precedence := by
  have found : table.declared? token = some precedence := by
    rw [declared?, sign.name?_eq]
    exact declared
  have notBuiltin : builtin.lookup token.lexeme = none := by
    rw [sign.lexeme_eq]
    exact Option.isSome_eq_false_iff.1 other |> Option.isNone_iff_eq_none.1
  rcases sign.kind with kind | kind <;>
    simp only [precedence?, kind, notBuiltin, found, Option.none_or]

/-- A declared operator before an operand is known by every token with the name. -/
theorem isUnary_eq (declared : name ∈ table.unary) (sign : token.IsSign name) :
    table.isUnary token = true := by
  have kind : (token.kind = .operator || token.kind = .ident) = true := by simpa using sign.kind
  rw [isUnary, kind, sign.name?_eq, Option.any_some, Bool.true_and]
  exact List.contains_iff_mem.2 declared

variable {prototype : Prototype} {prototypes : List Prototype}

/-- A prototype gives its operator between operands its precedence. -/
theorem lookup_declare_own (introduces : prototype.introduces .binary name = true) :
    ∃ precedence, prototype.kind = .binary precedence ∧
      (table.declare prototype).binary.lookup name = some precedence := by
  obtain ⟨used, rfl⟩ := of_decide_eq_true introduces
  rw [declare]
  cases kind : prototype.kind with
  | binary precedence =>
    exact ⟨precedence, rfl, by simp only [lookup_declareBinary, if_true]⟩
  | _ => rw [kind] at used; contradiction

/-- A prototype leaves the precedences of all other operators. -/
theorem lookup_declare_other (other : prototype.introduces .binary name = false) :
    (table.declare prototype).binary.lookup name = table.binary.lookup name := by
  rw [declare]
  cases kind : prototype.kind with
  | binary precedence =>
    have different : name ≠ prototype.name := by
      rintro rfl
      simp [Prototype.introduces, kind, PrototypeKind.fixity?] at other
    simp only [lookup_declareBinary, if_neg different]
  | _ => rfl

/-- The table holds the precedence of the latest prototype of each operator between operands. -/
theorem lookup_ofPrototypes {latest : Prototype}
    (found : prototypes.find? (·.introduces .binary name) = some latest) :
    ∃ precedence, latest.kind = .binary precedence ∧
      (ofPrototypes prototypes).binary.lookup name = some precedence := by
  induction prototypes with
  | nil => contradiction
  | cons prototype rest hypothesis =>
    rw [List.find?_cons] at found
    rw [ofPrototypes, List.foldr_cons]
    cases introduces : prototype.introduces .binary name with
    | true =>
      rw [introduces] at found
      cases found
      exact lookup_declare_own introduces
    | false =>
      rw [introduces] at found
      rw [lookup_declare_other introduces]
      exact hypothesis found

/-- The table holds every operator before an operand that has been introduced. -/
theorem mem_ofPrototypes (member : prototype ∈ prototypes)
    (introduces : prototype.introduces .unary name = true) :
    name ∈ (ofPrototypes prototypes).unary := by
  induction prototypes with
  | nil => contradiction
  | cons first rest hypothesis =>
    rw [ofPrototypes, List.foldr_cons, declare]
    rcases List.mem_cons.1 member with rfl | later
    · obtain ⟨used, rfl⟩ := of_decide_eq_true introduces
      cases kind : prototype.kind <;> rw [kind] at used <;> cases used
      exact List.mem_cons_self
    · have known := hypothesis later
      cases first.kind with
      | function => exact known
      | unary => exact List.mem_cons_of_mem _ known
      | binary precedence => exact known

end OperatorTable

namespace Attempt

/-- Whether the statement of a prototype is well-formed and its form has no error. -/
def isFree (errors : List FormError) (attempt : Attempt) : Bool :=
  attempt.place.any fun place => !errors.any (·.index = some place)

/-- The prototypes of well-formed statements without an error. -/
theorem map_filter_isFree (errors : List FormError) (attempts : List Attempt) :
    (attempts.filter (·.isFree errors)).map (·.prototype) =
      ((attempts.filterMap placed?).filter fun pair => !errors.any (·.index = some pair.2)).map
        (·.1) := by
  induction attempts with
  | nil => rfl
  | cons attempt rest hypothesis =>
    obtain ⟨prototype, place⟩ := attempt
    cases place with
    | none => exact hypothesis
    | some place =>
      cases failed : errors.any (·.index = some place) <;>
        simpa [isFree, placed?, failed] using hypothesis

end Attempt

/-- The prototypes of the definitions and declarations that are entered are those of the forms
without an error. -/
theorem filterMap_entered (errors : List FormError) (forms : List Expr) : ∀ index : Nat,
    (entered errors index forms).filterMap Expr.signature? =
      (((forms.zipIdx index).filterMap fun pair => pair.1.signature?.map (·, pair.2)).filter
        fun pair => !errors.any (·.index = some pair.2)).map (·.1) := by
  induction forms with
  | nil => exact fun _ => rfl
  | cons form rest hypothesis =>
    intro index
    have rest := hypothesis (index + 1)
    rw [entered, List.zipIdx_cons, List.filterMap_cons]
    cases signature : form.signature? with
    | none =>
      simp only [Option.map_none]
      split
      · exact rest
      · rwa [List.filterMap_cons_none signature]
    | some prototype =>
      have named : form.isAnonymous = false := by
        refine Bool.eq_false_iff.2 fun anonymous => ?_
        cases form with
        | function own body span =>
          have same : own.isAnonymous = true := anonymous
          rw [Expr.signature?, Expr.entry?, same] at signature
          contradiction
        | _ => contradiction
      cases failed : errors.any (·.index = some index) with
      | true => simpa [named, failed] using rest
      | false => simpa [named, failed, List.filterMap_cons_some signature] using rest

/-- A form introduces the name that its prototype is linked under. -/
theorem Expr.introduced?_eq (form : Expr) :
    form.introduced? = form.signature?.map Prototype.linkedName := by
  rw [introduced?, signature?, Option.map_map]
  rfl

namespace Registry

/-- The prototype found under a name after a form: its own, or the one before. -/
theorem signature?_enter (registry : Registry) (form : Expr) (name : String) :
    ((registry.enter form).lookup? name).map Entry.prototype =
      (form.signature?.filter (·.linkedName = name)).or
        ((registry.lookup? name).map Entry.prototype) := by
  rw [lookup?_enter, Expr.introduced?_eq, Expr.signature?]
  cases form.entry? with
  | none => rfl
  | some entry =>
    by_cases same : entry.prototype.linkedName = name <;> simp [same, Option.filter]

/-- Forms that are entered one after the other: under a name the latest prototype with it is found. -/
theorem signature?_enterAll (forms : List Expr) (name : String) : ∀ registry : Registry,
    ((registry.enterAll forms).lookup? name).map Entry.prototype =
      ((forms.filterMap Expr.signature?).reverse.find? (·.linkedName = name)).or
        ((registry.lookup? name).map Entry.prototype) := by
  induction forms with
  | nil => exact fun _ => rfl
  | cons form rest hypothesis =>
    intro registry
    rw [enterAll, List.foldl_cons, ← enterAll, hypothesis, signature?_enter]
    cases signature : form.signature? with
    | none => rw [List.filterMap_cons_none signature, Option.filter_none, Option.none_or]
    | some prototype =>
      rw [List.filterMap_cons_some signature, List.reverse_cons, List.find?_append, Option.or_assoc]
      congr 2
      by_cases same : prototype.linkedName = name <;> simp [same, Option.filter]

end Registry

/-- A prototype that has been accepted in a session, and whether the registry has got its form. -/
structure Declared where
  /-- The prototype. -/
  prototype : Prototype
  /-- Whether its form has been entered into the registry. -/
  isEntered : Bool

/-- Whether a prototype introduces the operator of the given use and name, and its form has been
entered. -/
def Declared.enters (fixity : Fixity) (name : String) (declared : Declared) : Bool :=
  declared.isEntered && declared.prototype.introduces fixity name

/-- What an attempt comes to: the registry gets the form if a unit is opened, the statement is
well-formed and the form has no error. -/
def Attempt.declared (opens : Bool) (errors : List FormError) (attempt : Attempt) : Declared :=
  ⟨attempt.prototype, opens && attempt.isFree errors⟩

/-- The error of a form, if a failure is one. -/
def Failure.formError? : Failure → Option FormError
  | evaluation _ _ error => some error
  | _ => none

/-- The errors of forms. -/
def Answer.formErrors (answer : Answer) : List FormError :=
  answer.failures.filterMap Failure.formError?

/-- Whether a unit can be opened for the next batch. -/
def Evaluator.opensUnit (evaluator : Evaluator) : Bool :=
  match Build.beginUnit evaluator.unitName evaluator.builder with
  | .ok _ _ => true
  | .error _ _ => false

namespace Session

/-- The prototypes that are accepted in a source, the latest first. -/
def declarations (session : Session) (source : String) (answer : Answer) : List Declared :=
  match Token.scan source with
  | .error _ => []
  | .ok tokens =>
    ((Parser.start tokens session.operators).attempts.map
      (·.declared session.evaluator.opensUnit answer.formErrors)).reverse

/-- The states of a session, each with the prototypes that have been accepted up to it, the latest
first. -/
inductive Reachable : Session → List Declared → Prop
  /-- A new session. -/
  | new (path : String) (keepListing : Bool) (faults : FaultPlan) :
    Reachable (.new path keepListing faults) []
  /-- A source leads from one state to the next. -/
  | run {execution : Execution} {before after : Session} {source : String} {answer : Answer}
      {history : List Declared} (earlier : Reachable before history)
      (done : before.run execution source = some (answer, after)) :
    Reachable after (before.declarations source answer ++ history)

/-- The prototypes whose forms the registry has got. -/
def enteredOf (history : List Declared) : List Prototype :=
  (history.filter (·.isEntered)).map (·.prototype)

/-- How the table and the registry come from the prototypes that have been accepted. -/
structure Stands (session : Session) (history : List Declared) : Prop where
  /-- Batches of forms have led here. -/
  reachable : ∃ plan, Evaluator.ReachableUnder plan session.evaluator
  /-- A source can introduce every prototype. -/
  areAccepted : ∀ declared ∈ history, declared.prototype.IsAccepted
  /-- The table is that of all prototypes. -/
  operators_eq : session.operators = .ofPrototypes (history.map (·.prototype))
  /-- The registry has the latest entered prototype of each name. -/
  signature?_eq : ∀ name, (session.evaluator.registry.lookup? name).map Entry.prototype =
    (enteredOf history).find? (·.linkedName = name)

variable {session after : Session} {history : List Declared} {execution : Execution}
  {source : String} {answer : Answer}

/-- A new session. -/
theorem stands_new (path : String) (keepListing : Bool) (faults : FaultPlan) :
    (Session.new path keepListing faults).Stands [] where
  reachable := ⟨faults, .new keepListing⟩
  areAccepted := fun _ member => absurd member List.not_mem_nil
  operators_eq := rfl
  signature?_eq := fun _ => rfl

/-- The errors of forms in an answer are those of the batch. -/
theorem formErrors_eq (path : String) (values : List Float) (errors : List ParseError)
    (others : List FormError) :
    Answer.formErrors ⟨values, errors.map (.grammatical path source) ++
      others.map (.evaluation path source)⟩ = others := by
  have none : Failure.formError? ∘ Failure.grammatical path source = fun _ => none := rfl
  have some : Failure.formError? ∘ Failure.evaluation path source = some := rfl
  rw [Answer.formErrors, List.filterMap_append, List.filterMap_map, List.filterMap_map, none, some]
  simp

/-- The registry after a batch has, under each name, the latest prototype with that name whose form
has been entered in the batch, or else the one before. -/
theorem signature?_of_runBatch {before after : Evaluator} {forms : List Expr} {report : Report}
    {plan : FaultPlan} (reachable : Evaluator.ReachableUnder plan before)
    (areForms : ∀ form ∈ forms, form.IsForm)
    (done : before.runBatch execution forms = some (report, after)) (name : String) :
    (after.registry.lookup? name).map Entry.prototype =
      (bif before.opensUnit then
          ((entered report.errors 0 forms).filterMap Expr.signature?).reverse.find?
            (·.linkedName = name)
        else none).or ((before.registry.lookup? name).map Entry.prototype) := by
  have books := Evaluator.bookkeeping areForms reachable.idle.1 reachable.idle.2 done
  unfold Evaluator.opensUnit
  cases begun : Build.beginUnit before.unitName before.builder with
  | error error builder => rw [books.unopened error builder begun, cond_false, Option.none_or]
  | ok _ builder =>
    obtain ⟨_, _, _, _, _, closes⟩ := books.opened builder begun
    rw [closes.registry, Registry.signature?_enterAll, cond_true]

/-- The entered prototypes of a source and of what was before it. -/
theorem enteredOf_append (opens : Bool) (errors : List FormError) (attempts : List Attempt)
    (history : List Declared) :
    enteredOf ((attempts.map (·.declared opens errors)).reverse ++ history) =
      (bif opens then (attempts.filter (·.isFree errors)).map (·.prototype) else []).reverse ++
        enteredOf history := by
  unfold enteredOf
  rw [List.filter_append, List.filter_reverse, List.filter_map, List.map_append, List.map_reverse,
    List.map_map]
  cases opens with
  | true => rfl
  | false =>
    have none : (Declared.isEntered ∘ Attempt.declared false errors) = fun _ => false := rfl
    rw [none]
    simp

/-- A source adds the prototypes that are accepted in it. -/
theorem Stands.run (stands : session.Stands history)
    (done : session.run execution source = some (answer, after)) :
    after.Stands (session.declarations source answer ++ history) := by
  unfold Session.run parse at done
  unfold declarations
  cases scanned : Token.scan source with
  | error error =>
    simp only [scanned] at done
    cases done
    exact stands
  | ok tokens =>
    have named := Token.isNamed_of_scan scanned
    have reads := Parser.reads_program (Parser.isNamed_start named session.operators)
    have before : (Parser.start tokens session.operators).operators = session.operators := by
      cases tokens <;> rfl
    simp only [scanned, Program.ofTokens, runProgram, Option.bind_eq_bind] at done
    obtain ⟨⟨report, evaluator⟩, ran, done⟩ := Option.bind_eq_some_iff.1 done
    cases done
    obtain ⟨plan, reachable⟩ := stands.reachable
    simp only [formErrors_eq]
    generalize (Parser.start tokens session.operators).attempts = attempts at *
    refine ⟨⟨plan, reachable.batch reads.areForms ran⟩, ?_, ?_, fun name => ?_⟩
    · refine List.forall_mem_append.2 ⟨fun declared member => ?_, stands.areAccepted⟩
      obtain ⟨attempt, inside, rfl⟩ := List.mem_map.1 (List.mem_reverse.1 member)
      exact reads.areAccepted attempt inside
    · rw [reads.follows.operators_eq, before, stands.operators_eq]
      simp only [OperatorTable.ofPrototypes, List.map_append, List.map_reverse, List.map_map,
        List.foldr_append, List.foldr_reverse]
      rfl
    · rw [signature?_of_runBatch reachable reads.areForms ran, enteredOf_append, List.find?_append,
        stands.signature?_eq, filterMap_entered, ← reads.placed, ← Attempt.map_filter_isFree]
      cases session.evaluator.opensUnit <;> rfl

/-- The table and the registry of every session come from the prototypes that have been accepted. -/
theorem Reachable.stands (reachable : session.Reachable history) : session.Stands history := by
  induction reachable with
  | new path keepListing faults => exact stands_new path keepListing faults
  | run _ done hypothesis => exact hypothesis.run done

/-- The first of a list that something holds of, and something else as well, is the first that both
hold of. -/
theorem find?_and_of_find? {α : Type} {list : List α} {holds also : α → Bool} {first : α}
    (found : list.find? holds = some first) (own : also first = true) :
    (list.find? fun other => also other && holds other) = some first := by
  obtain ⟨held, early, late, whole, none⟩ := List.find?_eq_some_iff_append.1 found
  refine List.find?_eq_some_iff_append.2 ⟨by rw [own, held]; rfl, early, late, whole, ?_⟩
  intro other member
  rw [Bool.not_and, none other member, Bool.or_true]

/-- What the registry has under the name of an operator is the latest prototype of that operator
whose form has been entered. -/
theorem Stands.exists_kept (stands : session.Stands history) (fixity : Fixity) (name : String)
    {entry : Entry}
    (found : session.evaluator.registry.lookup? (fixity.word ++ "_" ++ name) = some entry) :
    ∃ kept ∈ history, kept.prototype.introduces fixity name = true ∧
      history.find? (·.enters fixity name) = some kept ∧ entry.prototype = kept.prototype := by
  have same := stands.signature?_eq (fixity.word ++ "_" ++ name)
  rw [found, Option.map_some, enteredOf, List.find?_map, List.find?_filter] at same
  obtain ⟨kept, latest, equal⟩ := Option.map_eq_some_iff.1 same.symm
  have first : history.find? (·.enters fixity name) = some kept := by
    rw [← latest]
    refine List.find?_congr fun declared member => ?_
    have linked := (stands.areAccepted declared member).linkedName_eq_iff fixity name
    rw [Declared.enters, Bool.eq_iff_iff, Bool.and_eq_true, ← linked]
    simp
  have both := (List.find?_eq_some_iff_append.1 first).1
  exact ⟨kept, List.mem_of_find?_eq_some first, (Bool.and_eq_true_iff.1 both).2, first, equal.symm⟩

/-- The table and the registry agree on every operator between operands whose latest prototype has
been entered. Where its statement was malformed or its form failed, the registry keeps the latest
one that was entered, and the table has the precedence of the one that was not. An operator before
an operand that the registry has is known to the table. -/
theorem operators_agree (reachable : session.Reachable history) (name : String) :
    (∀ entry, session.evaluator.registry.lookup? ("binary_" ++ name) = some entry →
      ∃ kept latest precedence,
        history.find? (·.enters .binary name) = some kept ∧
        entry.prototype = kept.prototype ∧
        history.find? (·.prototype.introduces .binary name) = some latest ∧
        latest.prototype.kind = .binary precedence ∧
        (∀ token : Token, token.IsSign name →
          session.operators.precedence? token = some precedence) ∧
        (latest.isEntered = true → entry.prototype = latest.prototype)) ∧
    (∀ entry, session.evaluator.registry.lookup? ("unary_" ++ name) = some entry →
      ∀ token : Token, token.IsSign name → session.operators.isUnary token = true) := by
  have stands := reachable.stands
  constructor
  · intro entry found
    obtain ⟨kept, inside, introduced, first, same⟩ := stands.exists_kept .binary name found
    obtain ⟨latest, last⟩ : ∃ latest,
        history.find? (·.prototype.introduces .binary name) = some latest :=
      Option.isSome_iff_exists.1 (List.find?_isSome.2 ⟨kept, inside, introduced⟩)
    have named : (history.map (·.prototype)).find? (·.introduces .binary name) =
        some latest.prototype := by
      rw [List.find?_map]
      exact congrArg (Option.map _) last
    obtain ⟨precedence, kind, declared⟩ := OperatorTable.lookup_ofPrototypes named
    have other := (stands.areAccepted kept inside).isBuiltin_eq introduced
    refine ⟨kept, latest, precedence, first, same, last, kind, fun token sign => ?_, ?_⟩
    · rw [stands.operators_eq]
      exact OperatorTable.precedence?_eq declared other sign
    · intro entered
      have both : history.find? (·.enters .binary name) = some latest :=
        find?_and_of_find? last entered
      rw [same, Option.some.inj (first.symm.trans both)]
  · intro entry found token sign
    obtain ⟨kept, inside, introduced, _⟩ := stands.exists_kept .unary name found
    rw [stands.operators_eq]
    exact OperatorTable.isUnary_eq
      (OperatorTable.mem_ofPrototypes (List.mem_map_of_mem inside) introduced) sign

/-- Run sources one after the other, and collect the prototypes that are accepted in them. -/
def runAll (execution : Execution) (session : Session) (history : List Declared) :
    List String → Option (Session × List Declared)
  | [] => some (session, history)
  | source :: rest => do
    let (answer, next) ← session.run execution source
    next.runAll execution (session.declarations source answer ++ history) rest

/-- Sources that are run one after the other lead from one state to another. -/
theorem Reachable.runAll {last : List Declared} (sources : List String) :
    ∀ {session : Session} {history : List Declared}, session.Reachable history →
      session.runAll execution history sources = some (after, last) → after.Reachable last := by
  induction sources with
  | nil =>
    intro session history reachable done
    cases done
    exact reachable
  | cons source rest hypothesis =>
    intro session history reachable done
    obtain ⟨⟨answer, next⟩, ran, done⟩ := Option.bind_eq_some_iff.1 done
    exact hypothesis (reachable.run ran) done

/-- A redefinition that is entered replaces the definition together with the precedence. -/
theorem operators_agree_redefined :
    ∃ (session : Session) (history : List Declared) (entry : Entry) (kept latest : Declared)
        (precedence : Float), session.Reachable history ∧
      session.operators.binary.lookup "|" = some 30 ∧
      session.evaluator.registry.lookup? ("binary_" ++ "|") = some entry ∧
      history.find? (·.enters .binary "|") = some kept ∧
      entry.prototype = kept.prototype ∧
      history.find? (·.prototype.introduces .binary "|") = some latest ∧
      latest.prototype.kind = .binary precedence ∧
      (∀ token : Token, token.IsSign "|" →
        session.operators.precedence? token = some precedence) ∧
      (latest.isEntered = true → entry.prototype = latest.prototype) := by
  have gives : ((Session.new interactive false []).runAll ⟨⟨.none, 4⟩, 10⟩ []
      ["def binary | 5 (a b) a - b;", "def binary | 30 (a b) b - a;"]).map (fun (session, _) =>
        (session.operators.binary.lookup "|",
          (session.evaluator.registry.lookup? "binary_|").isSome)) = some (some 30, true) := by
    decide +kernel
  obtain ⟨⟨session, history⟩, done, same⟩ := Option.map_eq_some_iff.1 gives
  obtain ⟨declared, known⟩ := Prod.mk.inj same
  obtain ⟨entry, found⟩ := Option.isSome_iff_exists.1 known
  have reachable := (Reachable.new interactive false []).runAll _ done
  obtain ⟨kept, latest, precedence, agree⟩ := (operators_agree reachable "|").1 entry found
  exact ⟨session, history, entry, kept, latest, precedence, reachable, declared, found, agree⟩

/-- A redefinition without a body leaves the old definition, but with the new precedence. -/
theorem operators_disagree :
    ∃ (session : Session) (history : List Declared) (entry : Entry),
      (Session.new interactive false []).runAll ⟨⟨.none, 4⟩, 10⟩ []
        ["def binary | 5 (a b) a - b;", "def binary | 30 (a b);"] = some (session, history) ∧
      session.Reachable history ∧
      session.evaluator.registry.lookup? ("binary_" ++ "|") = some entry ∧
      entry.prototype.kind = .binary 5 ∧ session.operators.binary.lookup "|" = some 30 := by
  have gives : ((Session.new interactive false []).runAll ⟨⟨.none, 4⟩, 10⟩ []
      ["def binary | 5 (a b) a - b;", "def binary | 30 (a b);"]).map (fun (session, _) =>
        (session.operators.binary.lookup "|",
          (session.evaluator.registry.lookup? "binary_|").map fun (entry : Entry) =>
            entry.prototype.kind)) = some (some 30, some (.binary 5)) := by
    decide +kernel
  obtain ⟨⟨session, history⟩, done, same⟩ := Option.map_eq_some_iff.1 gives
  obtain ⟨declared, known⟩ := Prod.mk.inj same
  obtain ⟨entry, found, kind⟩ := Option.map_eq_some_iff.1 known
  exact ⟨session, history, entry, done, (Reachable.new interactive false []).runAll _ done, found,
    kind, declared⟩

end Session

end Kaleidoscope
