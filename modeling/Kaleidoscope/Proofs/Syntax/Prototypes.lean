import Kaleidoscope.Proofs.Lowering.Succeeding
import Kaleidoscope.Proofs.Syntax.Forms

/-!
# Prototypes and the table of operators

The operator of a prototype is known as soon as the prototype has been accepted, so a statement that
starts with an accepted prototype declares its operator, whatever becomes of the rest of the
statement (`Parser.accepted?`). Every other statement, and every token that is passed over, leaves
the table as it is. So the table after a program is the one before it with the operators of all
accepted prototypes in order (`Parser.reads_program`), those of malformed statements among them.

The statements that are well-formed give forms in the sense of `Expr.IsForm`, and the names that
operators and functions are linked under are all different
(`Prototype.IsAccepted.linkedName_eq_iff`).
-/
namespace Kaleidoscope

namespace Prototype

/-- Whether a prototype introduces an operator of the given use and name. -/
def introduces (fixity : Fixity) (name : String) (prototype : Prototype) : Bool :=
  prototype.kind.fixity? = some fixity ∧ prototype.name = name

/-- A prototype that a source can introduce. -/
structure IsAccepted (prototype : Prototype) : Prop where
  /-- Its name is without an underscore, or is the sign of an operator. -/
  plain : '_' ∉ prototype.name.toList ∨ prototype.name = "_" ∧ prototype.kind ≠ .function
  /-- Nothing is wrong with it as a whole. -/
  faultless : Parse.prototypeFault? prototype = none

namespace IsAccepted

variable {prototype : Prototype}

/-- The name of a function is without an underscore. -/
theorem plain_of_function (accepted : prototype.IsAccepted)
    (function : prototype.kind = .function) : '_' ∉ prototype.name.toList :=
  accepted.plain.resolve_right fun sign => sign.2 function

/-- It does not wrap an expression to run. -/
theorem isAnonymous_eq (accepted : prototype.IsAccepted) : prototype.isAnonymous = false := by
  refine decide_eq_false fun same => ?_
  have plain := accepted.plain
  rw [same] at plain
  exact absurd (plain.imp_right (·.1)) (by decide)

/-- An operator is linked under its name with its use in front of it. -/
theorem linkedName_eq {fixity : Fixity} (operator : prototype.kind.fixity? = some fixity) :
    prototype.linkedName = fixity.word ++ "_" ++ prototype.name := by
  unfold linkedName
  cases kind : prototype.kind <;> rw [kind] at operator <;> cases operator <;> rfl

/-- It is linked under an ordinary name. -/
theorem isOrdinary (accepted : prototype.IsAccepted) : IsOrdinary prototype.linkedName := by
  unfold linkedName
  cases kind : prototype.kind with
  | function => exact Expr.isOrdinary_of_notMem (accepted.plain_of_function kind)
  | unary => exact isOrdinary_of_head? (by rw [String.toList_append]; simp)
  | binary precedence => exact isOrdinary_of_head? (by rw [String.toList_append]; simp)

/-- Only the operator of a name is linked under that name with its use in front of it: functions
have no underscore in their names. -/
theorem linkedName_eq_iff (accepted : prototype.IsAccepted) (fixity : Fixity) (name : String) :
    prototype.linkedName = fixity.word ++ "_" ++ name ↔
      prototype.introduces fixity name = true := by
  rw [introduces, decide_eq_true_eq]
  refine ⟨fun same => ?_, fun ⟨operator, own⟩ => own ▸ linkedName_eq operator⟩
  cases used : prototype.kind.fixity? with
  | none =>
    have function : prototype.kind = .function := by
      cases kind : prototype.kind <;> rw [kind] at used <;> first | rfl | contradiction
    refine absurd ?_ (accepted.plain_of_function function)
    simp only [linkedName, function] at same
    rw [same]
    simp
  | some other =>
    rw [linkedName_eq used] at same
    cases fixity <;> cases other
    case unary.unary | binary.binary => exact ⟨rfl, by simpa [Fixity.word] using same⟩
    case unary.binary | binary.unary =>
      -- the first letters of the two uses differ
      have first := congrArg (·.toList.head?) same
      simp [Fixity.word] at first

/-- A built-in binary operator is never introduced. -/
theorem isBuiltin_eq (accepted : prototype.IsAccepted) {name : String}
    (binary : prototype.introduces .binary name = true) : OperatorTable.isBuiltin name = false := by
  obtain ⟨used, rfl⟩ := of_decide_eq_true binary
  have faultless := accepted.faultless
  rw [Parse.prototypeFault?, used] at faultless
  simp only at faultless
  split at faultless
  · contradiction
  · split at faultless
    · contradiction
    · next other => simpa using other

end IsAccepted

end Prototype

/-- The prototype of what a form introduces. -/
def Expr.signature? (form : Expr) : Option Prototype := form.entry?.map Entry.prototype

namespace Parser

/-- The prototype that is read here, if it is accepted. -/
def signature? (parser : Parser) : Option Prototype :=
  match Parse.prototype parser with
  | .ok signature _ => some signature
  | .error _ _ => none

/-- The prototype that is accepted in the statement that starts here, whether or not the rest of the
statement is well-formed. -/
def accepted? (parser : Parser) : Option Prototype :=
  match parser.current.kind with
  | .keyword .define | .keyword .declare => parser.advance.signature?
  | _ => none

end Parser

namespace Parse

open Kaleidoscope.Parser (Follows)

variable {parser : Parser}

/-- Parameters up to the closing parenthesis. -/
theorem builds_parameters (bound : Nat) : Builds (fun _ => True) (parameters bound) := by
  induction bound with
  | zero => exact .unexpected _
  | succ bound hypothesis =>
    refine Builds.current.bind fun token _ => ?_
    split
    · refine builds_expectIdent.bind fun found _ => (Builds.isAt .comma).bind fun more _ => ?_
      split
      · exact Builds.step.bind fun _ _ => hypothesis.bind fun _ _ => .pure trivial
      · exact hypothesis.bind fun _ _ => .pure trivial
    · exact .pure trivial
    · exact .unexpected _

/-- What a prototype introduces. -/
theorem builds_prototypeHead :
    Builds (fun head => '_' ∉ head.1.toList ∨ head.1 = "_" ∧ head.2 ≠ .function) prototypeHead := by
  have operator : ∀ {kind : PrototypeKind}, kind ≠ .function → ∀ {name : String},
      '_' ∉ name.toList ∨ name = "_" → '_' ∉ name.toList ∨ name = "_" ∧ kind ≠ .function :=
    fun other _ plain => plain.imp_right fun sign => ⟨sign, other⟩
  refine Builds.current.bind fun token _ => ?_
  split
  · exact Builds.step.bind fun _ _ => builds_expectOperatorName.bind fun _ plain =>
      .pure (operator (by simp) plain)
  · refine Builds.step.bind fun _ _ => (Builds.isAt .number).bind fun leads _ => ?_
    split
    · exact builds_expectPrecedence.bind fun _ _ => builds_expectOperatorName.bind fun _ plain =>
        .pure (operator (by simp) plain)
    · exact builds_expectOperatorName.bind fun _ plain => builds_expectPrecedence.bind fun _ _ =>
        .pure (operator (by simp) plain)
  · exact builds_expectIdent.bind fun _ plain => .pure (.inl plain)

/-- A prototype declares its operator if it is accepted, and nothing otherwise. -/
theorem declares_prototype :
    Declares (fun signature => [signature]) Prototype.IsAccepted prototype := by
  refine Builds.current.declares fun start _ => builds_prototypeHead.declares fun head plain => ?_
  refine (builds_expect _).declares fun _ _ => Builds.get.declares fun _ _ => ?_
  refine (builds_parameters _).declares fun names _ => (builds_expect _).declares fun close _ => ?_
  obtain ⟨name, kind⟩ := head
  intro parser named
  simp only
  split
  · exact .refl named
  · next faultless => exact ⟨⟨named, rfl⟩, plain, faultless⟩

/-- A prototype that is read and accepted is one that a source can introduce. -/
theorem leads_prototype (named : parser.IsNamed) :
    Leads prototype parser
      (fun signature next => parser.signature? = some signature ∧ signature.IsAccepted ∧
        Follows parser [signature] next)
      (fun next => parser.signature? = none ∧ Follows parser [] next) := by
  have declares := declares_prototype parser named
  unfold Leads Parser.signature? at *
  cases read : prototype parser with
  | ok signature next =>
    rw [read] at declares
    exact ⟨rfl, declares.2, declares.1⟩
  | error error next =>
    rw [read] at declares
    exact ⟨rfl, declares⟩

/-- What a form leads to: the prototype at its start, if it is accepted, is declared even if the
rest is malformed. A form that is read introduces that prototype. -/
def LeadsToForm (action : Parse Expr) (parser : Parser) : Prop :=
  Leads action parser
    (fun tree next => Follows parser parser.accepted?.toList next ∧ tree.IsForm ∧
      tree.signature? = parser.accepted?)
    (Follows parser parser.accepted?.toList)

/-- A form that starts with a prototype. -/
theorem leadsToForm_introduction {word : Keyword} {next : Token → Prototype → Parse Expr}
    (named : parser.IsNamed) (here : parser.current.kind = .keyword word)
    (accepted : parser.accepted? = parser.advance.signature?)
    (rest : ∀ start signature, signature.IsAccepted → Builds
      (fun tree => tree.IsForm ∧ tree.signature? = some signature)
      (next start signature)) :
    LeadsToForm (expect (.keyword word) >>= fun start => prototype >>= next start) parser := by
  have advanced := (Follows.refl named).advance
  refine .bind_of_eq (expect_eq here) ?_
  rw [accepted]
  have signed := leads_prototype advanced.named
  refine Leads.bind (signed.imp (fun _ _ => id) ?_) ?_
  · rintro last ⟨refused, follows⟩
    rw [refused]
    exact advanced.trans follows
  · rintro signature middle ⟨read, isAccepted, follows⟩
    rw [read]
    have declared := advanced.trans follows
    refine (rest parser.current signature isAccepted middle follows.named).imp ?_ ?_
    · rintro tree last ⟨further, isForm, introduces⟩
      exact ⟨declared.trans further, isForm, introduces⟩
    · exact fun last further => declared.trans further

/-- A form. -/
theorem leadsToForm_form (named : parser.IsNamed) : LeadsToForm form parser := by
  refine .bind_of_eq (rfl : current parser = .ok parser.current parser) ?_
  split
  · next here =>
    refine leadsToForm_introduction named here (by rw [Parser.accepted?, here]) ?_
    intro start signature accepted
    refine (builds_expression 0 false).bind fun body proper => .pure ⟨?_, ?_⟩
    · exact .definition _ accepted.isAnonymous_eq accepted.isOrdinary proper.isBody proper.calls
    · rw [Expr.signature?, Expr.entry?, accepted.isAnonymous_eq]
      rfl
  · next here =>
    refine leadsToForm_introduction named here (by rw [Parser.accepted?, here]) ?_
    intro start signature accepted
    exact .pure ⟨.declaration _ accepted.isAnonymous_eq accepted.isOrdinary, rfl⟩
  · next define declare =>
    have none : parser.accepted? = none := by
      unfold Parser.accepted?
      split
      · next here => exact absurd here define
      · next here => exact absurd here declare
      · rfl
    rw [none]
    have builds : Builds (fun tree => tree.IsForm ∧ tree.signature? = Option.none)
        (expression 0 false >>= fun body => Pure.pure body.anonymous) :=
      (builds_expression 0 false).bind fun body proper =>
        .pure ⟨Expr.isForm_anonymous proper.isBody proper.calls, rfl⟩
    exact builds parser named

/-- A statement. -/
theorem leadsToForm_statement (named : parser.IsNamed) : LeadsToForm statement parser := by
  refine Leads.bind (leadsToForm_form named) fun tree middle ⟨follows, holds⟩ => ?_
  have ends := (builds_expect .semicolon middle follows.named).imp
    (fun _ _ ⟨further, _⟩ => follows.onward further) fun _ further => follows.onward further
  exact ends.bind fun _ last ended => ⟨ended, holds⟩

end Parse

namespace Parser

variable {parser early late : Parser} {declared : List Prototype}

/-- Recovery declares nothing. -/
theorem Follows.recoverWithin (bound : Nat) : ∀ {late : Parser}, Follows early declared late →
    Follows early declared (late.recoverWithin bound) := by
  induction bound with
  | zero => exact fun follows => follows
  | succ bound hypothesis =>
    intro late follows
    rw [Parser.recoverWithin]
    split
    · exact follows
    · exact hypothesis follows.advance

/-- Leaving a malformed statement declares nothing. -/
theorem Follows.recover (follows : Follows early declared late) :
    Follows early declared late.recover := by
  unfold Parser.recover
  refine Follows.recoverWithin _ ?_
  split
  · exact follows
  · exact follows.advance

end Parser

/-- A prototype that has been accepted, and the place of its form among those of the program, unless
the rest of its statement is malformed. -/
structure Attempt where
  /-- The prototype. -/
  prototype : Prototype
  /-- The place of the form, counted from zero. -/
  place : Option Nat

/-- The prototype and the place of its form, if there is one. -/
def Attempt.placed? (attempt : Attempt) : Option (Prototype × Nat) :=
  attempt.place.map (attempt.prototype, ·)

namespace Parser

/-- The prototypes that are accepted in the statements up to the end of the input, at most the given
number. The forms are counted from an index. -/
def attemptsWithin : Nat → Nat → Parser → List Attempt
  | 0, _, _ => []
  | bound + 1, index, parser =>
    if parser.isAt .eof then []
    else if parser.isAt .semicolon then attemptsWithin bound index parser.advance
    else match Parse.statement parser with
      | .ok _ next =>
        (parser.accepted?.map (⟨·, some index⟩)).toList ++ attemptsWithin bound (index + 1) next
      | .error _ next =>
        (parser.accepted?.map (⟨·, none⟩)).toList ++ attemptsWithin bound index next.recover

/-- The prototypes that are accepted up to the end of the input. -/
def attempts (parser : Parser) : List Attempt := parser.attemptsWithin parser.remaining 0

/-- What the statements of a program amount to. -/
structure Reads (parser : Parser) (index : Nat) (attempts : List Attempt) (program : Program)
    (last : Parser) : Prop where
  /-- The table at the end has the operators of all accepted prototypes. -/
  follows : Follows parser (attempts.map (·.prototype)) last
  /-- The well-formed statements are forms. -/
  areForms : ∀ form ∈ program.forms, form.IsForm
  /-- A source can introduce every accepted prototype. -/
  areAccepted : ∀ attempt ∈ attempts, attempt.prototype.IsAccepted
  /-- The prototypes whose statements are well-formed are those of the forms. -/
  placed : attempts.filterMap Attempt.placed? =
    (program.forms.zipIdx index).filterMap fun pair => pair.1.signature?.map (·, pair.2)

variable {parser middle late : Parser} {index : Nat} {attempts : List Attempt} {program : Program}

/-- An accepted prototype is one that a source can introduce. -/
theorem isAccepted_of_accepted? {signature : Prototype} (named : parser.IsNamed)
    (accepted : parser.accepted? = some signature) : signature.IsAccepted := by
  have leads := Parse.leads_prototype named.advance
  unfold accepted? signature? at accepted
  unfold Parse.Leads at leads
  split at accepted
  case h_3 => contradiction
  all_goals
    cases read : Parse.prototype parser.advance with
    | ok other next =>
      rw [read] at accepted leads
      exact Option.some.inj accepted ▸ leads.2.1
    | error error next =>
      rw [read] at accepted
      contradiction

namespace Reads

/-- A statement before others of which the prototype is accepted or there is none. -/
theorem areAccepted_cons (named : parser.IsNamed) (place : Option Nat)
    (rest : ∀ attempt ∈ attempts, attempt.prototype.IsAccepted) :
    ∀ attempt ∈ (parser.accepted?.map (⟨·, place⟩)).toList ++ attempts,
      attempt.prototype.IsAccepted := by
  refine List.forall_mem_append.2 ⟨fun attempt member => ?_, rest⟩
  obtain ⟨signature, accepted, rfl⟩ := Option.map_eq_some_iff.1 (Option.mem_toList.1 member)
  exact isAccepted_of_accepted? named accepted

/-- A token that is passed over. -/
theorem advance (reads : Reads parser.advance index attempts program late) :
    Reads parser index attempts program late :=
  { reads with
    follows := ⟨reads.follows.named, by rw [reads.follows.operators_eq, operators_advance]⟩ }

/-- A well-formed statement before others. -/
theorem addForm {form : Expr} (named : parser.IsNamed)
    (first : Follows parser parser.accepted?.toList middle) (isForm : form.IsForm)
    (introduces : form.signature? = parser.accepted?)
    (reads : Reads middle (index + 1) attempts program late) :
    Reads parser index ((parser.accepted?.map (⟨·, some index⟩)).toList ++ attempts)
      (program.addForm form) late where
  follows := by
    convert first.trans reads.follows using 1
    cases parser.accepted? <;> rfl
  areForms := List.forall_mem_cons.2 ⟨isForm, reads.areForms⟩
  areAccepted := areAccepted_cons named _ reads.areAccepted
  placed := by
    rw [List.filterMap_append, reads.placed, Program.addForm, List.zipIdx_cons, List.filterMap_cons]
    simp only [introduces]
    cases parser.accepted? <;> rfl

/-- A malformed statement before others. -/
theorem addError {error : ParseError} (named : parser.IsNamed)
    (first : Follows parser parser.accepted?.toList middle)
    (reads : Reads middle index attempts program late) :
    Reads parser index ((parser.accepted?.map (⟨·, none⟩)).toList ++ attempts)
      (program.addError error) late where
  follows := by
    convert first.trans reads.follows using 1
    cases parser.accepted? <;> rfl
  areForms := reads.areForms
  areAccepted := areAccepted_cons named _ reads.areAccepted
  placed := by
    rw [List.filterMap_append, reads.placed]
    cases parser.accepted? <;> rfl

/-- No statements. -/
theorem empty (named : parser.IsNamed) : Reads parser index [] .empty parser :=
  ⟨.refl named, fun _ member => absurd member List.not_mem_nil,
    fun _ member => absurd member List.not_mem_nil, rfl⟩

end Reads

/-- The statements of a program give forms, and declare the operators of all accepted prototypes,
those of malformed statements among them. -/
theorem reads_programWithin (bound : Nat) : ∀ {parser : Parser} (index : Nat), parser.IsNamed →
    Reads parser index (parser.attemptsWithin bound index) (parser.programWithin bound).1
      (parser.programWithin bound).2 := by
  induction bound with
  | zero => exact fun index named => .empty named
  | succ bound hypothesis =>
    intro parser index named
    rw [attemptsWithin, programWithin]
    split
    · exact .empty named
    · split
      · exact (hypothesis index named.advance).advance
      · have leads := Parse.leadsToForm_statement named
        unfold Parse.LeadsToForm Parse.Leads at leads
        cases read : Parse.statement parser with
        | ok form next =>
          rw [read] at leads
          obtain ⟨follows, isForm, introduces⟩ := leads
          exact (hypothesis (index + 1) follows.named).addForm named follows isForm introduces
        | error error next =>
          rw [read] at leads
          exact (hypothesis index leads.recover.named).addError named leads.recover

/-- The statements up to the end of the input. -/
theorem reads_program (named : parser.IsNamed) :
    Reads parser 0 parser.attempts parser.program.1 parser.program.2 :=
  reads_programWithin _ 0 named

end Parser

end Kaleidoscope
