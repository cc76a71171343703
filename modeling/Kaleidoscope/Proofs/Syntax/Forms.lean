import Kaleidoscope.Proofs.Syntax.Body
import Kaleidoscope.Proofs.Syntax.Locality
import Kaleidoscope.Proofs.Token.Names

/-!
# The trees that expressions are read as

No rule of the grammar of expressions nests a form in an expression. The names that are called are
those of identifiers, which have no underscore, or of operators, which start with a letter, so no
expression calls the wrapper of another one (`Expr.IsProper`). And no such rule changes the table of
operators: only prototypes do (`Parser.Follows`).
-/
namespace Kaleidoscope

namespace Parser

/-- The tokens that have not been left are named as a source can name them. -/
def IsNamed (parser : Parser) : Prop := ∀ token ∈ parser.pending, token.IsNamed

variable {parser early middle late : Parser}

/-- The end of the input has no name. -/
theorem isNamed_endOfInput (line offset : UInt32) : (Token.endOfInput line offset).IsNamed :=
  fun _ named => by contradiction

/-- The tokens of a source are named as it can name them. -/
theorem isNamed_start {tokens : List Token} (named : ∀ token ∈ tokens, token.IsNamed)
    (operators : OperatorTable) : (start tokens operators).IsNamed := by
  cases tokens with
  | nil => exact List.forall_mem_singleton.2 (isNamed_endOfInput _ _)
  | cons token rest => exact named

/-- Leaving a token leaves tokens that are named as they were. -/
theorem IsNamed.advance (named : parser.IsNamed) : parser.advance.IsNamed := by
  obtain ⟨current, ahead, previous, operators⟩ := parser
  cases ahead with
  | nil => exact List.forall_mem_singleton.2 (isNamed_endOfInput _ _)
  | cons token rest => exact fun other member => named other (List.mem_cons_of_mem _ member)

/-- Leaving a token leaves the table as it is. -/
theorem operators_advance (parser : Parser) : parser.advance.operators = parser.operators := by
  obtain ⟨current, ahead, previous, operators⟩ := parser
  cases ahead <;> rfl

/-- A later parser of the same source. Some prototypes have been accepted in between. -/
structure Follows (early : Parser) (declared : List Prototype) (late : Parser) : Prop where
  /-- Its tokens are named as a source can name them. -/
  named : late.IsNamed
  /-- Its table has the operators of the prototypes as well. -/
  operators_eq : late.operators = declared.foldl OperatorTable.declare early.operators

namespace Follows

variable {front back : List Prototype}

/-- A parser follows itself. -/
theorem refl (named : parser.IsNamed) : Follows parser [] parser := ⟨named, rfl⟩

/-- What follows a later parser follows the earlier one, with the prototypes of both. -/
theorem trans (first : Follows early front middle) (second : Follows middle back late) :
    Follows early (front ++ back) late :=
  ⟨second.named, by rw [second.operators_eq, first.operators_eq, List.foldl_append]⟩

/-- What follows without any further prototype follows with the same ones. -/
theorem onward (first : Follows early front middle) (second : Follows middle [] late) :
    Follows early front late :=
  ⟨second.named, second.operators_eq.trans first.operators_eq⟩

/-- Leaving a token. -/
theorem advance (follows : Follows early front late) : Follows early front late.advance :=
  ⟨follows.named.advance, late.operators_advance.trans follows.operators_eq⟩

end Follows

end Parser

namespace Expr

/-- An expression as it is read: it nests no form, and the names that it calls are ordinary. -/
structure IsProper (expr : Expr) : Prop where
  /-- No form is nested in it. -/
  isBody : expr.IsBody
  /-- The names that it calls are ordinary. -/
  calls : expr.CallsOrdinary

/-- Expressions as they are read. -/
structure AreProper (exprs : List Expr) : Prop where
  /-- No form is nested in them. -/
  areBodies : AreBodies exprs
  /-- The names that they call are ordinary. -/
  calls : ∀ call ∈ callsOfAll exprs, IsOrdinary call.1

/-- An expression that may be left out, as it is read. -/
def IsOptionalProper (optional : Option Expr) : Prop := ∀ expr ∈ optional, expr.IsProper

/-- No name without an underscore is that of an expression to run. -/
theorem isOrdinary_of_notMem {name : String} (plain : '_' ∉ name.toList) : IsOrdinary name :=
  isOrdinary_of_head? fun first => plain (List.mem_of_head? first)

namespace IsOptionalProper

variable {optional : Option Expr}

/-- No form is nested in an expression that may be left out. -/
theorem isBody (proper : IsOptionalProper optional) : IsOptionalBody optional := by
  cases optional with
  | none => trivial
  | some expr => exact (proper expr rfl).isBody

/-- The names that it calls are ordinary. -/
theorem calls (proper : IsOptionalProper optional) :
    ∀ call ∈ callsOfOptional optional, IsOrdinary call.1 := by
  cases optional with
  | none => exact fun _ member => absurd member List.not_mem_nil
  | some expr => exact (proper expr rfl).calls

end IsOptionalProper

namespace IsProper

variable {first second third : Expr} {optional : Option Expr} {exprs : List Expr} {span : Span}

/-- A call of a name without an underscore. -/
theorem call {name : String} (plain : '_' ∉ name.toList) (arguments : AreProper exprs) :
    (Expr.call name exprs span).IsProper :=
  ⟨arguments.areBodies, List.forall_mem_cons.2 ⟨isOrdinary_of_notMem plain, arguments.calls⟩⟩

/-- A choice between two expressions. -/
theorem conditional (condition : first.IsProper) (consequent : second.IsProper)
    (alternative : third.IsProper) : (Expr.conditional first second third span).IsProper :=
  ⟨⟨condition.isBody, consequent.isBody, alternative.isBody⟩,
    List.forall_mem_append.2 ⟨condition.calls,
      List.forall_mem_append.2 ⟨consequent.calls, alternative.calls⟩⟩⟩

/-- A counted loop. -/
theorem loop {counter : String} (start : first.IsProper) (limit : second.IsProper)
    (step : IsOptionalProper optional) (body : third.IsProper) :
    (Expr.loop counter first second optional third span).IsProper :=
  ⟨⟨start.isBody, limit.isBody, step.isBody, body.isBody⟩,
    List.forall_mem_append.2 ⟨start.calls, List.forall_mem_append.2 ⟨body.calls,
      List.forall_mem_append.2 ⟨step.calls, limit.calls⟩⟩⟩⟩

/-- A local variable and the expression it is visible in. -/
theorem binding {name : String} (initializer : IsOptionalProper optional) (body : first.IsProper) :
    (Expr.binding name optional first span).IsProper :=
  ⟨⟨initializer.isBody, body.isBody⟩, List.forall_mem_append.2 ⟨initializer.calls, body.calls⟩⟩

/-- Local variables and the expression they are visible in. -/
theorem bindings {introduced : List (String × Option Expr)}
    (initializers : ∀ pair ∈ introduced, IsOptionalProper pair.2) (body : first.IsProper) :
    (introduced.foldr (fun (name, initializer) inner => Expr.binding name initializer inner span)
      first).IsProper := by
  induction introduced with
  | nil => exact body
  | cons pair rest hypothesis =>
    obtain ⟨own, others⟩ := List.forall_mem_cons.1 initializers
    exact .binding own (hypothesis others)

/-- The function behind an operator is ordinary, since its name starts with a letter. -/
theorem unary {operator : Token} (operand : first.IsProper) :
    (Expr.unary operator first span).IsProper := by
  refine ⟨operand.isBody, List.forall_mem_cons.2 ⟨isOrdinary_of_head? ?_, operand.calls⟩⟩
  rw [Expr.unaryCallee, String.toList_append]
  simp

/-- An operator between two operands. -/
theorem binary {operator : Token} {meaning : BinaryMeaning} (left : first.IsProper)
    (right : second.IsProper) : (Expr.binary operator meaning first second span).IsProper := by
  have both := List.forall_mem_append.2 ⟨left.calls, right.calls⟩
  refine ⟨⟨left.isBody, right.isBody⟩, ?_⟩
  cases meaning with
  | builtin => exact both
  | assign => exact right.calls
  | user name =>
    refine List.forall_mem_cons.2 ⟨isOrdinary_of_head? ?_, both⟩
    rw [String.toList_append]
    simp

end IsProper

/-- One more expression in front of others. -/
theorem AreProper.cons {expr : Expr} {exprs : List Expr} (first : expr.IsProper)
    (rest : AreProper exprs) : AreProper (expr :: exprs) :=
  ⟨⟨first.isBody, rest.areBodies⟩, List.forall_mem_append.2 ⟨first.calls, rest.calls⟩⟩

/-- No expressions. -/
theorem areProper_nil : AreProper [] := ⟨trivial, fun _ member => absurd member List.not_mem_nil⟩

end Expr

namespace Parse

open Kaleidoscope.Parser (Follows)
open Kaleidoscope.Expr (IsProper AreProper IsOptionalProper)

/-- What an action leads to: some things hold of its value and the parser afterwards if it succeeds,
and something of the parser if it fails. -/
def Leads {α : Type} (action : Parse α) (parser : Parser) (post : α → Parser → Prop)
    (fails : Parser → Prop) : Prop :=
  match action parser with
  | .ok value next => post value next
  | .error _ next => fails next

/-- An action that accepts some prototypes: from tokens as a source has them it leads to such tokens
again, with the operators of the prototypes declared if it succeeds and none if it fails. Something
holds of its value. -/
def Declares {α : Type} (declared : α → List Prototype) (post : α → Prop) (action : Parse α) :
    Prop :=
  ∀ parser : Parser, parser.IsNamed →
    Leads action parser (fun value next => Follows parser (declared value) next ∧ post value)
      (Follows parser [])

/-- An action of the grammar of expressions: it leaves the table as it is. -/
def Builds {α : Type} (post : α → Prop) (action : Parse α) : Prop :=
  Declares (fun _ => []) post action

variable {α β : Type} {action : Parse α} {next : α → Parse β} {parser : Parser}

namespace Leads

variable {between other : α → Parser → Prop} {post : β → Parser → Prop}
  {fails less : Parser → Prop}

/-- One action after another. -/
theorem bind (front : Leads action parser between fails)
    (back : ∀ value middle, between value middle → Leads (next value) middle post fails) :
    Leads (action >>= next) parser post fails := by
  unfold Leads at front back ⊢
  simp only [Bind.bind, EStateM.bind]
  cases first : action parser with
  | ok value middle =>
    rw [first] at front
    exact back value middle front
  | error error middle =>
    rw [first] at front
    exact front

/-- One action after another whose outcome is known. -/
theorem bind_of_eq {value : α} {middle : Parser} (first : action parser = .ok value middle)
    (back : Leads (next value) middle post fails) : Leads (action >>= next) parser post fails := by
  unfold Leads at back ⊢
  simp only [Bind.bind, EStateM.bind, first]
  exact back

/-- Less may be asked of where an action leads. -/
theorem imp (leads : Leads action parser between less)
    (succeeds : ∀ value last, between value last → other value last)
    (stops : ∀ last, less last → fails last) : Leads action parser other fails := by
  unfold Leads at leads ⊢
  cases done : action parser with
  | ok value last =>
    rw [done] at leads
    exact succeeds value last leads
  | error error last =>
    rw [done] at leads
    exact stops last leads

end Leads

namespace Builds

variable {early : α → Prop} {late : β → Prop}

/-- Yielding a value. -/
theorem pure {value : α} (holds : early value) : Builds early (pure value) :=
  fun _ named => ⟨.refl named, holds⟩

/-- Failing. -/
theorem throw (error : ParseError) : Builds early (throw error : Parse α) :=
  fun _ named => .refl named

/-- Failing at the current token. -/
theorem failHere (cause : ParseCause) : Builds early (failHere cause : Parse α) :=
  fun _ named => .refl named

/-- Failing because the current token is not expected. -/
theorem unexpected (expected : List Expectation) :
    Builds early (Parse.unexpected expected : Parse α) :=
  fun _ named => .refl named

/-- An action of the grammar of expressions before one that accepts prototypes. -/
theorem declares {declared : β → List Prototype} (front : Builds early action)
    (back : ∀ value, early value → Declares declared late (next value)) :
    Declares declared late (action >>= next) := by
  intro parser named
  refine (front parser named).bind fun value middle ⟨follows, holds⟩ => ?_
  refine (back value holds middle follows.named).imp (fun value last ⟨further, holds⟩ => ?_) ?_
  · exact ⟨follows.trans further, holds⟩
  · exact fun last further => follows.trans further

/-- One action after another. -/
theorem bind (front : Builds early action)
    (back : ∀ value, early value → Builds late (next value)) :
    Builds late (action >>= next) :=
  front.declares back

/-- An action on what another yields. -/
theorem map {change : α → β} (front : Builds early action)
    (back : ∀ value, early value → late (change value)) : Builds late (change <$> action) :=
  front.bind fun value holds => .pure (back value holds)

/-- Looking at the current token. -/
theorem current : Builds Token.IsNamed current :=
  fun parser named => ⟨.refl named, named parser.current List.mem_cons_self⟩

/-- Looking at the parser. -/
theorem get : Builds (fun _ => True) (MonadState.get : Parse Parser) :=
  fun _ named => ⟨.refl named, trivial⟩

/-- Asking for the kind of the current token. -/
theorem isAt (kind : Token.Kind) : Builds (fun _ => True) (isAt kind) :=
  fun _ named => ⟨.refl named, trivial⟩

/-- Leaving a token. -/
theorem step : Builds (fun _ => True) step :=
  fun _ named => ⟨(Follows.refl named).advance, trivial⟩

end Builds

section Actions

/-- Leaving a token of a kind. -/
theorem builds_expect (kind : Token.Kind) : Builds (fun _ => True) (expect kind) := by
  refine (Builds.isAt kind).bind fun here _ => ?_
  split
  · exact .step
  · refine (Builds.isAt .eof).bind fun ended _ => ?_
    split
    · exact .failHere _
    · exact .unexpected _

/-- An identifier has no underscore. -/
theorem builds_expectIdent : Builds (fun found => '_' ∉ found.1.toList) expectIdent := by
  refine Builds.current.bind fun token named => ?_
  split
  · next name kind carried =>
    have plain : '_' ∉ name.toList := by
      refine (named name carried).resolve_right fun sign => ?_
      rw [kind] at sign
      exact absurd sign.1 (by decide)
    split
    · exact .failHere _
    · exact Builds.step.bind fun _ _ => .pure plain
  · exact .failHere _
  · exact .failHere _

/-- The name of an operator has no underscore unless it is one. -/
theorem builds_expectOperatorName :
    Builds (fun found => '_' ∉ found.1.toList ∨ found.1 = "_") expectOperatorName := by
  refine Builds.current.bind fun token named => ?_
  split
  · next name carried =>
    split
    · exact Builds.step.bind fun _ _ => .pure ((named name carried).imp_right (·.2))
    · exact .failHere _
  · exact .failHere _

/-- A number. -/
theorem builds_expectNumber : Builds (fun _ => True) expectNumber := by
  refine Builds.current.bind fun token _ => ?_
  split
  · exact Builds.step.bind fun _ _ => .pure trivial
  · exact .unexpected _

/-- The precedence of an operator. -/
theorem builds_expectPrecedence : Builds (fun _ => True) expectPrecedence := by
  refine Builds.current.bind fun token _ => ?_
  split
  · refine builds_expectNumber.bind fun found _ => ?_
    obtain ⟨value, span⟩ := found
    simp only
    split
    · exact .pure trivial
    · exact .throw _
  · exact .failHere _

end Actions

section Rules

variable {nested : Float → Bool → Parse Expr}
  (nests : ∀ least inclusive, Builds IsProper (nested least inclusive))
include nests

/-- Arguments separated by commas. -/
theorem builds_arguments (bound : Nat) : Builds AreProper (arguments nested bound) := by
  induction bound with
  | zero => exact .failHere _
  | succ bound hypothesis =>
    refine (nests 0 false).bind fun argument own => (Builds.isAt .comma).bind fun more _ => ?_
    split
    · refine Builds.step.bind fun _ _ => hypothesis.bind fun others rest => ?_
      exact .pure (rest.cons own)
    · exact .pure (Expr.areProper_nil.cons own)

/-- A variable or a call. -/
theorem builds_reference : Builds IsProper (reference nested) := by
  refine builds_expectIdent.bind fun found plain => (Builds.isAt .leftParen).bind fun called _ => ?_
  obtain ⟨name, start⟩ := found
  simp only
  split
  · refine Builds.step.bind fun _ _ => (Builds.isAt .rightParen).bind fun empty _ => ?_
    have rest : ∀ values, AreProper values → Builds IsProper
        (expect .rightParen >>= fun close =>
          Pure.pure (Expr.call name values (start.join close.span))) :=
      fun values proper => (builds_expect _).bind fun close _ => .pure (.call plain proper)
    split
    · exact (Builds.pure Expr.areProper_nil).bind rest
    · exact Builds.get.bind fun _ _ => (builds_arguments nests _).bind rest
  · exact .pure ⟨trivial, fun _ member => absurd member List.not_mem_nil⟩

/-- A condition and the values it chooses between. -/
theorem builds_conditional : Builds IsProper (conditional nested) :=
  (builds_expect _).bind fun _ _ => (nests 0 false).bind fun _ condition =>
    (builds_expect _).bind fun _ _ => (nests 0 false).bind fun _ consequent =>
      (builds_expect _).bind fun _ _ => (nests 0 false).bind fun _ alternative =>
        .pure (.conditional condition consequent alternative)

/-- An expression that is wanted. -/
theorem builds_some : Builds IsOptionalProper (some <$> nested 0 false) :=
  (nests 0 false).map fun _ proper _ same => Option.some.inj same ▸ proper

/-- A counted loop. -/
theorem builds_loop : Builds IsProper (loop nested) := by
  refine (builds_expect _).bind fun start _ => builds_expectIdent.bind fun found _ => ?_
  refine (builds_expect _).bind fun _ _ => (nests 0 false).bind fun first initial => ?_
  refine (builds_expect _).bind fun _ _ => (nests 0 false).bind fun last limit => ?_
  have rest : ∀ increment, IsOptionalProper increment → Builds IsProper
      (expect (.keyword .inWord) >>= fun _ => nested 0 false >>= fun body =>
        Pure.pure (Expr.loop found.1 first last increment body (start.span.join body.span))) :=
    fun increment step => (builds_expect _).bind fun _ _ => (nests 0 false).bind fun _ body =>
      .pure (.loop initial limit step body)
  refine (Builds.isAt .comma).bind fun more _ => ?_
  split
  · exact Builds.step.bind fun _ _ => (builds_some nests).bind rest
  · exact (Builds.pure fun _ none => by contradiction).bind rest

/-- Local variables separated by commas. -/
theorem builds_bindings (bound : Nat) :
    Builds (fun introduced => ∀ pair ∈ introduced, IsOptionalProper pair.2)
      (bindings nested bound) := by
  induction bound with
  | zero => exact .failHere _
  | succ bound hypothesis =>
    refine builds_expectIdent.bind fun found _ => ?_
    have rest : ∀ initializer, IsOptionalProper initializer →
        Builds (fun introduced => ∀ pair ∈ introduced, IsOptionalProper pair.2)
          (isAt .comma >>= fun more => if more = true then
              step >>= fun _ => bindings nested bound >>= fun others =>
                Pure.pure ((found.1, initializer) :: others)
            else Pure.pure [(found.1, initializer)]) := by
      refine fun initializer proper => (Builds.isAt .comma).bind fun more _ => ?_
      split
      · refine Builds.step.bind fun _ _ => hypothesis.bind fun others areProper => ?_
        exact .pure (List.forall_mem_cons.2 ⟨proper, areProper⟩)
      · exact .pure (List.forall_mem_singleton.2 proper)
    refine (Builds.isAt .equal).bind fun given _ => ?_
    split
    · exact Builds.step.bind fun _ _ => (builds_some nests).bind rest
    · exact (Builds.pure fun _ none => by contradiction).bind rest

/-- Local variables and the expression they are visible in. -/
theorem builds_locals : Builds IsProper (locals nested) := by
  refine (builds_expect _).bind fun start _ => (Builds.isAt _).bind fun empty _ => ?_
  have rest : ∀ introduced : List (String × Option Expr),
      (∀ pair ∈ introduced, IsOptionalProper pair.2) → Builds IsProper
      (expect (.keyword .inWord) >>= fun _ => nested 0 false >>= fun body =>
        Pure.pure (introduced.foldr (fun (name, initializer) inner =>
          .binding name initializer inner (start.span.join body.span)) body)) :=
    fun introduced proper => (builds_expect _).bind fun _ _ => (nests 0 false).bind fun _ body =>
      .pure (.bindings proper body)
  split
  · exact (Builds.pure fun _ member => absurd member List.not_mem_nil).bind rest
  · exact Builds.get.bind fun _ _ => (builds_bindings nests _).bind rest

/-- An operand without unary operators. -/
theorem builds_primary : Builds IsProper (primary nested) := by
  refine Builds.current.bind fun token _ => ?_
  split
  · exact Builds.step.bind fun _ _ => (nests 0 false).bind fun _ proper =>
      (builds_expect _).bind fun _ _ => .pure proper
  · exact builds_reference nests
  · exact builds_expectNumber.bind fun _ _ =>
      .pure ⟨trivial, fun _ member => absurd member List.not_mem_nil⟩
  · exact builds_conditional nests
  · exact builds_loop nests
  · exact builds_locals nests
  · exact .failHere _
  · exact .unexpected _

/-- An operand. -/
theorem builds_operand (bound : Nat) : Builds IsProper (operand nested bound) := by
  induction bound with
  | zero => exact builds_primary nests
  | succ bound hypothesis =>
    refine Builds.get.bind fun parser _ => ?_
    split
    · exact Builds.step.bind fun _ _ => hypothesis.bind fun _ proper => .pure proper.unary
    · exact builds_primary nests

/-- The rest of a binary expression. -/
theorem builds_infixed {left : Expr} (proper : left.IsProper) (least : Option Float) :
    Builds IsProper (infixed nested left least) := by
  refine Builds.get.bind fun parser _ => Builds.step.bind fun operator _ => ?_
  refine (nests _ _).bind fun right other => ?_
  unfold Expr.binary?
  cases BinaryMeaning.ofToken? operator with
  | none => exact .throw _
  | some meaning => exact .pure (proper.binary other)

/-- Operators that are taken into an expression. -/
theorem builds_climb (least : Float) (inclusive : Bool) (bound : Nat) : ∀ {left : Expr},
    left.IsProper → Builds IsProper (climb nested least inclusive bound left) := by
  induction bound with
  | zero => exact fun proper => .pure proper
  | succ bound hypothesis =>
    refine fun proper => Builds.get.bind fun parser _ => ?_
    split
    · split
      · exact (builds_infixed nests proper _).bind fun _ whole => hypothesis whole
      · exact .pure proper
    · refine (Builds.isAt .operator).bind fun unknown _ => ?_
      split
      · exact Builds.current.bind fun _ _ => .failHere _
      · exact .pure proper

/-- An expression over the rule for those nested in it. -/
theorem builds_expressionRule (least : Float) (inclusive : Bool) :
    Builds IsProper (expressionRule nested least inclusive) := by
  refine (Builds.isAt _).bind fun introduces _ => ?_
  split
  · exact builds_locals nests
  · exact Builds.get.bind fun _ _ => (builds_operand nests _).bind fun _ proper =>
      Builds.get.bind fun _ _ => builds_climb nests least inclusive _ proper

end Rules

/-- An expression of bounded depth. -/
theorem builds_expressionWithin (depth : Nat) : ∀ (least : Float) (inclusive : Bool),
    Builds IsProper (expressionWithin depth least inclusive) := by
  induction depth with
  | zero => exact fun _ _ => .failHere _
  | succ depth hypothesis => exact builds_expressionRule hypothesis

/-- Every expression that is read nests no form and calls ordinary names. -/
theorem builds_expression (least : Float) (inclusive : Bool) :
    Builds IsProper (expression least inclusive) :=
  Builds.get.bind fun _ _ => builds_expressionWithin _ least inclusive

end Parse

end Kaleidoscope
