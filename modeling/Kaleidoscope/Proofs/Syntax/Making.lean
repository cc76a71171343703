import Kaleidoscope.Proofs.Syntax.Climbing
import Kaleidoscope.Proofs.Syntax.Nesting
import Kaleidoscope.Proofs.Syntax.Progress
import Kaleidoscope.Proofs.Syntax.Strengths

/-!
# What trees are made of

Every node of a tree is made of tokens of the source: its name, number or operator is that of one of
them, and its place is joined from the places of a token and of another token or a child. So whatever
holds of all tokens of a source but its end holds of those that its trees are made of
(`Expr.IsMade`, `Program.madeForms_ofTokens`). Parentheses, separators and reserved words inside of a
rule leave no trace. The grammar is followed rule by rule for what is read, whatever the table of
operators (`Parse.Makes`); failures make nothing.
-/
namespace Kaleidoscope

/-- A token can name an operator: it is an identifier or a sign. -/
def Token.Names (token : Token) (name : String) : Prop :=
  (token.kind = .ident ∨ token.kind = .operator) ∧ token.name? = some name ∧ name.isEmpty = false

variable {holds : Token → Prop}

/-- Expressions that are made of tokens of which something holds. -/
inductive Expr.IsMade (holds : Token → Prop) : Expr → Prop
  /-- A number. -/
  | number {token : Token} {value : Float} (held : holds token)
      (literal : token.number? = some value) : IsMade holds (.number value token.span)
  /-- A variable. -/
  | var {token : Token} {name : String} (held : holds token) (ident : token.IsIdent name) :
      IsMade holds (.var name token.span)
  /-- An operator between two operands. -/
  | binary {operator : Token} {meaning : BinaryMeaning} {left right : Expr}
      (held : holds operator) (means : BinaryMeaning.ofToken? operator = some meaning)
      (ofLeft : IsMade holds left) (ofRight : IsMade holds right) :
      IsMade holds (.binary operator meaning left right (left.span.join right.span))
  /-- An operator before its operand. -/
  | unary {operator : Token} {operand : Expr} (held : holds operator)
      (kind : operator.kind = .ident ∨ operator.kind = .operator)
      (ofOperand : IsMade holds operand) :
      IsMade holds (.unary operator operand (operator.span.join operand.span))
  /-- A call. -/
  | call {token : Token} {name : String} {arguments : List Expr} {outer : Span}
      (held : holds token) (ident : token.IsIdent name)
      (ofArguments : ∀ argument ∈ arguments, IsMade holds argument) :
      IsMade holds (.call name arguments (token.span.join outer))
  /-- A conditional. -/
  | conditional {start : Token} {condition consequent alternative : Expr} (held : holds start)
      (ofCondition : IsMade holds condition) (ofConsequent : IsMade holds consequent)
      (ofAlternative : IsMade holds alternative) :
      IsMade holds
        (.conditional condition consequent alternative (start.span.join alternative.span))
  /-- A loop. -/
  | loop {start counter : Token} {name : String} {initial limit body : Expr} {step : Option Expr}
      (held : holds start) (counted : holds counter) (ident : counter.IsIdent name)
      (ofInitial : IsMade holds initial) (ofLimit : IsMade holds limit)
      (ofStep : ∀ expr ∈ step, IsMade holds expr) (ofBody : IsMade holds body) :
      IsMade holds (.loop name initial limit step body (start.span.join body.span))
  /-- A local variable; those of one clause have the place of the whole clause. -/
  | binding {start token : Token} {name : String} {initializer : Option Expr} {body : Expr}
      {outer : Span} (held : holds start) (named : holds token) (ident : token.IsIdent name)
      (ofInitializer : ∀ expr ∈ initializer, IsMade holds expr) (ofBody : IsMade holds body) :
      IsMade holds (.binding name initializer body (start.span.join outer))

/-- A prototype that is made of tokens of which something holds. -/
structure Prototype.IsMade (holds : Token → Prop) (prototype : Prototype) : Prop where
  /-- Its name is that of a token, and that of an identifier if it introduces a function. -/
  named : ∃ token, holds token ∧ token.Names prototype.name ∧
    (prototype.kind = .function → token.kind = .ident)
  /-- Its parameters are identifiers. -/
  parameters : ∀ name ∈ prototype.parameters, ∃ token, holds token ∧ token.IsIdent name
  /-- Its precedence, if it has any, is finite and positive. -/
  strong : prototype.kind.IsStrong
  /-- Its place is joined from that of its first token. -/
  place : ∃ start outer, holds start ∧ prototype.span = start.span.join outer

/-- Forms that are made of tokens of which something holds. -/
inductive Expr.IsMadeForm (holds : Token → Prop) : Expr → Prop
  /-- An expression to run. -/
  | job {body : Expr} (ofBody : body.IsMade holds) : IsMadeForm holds (.anonymous body)
  /-- A definition. -/
  | definition {start : Token} {signature : Prototype} {body : Expr} (held : holds start)
      (ofSignature : signature.IsMade holds) (ofBody : body.IsMade holds) :
      IsMadeForm holds (.function signature body (start.span.join body.span))
  /-- A declaration. -/
  | declaration {start : Token} {signature : Prototype} (held : holds start)
      (ofSignature : signature.IsMade holds) :
      IsMadeForm holds (.declaration signature (start.span.join signature.span))

/-- Something holds of a tree and of all trees below it. -/
inductive Expr.Everywhere (holds : Expr → Prop) : Expr → Prop
  /-- A tree and those below it. -/
  | node {tree : Expr} (own : holds tree) (inner : ∀ child ∈ tree.children, Everywhere holds child) :
      Everywhere holds tree

/-- What holds of a tree and of all trees below it holds of the tree. -/
theorem Expr.Everywhere.own {holds : Expr → Prop} {tree : Expr} (everywhere : tree.Everywhere holds) :
    holds tree := by
  obtain ⟨own, -⟩ := everywhere
  exact own

/-- It holds of all trees directly below it, and of all trees below those. -/
theorem Expr.Everywhere.children {holds : Expr → Prop} {tree : Expr}
    (everywhere : tree.Everywhere holds) : ∀ child ∈ tree.children, child.Everywhere holds := by
  obtain ⟨-, all⟩ := everywhere
  exact all

/-- Local variables and the expression they are visible in. -/
theorem Expr.IsMade.bindings {start : Token} {introduced : List (String × Option Expr)} {body : Expr}
    {outer : Span} (held : holds start)
    (named : ∀ pair ∈ introduced, (∃ token, holds token ∧ token.IsIdent pair.1) ∧
      ∀ expr ∈ pair.2, IsMade holds expr) (ofBody : body.IsMade holds) :
    (introduced.foldr (fun (name, initializer) inner =>
      Expr.binding name initializer inner (start.span.join outer)) body).IsMade holds := by
  induction introduced with
  | nil => exact ofBody
  | cons pair rest hypothesis =>
    obtain ⟨⟨⟨token, own, ident⟩, initializer⟩, others⟩ := List.forall_mem_cons.1 named
    exact .binding held own ident initializer (hypothesis others)

namespace Parser

variable {parser last : Parser}

/-- Something holds of the tokens that have not been left, the end of the input apart. -/
def Offers (holds : Token → Prop) (parser : Parser) : Prop :=
  ∀ token ∈ parser.pending, token.kind ≠ .eof → holds token

/-- Leaving a token leaves tokens of which the same holds. -/
theorem Offers.advance (offers : parser.Offers holds) : parser.advance.Offers holds := by
  obtain ⟨current, ahead, previous, operators⟩ := parser
  cases ahead with
  | nil => exact List.forall_mem_singleton.2 fun before => absurd rfl before
  | cons token rest => exact fun other member => offers other (List.mem_cons_of_mem _ member)

/-- Something that holds of some tokens, the end of the input apart, holds of those ahead of the
first. -/
theorem offers_start {tokens : List Token} (held : ∀ token ∈ tokens, token.kind ≠ .eof → holds token)
    (operators : OperatorTable) : (start tokens operators).Offers holds := by
  cases tokens with
  | nil => exact List.forall_mem_singleton.2 fun before => absurd rfl before
  | cons token rest => exact held

/-- Leaving tokens leaves others of which the same holds. -/
theorem Offers.takes {tokens : List Token} (offers : parser.Offers holds)
    (takes : Takes tokens parser last) : last.Offers holds ∧ ∀ token ∈ tokens, holds token := by
  induction takes with
  | none => exact ⟨offers, List.forall_mem_nil _⟩
  | @cons _ first _ before _ hypothesis =>
    obtain ⟨rest, others⟩ := hypothesis offers.advance
    exact ⟨rest, List.forall_mem_cons.2 ⟨offers _ List.mem_cons_self before, others⟩⟩

end Parser

namespace Parse

variable {α β : Type} {action : Parse α} {next : α → Parse β} {parser : Parser} {early : α → Prop}
  {late : β → Prop}

/-- What an action yields is made of tokens of which something holds, if all tokens ahead but the
end of the input are such tokens. -/
def Makes (holds : Token → Prop) (action : Parse α) (parser : Parser) (post : α → Prop) : Prop :=
  parser.Offers holds → ∀ value last, action parser = .ok value last →
    last.Offers holds ∧ post value

namespace Makes

/-- Yielding a value. -/
theorem pure {value : α} (own : early value) : Makes holds (pure value) parser early := by
  intro offers found last done
  cases done
  exact ⟨offers, own⟩

/-- Failing makes nothing. -/
theorem throw (error : ParseError) : Makes holds (throw error : Parse α) parser early := by
  intro offers found last done
  contradiction

/-- Failing at the current token makes nothing. -/
theorem failHere (cause : ParseCause) :
    Makes holds (failHere cause : Parse α) parser early := by
  intro offers found last done
  contradiction

/-- Failing because the current token is not expected makes nothing. -/
theorem unexpected (expected : List Expectation) :
    Makes holds (unexpected expected : Parse α) parser early := by
  intro offers found last done
  contradiction

/-- One action after another. -/
theorem bind (front : Makes holds action parser early)
    (back : ∀ value middle, early value → Makes holds (next value) middle late) :
    Makes holds (action >>= next) parser late := by
  intro offers value last done
  change EStateM.bind action next parser = _ at done
  unfold EStateM.bind at done
  cases first : action parser with
  | ok found middle =>
    rw [first] at done
    obtain ⟨offers, own⟩ := front offers _ _ first
    exact back found middle own offers _ _ done
  | error error middle =>
    rw [first] at done
    contradiction

/-- Reading something off the parser before an action. -/
theorem read {value : α} (same : action parser = .ok value parser)
    (back : Makes holds (next value) parser late) : Makes holds (action >>= next) parser late := by
  intro offers found last done
  simp only [Bind.bind, EStateM.bind, same] at done
  exact back offers found last done

/-- Leaving a token. -/
theorem step : Makes holds step parser fun token =>
    token = parser.current ∧ (token.kind ≠ .eof → holds token) := by
  intro offers token last done
  cases done
  exact ⟨offers.advance, rfl, offers _ List.mem_cons_self⟩

/-- What holds of whatever an action yields holds as well. -/
theorem yields {other : α → Prop} (front : Makes holds action parser early)
    (also : Yields other action) : Makes holds action parser fun value => early value ∧ other value := by
  intro offers value last done
  obtain ⟨rest, own⟩ := front offers value last done
  exact ⟨rest, own, also _ _ _ done⟩

/-- An action that leaves tokens of which something holds. -/
theorem of_reads {post : α → List Token → Parser → Prop}
    (reads : Reads parser.operators action parser post)
    (made : ∀ value tokens last, post value tokens last → (∀ token ∈ tokens, holds token) →
      early value) : Makes holds action parser early := by
  intro offers value last done
  obtain ⟨tokens, takes, own⟩ := reads rfl value last done
  obtain ⟨rest, taken⟩ := offers.takes takes
  exact ⟨rest, made _ _ _ own taken⟩

end Makes

section Actions

/-- A token of a kind. -/
theorem makes_expect {kind : Token.Kind} (before : kind ≠ .eof) :
    Makes holds (expect kind) parser holds := by
  refine .of_reads (reads_expect before) ?_
  rintro token tokens last ⟨-, rfl⟩ taken
  exact taken _ List.mem_cons_self

/-- An identifier. -/
theorem makes_expectIdent : Makes holds expectIdent parser fun found =>
    ∃ token, holds token ∧ token.IsIdent found.1 ∧ found.2 = token.span := by
  refine .of_reads reads_expectIdent ?_
  rintro found tokens last ⟨ident, place, rfl⟩ taken
  exact ⟨_, taken _ List.mem_cons_self, ident, place⟩

/-- A number. -/
theorem makes_expectNumber : Makes holds expectNumber parser fun found =>
    ∃ token, holds token ∧ token.number? = some found.1 ∧ found.2 = token.span := by
  refine .of_reads reads_expectNumber ?_
  rintro found tokens last ⟨-, literal, place, rfl⟩ taken
  exact ⟨_, taken _ List.mem_cons_self, literal, place⟩

/-- The name of an operator. -/
theorem makes_expectOperatorName : Makes holds expectOperatorName parser fun found =>
    ∃ token, holds token ∧ token.Names found.1 := by
  refine .read (rfl : current parser = .ok parser.current parser) ?_
  split
  · next name literal =>
    split
    · next named =>
      obtain ⟨kind, some⟩ := named
      refine Makes.step.bind fun token middle own => ?_
      obtain ⟨rfl, taken⟩ := own
      have before : parser.current.kind ≠ .eof := by
        rcases kind with kind | kind <;> simp [kind]
      exact .pure ⟨_, taken before, kind, literal, by simpa using some⟩
    · exact .failHere _
  · exact .failHere _

/-- The precedence of an operator. -/
theorem makes_expectPrecedence : Makes holds expectPrecedence parser fun _ => True := by
  refine .read (rfl : current parser = .ok parser.current parser) ?_
  split
  · refine makes_expectNumber.bind fun found middle _ => ?_
    obtain ⟨value, span⟩ := found
    simp only
    split
    · exact .pure trivial
    · exact .throw _
  · exact .failHere _

end Actions

section Rules

variable {nested : Float → Bool → Parse Expr}
  (nests : ∀ least inclusive parser,
    Makes holds (nested least inclusive) parser (Expr.IsMade holds))
include nests

/-- Arguments separated by commas. -/
theorem makes_arguments (bound : Nat) : ∀ {parser : Parser},
    Makes holds (arguments nested bound) parser fun values =>
      ∀ value ∈ values, value.IsMade holds := by
  induction bound with
  | zero => exact .failHere _
  | succ bound hypothesis =>
    intro parser
    refine (nests 0 false parser).bind fun value middle own => ?_
    refine .read (rfl : isAt .comma middle = .ok _ middle) ?_
    split
    · refine Makes.step.bind fun _ _ _ => hypothesis.bind fun others _ rest => ?_
      exact .pure (List.forall_mem_cons.2 ⟨own, rest⟩)
    · exact .pure (List.forall_mem_singleton.2 own)

/-- A variable or a call. -/
theorem makes_reference : Makes holds (reference nested) parser (Expr.IsMade holds) := by
  refine makes_expectIdent.bind fun found middle own => ?_
  obtain ⟨name, start⟩ := found
  obtain ⟨token, held, ident, rfl⟩ := own
  refine .read (rfl : isAt .leftParen middle = .ok _ middle) ?_
  split
  · refine Makes.step.bind fun _ front _ => ?_
    -- What follows is the same with arguments and without.
    have rest : ∀ (values : List Expr) (back : Parser), (∀ value ∈ values, value.IsMade holds) →
        Makes holds (expect .rightParen >>= fun close =>
          Pure.pure (Expr.call name values (token.span.join close.span))) back
          (Expr.IsMade holds) :=
      fun values back made => (makes_expect (by decide)).bind fun _ _ _ =>
        .pure (.call held ident made)
    refine .read (rfl : isAt .rightParen front = .ok _ front) ?_
    split
    · exact rest [] front (List.forall_mem_nil _)
    · refine .read (rfl : (MonadState.get : Parse Parser) front = .ok front front) ?_
      exact (makes_arguments nests _).bind rest
  · exact .pure (.var held ident)

/-- A condition and the values it chooses between. -/
theorem makes_conditional : Makes holds (conditional nested) parser (Expr.IsMade holds) :=
  (makes_expect (by decide)).bind fun _ _ held =>
    (nests 0 false _).bind fun _ _ ofCondition =>
      (makes_expect (by decide)).bind fun _ _ _ => (nests 0 false _).bind fun _ _ ofConsequent =>
        (makes_expect (by decide)).bind fun _ _ _ => (nests 0 false _).bind fun _ _ ofAlternative =>
          .pure (.conditional held ofCondition ofConsequent ofAlternative)

/-- An expression that is wanted. -/
theorem makes_some : Makes holds (some <$> nested 0 false) parser fun found =>
    ∀ expr ∈ found, expr.IsMade holds := by
  refine (nests 0 false parser).bind fun value middle own => .pure ?_
  rintro expr ⟨⟩
  exact own

/-- A counted loop. -/
theorem makes_loop : Makes holds (loop nested) parser (Expr.IsMade holds) := by
  refine (makes_expect (by decide)).bind fun start _ held => ?_
  refine makes_expectIdent.bind fun found _ own => ?_
  obtain ⟨token, counted, ident, -⟩ := own
  refine (makes_expect (by decide)).bind fun _ _ _ => (nests 0 false _).bind fun first _ initial => ?_
  refine (makes_expect (by decide)).bind fun _ _ _ => (nests 0 false _).bind fun last middle limit => ?_
  have rest : ∀ (increment : Option Expr) (back : Parser),
      (∀ expr ∈ increment, expr.IsMade holds) →
      Makes holds (expect (.keyword .inWord) >>= fun _ => nested 0 false >>= fun body =>
        Pure.pure (Expr.loop found.1 first last increment body (start.span.join body.span))) back
        (Expr.IsMade holds) :=
    fun increment back step => (makes_expect (by decide)).bind fun _ _ _ =>
      (nests 0 false _).bind fun _ _ body =>
        .pure (.loop held counted ident initial limit step body)
  refine .read (rfl : isAt .comma middle = .ok _ middle) ?_
  split
  · exact Makes.step.bind fun _ _ _ => (makes_some nests).bind rest
  · exact Makes.bind (.pure fun _ none => by contradiction) rest

/-- Local variables separated by commas. -/
theorem makes_bindings (bound : Nat) : ∀ {parser : Parser},
    Makes holds (bindings nested bound) parser fun introduced =>
      ∀ pair ∈ introduced, (∃ token, holds token ∧ token.IsIdent pair.1) ∧
        ∀ expr ∈ pair.2, expr.IsMade holds := by
  induction bound with
  | zero => exact .failHere _
  | succ bound hypothesis =>
    intro parser
    refine makes_expectIdent.bind fun found middle own => ?_
    obtain ⟨token, held, ident, -⟩ := own
    have rest : ∀ (initializer : Option Expr) (back : Parser),
        (∀ expr ∈ initializer, expr.IsMade holds) →
        Makes holds (isAt .comma >>= fun more => if more = true then
            step >>= fun _ => bindings nested bound >>= fun others =>
              Pure.pure ((found.1, initializer) :: others)
          else Pure.pure [(found.1, initializer)]) back fun introduced =>
          ∀ pair ∈ introduced, (∃ token, holds token ∧ token.IsIdent pair.1) ∧
            ∀ expr ∈ pair.2, expr.IsMade holds := by
      intro initializer back made
      refine .read (rfl : isAt .comma back = .ok _ back) ?_
      split
      · refine Makes.step.bind fun _ _ _ => hypothesis.bind fun others _ more => ?_
        exact .pure (List.forall_mem_cons.2 ⟨⟨⟨token, held, ident⟩, made⟩, more⟩)
      · exact .pure (List.forall_mem_singleton.2 ⟨⟨token, held, ident⟩, made⟩)
    refine .read (rfl : isAt .equal middle = .ok _ middle) ?_
    split
    · exact Makes.step.bind fun _ _ _ => (makes_some nests).bind rest
    · exact Makes.bind (.pure fun _ none => by contradiction) rest

/-- Local variables and the expression they are visible in. -/
theorem makes_locals : Makes holds (locals nested) parser (Expr.IsMade holds) := by
  refine (makes_expect (by decide)).bind fun start middle held => ?_
  have rest : ∀ (introduced : List (String × Option Expr)) (back : Parser),
      (∀ pair ∈ introduced, (∃ token, holds token ∧ token.IsIdent pair.1) ∧
        ∀ expr ∈ pair.2, expr.IsMade holds) →
      Makes holds (expect (.keyword .inWord) >>= fun _ => nested 0 false >>= fun body =>
        Pure.pure (introduced.foldr (fun (name, initializer) inner =>
          .binding name initializer inner (start.span.join body.span)) body)) back
        (Expr.IsMade holds) :=
    fun introduced back named => (makes_expect (by decide)).bind fun _ _ _ =>
      (nests 0 false _).bind fun _ _ body => .pure (.bindings held named body)
  refine .read (rfl : isAt _ middle = .ok _ middle) ?_
  split
  · exact Makes.bind (.pure (List.forall_mem_nil _)) rest
  · refine .read (rfl : (MonadState.get : Parse Parser) middle = .ok middle middle) ?_
    exact (makes_bindings nests _).bind rest

/-- An operand without unary operators. -/
theorem makes_primary : Makes holds (primary nested) parser (Expr.IsMade holds) := by
  refine .read (rfl : current parser = .ok parser.current parser) ?_
  split
  · exact Makes.step.bind fun _ _ _ => (nests 0 false _).bind fun _ _ made =>
      (makes_expect (by decide)).bind fun _ _ _ => .pure made
  · exact makes_reference nests
  · refine makes_expectNumber.bind fun found _ own => ?_
    obtain ⟨value, span⟩ := found
    obtain ⟨token, held, literal, rfl⟩ := own
    exact .pure (.number held literal)
  · exact makes_conditional nests
  · exact makes_loop nests
  · exact makes_locals nests
  · exact .failHere _
  · exact .unexpected _

/-- An operand. -/
theorem makes_operand (bound : Nat) : ∀ {parser : Parser},
    Makes holds (operand nested bound) parser (Expr.IsMade holds) := by
  induction bound with
  | zero => exact makes_primary nests
  | succ bound hypothesis =>
    intro parser
    refine .read (rfl : (MonadState.get : Parse Parser) parser = .ok parser parser) ?_
    split
    · next isUnary =>
      refine Makes.step.bind fun operator _ own => ?_
      obtain ⟨rfl, held⟩ := own
      have kind : parser.current.kind = .ident ∨ parser.current.kind = .operator := by
        simp only [OperatorTable.isUnary, Bool.and_eq_true, Bool.or_eq_true,
          decide_eq_true_eq] at isUnary
        exact isUnary.1.symm
      have before : parser.current.kind ≠ .eof := by
        rcases kind with kind | kind <;> simp [kind]
      exact hypothesis.bind fun inner _ made => .pure (.unary (held before) kind made)
    · exact makes_primary nests

/-- The rest of a binary expression. -/
theorem makes_infixed {left : Expr} (made : left.IsMade holds) (least : Option Float) :
    Makes holds (infixed nested left least) parser (Expr.IsMade holds) := by
  refine .read (rfl : (MonadState.get : Parse Parser) parser = .ok parser parser) ?_
  refine Makes.step.bind fun operator _ own => (nests _ _ _).bind fun right _ other => ?_
  unfold Expr.binary?
  cases means : BinaryMeaning.ofToken? operator with
  | none => exact .throw _
  | some meaning =>
    have before : operator.kind ≠ .eof := by
      intro ended
      simp [BinaryMeaning.ofToken?, ended] at means
    exact .pure (.binary (own.2 before) means made other)

/-- Operators that are taken into an expression. -/
theorem makes_climb (least : Float) (inclusive : Bool) (bound : Nat) :
    ∀ {left : Expr} {parser : Parser}, left.IsMade holds →
      Makes holds (climb nested least inclusive bound left) parser (Expr.IsMade holds) := by
  induction bound with
  | zero => exact fun made => .pure made
  | succ bound hypothesis =>
    intro left parser made
    refine .read (rfl : (MonadState.get : Parse Parser) parser = .ok parser parser) ?_
    split
    · split
      · exact (makes_infixed nests made _).bind fun _ _ whole => hypothesis whole
      · exact .pure made
    · refine .read (rfl : isAt .operator parser = .ok _ parser) ?_
      split
      · exact .read (rfl : current parser = .ok parser.current parser) (.failHere _)
      · exact .pure made

/-- An expression over the rule for those nested in it. -/
theorem makes_expressionRule (least : Float) (inclusive : Bool) (parser : Parser) :
    Makes holds (expressionRule nested least inclusive) parser (Expr.IsMade holds) := by
  refine .read (rfl : isAt _ parser = .ok _ parser) ?_
  split
  · exact makes_locals nests
  · refine .read (rfl : (MonadState.get : Parse Parser) parser = .ok parser parser) ?_
    refine (makes_operand nests _).bind fun left middle made => ?_
    refine .read (rfl : (MonadState.get : Parse Parser) middle = .ok middle middle) ?_
    exact makes_climb nests least inclusive _ made

end Rules

/-- An expression of bounded depth. -/
theorem makes_expressionWithin (depth : Nat) : ∀ (least : Float) (inclusive : Bool)
    (parser : Parser), Makes holds (expressionWithin depth least inclusive) parser
      (Expr.IsMade holds) := by
  induction depth with
  | zero => exact fun _ _ _ => .failHere _
  | succ depth hypothesis => exact makes_expressionRule hypothesis

/-- An expression. -/
theorem makes_expression (least : Float) (inclusive : Bool) :
    Makes holds (expression least inclusive) parser (Expr.IsMade holds) :=
  .read (rfl : (MonadState.get : Parse Parser) parser = .ok parser parser)
    (makes_expressionWithin _ least inclusive parser)

/-- Parameters. -/
theorem makes_parameters (bound : Nat) : ∀ {parser : Parser},
    Makes holds (parameters bound) parser fun names =>
      ∀ name ∈ names, ∃ token, holds token ∧ token.IsIdent name := by
  induction bound with
  | zero => exact .unexpected _
  | succ bound hypothesis =>
    intro parser
    refine .read (rfl : current parser = .ok parser.current parser) ?_
    split
    · refine makes_expectIdent.bind fun found middle own => ?_
      obtain ⟨token, held, ident, -⟩ := own
      have rest : ∀ {back : Parser}, Makes holds (parameters bound >>= fun others =>
          Pure.pure (found.1 :: others)) back fun names =>
            ∀ name ∈ names, ∃ token, holds token ∧ token.IsIdent name :=
        hypothesis.bind fun _ _ others =>
          .pure (List.forall_mem_cons.2 ⟨⟨token, held, ident⟩, others⟩)
      refine .read (rfl : isAt .comma middle = .ok _ middle) ?_
      split
      · exact Makes.step.bind fun _ _ _ => rest
      · exact rest
    · exact .pure (List.forall_mem_nil _)
    · exact .unexpected _

/-- What a prototype introduces; its first token is left. -/
theorem makes_prototypeHead : Makes holds prototypeHead parser fun head =>
    holds parser.current ∧
      ∃ token, holds token ∧ token.Names head.1 ∧ (head.2 = .function → token.kind = .ident) := by
  refine .read (rfl : current parser = .ok parser.current parser) ?_
  split
  · next kind =>
    refine Makes.step.bind fun word _ own => makes_expectOperatorName.bind fun found _ named => ?_
    obtain ⟨rfl, held⟩ := own
    obtain ⟨token, own, names⟩ := named
    exact .pure ⟨held (by simp [kind]), token, own, names, nofun⟩
  · next kind =>
    refine Makes.step.bind fun word middle own => ?_
    obtain ⟨rfl, held⟩ := own
    have starts : holds parser.current := held (by simp [kind])
    refine .read (rfl : isAt .number middle = .ok _ middle) ?_
    split
    · refine makes_expectPrecedence.bind fun value _ _ => ?_
      refine makes_expectOperatorName.bind fun found _ named => ?_
      obtain ⟨token, own, names⟩ := named
      exact .pure ⟨starts, token, own, names, nofun⟩
    · refine makes_expectOperatorName.bind fun found _ named => ?_
      refine makes_expectPrecedence.bind fun value _ _ => ?_
      obtain ⟨token, own, names⟩ := named
      exact .pure ⟨starts, token, own, names, nofun⟩
  · refine Makes.bind (.of_reads reads_expectIdent ?_) fun found _ own => .pure own
    rintro found tokens last ⟨ident, -, rfl⟩ taken
    have held := taken _ List.mem_cons_self
    exact ⟨held, _, held, ⟨.inl ident.1, ident.2⟩, fun _ => ident.1⟩

/-- A prototype. -/
theorem makes_prototype : Makes holds prototype parser (Prototype.IsMade holds) := by
  refine .read (rfl : current parser = .ok parser.current parser) ?_
  refine (makes_prototypeHead.yields yields_prototypeHead).bind fun head _ own => ?_
  refine (makes_expect (by decide)).bind fun _ middle _ => ?_
  refine .read (rfl : (MonadState.get : Parse Parser) middle = .ok middle middle) ?_
  refine (makes_parameters _).bind fun names _ parameters => ?_
  refine (makes_expect (by decide)).bind fun close last _ => ?_
  obtain ⟨name, kind⟩ := head
  obtain ⟨⟨held, named⟩, strong⟩ := own
  simp only
  split
  · exact .throw _
  · intro offers found next done
    cases done
    exact ⟨offers, named, parameters, strong, _, _, held, rfl⟩

/-- A definition. -/
theorem makes_definition : Makes holds definition parser (Expr.IsMadeForm holds) :=
  (makes_expect (by decide)).bind fun _ _ held => makes_prototype.bind fun _ _ ofSignature =>
    (makes_expression 0 false).bind fun _ _ ofBody => .pure (.definition held ofSignature ofBody)

/-- A declaration. -/
theorem makes_declaration : Makes holds declaration parser (Expr.IsMadeForm holds) :=
  (makes_expect (by decide)).bind fun _ _ held => makes_prototype.bind fun _ _ ofSignature =>
    .pure (.declaration held ofSignature)

/-- A form. -/
theorem makes_form : Makes holds form parser (Expr.IsMadeForm holds) := by
  refine .read (rfl : current parser = .ok parser.current parser) ?_
  split
  · exact makes_definition
  · exact makes_declaration
  · exact (makes_expression 0 false).bind fun _ _ ofBody => .pure (.job ofBody)

/-- A statement. -/
theorem makes_statement : Makes holds statement parser (Expr.IsMadeForm holds) :=
  makes_form.bind fun _ _ made => (makes_expect (by decide)).bind fun _ _ _ => .pure made

end Parse

namespace Parser

variable {parser last : Parser} {items : List (List Token × Item)}

/-- Something holds of every form of a program and the tokens that are left for it, if it holds of
those of every statement that is read where an invariant of the parser holds. -/
theorem Completes.forall_form {invariant : Parser → Prop} {post : List Token → Expr → Prop}
    (passes : ∀ parser : Parser, invariant parser → invariant parser.advance)
    (reads : ∀ {parser next : Parser} {tree : Expr} {tokens : List Token}, invariant parser →
      Parse.statement parser = .ok tree next → parser.Consumes tokens next →
      invariant next ∧ post tokens tree)
    (recovers : ∀ {parser next : Parser} {error : ParseError} {tokens : List Token},
      invariant parser → Parse.statement parser = .error error next →
      parser.Consumes tokens next.recover → invariant next.recover)
    (completes : parser.Completes items last) :
    invariant parser → ∀ tokens form, (tokens, .form form) ∈ items → post tokens form := by
  induction completes with
  | done => exact fun _ _ _ member => absurd member List.not_mem_nil
  | empty _ _ hypothesis =>
    intro holds tokens form member
    rcases List.mem_cons.1 member with own | later
    · cases own
    · exact hypothesis (passes _ holds) tokens form later
  | form read consumes _ _ hypothesis =>
    intro holds tokens form member
    obtain ⟨onward, own⟩ := reads holds read consumes
    rcases List.mem_cons.1 member with same | later
    · cases same
      exact own
    · exact hypothesis onward tokens form later
  | error read consumes _ _ hypothesis =>
    intro holds tokens form member
    rcases List.mem_cons.1 member with same | later
    · cases same
    · exact hypothesis (recovers holds read consumes) tokens form later

end Parser

/-- The forms of some tokens are made of tokens of which something holds, if that holds of all tokens
but the end of the input. -/
theorem Program.madeForms_ofTokens {tokens : List Token} (operators : OperatorTable)
    (held : ∀ token ∈ tokens, token.kind ≠ .eof → holds token) :
    ∀ form ∈ (Program.ofTokens tokens operators).1.forms, form.IsMadeForm holds := by
  obtain ⟨items, completes, forms, -⟩ := Parser.completes_programWithin
    (Parser.start tokens operators).remaining (.inr (Nat.le_refl _))
  have made : ∀ consumed form, (consumed, .form form) ∈ items → form.IsMadeForm holds :=
    completes.forall_form (fun parser (offers : parser.Offers holds) => offers.advance)
      (fun offers read _ => Parse.makes_statement offers _ _ read)
      (fun offers _ consumes => (offers.takes consumes).1) (Parser.offers_start held operators)
  intro form member
  have listed : form ∈ items.filterMap (·.2.form?) := forms ▸ member
  obtain ⟨⟨left, item⟩, inside, same⟩ := List.mem_filterMap.1 listed
  cases item with
  | form found =>
    obtain rfl := Option.some.inj same
    exact made left found inside
  | _ => contradiction

end Kaleidoscope
