import Kaleidoscope.Proofs.Syntax.Statements

/-!
# Parsing makes progress

The loops of the grammar, recovery and the program itself are bounded by the number of tokens left,
and so is the depth to which expressions nest. None of these bounds is ever reached: what they bound
is the only solution of the equations that say the same without any (`Parse.Rules.Solves`), so it is
fixed by turns that all come to an end.

Each turn of the program reads an empty statement, a form or an error and leaves tokens of its own
for it (`Parser.Reads`), so a program has no more forms and errors than tokens.
-/
namespace Kaleidoscope

namespace Parse

open Kaleidoscope.Parser (Precedes)

/-- Actions for everything that repeats itself. -/
structure Rules where
  /-- Expressions. -/
  expression : Float → Bool → Parse Expr
  /-- Arguments. -/
  arguments : Parse (List Expr)
  /-- Local variables. -/
  bindings : Parse (List (String × Option Expr))
  /-- Operands with the unary operators before them. -/
  operand : Parse Expr
  /-- Operators that are taken into an expression. -/
  climb : Float → Bool → Expr → Parse Expr
  /-- Parameters. -/
  parameters : Parse (List String)
  /-- Recovery from an error. -/
  recovery : Parser → Parser
  /-- Statements. -/
  program : Parser → Program × Parser

namespace Rules

/-- The equations of the rules, which bound nothing. -/
structure Solves (rules : Rules) : Prop where
  /-- An expression is made of expressions. -/
  expression : ∀ least inclusive, rules.expression least inclusive =
    expressionRule rules.expression least inclusive
  /-- After an argument, the others. -/
  arguments : rules.arguments = argumentsTurn rules.expression rules.arguments
  /-- After a local variable, the others. -/
  bindings : rules.bindings = bindingsTurn rules.expression rules.bindings
  /-- After a unary operator, its operand. -/
  operand : rules.operand = operandTurn rules.expression rules.operand
  /-- After a right operand, the operators behind it. -/
  climb : ∀ least inclusive, rules.climb least inclusive =
    climbTurn rules.expression least inclusive (rules.climb least inclusive)
  /-- After a parameter, the others. -/
  parameters : rules.parameters = parametersTurn rules.parameters
  /-- After a token that is passed over, those behind it. -/
  recovery : ∀ parser : Parser, rules.recovery parser =
    if parser.isRecovered then parser else rules.recovery parser.advance
  /-- After a statement, the others. -/
  program : ∀ parser : Parser, rules.program parser =
    if parser.isAt .eof then (.empty, parser)
    else if parser.isAt .semicolon then rules.program parser.advance
    else match statement parser with
      | .ok form next => ((rules.program next).1.addForm form, (rules.program next).2)
      | .error error next =>
        let following := rules.recovery (if next.isAt .eof then next else next.advance)
        ((rules.program following).1.addError error, (rules.program following).2)

/-- The rules of the parser, each with the bound that it is used with. -/
def bounded : Rules where
  expression := Parse.expression
  arguments := do Parse.arguments Parse.expression ((← get).remaining + 1)
  bindings := do Parse.bindings Parse.expression ((← get).remaining + 1)
  operand := do Parse.operand Parse.expression ((← get).remaining + 1)
  climb least inclusive left := do
    Parse.climb Parse.expression least inclusive ((← get).remaining + 1) left
  parameters := do Parse.parameters ((← get).remaining + 1)
  recovery parser := parser.recoverWithin parser.remaining
  program := Parser.program

end Rules

variable {declaring : Prop} {rest : List Token}

/-- An expression is the same at any depth that suffices. -/
theorem nestedMirrors_expression (depth : Nat) :
    NestedMirrors declaring rest depth (expressionWithin depth) expression := by
  intro first second bound least inclusive precedes less within
  have enough : first.remaining < second.remaining + 1 := by
    rw [precedes.remaining_eq]
    omega
  exact (nestedMirrors_expressionWithin rest depth (second.remaining + 1) least inclusive precedes
    (Nat.lt_min.2 ⟨less, enough⟩) within).congr rfl rfl

/-- Expressions mirror themselves anywhere. -/
theorem nestedMirrors_self (below : Nat) :
    NestedMirrors declaring rest below expression expression :=
  fun _ _ precedes _ within => mirrors_expression precedes within

/-- Expressions are made of expressions. -/
theorem expression_eq (least : Float) (inclusive : Bool) :
    expression least inclusive = expressionRule expression least inclusive := by
  funext parser
  have mirrors : Mirrors True [] parser.remaining parser.remaining
      (expressionRule (expressionWithin parser.remaining) least inclusive)
      (expressionRule expression least inclusive) parser parser :=
    mirrors_expressionRule (nestedMirrors_expression _) least inclusive (.refl parser)
      (Nat.le_refl _) (Nat.le_refl _)
  exact mirrors.eq

/-- Nothing else is. -/
theorem expression_unique {other : Float → Bool → Parse Expr}
    (solves : ∀ least inclusive, other least inclusive = expressionRule other least inclusive) :
    other = expression := by
  have nests : ∀ depth, NestedMirrors True [] depth (expressionWithin depth) other := by
    intro depth
    induction depth with
    | zero => exact fun _ _ _ less => absurd less (Nat.not_lt_zero _)
    | succ depth hypothesis =>
      intro first second bound least inclusive precedes less within
      rw [solves]
      exact mirrors_expressionRule hypothesis least inclusive precedes (Nat.le_of_lt_succ less)
        within
  funext least inclusive parser
  exact (nests (parser.remaining + 1) least inclusive (.refl parser) (Nat.lt_succ_self _)
    (Nat.le_refl _)).eq.symm

section Loops

variable {ι α : Type} {extra : Nat} {turn : (ι → Parse α) → ι → Parse α} {loop : Nat → ι → Parse α}

/-- A loop that is bounded by the number of tokens left. -/
def bound (loop : Nat → ι → Parse α) (index : ι) : Parse α := do
  loop ((← get).remaining + 1) index

/-- A turn mirrors itself if the turns after it do where fewer tokens are left. -/
def IsTurn (extra : Nat) (turn : (ι → Parse α) → ι → Parse α) : Prop :=
  ∀ {others more : ι → Parse α} {first second : Parser} (index : ι), Precedes [] first second →
    (∀ (index : ι) {later following : Parser}, Precedes [] later following →
      later.remaining < first.remaining →
      Mirrors True [] first.remaining (later.remaining + extra) (others index) (more index) later
        following) →
    Mirrors True [] first.remaining (first.remaining + extra) (turn others index)
      (turn more index) first second

/-- A loop mirrors whatever turns as it does. -/
theorem IsTurn.mirrors (isTurn : IsTurn extra turn) {other : Nat → ι → Parse α}
    (turns : ∀ bound, loop (bound + 1) = turn (loop bound))
    (turnsToo : ∀ bound, other (bound + 1) = turn (other bound)) {fewer : Nat} :
    ∀ {more : Nat} {first second : Parser} (index : ι), Precedes [] first second →
    first.remaining < fewer → first.remaining < more →
    Mirrors True [] first.remaining (first.remaining + extra) (loop fewer index)
      (other more index) first second := by
  have mirror : TurnsMirror True [] fewer extra turn turn :=
    fun index precedes _ behind => isTurn index precedes behind
  intro more first second index precedes enough enoughMore
  exact mirror.loops loop other turns turnsToo index precedes enough enoughMore enough

/-- A loop whose bound is the number of tokens left turns as if it had none. -/
theorem IsTurn.solves (isTurn : IsTurn extra turn) (loop : Nat → ι → Parse α)
    (turns : ∀ bound, loop (bound + 1) = turn (loop bound)) :
    bound loop = turn (bound loop) := by
  funext index parser
  show loop (parser.remaining + 1) index parser = _
  rw [turns]
  refine (isTurn index (.refl parser) fun index later following precedes left => ?_).eq
  exact ((isTurn.mirrors turns turns index precedes left precedes.remaining_lt).congr rfl rfl).mono
    (Nat.le_of_lt left) (Nat.le_refl _)

/-- Nothing else does. -/
theorem IsTurn.unique (isTurn : IsTurn extra turn) (loop : Nat → ι → Parse α)
    (turns : ∀ bound, loop (bound + 1) = turn (loop bound)) {other : ι → Parse α}
    (solves : other = turn other) :
    other = bound loop := by
  funext index parser
  let others : Nat → ι → Parse α := fun _ => other
  have turnsToo : ∀ bound, others (bound + 1) = turn (others bound) := fun _ => solves
  exact (isTurn.mirrors turns turnsToo index (.refl parser) (Nat.lt_succ_self _)
    (Nat.lt_succ_self _)).eq.symm

/-- A turn over arguments. -/
theorem isTurn_arguments :
    IsTurn 0 fun (others : Unit → Parse (List Expr)) _ => argumentsTurn expression (others ()) :=
  fun _ precedes behind => mirrors_argumentsTurn (nestedMirrors_self _) precedes
    (Nat.lt_succ_self _) (Nat.le_refl _) fun precedes left => behind () precedes left

/-- A turn over local variables. -/
theorem isTurn_bindings :
    IsTurn 0 fun (others : Unit → Parse (List (String × Option Expr))) _ =>
      bindingsTurn expression (others ()) :=
  fun _ precedes behind => mirrors_bindingsTurn (nestedMirrors_self _) precedes (Nat.le_refl _)
    (Nat.le_refl _) fun precedes left => behind () precedes left

/-- A turn over unary operators. -/
theorem isTurn_operand :
    IsTurn 0 fun (inside : Unit → Parse Expr) _ => operandTurn expression (inside ()) :=
  fun _ precedes behind => mirrors_operandTurn (nestedMirrors_self _) precedes (Nat.le_refl _)
    (Nat.le_refl _) fun precedes left => behind () precedes left

/-- A turn over binary operators. -/
theorem isTurn_climb (least : Float) (inclusive : Bool) :
    IsTurn 1 (climbTurn expression least inclusive) :=
  fun left precedes behind => mirrors_climbTurn (nestedMirrors_self _) least inclusive left precedes
    (Nat.le_refl _) (Nat.le_refl _) (Nat.lt_succ_self _) fun whole _ _ precedes left =>
      (behind whole precedes left).mono (Nat.le_refl _) (Nat.le_of_lt (Nat.succ_lt_succ left))

/-- A turn over parameters. -/
theorem isTurn_parameters :
    IsTurn 1 fun (others : Unit → Parse (List String)) _ => parametersTurn (others ()) :=
  fun _ precedes behind => mirrors_parametersTurn precedes (Nat.le_refl _) (Nat.lt_succ_self _)
    fun precedes left =>
      (behind () precedes left).mono (Nat.le_refl _) (Nat.le_of_lt (Nat.succ_lt_succ left))

end Loops

end Parse

namespace Parser

/-- What a turn of a program reads. -/
inductive Item where
  /-- A semicolon without a statement. -/
  | empty
  /-- A well-formed statement. -/
  | form (form : Expr)
  /-- A malformed statement. -/
  | error (error : ParseError)

namespace Item

/-- The form that is read. -/
def form? : Item → Option Expr
  | form found => some found
  | _ => none

/-- The error that is found. -/
def error? : Item → Option ParseError
  | error found => some found
  | _ => none

end Item

/-- A parser reads some items up to the end of the input, each with tokens of its own. -/
inductive Completes : Parser → List (List Token × Item) → Parser → Prop
  /-- Nothing is left. -/
  | done {parser : Parser} (ended : parser.isAt .eof = true) : Completes parser [] parser
  /-- A semicolon without a statement is left. -/
  | empty {parser last : Parser} {items : List (List Token × Item)}
      (here : parser.isAt .semicolon = true) (others : Completes parser.advance items last) :
      Completes parser (([parser.current], .empty) :: items) last
  /-- A statement is read. -/
  | form {parser next last : Parser} {tokens : List Token} {form : Expr}
      {items : List (List Token × Item)} (reads : Parse.statement parser = .ok form next)
      (consumes : parser.Consumes tokens next) (some : tokens ≠ [])
      (others : Completes next items last) : Completes parser ((tokens, .form form) :: items) last
  /-- A statement is malformed, and the parser recovers from that. -/
  | error {parser next last : Parser} {tokens : List Token} {error : ParseError}
      {items : List (List Token × Item)} (fails : Parse.statement parser = .error error next)
      (consumes : parser.Consumes tokens next.recover) (some : tokens ≠ [])
      (others : Completes next.recover items last) :
      Completes parser ((tokens, .error error) :: items) last

section Recovery

variable {parser : Parser}

/-- Recovery stops at the end of the input at the latest. -/
theorem before_of_isRecovered (going : parser.isRecovered = false) : parser.isAt .eof = false := by
  simp only [isRecovered, Bool.or_eq_false_iff] at going
  exact going.1.1.1

/-- Recovery is the same with all bounds that suffice. -/
theorem recoverWithin_eq (fewer : Nat) : ∀ (more : Nat) {parser : Parser},
    parser.remaining ≤ fewer → parser.remaining ≤ more →
    parser.recoverWithin fewer = parser.recoverWithin more := by
  induction fewer with
  | zero =>
    intro more parser none _
    have recovered : parser.isRecovered = true := by
      rw [← Bool.not_eq_false]
      exact fun going => absurd (remaining_pos (before_of_isRecovered going)) (by omega)
    rw [recoverWithin_of_isRecovered recovered, recoverWithin_of_isRecovered recovered]
  | succ fewer hypothesis =>
    intro more parser enough enoughMore
    cases recovered : parser.isRecovered with
    | true =>
      rw [recoverWithin_of_isRecovered recovered, recoverWithin_of_isRecovered recovered]
    | false =>
      have before := before_of_isRecovered recovered
      have some := remaining_pos before
      have less := remaining_advance_lt before
      obtain ⟨more, rfl⟩ : ∃ count, more = count + 1 := ⟨more - 1, by omega⟩
      rw [recoverWithin, recoverWithin, recovered]
      exact hypothesis more (by omega) (by omega)

/-- Any number of tokens can be passed over. -/
theorem consumes_recoverWithin (bound : Nat) : ∀ parser : Parser,
    ∃ tokens, parser.Consumes tokens (parser.recoverWithin bound) := by
  induction bound with
  | zero => exact fun parser => ⟨[], .none _⟩
  | succ bound hypothesis =>
    intro parser
    cases recovered : parser.isRecovered with
    | true =>
      rw [recoverWithin_of_isRecovered recovered]
      exact ⟨[], .none _⟩
    | false =>
      obtain ⟨tokens, consumes⟩ := hypothesis parser.advance
      have before : parser.current.kind ≠ .eof := by
        simpa [isAt] using before_of_isRecovered recovered
      rw [recoverWithin, recovered]
      exact ⟨parser.current :: tokens, (Consumes.advance before).trans consumes⟩

/-- Recovery passes over a token unless it starts at the end of the input. -/
theorem consumes_recover (parser : Parser) : ∃ tokens,
    parser.Consumes tokens parser.recover ∧ (parser.isAt .eof = false → tokens ≠ []) := by
  unfold recover
  cases ended : parser.isAt .eof with
  | true =>
    obtain ⟨tokens, consumes⟩ := consumes_recoverWithin parser.remaining parser
    exact ⟨tokens, consumes, fun before => by contradiction⟩
  | false =>
    obtain ⟨tokens, consumes⟩ := consumes_recoverWithin parser.advance.remaining parser.advance
    have before : parser.current.kind ≠ .eof := by simpa [isAt] using ended
    exact ⟨parser.current :: tokens, (Consumes.advance before).trans consumes,
      fun _ => List.cons_ne_nil _ _⟩

end Recovery

variable {parser : Parser}

/-- A statement that is not at the end of the input leaves tokens of its own: a form its tokens and
the semicolon, and an error the tokens that recovery passes over as well. -/
theorem consumes_statement (before : parser.isAt .eof = false) :
    match Parse.statement parser with
    | .ok _ next => (∃ tokens, parser.Consumes tokens next ∧ tokens ≠ []) ∧
        next.remaining < parser.remaining
    | .error _ next => (∃ tokens, parser.Consumes tokens next.recover ∧ tokens ≠ []) ∧
        (next.recover.remaining < parser.remaining ∨ next.recover.isAt .eof = true) := by
  have recovers : ∀ {tokens : List Token} {next : Parser}, parser.Consumes tokens next →
      next.remaining ≤ parser.remaining →
      (∃ tokens, parser.Consumes tokens next.recover ∧ tokens ≠ []) ∧
        (next.recover.remaining < parser.remaining ∨ next.recover.isAt .eof = true) := by
    intro tokens next consumes within
    obtain ⟨others, further, some⟩ := consumes_recover next
    refine ⟨⟨tokens ++ others, consumes.trans further, fun none => ?_⟩, ?_⟩
    · obtain ⟨rfl, rfl⟩ := List.append_eq_nil_iff.1 none
      obtain ⟨-, same⟩ | ⟨_, wrong, -⟩ := consumes.inversion
      · have same : next.isAt .eof = parser.isAt .eof := by
          rw [isAt, isAt, ← congrArg (·.current) same]
        exact some (same.trans before) rfl
      · contradiction
    · exact (Precedes.refl next).recover.2.imp_left fun less => Nat.lt_of_lt_of_le less within
  have forms := (Parse.mirrors_form (.refl parser) (Nat.le_refl _)).crosses
  unfold Parse.statement
  simp only [Bind.bind, EStateM.bind]
  cases ran : Parse.form parser with
  | ok form next =>
    simp only [ran] at forms ⊢
    obtain ⟨⟨tokens, crosses⟩, less⟩ := forms
    cases here : next.isAt .semicolon with
    | true =>
      have semicolon : next.current.kind = .semicolon := by simpa [isAt] using here
      have inside : next.current.kind ≠ .eof := by simp [semicolon]
      have fewer : next.advance.remaining < next.remaining :=
        remaining_advance_lt (by simp [isAt, semicolon])
      rw [Parse.expect_eq semicolon]
      exact ⟨⟨tokens ++ [next.current], crosses.consumes.trans (.advance inside), by simp⟩,
        Nat.lt_trans fewer less⟩
    | false =>
      rw [Parse.expect_eq_error here]
      exact recovers crosses.consumes (Nat.le_of_lt less)
  | error error next =>
    simp only [ran] at forms ⊢
    obtain ⟨⟨tokens, crosses⟩, within⟩ := forms
    exact recovers crosses.consumes within

/-- Statements are the same with all bounds that suffice. -/
theorem programWithin_eq (fewer : Nat) : ∀ (more : Nat) {parser : Parser},
    parser.isAt .eof = true ∨ parser.remaining ≤ fewer ∧ parser.remaining ≤ more →
    parser.programWithin fewer = parser.programWithin more := by
  have atEnd : ∀ (fewer more : Nat) {parser : Parser}, parser.isAt .eof = true →
      parser.programWithin fewer = parser.programWithin more := by
    intro fewer more parser ended
    rw [programWithin_of_isAt ended, programWithin_of_isAt ended]
  induction fewer with
  | zero =>
    intro more parser room
    cases ended : parser.isAt .eof with
    | true => exact atEnd 0 more ended
    | false => exact absurd (remaining_pos ended) (by simp_all)
  | succ fewer hypothesis =>
    intro more parser room
    cases ended : parser.isAt .eof with
    | true => exact atEnd _ more ended
    | false =>
      have some := remaining_pos ended
      obtain ⟨enough, enoughMore⟩ := room.resolve_left (by simp [ended])
      obtain ⟨more, rfl⟩ : ∃ count, more = count + 1 := ⟨more - 1, by omega⟩
      rw [programWithin, programWithin, ended]
      simp only [Bool.false_eq_true, if_false]
      split
      · have less := remaining_advance_lt ended
        exact hypothesis more (.inr ⟨by omega, by omega⟩)
      · have consumes := consumes_statement ended
        cases read : Parse.statement parser with
        | ok form next =>
          simp only [read] at consumes ⊢
          rw [hypothesis more (.inr ⟨by omega, by omega⟩)]
        | error error next =>
          simp only [read] at consumes ⊢
          rw [hypothesis more (consumes.2.symm.imp_right fun less => ⟨by omega, by omega⟩)]

/-- The items of a program are its forms and errors. -/
theorem completes_programWithin (bound : Nat) : ∀ {parser : Parser},
    parser.isAt .eof = true ∨ parser.remaining ≤ bound →
    ∃ items, parser.Completes items (parser.programWithin bound).2 ∧
      (parser.programWithin bound).1.forms = items.filterMap (·.2.form?) ∧
      (parser.programWithin bound).1.errors = items.filterMap (·.2.error?) := by
  have atEnd : ∀ (bound : Nat) {parser : Parser}, parser.isAt .eof = true →
      ∃ items, parser.Completes items (parser.programWithin bound).2 ∧
        (parser.programWithin bound).1.forms = items.filterMap (·.2.form?) ∧
        (parser.programWithin bound).1.errors = items.filterMap (·.2.error?) := by
    intro bound parser ended
    rw [programWithin_of_isAt ended]
    exact ⟨[], .done ended, rfl, rfl⟩
  induction bound with
  | zero =>
    intro parser room
    cases ended : parser.isAt .eof with
    | true => exact atEnd 0 ended
    | false => exact absurd (remaining_pos ended) (by simp_all)
  | succ bound hypothesis =>
    intro parser room
    cases ended : parser.isAt .eof with
    | true => exact atEnd _ ended
    | false =>
      have enough := room.resolve_left (by simp [ended])
      rw [programWithin, ended]
      simp only [Bool.false_eq_true, if_false]
      split
      · next here =>
        have less := remaining_advance_lt ended
        obtain ⟨items, completes, forms, errors⟩ :=
          @hypothesis parser.advance (.inr (by omega))
        exact ⟨_, .empty here completes, forms, errors⟩
      · have consumes := consumes_statement ended
        cases read : Parse.statement parser with
        | ok form next =>
          simp only [read] at consumes ⊢
          obtain ⟨⟨tokens, consumes, some⟩, less⟩ := consumes
          obtain ⟨items, completes, forms, errors⟩ := @hypothesis next (.inr (by omega))
          exact ⟨_, .form read consumes some completes, congrArg (form :: ·) forms, errors⟩
        | error error next =>
          simp only [read] at consumes ⊢
          obtain ⟨⟨tokens, consumes, some⟩, less⟩ := consumes
          obtain ⟨items, completes, forms, errors⟩ :=
            @hypothesis next.recover (less.symm.imp_right fun less => by omega)
          exact ⟨_, .error read consumes some completes, forms, congrArg (error :: ·) errors⟩

namespace Completes

variable {items : List (List Token × Item)} {last : Parser}

/-- The last parser is at the end of the input. -/
theorem ended (completes : parser.Completes items last) : last.isAt .eof = true := by
  induction completes with
  | done ended => exact ended
  | empty _ _ hypothesis => exact hypothesis
  | form _ _ _ _ hypothesis => exact hypothesis
  | error _ _ _ _ hypothesis => exact hypothesis

/-- Every item has tokens. -/
theorem ne_nil (completes : parser.Completes items last) : ∀ item ∈ items, item.1 ≠ [] := by
  induction completes with
  | done => exact fun _ member => absurd member List.not_mem_nil
  | empty _ _ hypothesis => exact List.forall_mem_cons.2 ⟨List.cons_ne_nil _ _, hypothesis⟩
  | form _ _ some _ hypothesis => exact List.forall_mem_cons.2 ⟨some, hypothesis⟩
  | error _ _ some _ hypothesis => exact List.forall_mem_cons.2 ⟨some, hypothesis⟩

/-- The tokens of the items are left one after the other. -/
theorem consumes (completes : parser.Completes items last) :
    parser.Consumes (items.flatMap (·.1)) last := by
  induction completes with
  | done => exact .none _
  | @empty parser _ _ here _ hypothesis =>
    have semicolon : parser.current.kind = .semicolon := by simpa [isAt] using here
    exact (Consumes.advance (by simp [semicolon])).trans hypothesis
  | form _ consumes _ _ hypothesis => exact consumes.trans hypothesis
  | error _ consumes _ _ hypothesis => exact consumes.trans hypothesis

/-- There are no more forms and errors than tokens. -/
theorem length_le (completes : parser.Completes items last) :
    (items.filterMap (·.2.form?)).length + (items.filterMap (·.2.error?)).length ≤
      (items.flatMap (·.1)).length := by
  induction completes with
  | done => exact Nat.le_refl _
  | empty _ _ hypothesis => exact Nat.le_succ_of_le hypothesis
  | @form _ _ _ tokens form items _ _ some _ hypothesis =>
    have long := List.length_pos_iff.2 some
    show (form :: items.filterMap _).length + (items.filterMap _).length ≤
      (tokens ++ items.flatMap _).length
    rw [List.length_append, List.length_cons]
    omega
  | @error _ _ _ tokens error items _ _ some _ hypothesis =>
    have long := List.length_pos_iff.2 some
    show (items.filterMap _).length + (error :: items.filterMap _).length ≤
      (tokens ++ items.flatMap _).length
    rw [List.length_append, List.length_cons]
    omega

end Completes

/-- What is left up to the end of the input is all that stands before it. -/
theorem Consumes.eq_takeWhile {tokens seen : List Token} {first last : Parser}
    (consumes : first.Consumes tokens last) (starts : first.Starts seen)
    (ended : last.isAt .eof = true) : tokens = seen.takeWhile (·.kind ≠ .eof) := by
  obtain ⟨rest, rfl, behind⟩ := Takes.exists_append consumes starts
  have inside : ∀ token ∈ tokens, decide (token.kind ≠ .eof) = true := fun token member =>
    decide_eq_true (consumes.ne_eof token member)
  rw [List.takeWhile_append_of_pos inside]
  cases rest with
  | nil => simp
  | cons token rest =>
    obtain ⟨same, -⟩ := behind
    have final : token.kind = .eof := same ▸ of_decide_eq_true ended
    simp [final]

end Parser

namespace Parse.Rules

/-- The rules of the parser solve the equations. -/
theorem solves_bounded : bounded.Solves where
  expression := expression_eq
  arguments := congrFun (isTurn_arguments.solves (fun bound _ => Parse.arguments _ bound)
    fun _ => rfl) ()
  bindings := congrFun (isTurn_bindings.solves (fun bound _ => Parse.bindings _ bound)
    fun _ => rfl) ()
  operand := congrFun (isTurn_operand.solves (fun bound _ => Parse.operand _ bound)
    fun _ => rfl) ()
  climb least inclusive := IsTurn.solves (isTurn_climb least inclusive) _ fun _ => rfl
  parameters := congrFun (isTurn_parameters.solves (fun bound _ => Parse.parameters bound)
    fun _ => rfl) ()
  recovery parser := by
    show parser.recoverWithin parser.remaining =
      if parser.isRecovered then parser else parser.advance.recoverWithin parser.advance.remaining
    cases recovered : parser.isRecovered with
    | true => exact Parser.recoverWithin_of_isRecovered recovered _
    | false =>
      have before := Parser.before_of_isRecovered recovered
      have less := Parser.remaining_advance_lt before
      obtain ⟨count, same⟩ : ∃ count, parser.remaining = count + 1 :=
        ⟨parser.remaining - 1, by omega⟩
      rw [same, Parser.recoverWithin, recovered]
      exact Parser.recoverWithin_eq _ _ (by omega) (Nat.le_refl _)
  program parser := by
    show parser.programWithin parser.remaining = _
    cases ended : parser.isAt .eof with
    | true => exact Parser.programWithin_of_isAt ended _
    | false =>
      have some := Parser.remaining_pos ended
      obtain ⟨count, same⟩ : ∃ count, parser.remaining = count + 1 :=
        ⟨parser.remaining - 1, by omega⟩
      have reaches : ∀ {next : Parser}, next.remaining < parser.remaining ∨ next.isAt .eof = true →
          next.programWithin count = bounded.program next := fun less =>
        Parser.programWithin_eq _ _
          (less.symm.imp_right fun less => ⟨by omega, Nat.le_refl _⟩)
      rw [same, Parser.programWithin, ended]
      simp only [Bool.false_eq_true, if_false]
      split
      · exact reaches (.inl (Parser.remaining_advance_lt ended))
      · have consumes := Parser.consumes_statement ended
        cases read : statement parser with
        | ok form next =>
          simp only [read] at consumes ⊢
          rw [reaches (.inl consumes.2)]
        | error error next =>
          simp only [read] at consumes ⊢
          rw [reaches consumes.2]
          rfl

/-- Only recovery solves its equation. -/
theorem recovery_unique {recovery : Parser → Parser}
    (solves : ∀ parser : Parser, recovery parser =
      if parser.isRecovered then parser else recovery parser.advance) :
    recovery = bounded.recovery := by
  funext parser
  induction size : parser.remaining using Nat.strongRecOn generalizing parser with
  | _ size hypothesis =>
    rw [solves, solves_bounded.recovery]
    cases recovered : parser.isRecovered with
    | true => rfl
    | false =>
      have less := Parser.remaining_advance_lt (Parser.before_of_isRecovered recovered)
      exact hypothesis _ (size ▸ less) parser.advance rfl

/-- Only the statements of the parser solve their equation. -/
theorem program_unique {program : Parser → Program × Parser}
    (solves : ∀ parser : Parser, program parser =
      if parser.isAt .eof then (.empty, parser)
      else if parser.isAt .semicolon then program parser.advance
      else match statement parser with
        | .ok form next => ((program next).1.addForm form, (program next).2)
        | .error error next =>
          let following := bounded.recovery (if next.isAt .eof then next else next.advance)
          ((program following).1.addError error, (program following).2)) :
    program = bounded.program := by
  have atEnd : ∀ {parser : Parser}, parser.isAt .eof = true →
      program parser = bounded.program parser := by
    intro parser ended
    rw [solves, solves_bounded.program, ended]
    rfl
  funext parser
  induction size : parser.remaining using Nat.strongRecOn generalizing parser with
  | _ size hypothesis =>
    rw [solves, solves_bounded.program]
    cases ended : parser.isAt .eof with
    | true => rfl
    | false =>
      simp only [Bool.false_eq_true, if_false]
      split
      · exact hypothesis _ (size ▸ Parser.remaining_advance_lt ended) parser.advance rfl
      · have consumes := Parser.consumes_statement ended
        cases read : statement parser with
        | ok form next =>
          simp only [read] at consumes ⊢
          rw [hypothesis _ (size ▸ consumes.2) next rfl]
        | error error next =>
          simp only [read] at consumes ⊢
          have same : program next.recover = bounded.program next.recover := by
            rcases consumes.2 with less | ended
            · exact hypothesis _ (size ▸ less) next.recover rfl
            · exact atEnd ended
          exact congrArg (fun found => (found.1.addError error, found.2)) same

/-- No other rules do. -/
theorem eq_bounded {rules : Rules} (solves : rules.Solves) : rules = bounded := by
  obtain ⟨ownExpression, ownArguments, ownBindings, ownOperand, ownClimb, ownParameters,
    ownRecovery, ownProgram⟩ := rules
  obtain ⟨expressions, arguments, bindings, operand, climb, parameters, recovery, program⟩ := solves
  simp only at expressions arguments bindings operand climb parameters recovery program
  obtain rfl := expression_unique expressions
  obtain rfl := recovery_unique recovery
  obtain rfl := program_unique program
  obtain rfl : ownArguments = bounded.arguments :=
    congrFun (isTurn_arguments.unique (fun bound _ => Parse.arguments _ bound) (fun _ => rfl)
      (funext fun _ => arguments)) ()
  obtain rfl : ownBindings = bounded.bindings :=
    congrFun (isTurn_bindings.unique (fun bound _ => Parse.bindings _ bound) (fun _ => rfl)
      (funext fun _ => bindings)) ()
  obtain rfl : ownOperand = bounded.operand :=
    congrFun (isTurn_operand.unique (fun bound _ => Parse.operand _ bound) (fun _ => rfl)
      (funext fun _ => operand)) ()
  obtain rfl : ownParameters = bounded.parameters :=
    congrFun (isTurn_parameters.unique (fun bound _ => Parse.parameters bound) (fun _ => rfl)
      (funext fun _ => parameters)) ()
  obtain rfl : ownClimb = bounded.climb := funext fun least => funext fun inclusive =>
    IsTurn.unique (isTurn_climb least inclusive) _ (fun _ => rfl) (climb least inclusive)
  rfl

end Parse.Rules

namespace Parser

/-- Parsing ends and makes progress, whatever the tokens and operators are, and whether or not the
tokens end with the end of the input. No bound is ever reached: without any, the rules that repeat
themselves have one solution, which is what the parser does. Each form and each error has tokens of
its own, in order all those before the end of the input, so there are no more forms and errors than
such tokens. A form is read across at least one token, and neither a form nor an attempt at one
leaves a semicolon or the end of the input. -/
theorem program_progress (tokens : List Token) (operators : OperatorTable) :
    (Parse.Rules.bounded.Solves ∧ ∀ rules : Parse.Rules, rules.Solves → rules = .bounded) ∧
    (∃ items, (start tokens operators).Completes items (start tokens operators).program.2 ∧
      (start tokens operators).program.1.forms = items.filterMap (·.2.form?) ∧
      (start tokens operators).program.1.errors = items.filterMap (·.2.error?) ∧
      (∀ item ∈ items, item.1 ≠ []) ∧
      items.flatMap (·.1) = tokens.takeWhile (·.kind ≠ .eof)) ∧
    (start tokens operators).program.1.forms.length +
        (start tokens operators).program.1.errors.length ≤
      (tokens.takeWhile (·.kind ≠ .eof)).length ∧
    ∀ parser : Parser, match Parse.form parser with
      | .ok _ next => ∃ left, parser.Consumes left next ∧ left ≠ [] ∧
          ∀ token ∈ left, token.kind ≠ .semicolon ∧ token.kind ≠ .eof
      | .error _ next => ∃ left, parser.Consumes left next ∧
          ∀ token ∈ left, token.kind ≠ .semicolon ∧ token.kind ≠ .eof := by
  obtain ⟨items, completes, forms, errors⟩ :=
    completes_programWithin (start tokens operators).remaining (.inr (Nat.le_refl _))
  have whole := completes.consumes.eq_takeWhile (starts_start tokens operators) completes.ended
  refine ⟨⟨Parse.Rules.solves_bounded, fun rules => Parse.Rules.eq_bounded⟩,
    ⟨items, completes, forms, errors, completes.ne_nil, whole⟩, ?_, fun parser => ?_⟩
  · rw [← whole, program, forms, errors]
    exact completes.length_le
  · have form := (Parse.mirrors_form (.refl parser) (Nat.le_refl _)).crosses
    cases ran : Parse.form parser with
    | ok found next =>
      simp only [ran] at form ⊢
      obtain ⟨⟨left, crosses⟩, less⟩ := form
      exact ⟨left, crosses.consumes, crosses.consumes.ne_nil less, fun token member =>
        ⟨crosses.inside token member, crosses.consumes.ne_eof token member⟩⟩
    | error error next =>
      simp only [ran] at form ⊢
      obtain ⟨⟨left, crosses⟩, -⟩ := form
      exact ⟨left, crosses.consumes, fun token member =>
        ⟨crosses.inside token member, crosses.consumes.ne_eof token member⟩⟩

end Parser

end Kaleidoscope
