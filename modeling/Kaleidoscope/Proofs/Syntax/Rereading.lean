import Kaleidoscope.Proofs.Syntax.Accepting
import Kaleidoscope.Proofs.Syntax.Precedence

/-!
# Reading back what has been written

Every rule of the grammar accepts what is written for its tree and yields the tree again, up to
places. An expression in parentheses is an operand whatever stands behind it, and a nested
expression whatever precedence is asked for, so all that matters of the precedences of a table is
that they are positive: then an operator between two operands is taken where no precedence is asked
for. An expression is nested no deeper than it has tokens, which is as deep as the grammar goes
(`Parse.accepts_expressionWithin`).
-/
namespace Kaleidoscope

/-- A kind of token that ends an expression: neither an operator nor the rest of a call. -/
def Token.Kind.Stops (kind : Token.Kind) : Prop :=
  kind ∉ [Kind.leftParen, .equal, .operator, .ident]

instance (kind : Token.Kind) : Decidable kind.Stops := inferInstanceAs (Decidable (kind ∉ _))

/-- What ends an expression is no token that goes on with it. -/
theorem Token.Kind.Stops.ne {kind other : Token.Kind} (stops : kind.Stops) (goes : ¬other.Stops) :
    kind ≠ other :=
  fun same => goes (same ▸ stops)

namespace Parse

section Rules

/-- A rule for nested expressions reads back what is written for a tree, be it on its own or, with
whatever precedence is asked for, in parentheses. -/
structure Rereads (layout : Layout) (table : OperatorTable) (nested : Float → Bool → Parse Expr)
    (tree : Expr) : Prop where
  /-- On its own, where every operator may stand. -/
  plain : Accepts table table (nested 0 false) (tree.write layout) Token.Kind.Stops
    (·.bare = tree.bare)
  /-- In parentheses. -/
  enclosed : ∀ least inclusive, Accepts table table (nested least inclusive)
    (enclose (tree.write layout)) Token.Kind.Stops (·.bare = tree.bare)

variable {layout : Layout} {table : OperatorTable} {nested : Float → Bool → Parse Expr}
  {token : Token} {text : List Token} {least : Float} {inclusive : Bool}
  {follow : Token.Kind → Prop} {post : Expr → Prop}

/-- What ends an expression has no precedence. -/
theorem precedence?_eq_none (stops : token.kind.Stops) : table.precedence? token = none := by
  unfold OperatorTable.precedence?
  split <;> simp_all [Token.Kind.Stops]

/-- An expression is not continued at what ends it. -/
theorem accepts_climb (bound : Nat) (left : Expr) :
    Accepts table table (climb nested least inclusive bound left) [] Token.Kind.Stops
      (· = left) := by
  cases bound with
  | zero => exact .pure rfl
  | succ bound =>
    refine .get fun parser last behind faces follows => ?_
    have none : parser.precedence? = none := by
      rw [Parser.precedence?, faces.current_eq]
      exact precedence?_eq_none follows
    rw [none]
    exact .isNotAt (fun _ stops => stops.ne (by decide)) (.pure rfl)

/-- An operand of the right form is an expression. -/
theorem accepts_expressionRule (here : token.kind ≠ .keyword .varWord)
    (accepts : ∀ bound, Accepts table table (operand nested (bound + 1)) (token :: text)
      Token.Kind.Stops post) :
    Accepts table table (expressionRule nested least inclusive) (token :: text) Token.Kind.Stops
      post := by
  refine .isAt false (decide_eq_false here) (.get fun parser last behind faces _ => ?_)
  refine (accepts _).last fun left holds => .get fun parser last behind faces _ => ?_
  exact (accepts_climb _ left).imp (fun _ => id) fun _ same => same ▸ holds

/-- An operand without operators before it. -/
theorem accepts_operand (plain : table.isUnary token = false)
    (accepts : Accepts table table (primary nested) (token :: text) follow post) (bound : Nat) :
    Accepts table table (operand nested bound) (token :: text) follow post := by
  cases bound with
  | zero => exact accepts
  | succ bound =>
    refine .get fun parser last behind faces _ => ?_
    have none : parser.operators.isUnary parser.current = false := by
      rw [faces.operators_eq, table.isUnary_eq_of_bare_eq faces.bare_current, plain]
    rw [none]
    exact accepts

/-- An expression in parentheses is an operand, whatever is behind it. -/
theorem accepts_enclosed (plain : Accepts table table (nested 0 false) text Token.Kind.Stops post)
    (bound : Nat) : Accepts table table (operand nested bound) (enclose text) follow post := by
  refine accepts_operand rfl (.current fun own same => ?_) bound
  rw [Token.kind_eq_of_bare_eq same]
  refine .step fun _ _ => plain.bind (by decide) fun inner holds => ?_
  exact .expect rfl fun _ _ => .pure holds

/-- A number. -/
theorem accepts_number (value : Float) (span : Span) :
    Accepts table table (primary nested) ((Expr.number value span).write layout) follow
      (·.bare = (Expr.number value span).bare) := by
  refine .current fun own same => ?_
  rw [Token.kind_eq_of_bare_eq same]
  exact .expectNumber fun span => .pure rfl

/-- A variable. -/
theorem accepts_var {name : String} (named : name ≠ "") :
    Accepts table table (primary nested) [.word name] Token.Kind.Stops
      (·.bare = .var name default) := by
  refine .current fun own same => ?_
  rw [Token.kind_eq_of_bare_eq same]
  refine .expectIdent named fun span => ?_
  exact .isNotAt (fun _ stops => stops.ne (by decide)) (.pure rfl)

/-- Arguments, with a token left for each. -/
theorem accepts_arguments {others : List Expr} : ∀ {first : Expr} {bound : Nat},
    others.length < bound → (∀ tree ∈ first :: others, Rereads layout table nested tree) →
    Accepts table table (arguments nested bound) (Expr.writeArguments layout (first :: others))
      (· = .rightParen) fun values => Expr.bareAll values = Expr.bareAll (first :: others) := by
  induction others with
  | nil =>
    intro first bound enough rereads
    obtain ⟨bound, rfl⟩ : ∃ count, bound = count + 1 := ⟨bound - 1, by omega⟩
    have own := ((rereads first List.mem_cons_self).enclosed 0 false).inFrontOf
      (by decide : Token.Kind.rightParen.Stops)
    rw [Expr.writeArguments, Expr.writeFurther, List.append_nil]
    refine own.last fun value holds => ?_
    refine .isNotAt (fun _ closes => closes.trans_ne (by decide)) (.pure ?_)
    rw [Expr.bareAll, Expr.bareAll, holds]
    rfl
  | cons second others hypothesis =>
    intro first bound enough rereads
    obtain ⟨bound, rfl⟩ : ∃ count, bound = count + 1 := ⟨bound - 1, by omega⟩
    obtain ⟨own, rest⟩ := List.forall_mem_cons.1 rereads
    refine (own.enclosed 0 false).bind (by decide) fun value holds => .isAt true rfl ?_
    refine .step fun _ _ => ?_
    have later := @hypothesis second bound (by simpa using enough) rest
    exact later.last fun values all => .pure (by rw [Expr.bareAll, all, holds]; rfl)

/-- A call. -/
theorem accepts_call {callee : String} (named : callee ≠ "") {arguments : List Expr} (span : Span)
    (rereads : ∀ tree ∈ arguments, Rereads layout table nested tree) :
    Accepts table table (primary nested) ((Expr.call callee arguments span).write layout) follow
      (·.bare = (Expr.call callee arguments span).bare) := by
  refine .current fun own same => ?_
  rw [Token.kind_eq_of_bare_eq same]
  refine .expectIdent named fun start => .isAt true rfl (.step fun _ _ => ?_)
  cases arguments with
  | nil =>
    exact .isAt true rfl (.expect rfl fun _ _ => .pure rfl)
  | cons first others =>
    refine .isAt false rfl (.get fun parser last behind faces _ => ?_)
    have long : (Expr.writeArguments layout (first :: others) ++
        [Token.ofKind .rightParen]).length ≤ parser.remaining := faces.length_le
    have fits := Expr.length_le_length_writeFurther layout others
    simp only [Expr.writeArguments, List.length_append, length_enclose] at long
    refine (accepts_arguments (by omega) rereads).bind rfl fun values all => ?_
    refine .expect rfl fun _ _ => .pure ?_
    rw [Expr.bare, Expr.bare, all]

/-- A conditional. -/
theorem accepts_conditional {condition consequent alternative : Expr} (span : Span)
    (first : Rereads layout table nested condition)
    (second : Rereads layout table nested consequent)
    (third : Rereads layout table nested alternative) :
    Accepts table table (primary nested)
      ((Expr.conditional condition consequent alternative span).write layout) Token.Kind.Stops
      (·.bare = (Expr.conditional condition consequent alternative span).bare) := by
  refine .current fun own same => ?_
  rw [Token.kind_eq_of_bare_eq same]
  refine .expect rfl fun _ _ => (first.enclosed 0 false).bind (by decide) fun _ one => ?_
  refine .expect rfl fun _ _ => (second.enclosed 0 false).bind (by decide) fun _ two => ?_
  refine .expect rfl fun _ _ => (third.enclosed 0 false).last fun _ three => .pure ?_
  rw [Expr.bare, Expr.bare, one, two, three]

/-- A nested expression that is wanted. -/
theorem Rereads.wanted {tree : Expr} (rereads : Rereads layout table nested tree) :
    Accepts table table (some <$> nested 0 false) (enclose (tree.write layout)) Token.Kind.Stops
      fun wanted => Expr.bareOptional wanted = Expr.bareOptional (some tree) :=
  (rereads.enclosed 0 false).last fun _ holds => .pure (congrArg some holds)

/-- A loop. -/
theorem accepts_loop {counter : String} {start limit body : Expr} {step : Option Expr} (span : Span)
    (named : counter ≠ "") (first : Rereads layout table nested start)
    (second : Rereads layout table nested limit)
    (third : ∀ tree ∈ step, Rereads layout table nested tree)
    (fourth : Rereads layout table nested body) :
    Accepts table table (primary nested)
      ((Expr.loop counter start limit step body span).write layout) Token.Kind.Stops
      (·.bare = (Expr.loop counter start limit step body span).bare) := by
  refine .current fun own same => ?_
  rw [Token.kind_eq_of_bare_eq same]
  refine .expect rfl fun _ _ => .expectIdent named fun _ => .expect rfl fun _ _ => ?_
  refine (first.enclosed 0 false).bind (by decide) fun _ one => .expect rfl fun _ _ => ?_
  cases step with
  | none =>
    refine (second.enclosed 0 false).bind (by decide) fun _ two => .isAt false rfl ?_
    refine .expect rfl fun _ _ => (fourth.enclosed 0 false).last fun _ four => .pure ?_
    rw [Expr.bare, Expr.bare, one, two, four]
  | some increment =>
    refine (second.enclosed 0 false).bind (by decide) fun _ two => .isAt true rfl ?_
    refine .step fun _ _ => (third increment rfl).wanted.bind (by decide) fun _ three => ?_
    refine .expect rfl fun _ _ => (fourth.enclosed 0 false).last fun _ four => .pure ?_
    rw [Expr.bare, Expr.bare, one, two, three, four]

/-- A local variable in front of `in`. -/
theorem accepts_bindings {name : String} {initializer : Option Expr} (named : name ≠ "")
    (rereads : ∀ tree ∈ initializer, Rereads layout table nested tree) (bound : Nat) :
    Accepts table table (bindings nested (bound + 1))
      (.word name :: Expr.writeOptional layout .equal initializer) (· = .keyword .inWord)
      fun introduced => ∃ found, introduced = [(name, found)] ∧
        Expr.bareOptional found = Expr.bareOptional initializer := by
  refine .expectIdent named fun _ => ?_
  cases initializer with
  | none =>
    refine .isNotAt (fun _ ends => ends.trans_ne (by decide)) (.known ?_)
    exact .isNotAt (fun _ ends => ends.trans_ne (by decide)) (.pure ⟨none, rfl, rfl⟩)
  | some tree =>
    refine .isAt true rfl (.step fun _ _ => ?_)
    have own := (rereads tree rfl).wanted.inFrontOf
      (by decide : (Token.Kind.keyword .inWord).Stops)
    refine own.last fun found holds => ?_
    exact .isNotAt (fun _ ends => ends.trans_ne (by decide)) (.pure ⟨found, rfl, holds⟩)

/-- A local variable and the expression it is visible in. -/
theorem accepts_binding {name : String} {initializer : Option Expr} {body : Expr} (span : Span)
    (named : name ≠ "") (first : ∀ tree ∈ initializer, Rereads layout table nested tree)
    (second : Rereads layout table nested body) :
    Accepts table table (expressionRule nested least inclusive)
      ((Expr.binding name initializer body span).write layout) Token.Kind.Stops
      (·.bare = (Expr.binding name initializer body span).bare) := by
  refine .isAt true rfl (.expect rfl fun start _ => .isAt false rfl ?_)
  refine .get fun parser last behind faces _ => ?_
  refine (accepts_bindings named first _).bind rfl fun introduced only => ?_
  obtain ⟨found, rfl, one⟩ := only
  refine .expect rfl fun _ _ => (second.enclosed 0 false).last fun inner two => .pure ?_
  show (Expr.binding name found inner (start.span.join inner.span)).bare = _
  rw [Expr.bare, Expr.bare, one, two]

/-- An operator before an operand. -/
theorem accepts_unary {operator : Token} {inner : Expr} (span : Span)
    (isUnary : table.isUnary operator = true) (rereads : Rereads layout table nested inner)
    (bound : Nat) :
    Accepts table table (operand nested (bound + 1)) ((Expr.unary operator inner span).write layout)
      follow (·.bare = (Expr.unary operator inner span).bare) := by
  refine .get fun parser last behind faces _ => ?_
  have here : parser.operators.isUnary parser.current = true := by
    rw [faces.operators_eq, table.isUnary_eq_of_bare_eq faces.bare_current, isUnary]
  rw [here]
  refine .step fun own same => (accepts_enclosed rereads.plain bound).last fun _ holds => .pure ?_
  rw [Expr.bare, Expr.bare, same, holds]

/-- An operator after its left operand, and its right operand. -/
theorem accepts_infixed {operator : Token} {meaning : BinaryMeaning} {found left right : Expr}
    {precedence : Float} (span : Span) (means : BinaryMeaning.ofToken? operator = some meaning)
    (same : found.bare = left.bare) (rereads : Rereads layout table nested right) :
    Accepts table table (infixed nested found (some precedence))
      (operator :: enclose (right.write layout)) Token.Kind.Stops
      (·.bare = (Expr.binary operator meaning left right span).bare) := by
  refine .get fun parser last behind faces _ => .step fun own bare => ?_
  refine (rereads.enclosed _ _).last fun _ holds => ?_
  have meaning := (BinaryMeaning.ofToken?_eq_of_bare_eq bare).trans means
  simp only [Expr.binary?, meaning]
  refine .pure ?_
  rw [Expr.bare, Expr.bare, bare, same, holds]

/-- An operator between two operands. -/
theorem accepts_binary {operator : Token} {meaning : BinaryMeaning} {left right : Expr}
    (span : Span) (positive : table.IsPositive)
    (means : BinaryMeaning.ofToken? operator = some meaning)
    (binds : (table.precedence? operator).isSome) (first : Rereads layout table nested left)
    (second : Rereads layout table nested right) :
    Accepts table table (expressionRule nested 0 false)
      ((Expr.binary operator meaning left right span).write layout) Token.Kind.Stops
      (·.bare = (Expr.binary operator meaning left right span).bare) := by
  obtain ⟨precedence, binds⟩ := Option.isSome_iff_exists.1 binds
  refine .isAt false rfl (.get fun parser last behind faces _ => ?_)
  have operand : ∀ bound, Accepts table table (operand nested bound) (enclose (left.write layout))
      (fun _ => True) (·.bare = left.bare) := accepts_enclosed first.plain
  refine (operand _).bind trivial fun found same => ?_
  refine .get fun parser last behind faces _ => .get fun parser last behind faces _ => ?_
  have here : parser.precedence? = some precedence := by
    rw [Parser.precedence?, faces.operators_eq, table.precedence?_eq_of_bare_eq faces.bare_current,
      binds]
  -- No precedence is asked for, so the operator is taken however weakly it binds.
  have above : (0 : Float) < precedence := positive.pos binds
  simp only [here, above, decide_true, Bool.true_or, if_true]
  refine (accepts_infixed span means same second).last fun whole holds => ?_
  exact (accepts_climb _ whole).imp (fun _ => id) fun _ same => same ▸ holds

/-- A name that is not also an operator before an operand. -/
theorem isUnary_word {name : String} (plain : name ∉ table.unary) :
    table.isUnary (.word name) = false := by
  simpa [OperatorTable.isUnary, Token.word, Token.name?] using plain

/-- An expression, given that the rule for those nested in it reads them back. -/
theorem accepts_tree {tree : Expr} (positive : table.IsPositive) (writable : tree.IsWritable table)
    (nests : ∀ part ∈ tree.children, Rereads layout table nested part) :
    Accepts table table (expressionRule nested 0 false) (tree.write layout) Token.Kind.Stops
      (·.bare = tree.bare) := by
  cases tree with
  | number value span =>
    exact accepts_expressionRule (by decide : Token.Kind.number ≠ _) fun _ =>
      accepts_operand rfl (accepts_number value span) _
  | var name span =>
    obtain ⟨named, plain⟩ := writable
    exact accepts_expressionRule (by decide : Token.Kind.ident ≠ _) fun _ =>
      accepts_operand (isUnary_word plain) (accepts_var named) _
  | call callee arguments span =>
    obtain ⟨⟨named, plain⟩, _⟩ := writable
    exact accepts_expressionRule (by decide : Token.Kind.ident ≠ _) fun _ =>
      accepts_operand (isUnary_word plain) (accepts_call named span nests) _
  | unary operator inner span =>
    obtain ⟨isUnary, _⟩ := writable
    have here : operator.kind ≠ .keyword .varWord := by
      intro word
      simp [OperatorTable.isUnary, word] at isUnary
    exact accepts_expressionRule here
      (accepts_unary span isUnary (nests inner List.mem_cons_self))
  | binary operator meaning left right span =>
    obtain ⟨means, binds, _, _⟩ := writable
    exact accepts_binary span positive means binds (nests left (by simp [Expr.children]))
      (nests right (by simp [Expr.children]))
  | conditional condition consequent alternative span =>
    have first := nests condition (by simp [Expr.children])
    have second := nests consequent (by simp [Expr.children])
    have third := nests alternative (by simp [Expr.children])
    exact accepts_expressionRule (by decide : Token.Kind.keyword .ifWord ≠ _) fun _ =>
      accepts_operand rfl (accepts_conditional span first second third) _
  | loop counter start limit step body span =>
    have first := nests start (by simp [Expr.children])
    have second := nests limit (by simp [Expr.children])
    have third : ∀ tree ∈ step, Rereads layout table nested tree := fun tree member =>
      nests tree (by simp [Expr.children, Option.mem_def.1 member])
    have fourth := nests body (by simp [Expr.children])
    exact accepts_expressionRule (by decide : Token.Kind.keyword .forWord ≠ _) fun _ =>
      accepts_operand rfl (accepts_loop span writable.1 first second third fourth) _
  | binding name initializer body span =>
    have first : ∀ tree ∈ initializer, Rereads layout table nested tree := fun tree member =>
      nests tree (by simp [Expr.children, Option.mem_def.1 member])
    exact accepts_binding span writable.1 first (nests body (by simp [Expr.children]))
  | prototype | function | declaration => exact writable.elim

end Rules

variable {table : OperatorTable} {layout : Layout} {tree : Expr}

/-- An expression is read back if its nesting is allowed to be as deep as it has tokens; in
parentheses it takes one more level. -/
theorem accepts_expressionWithin (layout : Layout) (positive : table.IsPositive) (depth : Nat) :
    ∀ {tree : Expr}, tree.IsWritable table →
      ((tree.write layout).length ≤ depth → Accepts table table (expressionWithin depth 0 false)
        (tree.write layout) Token.Kind.Stops (·.bare = tree.bare)) ∧
      ((tree.write layout).length < depth → ∀ least inclusive,
        Accepts table table (expressionWithin depth least inclusive) (enclose (tree.write layout))
          Token.Kind.Stops (·.bare = tree.bare)) := by
  induction depth with
  | zero =>
    intro tree writable
    obtain ⟨token, rest, same, _⟩ := writable.begins layout
    simp [same]
  | succ depth hypothesis =>
    intro tree writable
    constructor
    · intro enough
      refine accepts_tree positive writable fun part below => ?_
      have less := writable.length_child layout below
      obtain ⟨plain, enclosed⟩ := hypothesis (writable.child below)
      exact ⟨plain (by omega), enclosed (by omega)⟩
    · intro enough least inclusive
      obtain ⟨plain, _⟩ := hypothesis writable
      exact accepts_expressionRule (by decide : Token.Kind.leftParen ≠ _) fun _ =>
        accepts_enclosed (plain (by omega)) _

/-- The expression of a form. -/
theorem accepts_writeBody (layout : Layout) (positive : table.IsPositive)
    (writable : tree.IsWritable table) :
    Accepts table table (expression 0 false) (tree.writeBody layout) Token.Kind.Stops
      (·.bare = tree.bare) := by
  refine .get fun parser last behind faces _ => ?_
  have long := faces.length_le
  obtain ⟨plain, enclosed⟩ :=
    accepts_expressionWithin layout positive (parser.remaining + 1) writable
  unfold Expr.writeBody at long ⊢
  cases whole : layout.enclosed with
  | false =>
    simp only [whole, cond_false] at long ⊢
    exact plain (by omega)
  | true =>
    simp only [whole, cond_true, length_enclose] at long ⊢
    exact enclosed (by omega) 0 false

/-- Parameters, with a token left for each. -/
theorem accepts_parameters {names : List String} (named : ∀ name ∈ names, name ≠ "") :
    ∀ bound, names.length < bound → Accepts table table (parameters bound)
      (Prototype.writeParameters layout names) (· = .rightParen) (· = names) := by
  induction names with
  | nil =>
    intro bound enough
    obtain ⟨bound, rfl⟩ : ∃ count, bound = count + 1 := ⟨bound - 1, by omega⟩
    refine .peekBehind fun own closes => ?_
    rw [closes]
    exact .pure rfl
  | cons name others hypothesis =>
    intro bound enough
    obtain ⟨bound, rfl⟩ : ∃ count, bound = count + 1 := ⟨bound - 1, by omega⟩
    obtain ⟨first, rest⟩ := List.forall_mem_cons.1 named
    -- With a comma or without, the other parameters are next.
    have later : Accepts table table (parameters bound >>= fun others => Pure.pure (name :: others))
        (Prototype.writeParameters layout others) (· = .rightParen) (· = name :: others) :=
      (hypothesis rest bound (by simpa using enough)).last fun _ same => .pure (by rw [same])
    refine .current fun own same => ?_
    rw [Token.kind_eq_of_bare_eq same]
    refine .expectIdent first fun _ => ?_
    cases others with
    | nil =>
      rw [List.isEmpty_nil, Bool.not_true, Bool.and_false]
      exact .isNotAt (fun _ closes => closes.trans_ne (by decide)) later
    | cons second others =>
      cases separated : layout.separated with
      | false => exact .isAt false rfl later
      | true => exact .isAt true rfl (.step fun _ _ => later)

/-- What a prototype introduces. -/
theorem accepts_prototypeHead {signature : Prototype} (writable : signature.IsWritable) :
    Accepts table table prototypeHead (signature.writeHead layout) (fun _ => True)
      (· = (signature.name, signature.kind)) := by
  obtain ⟨name, parameters, kind, span⟩ := signature
  have named : name ≠ "" := writable.named
  cases kind with
  | function =>
    refine .current fun own same => ?_
    rw [Token.kind_eq_of_bare_eq same]
    exact .expectIdent named fun _ => .pure rfl
  | unary =>
    refine .current fun own same => ?_
    rw [Token.kind_eq_of_bare_eq same]
    exact .step fun _ _ => .expectOperatorName named fun _ => .pure rfl
  | binary precedence =>
    obtain ⟨finite, positive⟩ := writable.strength precedence rfl
    unfold Prototype.writeHead
    simp only
    refine .current fun own same => ?_
    rw [Token.kind_eq_of_bare_eq same]
    refine .step fun _ _ => ?_
    cases layout.precedenceFirst with
    | true =>
      refine .isAt true rfl (.expectPrecedence finite positive ?_)
      exact .expectOperatorName named fun _ => .pure rfl
    | false =>
      have other : (Token.sign name).kind ≠ .number := by
        rcases Token.kind_sign name with kind | kind <;> simp [kind]
      refine .isAt false (decide_eq_false other) (.expectOperatorName named fun _ => ?_)
      exact .expectPrecedence finite positive (.pure rfl)

/-- A prototype declares what it introduces. -/
theorem accepts_prototype {signature : Prototype} (writable : signature.IsWritable)
    {follow : Token.Kind → Prop} :
    Accepts table (table.declare signature) prototype (signature.write layout) follow
      (·.bare = signature.bare) := by
  refine .peek fun start => (accepts_prototypeHead writable).bind trivial fun head same => ?_
  subst same
  refine .expect rfl fun _ _ => .get fun parser last behind faces _ => ?_
  have long : (Prototype.writeParameters layout signature.parameters ++
    [Token.ofKind .rightParen]).length ≤ parser.remaining := faces.length_le
  have fits := Prototype.length_le_length_writeParameters layout signature.parameters
  simp only [List.length_append] at long
  refine (accepts_parameters writable.parameters _ (by omega)).bind rfl fun names same => ?_
  subst same
  refine .expect rfl fun close _ => ?_
  have faultless : prototypeFault? ⟨signature.name, signature.parameters, signature.kind,
      start.span.join close.span⟩ = none := writable.faultless
  simp only [faultless]
  intro parser last behind faces follows
  refine ⟨_, { parser with operators := parser.operators.declare _ }, rfl, ?_, rfl⟩
  exact ⟨by rw [faces.operators_eq]; rfl, faces.pending_eq⟩

/-- A form, which may declare an operator. -/
theorem accepts_form {form : Expr} (layout : Layout) (positive : table.IsPositive)
    (writable : form.IsWritableForm table) :
    ∃ after, Accepts table after Parse.form (form.writeForm layout) Token.Kind.Stops
      (·.bare = form.bare) := by
  cases writable with
  | @job body place span writable =>
    refine ⟨table, ?_⟩
    obtain ⟨token, rest, same, others⟩ := writable.begins_writeBody layout
    have accepts := accepts_writeBody layout positive writable
    have later : Accepts table table (expression 0 false >>= fun body => Pure.pure body.anonymous)
        (body.writeBody layout) Token.Kind.Stops
        (·.bare = (Expr.function (.anonymous place) body span).bare) := by
      refine accepts.last fun inner holds => .pure ?_
      rw [Expr.anonymous, Expr.bare, Expr.bare, holds]
      rfl
    show Accepts table table Parse.form (body.writeBody layout) Token.Kind.Stops _
    rw [same] at later ⊢
    refine .current fun own here => ?_
    have kind := Token.kind_eq_of_bare_eq here
    split
    · simp_all
    · simp_all
    · exact later
  | @definition signature body span named accepted writable =>
    refine ⟨table.declare signature, ?_⟩
    obtain ⟨token, rest, same, _⟩ := writable.begins_writeBody layout
    have accepts := accepts_writeBody layout
      (positive.declare fun precedence binary => (accepted.strength precedence binary).2) writable
    have introduces : Accepts table (table.declare signature) prototype (signature.write layout)
        (fun _ => True) (·.bare = signature.bare) := accepts_prototype accepted
    rw [Expr.writeForm, named, cond_false, same]
    rw [same] at accepts
    refine .current fun own here => ?_
    rw [Token.kind_eq_of_bare_eq here]
    refine .expect rfl fun _ _ => introduces.bind trivial fun found known => ?_
    refine accepts.last fun inner holds => .pure ?_
    rw [Expr.bare, Expr.bare, known, holds]
  | @declaration signature span accepted =>
    refine ⟨table.declare signature, .current fun own here => ?_⟩
    rw [Token.kind_eq_of_bare_eq here]
    refine .expect rfl fun _ _ => (accepts_prototype accepted).last fun found known => .pure ?_
    rw [Expr.bare, Expr.bare, known]

end Parse

end Kaleidoscope
