import Kaleidoscope.Proofs.Syntax.Spelling
import Kaleidoscope.Proofs.Syntax.Statements

/-!
# Climbing precedences builds the prescribed tree

Each rule of the grammar is described by what it has read when it succeeds: the tokens that the
parser has left and the value that they spell (`Parse.Reads`). The rules carry the least precedence
of the operators they take; what they read is a settled chain whose operators pass it
(`Grouping.Climbs`), in front of a token that does not. For the whole expression this means that its
tokens spell the tree, and that no operator follows (`Parse.expression_spelled`).
-/
namespace Kaleidoscope

namespace Grouping

/-- A chain whose operators pass a least precedence, in front of a token. -/
structure Climbs (table : OperatorTable) (least : Float) (inclusive : Bool) (grouping : Grouping)
    (next : Token) : Prop where
  /-- The operands are spelled by their tokens. -/
  operands : ∀ piece ∈ grouping.operands, SpelledOperand table piece
  /-- Only the last operand may be open. -/
  closed : ∀ piece ∈ grouping.operands.dropLast, piece.isOpen = false
  /-- No operator follows an open operand. -/
  ends : ∀ piece ∈ grouping.operands.getLast?, piece.isOpen = true → table.Ends next
  /-- The operators pass the least precedence. -/
  passes : ∀ operator ∈ grouping.operators, table.Passes least inclusive operator
  /-- The chain is grouped as the table prescribes. -/
  settled : grouping.Settled table next

namespace Climbs

variable {table : OperatorTable} {least precedence : Float} {inclusive : Bool} {piece : Piece}
  {left right : Grouping} {operator next : Token}

/-- A single operand. -/
theorem operand (spelled : SpelledOperand table piece)
    (ends : piece.isOpen = true → table.Ends next) :
    (operand piece).Climbs table least inclusive next where
  operands other member := List.mem_singleton.1 member ▸ spelled
  closed _ member := absurd member List.not_mem_nil
  ends other member := by
    obtain rfl : piece = other := by simpa [Grouping.operands] using member
    exact ends
  passes _ member := absurd member List.not_mem_nil
  settled := trivial

/-- What stands before an operator has no open operand. -/
theorem isOpen_eq_false (climbs : left.Climbs table least inclusive operator)
    (strength : table.precedence? operator = some precedence) :
    ∀ piece ∈ left.operands, piece.isOpen = false := by
  intro piece member
  have some : left.operands ≠ [] := List.ne_nil_of_mem member
  rw [← List.dropLast_concat_getLast some, List.mem_append] at member
  rcases member with early | late
  · exact climbs.closed piece early
  · rw [← Bool.not_eq_true]
    intro isOpen
    have last : piece ∈ left.operands.getLast? := by
      rw [List.mem_singleton.1 late]
      exact List.getLast?_eq_some_getLast some
    have ends := (climbs.ends piece last isOpen).1
    rw [strength] at ends
    contradiction

/-- An operator takes what it admits into its right operand. -/
theorem infixed (ofLeft : left.Climbs table least inclusive operator)
    (strength : table.precedence? operator = some precedence)
    (passes : table.Passes least inclusive operator)
    (ofRight : right.Climbs table precedence (OperatorTable.isRightAssociative operator) next)
    (stops : ¬table.Passes precedence (OperatorTable.isRightAssociative operator) next) :
    (infixed left operator right).Climbs table least inclusive next := by
  have some : right.operands ≠ [] := by
    rw [← List.length_pos_iff, length_operands]
    exact Nat.succ_pos _
  have admitted : ∀ later ∈ right.operators, table.Admits operator later :=
    fun later member => ⟨precedence, strength, ofRight.passes later member⟩
  refine ⟨fun piece member => ?_, fun piece member => ?_, fun piece member => ?_,
    fun other member => ?_, admitted, ?_, ofLeft.settled, ofRight.settled⟩
  · rcases List.mem_append.1 member with early | late
    · exact ofLeft.operands piece early
    · exact ofRight.operands piece late
  · rw [Grouping.operands, List.dropLast_append_of_ne_nil some, List.mem_append] at member
    rcases member with early | late
    · exact ofLeft.isOpen_eq_false strength piece early
    · exact ofRight.closed piece late
  · have last := List.getLast?_eq_some_getLast some
    rw [Grouping.operands, List.getLast?_append, last, Option.some_or, ← last] at member
    exact ofRight.ends piece member
  · rw [Grouping.operators, List.mem_append, List.mem_cons] at member
    rcases member with early | rfl | late
    · exact ofLeft.passes other early
    · exact passes
    · exact passes.trans (admitted other late)
  · rintro ⟨other, isOther, admits⟩
    obtain rfl := Option.mem_unique strength isOther
    exact stops admits

end Climbs

end Grouping

namespace Parse

/-- What an action has read when it succeeds, under a table of operators: the value, the tokens
that have been left and the parser after them. -/
def Reads {α : Type} (table : OperatorTable) (action : Parse α) (first : Parser)
    (post : α → List Token → Parser → Prop) : Prop :=
  first.operators = table → ∀ (value : α) (last : Parser), action first = .ok value last →
    ∃ tokens, first.Takes tokens last ∧ post value tokens last

namespace Reads

variable {α β : Type} {table : OperatorTable} {first : Parser} {action : Parse α}
  {next : α → Parse β} {post : α → List Token → Parser → Prop}
  {final : β → List Token → Parser → Prop}

/-- Yielding a value reads nothing. -/
theorem pure {value : α} (holds : post value [] first) :
    Reads table (Pure.pure value) first post := by
  rintro _ _ _ ⟨⟩
  exact ⟨[], .none _, holds⟩

/-- Yielding nothing reads nothing. -/
theorem empty {γ : Type} : Reads table (Pure.pure ([] : List γ)) first fun values tokens _ =>
    values = [] ∧ tokens = [] :=
  .pure ⟨rfl, rfl⟩

/-- A failure does not succeed. -/
theorem throw (error : ParseError) : Reads table (MonadExcept.throw error) first post := by
  rintro _ _ _ ⟨⟩

/-- A failure at the current token does not succeed. -/
theorem failHere (cause : ParseCause) : Reads table (failHere cause) first post := by
  rintro _ _ _ ⟨⟩

/-- A failure because of the current token does not succeed. -/
theorem unexpected (expected : List Expectation) :
    Reads table (unexpected expected) first post := by
  rintro _ _ _ ⟨⟩

/-- One action after another. -/
theorem bind (front : Reads table action first post)
    (back : ∀ value tokens middle, first.Takes tokens middle → post value tokens middle →
      Reads table (next value) middle fun result others last =>
        final result (tokens ++ others) last) :
    Reads table (action >>= next) first final := by
  intro known result last succeeds
  simp only [Bind.bind, EStateM.bind] at succeeds
  cases reads : action first <;> simp only [reads] at succeeds
  · next value middle =>
    obtain ⟨tokens, takes, holds⟩ := front known value middle reads
    obtain ⟨others, more, holds⟩ := back value tokens middle takes holds
      (takes.operators_eq.trans known) result last succeeds
    exact ⟨tokens ++ others, takes.trans more, holds⟩
  · contradiction

/-- Looking at the parser. -/
theorem get {next : Parser → Parse β}
    (back : first.operators = table → Reads table (next first) first final) :
    Reads table (get >>= next) first final :=
  fun known => back known known

/-- Looking at the current token. -/
theorem current {next : Token → Parse β} (back : Reads table (next first.current) first final) :
    Reads table (current >>= next) first final :=
  back

/-- Asking for the kind of the current token. -/
theorem isAt {next : Bool → Parse β} (kind : Token.Kind)
    (back : ∀ answer, first.isAt kind = answer → Reads table (next answer) first final) :
    Reads table (isAt kind >>= next) first final :=
  back _ rfl

/-- Leaving a token other than the end. -/
theorem step (before : first.current.kind ≠ .eof) :
    Reads table step first fun token tokens _ => token = first.current ∧ tokens = [token] := by
  rintro _ _ _ ⟨⟩
  exact ⟨[first.current], .cons before (.none _), rfl, rfl⟩

/-- What has been read may be described more loosely. -/
theorem mono {weaker : α → List Token → Parser → Prop} (reads : Reads table action first post)
    (implies : ∀ value tokens last, post value tokens last → weaker value tokens last) :
    Reads table action first weaker := by
  intro known value last succeeds
  obtain ⟨tokens, takes, holds⟩ := reads known value last succeeds
  exact ⟨tokens, takes, implies _ _ _ holds⟩

end Reads

section Actions

variable {table : OperatorTable} {first : Parser}

/-- A token of the expected kind. -/
theorem reads_expect {kind : Token.Kind} (before : kind ≠ .eof) :
    Reads table (expect kind) first fun token tokens _ => token.kind = kind ∧ tokens = [token] := by
  unfold expect
  refine .isAt kind fun answer here => ?_
  cases answer with
  | true =>
    have same : first.current.kind = kind := by simpa [Parser.isAt] using here
    refine (Reads.step (same ▸ before)).mono ?_
    rintro token tokens last ⟨rfl, rfl⟩
    exact ⟨same, rfl⟩
  | false =>
    refine .isAt .eof fun ended _ => ?_
    cases ended with
    | true => exact .failHere _
    | false => exact .unexpected _

/-- An identifier. -/
theorem reads_expectIdent :
    Reads table expectIdent first fun named tokens _ =>
      first.current.IsIdent named.1 ∧ named.2 = first.current.span ∧ tokens = [first.current] := by
  unfold expectIdent
  refine .current ?_
  split
  · next name kind literal =>
    split
    · exact .failHere _
    · next some =>
      refine .bind (.step (by simp [kind])) ?_
      rintro token tokens middle _ ⟨rfl, rfl⟩
      exact .pure ⟨⟨kind, literal, by simpa using some⟩, rfl, rfl⟩
  · exact .failHere _
  · exact .failHere _

/-- A number. -/
theorem reads_expectNumber :
    Reads table expectNumber first fun number tokens _ =>
      first.current.kind = .number ∧ first.current.number? = some number.1 ∧
        number.2 = first.current.span ∧ tokens = [first.current] := by
  unfold expectNumber
  refine .current ?_
  split
  · next value kind literal =>
    refine .bind (.step (by simp [kind])) ?_
    rintro token tokens middle _ ⟨rfl, rfl⟩
    exact .pure ⟨kind, literal, rfl, rfl⟩
  · exact .unexpected _

end Actions

/-- An expression whose operators pass a least precedence, in front of a token that is left to the
expressions around it. -/
def ReadsExpression (table : OperatorTable) (least : Float) (inclusive : Bool) (expr : Expr)
    (tokens : List Token) (last : Parser) : Prop :=
  ∃ grouping : Grouping, grouping.tree = .ok expr ∧ grouping.tokens = tokens ∧
    grouping.Climbs table least inclusive last.current ∧
    ¬table.Passes least inclusive last.current ∧
    (table.precedence? last.current = none → last.current.kind ≠ .operator)

/-- A rule for nested expressions reads expressions. -/
def NestedReads (table : OperatorTable) (nested : Float → Bool → Parse Expr) : Prop :=
  ∀ (least : Float) (inclusive : Bool) (first : Parser),
    Reads table (nested least inclusive) first (ReadsExpression table least inclusive)

/-- An operand. An open one is in front of a token that is no operator. -/
def ReadsOperand (table : OperatorTable) (expr : Expr) (tokens : List Token) (last : Parser) : Prop :=
  ∃ isOpen, SpelledOperand table ⟨expr, tokens, isOpen⟩ ∧
    (isOpen = true → table.Ends last.current)

section Rules

variable {table : OperatorTable} (positive : table.IsPositive)
  {nested : Float → Bool → Parse Expr} (nests : NestedReads table nested) {first : Parser}
include positive nests

/-- A complete expression. -/
theorem reads_nested :
    Reads table (nested 0 false) first fun expr tokens last =>
      Spelled table expr tokens ∧ table.Ends last.current := by
  refine (nests 0 false first).mono ?_
  rintro expr _ last ⟨grouping, tree, rfl, climbs, stops, declared⟩
  have none := positive.eq_none stops
  refine ⟨.chain tree climbs.operands climbs.closed (fun operator member => ?_)
    climbs.settled.respects, none, declared none⟩
  obtain ⟨precedence, isSome, _⟩ := climbs.passes operator member
  exact Option.isSome_of_mem isSome

/-- Arguments with commas between them. -/
theorem reads_arguments (bound : Nat) : ∀ {first : Parser},
    Reads table (arguments nested bound) first fun values tokens _ =>
      SpelledArguments table values tokens := by
  induction bound with
  | zero => exact .failHere _
  | succ bound hypothesis =>
    intro first
    refine .bind (reads_nested positive nests) ?_
    rintro argument tokens middle _ ⟨spelled, _⟩
    refine .isAt .comma fun answer here => ?_
    cases answer with
    | false => exact .pure (by simpa using .last spelled)
    | true =>
      have comma : middle.current.kind = .comma := by simpa [Parser.isAt] using here
      refine .bind (.step (by simp [comma])) ?_
      rintro token _ after _ ⟨rfl, rfl⟩
      refine .bind hypothesis ?_
      intro others rest last _ following
      exact .pure (by simpa using .more spelled comma following)

/-- A variable or a call. -/
theorem reads_reference (plain : table.isUnary first.current = false) :
    Reads table (reference nested) first fun expr tokens _ =>
      SpelledOperand table ⟨expr, tokens, false⟩ := by
  unfold reference
  refine .bind reads_expectIdent ?_
  rintro ⟨name, start⟩ _ middle _ ⟨ident, rfl, rfl⟩
  refine .isAt .leftParen fun answer here => ?_
  cases answer with
  | false => exact .pure (.var ident plain)
  | true =>
    have opening : middle.current.kind = .leftParen := by simpa [Parser.isAt] using here
    refine .bind (.step (by simp [opening])) ?_
    rintro opened _ inside _ ⟨rfl, rfl⟩
    refine .isAt .rightParen fun closed _ => ?_
    cases closed with
    | true =>
      refine .bind .empty ?_
      rintro _ _ before _ ⟨rfl, rfl⟩
      refine .bind (reads_expect (by simp)) ?_
      rintro closing _ last _ ⟨closes, rfl⟩
      exact .pure (.call ident plain opening closes)
    | false =>
      refine .get fun _ => .bind (reads_arguments positive nests _) ?_
      intro values spelling before _ spelled
      refine .bind (reads_expect (by simp)) ?_
      rintro closing _ last _ ⟨closes, rfl⟩
      exact .pure (by simpa using .callWith ident plain opening closes spelled)

/-- A condition and the values it chooses between. -/
theorem reads_conditional :
    Reads table (conditional nested) first fun expr tokens last =>
      SpelledOperand table ⟨expr, tokens, true⟩ ∧ table.Ends last.current := by
  unfold conditional
  refine .bind (reads_expect (by simp)) ?_
  rintro start _ _ _ ⟨starts, rfl⟩
  refine .bind (reads_nested positive nests) ?_
  rintro condition _ _ _ ⟨ofCondition, _⟩
  refine .bind (reads_expect (by simp)) ?_
  rintro middle _ _ _ ⟨thens, rfl⟩
  refine .bind (reads_nested positive nests) ?_
  rintro consequent _ _ _ ⟨ofConsequent, _⟩
  refine .bind (reads_expect (by simp)) ?_
  rintro last _ _ _ ⟨elses, rfl⟩
  refine .bind (reads_nested positive nests) ?_
  rintro alternative _ _ _ ⟨ofAlternative, ends⟩
  refine .pure ⟨?_, ends⟩
  simpa using .conditional starts ofCondition thens ofConsequent elses ofAlternative

/-- An expression that stands behind a sign, or nothing if the sign is not there, and what follows
it. -/
theorem reads_option {α : Type} {next : Option Expr → Parse α}
    {final : α → List Token → Parser → Prop} (kind : Token.Kind) (before : kind ≠ .eof)
    (back : ∀ chosen tokens middle, SpelledOption table kind chosen tokens →
      Reads table (next chosen) middle fun result others last =>
        final result (tokens ++ others) last) :
    Reads table (isAt kind >>= fun answer =>
        if answer = true then step >>= fun _ => some <$> nested 0 false >>= next
        else pure none >>= next) first final := by
  refine .isAt kind fun answer here => ?_
  cases answer with
  | false => exact back none [] first .none
  | true =>
    have same : first.current.kind = kind := by simpa [Parser.isAt] using here
    subst same
    refine .bind (.step before) ?_
    rintro sign _ middle _ ⟨rfl, rfl⟩
    have chosen : Reads table (some <$> nested 0 false) middle fun chosen tokens _ =>
        SpelledOption table first.current.kind chosen (first.current :: tokens) := by
      refine .bind (reads_nested positive nests) ?_
      rintro expr tokens _ _ ⟨spelled, _⟩
      exact .pure (by simpa using .some spelled)
    exact .bind chosen fun value tokens last _ spelled => back value _ last spelled

/-- A counted loop. -/
theorem reads_loop :
    Reads table (loop nested) first fun expr tokens last =>
      SpelledOperand table ⟨expr, tokens, true⟩ ∧ table.Ends last.current := by
  unfold loop
  refine .bind (reads_expect (by simp)) ?_
  rintro start _ _ _ ⟨starts, rfl⟩
  refine .bind reads_expectIdent ?_
  rintro ⟨counter, _⟩ _ _ _ ⟨ident, _, rfl⟩
  refine .bind (reads_expect (by simp)) ?_
  rintro equal _ _ _ ⟨equals, rfl⟩
  refine .bind (reads_nested positive nests) ?_
  rintro initial _ _ _ ⟨ofInitial, _⟩
  refine .bind (reads_expect (by simp)) ?_
  rintro comma _ _ _ ⟨separates, rfl⟩
  refine .bind (reads_nested positive nests) ?_
  rintro limit _ _ _ ⟨ofLimit, _⟩
  refine reads_option positive nests .comma (by simp) ?_
  intro increment _ _ ofStep
  refine .bind (reads_expect (by simp)) ?_
  rintro last _ _ _ ⟨ins, rfl⟩
  refine .bind (reads_nested positive nests) ?_
  rintro body _ _ _ ⟨ofBody, ends⟩
  refine .pure ⟨?_, ends⟩
  simpa using .loop starts ident equals ofInitial separates ofLimit ofStep ins ofBody

/-- Local variables with commas between them. -/
theorem reads_bindings (bound : Nat) : ∀ {first : Parser},
    Reads table (bindings nested bound) first fun introduced tokens _ =>
      SpelledBindings table introduced tokens := by
  induction bound with
  | zero => exact .failHere _
  | succ bound hypothesis =>
    intro first
    refine .bind reads_expectIdent ?_
    rintro ⟨name, _⟩ _ _ _ ⟨ident, _, rfl⟩
    refine reads_option positive nests .equal (by simp) ?_
    intro initializer _ middle spelled
    refine .isAt .comma fun answer here => ?_
    cases answer with
    | false => exact .pure (by simpa using .last ident spelled)
    | true =>
      have comma : middle.current.kind = .comma := by simpa [Parser.isAt] using here
      refine .bind (.step (by simp [comma])) ?_
      rintro token _ _ _ ⟨rfl, rfl⟩
      refine .bind hypothesis ?_
      intro others _ _ _ following
      exact .pure (by simpa using .more ident spelled comma following)

/-- Local variables and the expression they are visible in. -/
theorem reads_locals :
    Reads table (locals nested) first fun expr tokens last =>
      SpelledOperand table ⟨expr, tokens, true⟩ ∧ table.Ends last.current := by
  unfold locals
  refine .bind (reads_expect (by simp)) ?_
  rintro start _ _ _ ⟨starts, rfl⟩
  refine .isAt (.keyword .inWord) fun answer _ => ?_
  cases answer with
  | true =>
    refine .bind .empty ?_
    rintro _ _ _ _ ⟨rfl, rfl⟩
    refine .bind (reads_expect (by simp)) ?_
    rintro last _ _ _ ⟨ins, rfl⟩
    refine .bind (reads_nested positive nests) ?_
    rintro body _ _ _ ⟨ofBody, ends⟩
    refine .pure ⟨?_, ends⟩
    simpa using .unbound starts ins ofBody
  | false =>
    refine .get fun _ => .bind (reads_bindings positive nests _) ?_
    intro introduced _ _ _ ofBindings
    refine .bind (reads_expect (by simp)) ?_
    rintro last _ _ _ ⟨ins, rfl⟩
    refine .bind (reads_nested positive nests) ?_
    rintro body _ _ _ ⟨ofBody, ends⟩
    refine .pure ⟨?_, ends⟩
    simpa using .locals starts ofBindings ins ofBody

/-- An operand without unary operators. -/
theorem reads_primary (plain : table.isUnary first.current = false) :
    Reads table (primary nested) first (ReadsOperand table) := by
  have greedy : ∀ expr tokens (last : Parser),
      SpelledOperand table ⟨expr, tokens, true⟩ ∧ table.Ends last.current →
      ReadsOperand table expr tokens last :=
    fun _ _ _ ⟨spelled, ends⟩ => ⟨true, spelled, fun _ => ends⟩
  unfold primary
  refine .current ?_
  split
  · next opening =>
    refine .bind (.step (by simp [opening])) ?_
    rintro opened _ _ _ ⟨rfl, rfl⟩
    refine .bind (reads_nested positive nests) ?_
    rintro inner tokens _ _ ⟨spelled, _⟩
    refine .bind (reads_expect (by simp)) ?_
    rintro closing _ _ _ ⟨closes, rfl⟩
    exact .pure ⟨false, by simpa using .parentheses opening closes spelled, nofun⟩
  · exact (reads_reference positive nests plain).mono fun _ _ _ spelled => ⟨false, spelled, nofun⟩
  · refine .bind reads_expectNumber ?_
    rintro ⟨value, _⟩ _ _ _ ⟨kind, literal, rfl, rfl⟩
    exact .pure ⟨false, .number kind literal, nofun⟩
  · exact (reads_conditional positive nests).mono greedy
  · exact (reads_loop positive nests).mono greedy
  · exact (reads_locals positive nests).mono greedy
  · exact .failHere _
  · exact .unexpected _

/-- An operand. -/
theorem reads_operand (bound : Nat) : ∀ {first : Parser}, first.remaining < bound →
    Reads table (operand nested bound) first (ReadsOperand table) := by
  induction bound with
  | zero => exact fun enough => absurd enough (Nat.not_lt_zero _)
  | succ bound hypothesis =>
    intro first enough
    refine .get fun known => ?_
    rw [known]
    cases isUnary : table.isUnary first.current with
    | false => exact reads_primary positive nests isUnary
    | true =>
      have kinds : first.current.kind ≠ .eof := by
        rintro same
        simp [OperatorTable.isUnary, same] at isUnary
      refine .bind (.step kinds) ?_
      rintro operator _ middle takes ⟨rfl, rfl⟩
      have fewer := takes.remaining_le
      rw [List.length_singleton] at fewer
      refine .bind (hypothesis (by omega)) ?_
      rintro inner tokens last _ ⟨isOpen, spelled, ends⟩
      exact .pure ⟨isOpen, by simpa using .unary isUnary spelled, ends⟩

end Rules

section Infix

variable {table : OperatorTable} {nested : Float → Bool → Parse Expr}
  (nests : NestedReads table nested)
include nests

/-- The rest of a binary expression. -/
theorem reads_infixed (left : Expr) {precedence : Float} {first : Parser}
    (strength : table.precedence? first.current = some precedence) :
    Reads table (infixed nested left (some precedence)) first fun expr tokens last =>
      ∃ right : Grouping, tokens = first.current :: right.tokens ∧
        (do Expr.binary? first.current left (← right.tree)) = .ok expr ∧
        right.Climbs table precedence (OperatorTable.isRightAssociative first.current)
          last.current ∧
        ¬table.Passes precedence (OperatorTable.isRightAssociative first.current) last.current ∧
        (table.precedence? last.current = none → last.current.kind ≠ .operator) := by
  have kinds : first.current.kind ≠ .eof := by
    rintro same
    simp [OperatorTable.precedence?, same] at strength
  unfold infixed
  refine .get fun _ => .bind (.step kinds) ?_
  rintro operator _ _ _ ⟨rfl, rfl⟩
  refine .bind (nests _ _ _) ?_
  rintro expr _ last _ ⟨right, tree, rfl, climbs, stops, declared⟩
  split
  · next whole made =>
    refine .pure ⟨right, by simp, ?_, climbs, stops, declared⟩
    rw [tree]
    exact made
  · exact .throw _

/-- Operators that are taken into an expression. -/
theorem reads_climb (least : Float) (inclusive : Bool) (bound : Nat) :
    ∀ {first : Parser} {left : Expr} (grouping : Grouping), first.remaining < bound →
    grouping.tree = .ok left → grouping.Climbs table least inclusive first.current →
    Reads table (climb nested least inclusive bound left) first fun expr tokens last =>
      ReadsExpression table least inclusive expr (grouping.tokens ++ tokens) last := by
  induction bound with
  | zero => exact fun _ enough => absurd enough (Nat.not_lt_zero _)
  | succ bound hypothesis =>
    intro first left grouping enough tree climbs
    refine .get fun known => ?_
    have same : first.precedence? = table.precedence? first.current := by
      rw [Parser.precedence?, known]
    rw [same]
    cases strength : table.precedence? first.current with
    | some precedence =>
      have decides : (decide (least < precedence) || (inclusive && precedence == least)) = true ↔
          table.Passes least inclusive first.current := by
        simp [OperatorTable.Passes, strength]
      simp only
      split
      · next taken =>
        refine .bind (reads_infixed nests left strength) ?_
        rintro whole _ middle takes ⟨right, rfl, made, ofRight, stops, declared⟩
        have fewer := takes.remaining_le
        rw [List.length_cons] at fewer
        have wholeTree : (Grouping.infixed grouping first.current right).tree = .ok whole := by
          rw [Grouping.tree, tree]
          exact made
        refine (hypothesis _ (by omega) wholeTree
          (climbs.infixed strength (decides.1 taken) ofRight stops)).mono ?_
        intro expr others last read
        simpa [Grouping.tokens] using read
      · next left =>
        refine .pure ⟨grouping, tree, (List.append_nil _).symm, climbs, ?_, ?_⟩
        · rwa [← decides]
        · rw [strength]
          exact fun none => absurd none (Option.some_ne_none _)
    | none =>
      refine .isAt .operator fun answer here => ?_
      cases answer with
      | true => exact .current (.failHere _)
      | false =>
        refine .pure ⟨grouping, tree, (List.append_nil _).symm, climbs, ?_, fun _ => ?_⟩
        · simp [OperatorTable.Passes, strength]
        · simpa [Parser.isAt] using here

end Infix

variable {table : OperatorTable}

/-- An expression. -/
theorem nestedReads_expressionRule (positive : table.IsPositive)
    {nested : Float → Bool → Parse Expr} (nests : NestedReads table nested) :
    NestedReads table (expressionRule nested) := by
  intro least inclusive first
  unfold expressionRule
  refine .isAt (.keyword .varWord) fun answer _ => ?_
  cases answer with
  | true =>
    refine (reads_locals positive nests).mono ?_
    rintro expr tokens last ⟨spelled, ends⟩
    refine ⟨.operand ⟨expr, tokens, true⟩, rfl, rfl, .operand spelled fun _ => ends, ?_,
      fun _ => ends.2⟩
    simp [OperatorTable.Passes, ends.1]
  | false =>
    refine .get fun _ => .bind (reads_operand positive nests _ (Nat.lt_succ_self _)) ?_
    rintro left tokens middle _ ⟨isOpen, spelled, ends⟩
    refine .get fun _ => ?_
    exact reads_climb nests least inclusive _ (.operand ⟨left, tokens, isOpen⟩)
      (Nat.lt_succ_self _) rfl (.operand spelled ends)

/-- Nested expressions, whatever the depth. -/
theorem nestedReads_expressionWithin (positive : table.IsPositive) (depth : Nat) :
    NestedReads table (expressionWithin depth) := by
  induction depth with
  | zero => exact fun _ _ _ => .failHere _
  | succ depth hypothesis => exact nestedReads_expressionRule positive hypothesis

/-- A complete expression. -/
theorem reads_expression (positive : table.IsPositive) (first : Parser) :
    Reads table (expression 0 false) first fun expr tokens last =>
      Spelled table expr tokens ∧ table.Ends last.current := by
  unfold expression
  exact .get fun _ => reads_nested positive (nestedReads_expressionWithin positive _)

end Parse

end Kaleidoscope
