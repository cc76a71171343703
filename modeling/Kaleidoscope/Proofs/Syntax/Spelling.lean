import Kaleidoscope.Proofs.Syntax.Grouping

/-!
# How expressions are spelled

The tokens of an expression under a table of operators. An expression is spelled as a chain of
operands that is grouped as the table prescribes; only the last operand may end in an expression
that takes in every operator after it. Parentheses, the punctuation of calls and local variables,
and the words of a `var in` without local variables leave no trace in the tree.
-/
namespace Kaleidoscope

/-- A token is an identifier with a name. -/
def Token.IsIdent (token : Token) (name : String) : Prop :=
  token.kind = .ident ∧ token.name? = some name ∧ name.isEmpty = false

/-- A token that is no operator, so that an expression before it is complete. -/
def OperatorTable.Ends (table : OperatorTable) (token : Token) : Prop :=
  table.precedence? token = none ∧ token.kind ≠ .operator

mutual

/-- Tokens that spell an expression: a chain of operands, grouped as the table prescribes. No
operand but the last is open. -/
inductive Spelled (table : OperatorTable) : Expr → List Token → Prop
  | chain {expr : Expr} {grouping : Grouping} (tree : grouping.tree = .ok expr)
      (operands : ∀ piece ∈ grouping.operands, SpelledOperand table piece)
      (closed : ∀ piece ∈ grouping.operands.dropLast, piece.isOpen = false)
      (operators : ∀ operator ∈ grouping.operators, (table.precedence? operator).isSome)
      (respects : grouping.Respects table) : Spelled table expr grouping.tokens

/-- An operand with the tokens that spell it. -/
inductive SpelledOperand (table : OperatorTable) : Piece → Prop
  /-- A number. -/
  | number {token : Token} {value : Float} (kind : token.kind = .number)
      (literal : token.number? = some value) :
      SpelledOperand table ⟨.number value token.span, [token], false⟩
  /-- A variable. -/
  | var {token : Token} {name : String} (ident : token.IsIdent name)
      (plain : table.isUnary token = false) :
      SpelledOperand table ⟨.var name token.span, [token], false⟩
  /-- A call without arguments. -/
  | call {token opening closing : Token} {name : String} (ident : token.IsIdent name)
      (plain : table.isUnary token = false) (opens : opening.kind = .leftParen)
      (closes : closing.kind = .rightParen) :
      SpelledOperand table
        ⟨.call name [] (token.span.join closing.span), [token, opening, closing], false⟩
  /-- A call with arguments. -/
  | callWith {token opening closing : Token} {name : String} {arguments : List Expr}
      {spelling : List Token} (ident : token.IsIdent name) (plain : table.isUnary token = false)
      (opens : opening.kind = .leftParen) (closes : closing.kind = .rightParen)
      (spelled : SpelledArguments table arguments spelling) :
      SpelledOperand table ⟨.call name arguments (token.span.join closing.span),
        token :: opening :: (spelling ++ [closing]), false⟩
  /-- An expression in parentheses. -/
  | parentheses {opening closing : Token} {inner : Expr} {spelling : List Token}
      (opens : opening.kind = .leftParen) (closes : closing.kind = .rightParen)
      (spelled : Spelled table inner spelling) :
      SpelledOperand table ⟨inner, opening :: (spelling ++ [closing]), false⟩
  /-- An operator before an operand. -/
  | unary {operator : Token} {piece : Piece} (isUnary : table.isUnary operator = true)
      (spelled : SpelledOperand table piece) :
      SpelledOperand table ⟨.unary operator piece.expr (operator.span.join piece.expr.span),
        operator :: piece.tokens, piece.isOpen⟩
  /-- A conditional. -/
  | conditional {start middle last : Token} {condition consequent alternative : Expr}
      {first second third : List Token} (starts : start.kind = .keyword .ifWord)
      (ofCondition : Spelled table condition first) (thens : middle.kind = .keyword .thenWord)
      (ofConsequent : Spelled table consequent second) (elses : last.kind = .keyword .elseWord)
      (ofAlternative : Spelled table alternative third) :
      SpelledOperand table
        ⟨.conditional condition consequent alternative (start.span.join alternative.span),
          start :: (first ++ middle :: (second ++ last :: third)), true⟩
  /-- A loop. -/
  | loop {start counter equal comma last : Token} {name : String} {initial limit body : Expr}
      {step : Option Expr} {first second third fourth : List Token}
      (starts : start.kind = .keyword .forWord) (ident : counter.IsIdent name)
      (equals : equal.kind = .equal) (ofInitial : Spelled table initial first)
      (separates : comma.kind = .comma) (ofLimit : Spelled table limit second)
      (ofStep : SpelledOption table .comma step third) (ins : last.kind = .keyword .inWord)
      (ofBody : Spelled table body fourth) :
      SpelledOperand table
        ⟨.loop name initial limit step body (start.span.join body.span),
          start :: counter :: equal :: (first ++ comma :: (second ++ (third ++ last :: fourth))),
          true⟩
  /-- An expression behind a `var in` without local variables. -/
  | unbound {start last : Token} {body : Expr} {spelling : List Token}
      (starts : start.kind = .keyword .varWord) (ins : last.kind = .keyword .inWord)
      (spelled : Spelled table body spelling) :
      SpelledOperand table ⟨body, start :: last :: spelling, true⟩
  /-- Local variables and the expression they are visible in. -/
  | locals {start last : Token} {introduced : List (String × Option Expr)} {body : Expr}
      {first second : List Token} (starts : start.kind = .keyword .varWord)
      (ofBindings : SpelledBindings table introduced first) (ins : last.kind = .keyword .inWord)
      (ofBody : Spelled table body second) :
      SpelledOperand table
        ⟨introduced.foldr (fun (name, initializer) inner =>
            .binding name initializer inner (start.span.join body.span)) body,
          start :: (first ++ last :: second), true⟩

/-- Arguments with commas between them. -/
inductive SpelledArguments (table : OperatorTable) : List Expr → List Token → Prop
  /-- The last argument. -/
  | last {argument : Expr} {spelling : List Token} (spelled : Spelled table argument spelling) :
      SpelledArguments table [argument] spelling
  /-- An argument and those after it. -/
  | more {argument : Expr} {others : List Expr} {comma : Token} {first rest : List Token}
      (spelled : Spelled table argument first) (separates : comma.kind = .comma)
      (following : SpelledArguments table others rest) :
      SpelledArguments table (argument :: others) (first ++ comma :: rest)

/-- An expression that may be left out together with the sign before it. -/
inductive SpelledOption (table : OperatorTable) : Token.Kind → Option Expr → List Token → Prop
  /-- Nothing. -/
  | none {kind : Token.Kind} : SpelledOption table kind none []
  /-- The sign and the expression. -/
  | some {sign : Token} {expr : Expr} {spelling : List Token}
      (spelled : Spelled table expr spelling) :
      SpelledOption table sign.kind (some expr) (sign :: spelling)

/-- Local variables, each perhaps with its first value, with commas between them. -/
inductive SpelledBindings (table : OperatorTable) :
    List (String × Option Expr) → List Token → Prop
  /-- The last variable. -/
  | last {token : Token} {name : String} {initializer : Option Expr} {spelling : List Token}
      (ident : token.IsIdent name) (spelled : SpelledOption table .equal initializer spelling) :
      SpelledBindings table [(name, initializer)] (token :: spelling)
  /-- A variable and those after it. -/
  | more {token comma : Token} {name : String} {initializer : Option Expr}
      {others : List (String × Option Expr)} {first rest : List Token}
      (ident : token.IsIdent name) (spelled : SpelledOption table .equal initializer first)
      (separates : comma.kind = .comma) (following : SpelledBindings table others rest) :
      SpelledBindings table ((name, initializer) :: others) (token :: (first ++ comma :: rest))

end

end Kaleidoscope
