import Kaleidoscope.Syntax.Parser

/-!
# The grammar of expressions

An expression is a sequence of operands with operators between them, grouped by the precedences of
the table: an operator takes into its right operand whatever binds more strongly than itself, and
assignment also whatever binds equally. An operand is a number, a variable, a call, an expression
in parentheses, a conditional, a loop or local variables, with any number of unary operators
before it.

Every rule is written over the rule for the expressions nested in it, and `expression` ties the
knot. A nested expression always starts at least one token later, so the number of tokens left
bounds the depth; loops within a rule are bounded by it in the same way.
-/
namespace Kaleidoscope.Parse

section Rules

variable (nested : Float → Bool → Parse Expr)

/-- Arguments separated by commas. -/
def arguments : Nat → Parse (List Expr)
  | 0 => failHere .unexpectedEof
  | bound + 1 => do
    let argument ← nested 0 false
    if ← isAt .comma then
      let _ ← step
      return argument :: (← arguments bound)
    else return [argument]

/-- A variable, or a call if an opening parenthesis follows the name. -/
def reference : Parse Expr := do
  let (name, start) ← expectIdent
  if ← isAt .leftParen then
    let _ ← step
    let values ← if ← isAt .rightParen then pure [] else do
      arguments nested ((← get).remaining + 1)
    let close ← expect .rightParen
    return .call name values (start.join close.span)
  else return .var name start

/-- A condition and the values it chooses between. -/
def conditional : Parse Expr := do
  let start ← expect (.keyword .ifWord)
  let condition ← nested 0 false
  let _ ← expect (.keyword .thenWord)
  let consequent ← nested 0 false
  let _ ← expect (.keyword .elseWord)
  let alternative ← nested 0 false
  return .conditional condition consequent alternative (start.span.join alternative.span)

/-- A counter with its start, the condition to go on, perhaps a step, and the body to repeat. -/
def loop : Parse Expr := do
  let start ← expect (.keyword .forWord)
  let (counter, _) ← expectIdent
  let _ ← expect .equal
  let first ← nested 0 false
  let _ ← expect .comma
  let limit ← nested 0 false
  let increment ← if ← isAt .comma then do
      let _ ← step
      some <$> nested 0 false
    else pure none
  let _ ← expect (.keyword .inWord)
  let body ← nested 0 false
  return .loop counter first limit increment body (start.span.join body.span)

/-- Local variables separated by commas, each perhaps with its first value. -/
def bindings : Nat → Parse (List (String × Option Expr))
  | 0 => failHere .unexpectedEof
  | bound + 1 => do
    let (name, _) ← expectIdent
    let initializer ← if ← isAt .equal then do
        let _ ← step
        some <$> nested 0 false
      else pure none
    if ← isAt .comma then
      let _ ← step
      return (name, initializer) :: (← bindings bound)
    else return [(name, initializer)]

/-- Local variables, possibly none, and the expression they are visible in. Each variable is also
visible in the first values of those after it. -/
def locals : Parse Expr := do
  let start ← expect (.keyword .varWord)
  let introduced ← if ← isAt (.keyword .inWord) then pure [] else do
    bindings nested ((← get).remaining + 1)
  let _ ← expect (.keyword .inWord)
  let body ← nested 0 false
  let span := start.span.join body.span
  return introduced.foldr (fun (name, initializer) inner => .binding name initializer inner span) body

/-- An operand without unary operators. -/
def primary : Parse Expr := do
  match (← current).kind with
  | .leftParen =>
    let _ ← step
    let inner ← nested 0 false
    let _ ← expect .rightParen
    return inner
  | .ident => reference nested
  | .number =>
    let (value, span) ← expectNumber
    return .number value span
  | .keyword .ifWord => conditional nested
  | .keyword .forWord => loop nested
  | .keyword .varWord => locals nested
  | .eof => failHere .unexpectedEof
  | _ => unexpected [.identifier, .number, .token .leftParen, .construct]

/-- An operand, with at most the given number of unary operators before it. -/
def operand : Nat → Parse Expr
  | 0 => primary nested
  | bound + 1 => do
    let parser ← get
    if parser.operators.isUnary parser.current then
      let operator ← step
      let inner ← operand bound
      return .unary operator inner (operator.span.join inner.span)
    else primary nested

/-- The rest of a binary expression whose left operand has been parsed and whose operator is
current. The right operand takes what binds more strongly than `least`, or, if that is not given,
than the operator itself. -/
def infixed (left : Expr) (least : Option Float) : Parse Expr := do
  let precedence := (least.or (← get).precedence?).getD 0
  let operator ← step
  let right ← nested precedence (OperatorTable.isRightAssociative operator)
  match Expr.binary? operator left right with
  | .ok expr => return expr
  | .error error => throw error

/-- Take operators into an expression as long as they bind more strongly than `least`, or, if
`inclusive`, as strongly. -/
def climb (least : Float) (inclusive : Bool) : Nat → Expr → Parse Expr
  | 0, left => return left
  | bound + 1, left => do
    match (← get).precedence? with
    | some precedence =>
      if least < precedence || (inclusive && precedence == least) then
        climb least inclusive bound (← infixed nested left (some precedence))
      else return left
    | none =>
      if ← isAt .operator then
        failHere (.undeclaredOperator (← current).lexeme)
      else return left

/-- An expression of operators that bind more strongly than `least`, or, if `inclusive`, as
strongly. Local variables take everything after them. -/
def expressionRule (least : Float) (inclusive : Bool) : Parse Expr := do
  if ← isAt (.keyword .varWord) then locals nested
  else
    let left ← operand nested ((← get).remaining + 1)
    climb nested least inclusive ((← get).remaining + 1) left

end Rules

/-- An expression in which at most `depth` expressions are nested. -/
def expressionWithin : Nat → Float → Bool → Parse Expr
  | 0, _, _ => failHere .unexpectedEof
  | depth + 1, least, inclusive => expressionRule (expressionWithin depth) least inclusive

/-- An expression of operators that bind more strongly than `least`, or, if `inclusive`, as
strongly. -/
def expression (least : Float) (inclusive : Bool) : Parse Expr := do
  expressionWithin ((← get).remaining + 1) least inclusive

/-- Parameters, each with an optional comma after it, up to the closing parenthesis. -/
def parameters : Nat → Parse (List String)
  | 0 => unexpected [.parameterName, .token .rightParen]
  | bound + 1 => do
    match (← current).kind with
    | .ident =>
      let (name, _) ← expectIdent
      if ← isAt .comma then
        let _ ← step
      return name :: (← parameters bound)
    | .rightParen => return []
    | _ => unexpected [.parameterName, .token .rightParen]

/-- What a prototype introduces. The precedence of a binary operator stands before or after its
name. -/
def prototypeHead : Parse (String × PrototypeKind) := do
  match (← current).kind with
  | .keyword .unary =>
    let _ ← step
    let (name, _) ← expectOperatorName
    return (name, .unary)
  | .keyword .binary =>
    let _ ← step
    if ← isAt .number then
      let precedence ← expectPrecedence
      let (name, _) ← expectOperatorName
      return (name, .binary precedence)
    else
      let (name, _) ← expectOperatorName
      let precedence ← expectPrecedence
      return (name, .binary precedence)
  | _ =>
    let (name, _) ← expectIdent
    return (name, .function)

/-- What is wrong with a prototype as a whole: an operator has a fixed number of parameters, and a
built-in binary operator is never introduced again. -/
def prototypeFault? (prototype : Prototype) : Option ParseCause :=
  match prototype.kind.fixity? with
  | none => none
  | some fixity =>
    if prototype.parameters.length ≠ fixity.operands then
      some (.operatorArity fixity prototype.parameters.length)
    else if fixity = .binary ∧ OperatorTable.isBuiltin prototype.name then
      some (.builtinOperator prototype.name)
    else none

/-- A prototype. The operator of an accepted prototype is known from here on. -/
def prototype : Parse Prototype := do
  let start ← current
  let (name, kind) ← prototypeHead
  let _ ← expect .leftParen
  let names ← parameters ((← get).remaining + 1)
  let close ← expect .rightParen
  let accepted : Prototype := ⟨name, names, kind, start.span.join close.span⟩
  match prototypeFault? accepted with
  | some cause => throw ⟨cause, accepted.span, start.line⟩
  | none =>
    modify fun parser => { parser with operators := parser.operators.declare accepted }
    return accepted

/-- A definition. -/
def definition : Parse Expr := do
  let start ← expect (.keyword .define)
  let signature ← prototype
  let body ← expression 0 false
  return .function signature body (start.span.join body.span)

/-- A declaration of a function of the host. -/
def declaration : Parse Expr := do
  let start ← expect (.keyword .declare)
  let signature ← prototype
  return .declaration signature (start.span.join signature.span)

/-- A form: a definition, a declaration or an expression to run. -/
def form : Parse Expr := do
  match (← current).kind with
  | .keyword .define => definition
  | .keyword .declare => declaration
  | _ => return .anonymous (← expression 0 false)

/-- A form and the semicolon that ends it. -/
def statement : Parse Expr := do
  let parsed ← form
  let _ ← expect .semicolon
  return parsed

end Kaleidoscope.Parse
