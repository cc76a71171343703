import Kaleidoscope.Proofs.Lowering.Standing

/-!
# The meaning of expressions

What an expression gives is said here on its tree, without routines, blocks or registers. Operands
are evaluated before their operator, from left to right, and variables are cells that assignments
change. A call of a defined name evaluates its definition in cells of its own, a call of any other
name asks the host, and operators that programs declare are calls.

An evaluation can go on for ever, but only in a loop, since the frames that may be open bound how
deeply calls nest. So each loop is given a number of rounds, and an evaluation is unfinished if they
do not suffice.
-/
namespace Kaleidoscope

/-- Why an evaluation gives no number. -/
inductive Stop where
  /-- It ends with an error. -/
  | error (error : CodeError)
  /-- A loop needs more rounds. -/
  | unfinished
  /-- The expression has no meaning: a variable is not visible, a name is not known, or a form is
  nested in it. -/
  | meaningless

/-- What an evaluation reads and changes. -/
structure Store where
  /-- The visible variables and their numbers, innermost first. -/
  numbers : Scope Float
  /-- The calls of host functions so far. -/
  calls : Array HostCall

/-- An evaluation. -/
abbrev Evaluation (α : Type) := EStateM Stop Store α

namespace Scope

/-- Change the number of the innermost variable of a name. -/
def assign (numbers : Scope Float) (name : String) (value : Float) : Scope Float :=
  ⟨change numbers.bindings⟩
where
  /-- Change the first cell of the name. -/
  change : List (String × Float) → List (String × Float)
    | [] => []
    | (key, old) :: rest => if key = name then (key, value) :: rest else (key, old) :: change rest

/-- The variables that are visible outside the innermost one. -/
def outer {α : Type} (scope : Scope α) : Scope α := ⟨scope.bindings.tail⟩

/-- Bind parameters in order, so that the last one is innermost. -/
def bindAll : List String → List Float → Scope Float → Scope Float
  | name :: names, value :: values, scope => bindAll names values (scope.bind name value)
  | _, _, scope => scope

end Scope

namespace BuiltinOperator

/-- What an operator computes. -/
def apply : BuiltinOperator → Float → Float → Float
  | add, left, right => left + right
  | subtract, left, right => left - right
  | multiply, left, right => left * right
  | lessThan, left, right => if left < right then 1 else 0
  | equal, left, right => if left == right then 1 else 0

end BuiltinOperator

namespace Meaning

/-- The number of a variable. -/
def read (name : String) : Evaluation Float := do
  match (← get).numbers.lookup? name with
  | some value => return value
  | none => throw .meaningless

/-- Change the number of a variable. -/
def assign (name : String) (value : Float) : Evaluation PUnit :=
  modify fun store => { store with numbers := store.numbers.assign name value }

/-- Evaluate something in which one more variable is visible. -/
def within {α : Type} (name : String) (value : Float) (action : Evaluation α) : Evaluation α := do
  modify fun store => { store with numbers := store.numbers.bind name value }
  let result ← action
  modify fun store => { store with numbers := store.numbers.outer }
  return result

/-- Repeat a round as long as it yields that another one follows. -/
def repeated (round : Evaluation Bool) : Nat → Evaluation PUnit
  | 0 => throw .unfinished
  | rounds + 1 => do
    if ← round then repeated round rounds else return

/-- One round of a loop: whether another one follows. -/
def round (counter : String) (body increment limit : Evaluation Float) : Evaluation Bool := do
  let _ ← body
  let current ← read counter
  let more ← increment
  assign counter (current + more)
  let last ← limit
  return Code.isTrue last

/-- Evaluate the body of a definition in cells of its own. -/
def inFrame (parameters : List String) (values : List Float) (body : Evaluation Float) :
    Evaluation Float := do
  let outside := (← get).numbers
  modify fun store => { store with numbers := .bindAll parameters values .empty }
  let result ← body
  modify fun store => { store with numbers := outside }
  return result

/-- Call a function of the host that has some number of parameters. -/
def callHost (host : Host) (name : String) (arity : Nat) (values : List Float) :
    Evaluation Float := do
  let calls := (← get).calls
  match host.find? name arity with
  | some function =>
    modify fun store => { store with calls := calls.push ⟨name, values⟩ }
    return function.answer calls values
  | none => throw (.error (.unresolvedSymbol name))

section Rules

variable (call : String → List Float → Evaluation Float) (rounds : Nat)

mutual

/-- Evaluate an expression. -/
def evaluate : Expr → Evaluation Float
  | .number value _ => return value
  | .var name _ => read name
  | .binary _ .assign (.var name _) right _ => do
    let value ← evaluate right
    assign name value
    return value
  | .binary _ .assign _ _ _ => throw .meaningless
  | .binary _ (.user name) left right _ => do
    let first ← evaluate left
    let second ← evaluate right
    call ("binary_" ++ name) [first, second]
  | .binary _ (.builtin operator) left right _ => do
    let first ← evaluate left
    let second ← evaluate right
    return operator.apply first second
  | .unary operator operand _ => do
    let value ← evaluate operand
    call (Expr.unaryCallee operator) [value]
  | .call name arguments _ => do
    let values ← evaluateAll arguments
    call name values
  | .conditional condition consequent alternative _ => do
    let chosen ← evaluate condition
    if Code.isTrue chosen then evaluate consequent else evaluate alternative
  | .loop counter start limit step body _ => do
    let first ← evaluate start
    within counter first (repeated
      (round counter (evaluate body) (evaluateOptional 1 step) (evaluate limit)) rounds)
    return 0
  | .binding name initializer body _ => do
    let initial ← evaluateOptional 0 initializer
    within name initial (evaluate body)
  | .prototype _ | .function _ _ _ | .declaration _ _ => throw .meaningless

/-- Evaluate the arguments of a call in order. -/
def evaluateAll : List Expr → Evaluation (List Float)
  | [] => return []
  | argument :: rest => do
    let value ← evaluate argument
    let values ← evaluateAll rest
    return value :: values

/-- Evaluate an expression that may be left out, which stands for a fixed number then. -/
def evaluateOptional (absent : Float) : Option Expr → Evaluation Float
  | none => return absent
  | some expr => evaluate expr

end

end Rules

/-- What names mean: a definition with its parameters and body, or a function of the host with some
number of parameters. -/
abbrev Definitions := String → Option Status

/-- Call a name while some number of further frames may be open. -/
def callWithin (definitions : Definitions) (environment : Code.Environment) (rounds : Nat) :
    Nat → String → List Float → Evaluation Float
  | frames, name, values =>
    match definitions name with
    | none => throw .meaningless
    | some ⟨arity, none⟩ => callHost environment.host name arity values
    | some ⟨_, some (parameters, body)⟩ =>
      match frames with
      | 0 => throw (.error (.callDepthExceeded environment.limit))
      | frames + 1 =>
        inFrame parameters values
          (evaluate (callWithin definitions environment rounds frames) rounds body)

/-- What an evaluation that has come to an end gives: a number or an error, and all calls of host
functions up to then. -/
def outcome? : EStateM.Result Stop Store Float → Option (Except CodeError Float × Array HostCall)
  | .ok value store => some (.ok value, store.calls)
  | .error (.error error) store => some (.error error, store.calls)
  | .error _ _ => none

/-- Evaluate an expression to run, if the rounds suffice. One frame is open already. -/
def run (definitions : Definitions) (environment : Code.Environment) (rounds : Nat)
    (calls : Array HostCall) (body : Expr) : Option (Except CodeError Float × Array HostCall) :=
  outcome? (evaluate (callWithin definitions environment rounds (environment.limit - 1)) rounds body
    ⟨.empty, calls⟩)

/-- Evaluate expressions in order: their values and errors, and all calls of host functions. -/
def runAll (definitions : Definitions) (environment : Code.Environment) (rounds : Nat)
    (calls : Array HostCall) : List Task → Option (Report × Array HostCall)
  | [] => some (⟨[], []⟩, calls)
  | task :: rest => do
    let (result, calls) ← run definitions environment rounds calls task.body
    let (report, calls) ← runAll definitions environment rounds calls rest
    match result with
    | .ok value => some ({ report with values := value :: report.values }, calls)
    | .error error =>
      let failure : FormError := ⟨some task.index, some task.span, .code error⟩
      some ({ report with errors := failure :: report.errors }, calls)

end Meaning

end Kaleidoscope
