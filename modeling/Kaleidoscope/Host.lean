import Kaleidoscope.Decimal.Notation

/-!
# The host

A program reaches the world only through functions that the host provides. What a host function
answers may depend on its arguments and on all calls of host functions before; what it writes
depends on its arguments. A run keeps the list of its calls, and everything the world has seen of
it can be read off this list.

The standard host provides two functions, `putchard` and `printd`, which write a character and a
number.
-/
namespace Kaleidoscope

/-- One call of a host function. -/
structure HostCall where
  /-- The name of the function. -/
  name : String
  /-- The arguments in order. -/
  arguments : List Float
deriving DecidableEq

/-- A function that the host provides. -/
structure HostFunction where
  /-- The number of arguments it takes. -/
  arity : Nat
  /-- Its answer to some arguments after the calls made so far. -/
  answer : Array HostCall → List Float → Float
  /-- What a call with some arguments writes. -/
  output : List Float → String

/-- The functions that programs can declare, the latest binding of a name first. -/
structure Host where
  /-- Names and functions. -/
  functions : List (String × HostFunction)

namespace Host

/-- A host that provides nothing. -/
def none : Host := ⟨[]⟩

/-- Provide one more function, or another one for the same name. -/
def bind (host : Host) (name : String) (function : HostFunction) : Host :=
  ⟨(name, function) :: host.functions⟩

/-- The function provided under a name for a number of arguments. -/
def find? (host : Host) (name : String) (arity : Nat) : Option HostFunction :=
  (host.functions.lookup name).filter (·.arity = arity)

/-- What one call writes. -/
def outputOf (host : Host) (call : HostCall) : String :=
  match host.functions.lookup call.name with
  | some function => function.output call.arguments
  | .none => ""

/-- What some calls write, in order. -/
def output (host : Host) (calls : List HostCall) : String := String.join (calls.map host.outputOf)

/-- The character with a given code. The fraction of the code is dropped, negative codes and what
is not a number count as zero, and codes of no character give the replacement character. -/
def characterOf (code : Float) : Char :=
  let code := code.toUInt32
  if valid : code.isValidChar then ⟨code, valid⟩ else '\ufffd'

/-- The host of programs that are run for their own sake. -/
def standard : Host :=
  let written (text : Float → String) : List Float → String
    | value :: _ => text value
    | [] => ""
  ((Host.none.bind "putchard" ⟨1, fun _ _ => 0, written fun code => (characterOf code).toString⟩).bind
    "printd" ⟨1, fun _ _ => 0, written fun value => NumberFormat.plain.text value ++ "\n"⟩)

end Host

end Kaleidoscope
