/-!
# Errors of code

What can go wrong while code is built or run. Programs themselves only ever meet two of these:
a declared function that the host does not provide, and calls nested too deeply. The others report
code that was put together wrongly.
-/
namespace Kaleidoscope

/-- What a reference into a unit should have named. -/
inductive Referent where
  /-- A routine. -/
  | routine
  /-- A block of a routine. -/
  | block
  /-- A slot of a routine. -/
  | slot
  /-- The block from which a block was reached. -/
  | predecessor
deriving DecidableEq

namespace Referent

/-- The word for it in messages. -/
def text : Referent → String
  | routine => "function"
  | block => "block"
  | slot => "slot"
  | predecessor => "phi predecessor"

end Referent

/-- An error of building or running code. -/
inductive CodeError where
  /-- No unit is open. -/
  | noUnit
  /-- No block is being filled. -/
  | noInsertionPoint
  /-- A routine has no parameter of that position. -/
  | missingParameter (routine : String) (index : Nat)
  /-- The host provides no such function. -/
  | unresolvedSymbol (name : String)
  /-- Too many calls are active. -/
  | callDepthExceeded (limit : Nat)
  /-- A block has no end. -/
  | unterminatedBlock (routine block : String)
  /-- A reference names nothing. -/
  | invalidHandle (referent : Referent)
  /-- A compiler for real machines has failed. -/
  | compiler (message : String)
deriving DecidableEq

namespace CodeError

/-- The error in words. -/
def message : CodeError → String
  | noUnit => "no compilation unit is open"
  | noInsertionPoint => "the builder is not positioned inside a function"
  | missingParameter routine index =>
    "function `" ++ routine ++ "` has no parameter #" ++ Nat.repr index
  | unresolvedSymbol name => "unresolved external symbol `" ++ name ++ "`"
  | callDepthExceeded limit => "maximum call depth of " ++ Nat.repr limit ++ " exceeded"
  | unterminatedBlock routine block =>
    "block `" ++ block ++ "` of `" ++ routine ++ "` has no terminator"
  | invalidHandle referent => "invalid " ++ referent.text ++ " handle"
  | compiler message => "LLVM: " ++ message

end CodeError

end Kaleidoscope
