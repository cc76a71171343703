/-!
# Sets of characters by code

A property of characters is stored as the increasing list of the codes at which membership
changes: a character belongs to the set when an odd number of edges lies at or below its code.
The tables of this folder are sets of this kind and describe the characters above the seven-bit
range; each class treats the seven-bit range by a rule of its own, which is where a reader, or a
proof, usually looks.
-/
namespace Kaleidoscope.Text

/-- A set of character codes, given by the codes at which membership changes. -/
structure CodeSet where
  /-- Increasing codes; each one switches membership for itself and everything above. -/
  edges : List Nat

namespace CodeSet

/-- A code belongs to the set when an odd number of edges lies at or below it. -/
def contains (set : CodeSet) (code : Nat) : Bool :=
  (set.edges.takeWhile (· ≤ code)).length % 2 == 1

end CodeSet

end Kaleidoscope.Text
