import Kaleidoscope.Source.Span

/-!
# Lexical errors

Only numbers can be malformed: every other character is a token of its own. An error names its
cause, the text it was found in and the line. Each cause has a title, which stands under the
offending text, and perhaps notes, which follow it.
-/
namespace Kaleidoscope

/-- What is wrong with a number. -/
inductive LexicalCause where
  /-- Its point is followed by no digit. -/
  | missingFraction
  /-- Its point is preceded by no digit. -/
  | missingWhole
  /-- It has two points. -/
  | repeatedPoint
  /-- Its digits are no double. -/
  | malformedNumber
deriving DecidableEq

namespace LexicalCause

/-- What the programmer is told. -/
def title : LexicalCause → String
  | missingFraction => "Missing digits after the decimal point"
  | missingWhole => "Missing digits before the decimal point"
  | repeatedPoint => "A number may contain only one decimal point"
  | malformedNumber => "Number literal is not a valid double"

/-- Advice that follows the title. -/
def notes : LexicalCause → List String
  | missingWhole => ["Write `0.5` instead of `.5`"]
  | _ => []

end LexicalCause

/-- A malformed number and where it stands. -/
structure LexicalError where
  /-- What is wrong. -/
  cause : LexicalCause
  /-- The text of the number, as far as it was read. -/
  span : Span
  /-- Its line, counted from one. -/
  line : UInt32
deriving DecidableEq

end Kaleidoscope
