import Kaleidoscope.Text.CodeSet

/-!
# White space

Between two tokens any white space may stand, in the sense of the character property of that
name: the five blank control characters and the space, the next-line character, and the spaces and
separators of the higher ranges.
-/
namespace Kaleidoscope.Text

/-- White space above the seven-bit range. -/
def whiteSpace : CodeSet where
  edges := [
    0x85, 0x86, 0xa0, 0xa1, 0x1680, 0x1681, 0x2000, 0x200b, 0x2028, 0x202a, 0x202f, 0x2030,
    0x205f, 0x2060, 0x3000, 0x3001]

/-- White space of any kind, line breaks included. -/
def isBlank (c : Char) : Bool :=
  if c.toNat < 128 then c = ' ' || ('\t'.toNat ≤ c.toNat && c.toNat ≤ '\r'.toNat)
  else whiteSpace.contains c.toNat

end Kaleidoscope.Text
