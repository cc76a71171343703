/-!
# Decimal numbers and the parts of a double

The two sides of every conversion between text and numbers: a decimal, a natural number scaled by
a power of ten, and a finite double taken apart into sign, significand and a power of two. Both
are exact, so the rules of writing and reading can be stated on natural numbers.
-/
namespace Kaleidoscope

/-- The number `digits × 10 ^ exponent`. -/
structure Decimal where
  /-- All digits, the point left out. -/
  digits : Nat
  /-- The power of ten that the last digit counts. -/
  exponent : Int
deriving DecidableEq

/-- What the bits of a double stand for. -/
inductive DoubleParts where
  /-- Not a number. -/
  | nan
  /-- One of the two infinities. -/
  | infinite (negative : Bool)
  /-- The number `significand × 2 ^ exponent`, or its negative. -/
  | finite (negative : Bool) (significand : Nat) (exponent : Int)

/-- The parts of a double, read from its bits. -/
def DoubleParts.ofFloat (x : Float) : DoubleParts :=
  let bits := x.toBits.toNat
  let negative := bits >>> 63 == 1
  let biased : Nat := (bits >>> 52) % 2048
  let fraction := bits % (1 <<< 52)
  if biased = 2047 then
    if fraction = 0 then .infinite negative else .nan
  else if biased = 0 then .finite negative fraction (-1074)
  else .finite negative (1 <<< 52 + fraction) ((biased : Int) - 1075)

namespace Decimal

/-- The digits of a natural number in base ten. -/
def natural (n : Nat) : String := String.ofList (Nat.toDigits 10 n)

/-- The digits of an integer in base ten, after a minus sign when it is negative. -/
def integer : Int → String
  | .ofNat n => natural n
  | .negSucc n => "-" ++ natural (n + 1)

end Decimal

end Kaleidoscope
