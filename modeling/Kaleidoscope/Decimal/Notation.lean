import Kaleidoscope.Decimal.Shortest

/-!
# Written numbers

A double is written with the digits of its shortest decimal. Two formats are in use. Results and
printed trees use the plain one: always positional, a whole number without a point. Listings and
outlines use the marked one: a whole number keeps `.0`, and numbers of at least `10 ^ 16` or below
`10 ^ -4` have an exponent. A negative sign belongs to every negative double, negative zero
included, and to no other; what is not a number has no sign.
-/
namespace Kaleidoscope

/-- How the digits of a double are laid out. -/
structure NumberFormat where
  /-- Whether whole numbers carry `.0` in positional notation. -/
  pointed : Bool
  /-- The positions of the leading digit that are written without an exponent, when limited. -/
  positional : Option (Int × Int)

namespace NumberFormat

/-- The format of results, of printed trees and of messages. -/
def plain : NumberFormat := ⟨false, none⟩

/-- The format of listings and outlines. -/
def marked : NumberFormat := ⟨true, some (-4, 15)⟩

/-- A decimal in positional notation. -/
def positionalText (format : NumberFormat) (decimal : Decimal) : String :=
  let digits := Nat.toDigits 10 decimal.digits
  match decimal.exponent with
  | .ofNat zeros =>
    String.ofList (digits ++ List.replicate zeros '0') ++ if format.pointed then ".0" else ""
  | .negSucc places =>
    let padded := List.replicate (places + 2 - digits.length) '0' ++ digits
    let whole := padded.take (padded.length - (places + 1))
    let fraction := padded.drop (padded.length - (places + 1))
    String.ofList (whole ++ '.' :: fraction)

/-- A decimal with one digit before the point and an exponent; the point is left out when no
digit follows it. -/
def exponentText (decimal : Decimal) : String :=
  let digits := Nat.toDigits 10 decimal.digits
  let fraction := digits.drop 1
  let point := if fraction.isEmpty then [] else '.' :: fraction
  String.ofList (digits.take 1 ++ point) ++ "e" ++
    Decimal.integer (decimal.exponent + fraction.length)

/-- A decimal laid out as the format says. -/
def decimalText (format : NumberFormat) (decimal : Decimal) : String :=
  let leading : Int := decimal.exponent + (Nat.toDigits 10 decimal.digits).length - 1
  match format.positional with
  | none => format.positionalText decimal
  | some (lowest, highest) =>
    if lowest ≤ leading ∧ leading ≤ highest then format.positionalText decimal
    else exponentText decimal

/-- The text of a double. -/
def text (format : NumberFormat) (x : Float) : String :=
  match DoubleParts.ofFloat x with
  | .nan => "NaN"
  | .infinite negative => if negative then "-inf" else "inf"
  | .finite negative significand exponent =>
    let magnitude :=
      if significand = 0 then format.positionalText ⟨0, 0⟩
      else format.decimalText (RoundingInterval.ofDouble significand exponent).shortest
    if negative then "-" ++ magnitude else magnitude

end NumberFormat

end Kaleidoscope
