import Kaleidoscope.Decimal.Basic

/-!
# Reading numbers

A number literal of the language is a run of digits with an optional fraction
(`Decimal.ofLiteral`). Where numbers arrive as text from outside, a sign, an exponent and the
names of the infinities and of the value that is no number are read as well (`Decimal.read?`).
Both round to the nearest double, ties to the even one.
-/
namespace Kaleidoscope.Decimal

/-- The double nearest to a decimal. A decimal beyond the range of doubles is decided by the
position of its leading digit alone. -/
def toFloat (decimal : Decimal) : Float :=
  let leading : Int := decimal.exponent + (Nat.toDigits 10 decimal.digits).length
  if decimal.digits = 0 then 0
  else if 400 < leading then Float.ofBits 0x7ff0000000000000
  else if leading < -400 then 0
  else match decimal.exponent with
    | .ofNat n => Float.ofScientific decimal.digits false n
    | .negSucc n => Float.ofScientific decimal.digits true (n + 1)

/-- The number that a run of digits writes. -/
def ofDigits (digits : List Char) : Nat :=
  digits.foldl (fun value digit => 10 * value + (digit.toNat - '0'.toNat)) 0

/-- The decimal with the given digits before and after its point. -/
def ofParts (whole fraction : List Char) : Decimal :=
  ⟨ofDigits (whole ++ fraction), -(fraction.length : Int)⟩

/-- The value of a number literal: digits, then perhaps a point and more digits. -/
def ofLiteral (literal : List Char) : Float :=
  (ofParts (literal.takeWhile (· ≠ '.')) ((literal.dropWhile (· ≠ '.')).drop 1)).toFloat

/-- One or more digits and nothing else. -/
def isDigits (text : List Char) : Bool := !text.isEmpty && text.all Char.isDigit

/-- An exponent: an optional sign and digits. -/
def readExponent? : List Char → Option Int
  | '-' :: digits => if isDigits digits then some (-(ofDigits digits : Int)) else none
  | '+' :: digits => if isDigits digits then some (ofDigits digits) else none
  | digits => if isDigits digits then some (ofDigits digits) else none

/-- A number without its sign. -/
def readMagnitude? (text : List Char) : Option Float :=
  let folded := String.ofList (text.map Char.toLower)
  if folded = "inf" ∨ folded = "infinity" then some (Float.ofBits 0x7ff0000000000000)
  else if folded = "nan" then some (Float.ofBits 0x7ff8000000000000)
  else
    let isMark (c : Char) : Bool := c = 'e' || c = 'E'
    let mantissa := text.takeWhile (!isMark ·)
    let whole := mantissa.takeWhile (· ≠ '.')
    let fraction := (mantissa.dropWhile (· ≠ '.')).drop 1
    let power? := match text.dropWhile (!isMark ·) with
      | [] => some 0
      | _ :: exponent => readExponent? exponent
    if isDigits (whole ++ fraction) then
      power?.map fun power =>
        let decimal := ofParts whole fraction
        toFloat ⟨decimal.digits, decimal.exponent + power⟩
    else none

/-- A number with an optional sign. -/
def read? (text : String) : Option Float :=
  match text.toList with
  | '-' :: magnitude => (readMagnitude? magnitude).map fun value => -value
  | '+' :: magnitude => readMagnitude? magnitude
  | magnitude => readMagnitude? magnitude

end Kaleidoscope.Decimal
