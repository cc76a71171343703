import Kaleidoscope.Decimal.Basic

/-!
# The shortest decimal of a double

A positive finite double stands for every real number that rounds to it: an interval whose ends
lie halfway to its neighbours and belong to it when its significand is even. The shortest decimal
is the one in this interval with the fewest digits, the nearest to the double among those, and
the larger one when two are equally near. All comparisons are made between natural numbers.

The main statement is that the chosen decimal always lies in the interval, so it reads back as
the same double (`shortest_covered`).
-/
namespace Kaleidoscope

/-- The reals that round to the double `middle × 2 ^ exponent`. -/
structure RoundingInterval where
  /-- The lower end, in units of `2 ^ exponent`. -/
  low : Nat
  /-- The double itself. -/
  middle : Nat
  /-- The upper end. -/
  high : Nat
  /-- The power of two that all three count. -/
  exponent : Int
  /-- Whether the ends themselves round to the double. -/
  closed : Bool

namespace RoundingInterval

/-- The interval of the double `significand × 2 ^ exponent`. Below a power of two the doubles
lie twice as close, except where they have reached their smallest spacing. -/
def ofDouble (significand : Nat) (exponent : Int) : RoundingInterval where
  low := 4 * significand - if significand = 1 <<< 52 ∧ exponent ≠ -1074 then 1 else 2
  middle := 4 * significand
  high := 4 * significand + 2
  exponent := exponent - 2
  closed := significand % 2 == 0

/-- The factor that brings a count of `10 ^ power` to the common unit. -/
def decimalWeight (interval : RoundingInterval) (power : Int) : Nat :=
  Nat.pow 10 power.toNat * Nat.pow 2 (-interval.exponent).toNat

/-- The factor that brings a count of `2 ^ exponent` to the common unit. -/
def binaryWeight (interval : RoundingInterval) (power : Int) : Nat :=
  Nat.pow 2 interval.exponent.toNat * Nat.pow 10 (-power).toNat

/-- Whether a decimal rounds to the double of the interval. -/
def covers (interval : RoundingInterval) (decimal : Decimal) : Bool :=
  let value := decimal.digits * interval.decimalWeight decimal.exponent
  let low := interval.low * interval.binaryWeight decimal.exponent
  let high := interval.high * interval.binaryWeight decimal.exponent
  if interval.closed then low ≤ value && value ≤ high else low < value && value < high

/-- The better of the two multiples of `10 ^ power` around the double, if one of them rounds
to it. -/
def nearestMultiple (interval : RoundingInterval) (power : Int) : Option Decimal :=
  let unit := interval.decimalWeight power
  let value := interval.middle * interval.binaryWeight power
  let below : Decimal := ⟨value / unit, power⟩
  let above : Decimal := ⟨value / unit + 1, power⟩
  if interval.covers below && (!interval.covers above || 2 * value < (2 * below.digits + 1) * unit)
  then some below
  else if interval.covers above then some above
  else none

/-- The double itself as a decimal, with as many digits as it takes. -/
def exact (interval : RoundingInterval) : Decimal :=
  match interval.exponent with
  | .ofNat n => ⟨interval.middle * Nat.pow 2 n, 0⟩
  | .negSucc n => ⟨interval.middle * Nat.pow 5 (n + 1), -(n + 1 : Nat)⟩

/-- A power of ten above which no multiple rounds to the double. -/
def topPower (interval : RoundingInterval) : Int :=
  (interval.middle.log2 + interval.exponent + 1) * 30103 / 100000 + 1

/-- The shortest decimal that rounds to the double: the coarsest grid of multiples of a power of
ten that has one. -/
def shortest (interval : RoundingInterval) : Decimal :=
  let found := (List.range 24).findSome? fun step =>
    interval.nearestMultiple (interval.topPower - (step : Nat))
  found.getD interval.exact

/-- A multiple that is chosen rounds to the double. -/
theorem covers_of_nearestMultiple {interval : RoundingInterval} {power : Int} {decimal : Decimal}
    (chosen : interval.nearestMultiple power = some decimal) : interval.covers decimal = true := by
  unfold nearestMultiple at chosen
  simp only at chosen
  split at chosen
  · next condition =>
    obtain rfl := Option.some.inj chosen
    exact (Bool.and_eq_true_iff.1 condition).1
  · split at chosen
    · next condition =>
      obtain rfl := Option.some.inj chosen
      exact condition
    · cases chosen

/-- The double itself lies inside its interval. -/
theorem covers_exact {interval : RoundingInterval} (below : interval.low < interval.middle)
    (above : interval.middle < interval.high) : interval.covers interval.exact = true := by
  obtain ⟨low, middle, high, exponent, closed⟩ := interval
  simp only at below above
  have inside (unit value : Nat) (positive : 0 < unit) (same : value = middle * unit) :
      (if closed then decide (low * unit ≤ value) && decide (value ≤ high * unit)
        else decide (low * unit < value) && decide (value < high * unit)) = true := by
    have lower : low * unit < middle * unit := Nat.mul_lt_mul_of_pos_right below positive
    have upper : middle * unit < high * unit := Nat.mul_lt_mul_of_pos_right above positive
    cases closed <;> simp [same, lower, upper, Nat.le_of_lt]
  cases exponent with
  | ofNat n =>
    refine inside _ _ ?_ ?_
    · simp only [exact, binaryWeight]
      exact Nat.mul_pos (Nat.pow_pos (by decide)) (Nat.pow_pos (by decide))
    · simp [exact, decimalWeight, binaryWeight]
  | negSucc n =>
    have power : (-(-((n + 1 : Nat) : Int))).toNat = n + 1 := by omega
    have shift : (-(Int.negSucc n)).toNat = n + 1 := by omega
    have ten : Nat.pow 10 (n + 1) = Nat.pow 5 (n + 1) * Nat.pow 2 (n + 1) := Nat.mul_pow 5 2 (n + 1)
    refine inside _ _ ?_ ?_
    · simp only [exact, binaryWeight]
      exact Nat.mul_pos (Nat.pow_pos (by decide)) (Nat.pow_pos (by decide))
    · simp only [exact, decimalWeight, binaryWeight, power, shift]
      have zero : (-((n + 1 : Nat) : Int)).toNat = 0 := by omega
      have none : (Int.negSucc n).toNat = 0 := rfl
      rw [zero, none, ten]
      simp [Nat.mul_assoc]

/-- The chosen decimal rounds to the double of the interval. -/
theorem shortest_covered {interval : RoundingInterval} (below : interval.low < interval.middle)
    (above : interval.middle < interval.high) : interval.covers interval.shortest = true := by
  unfold shortest
  cases search : (List.range 24).findSome? fun step =>
      interval.nearestMultiple (interval.topPower - (step : Nat)) with
  | none => exact covers_exact below above
  | some decimal =>
    obtain ⟨step, _, chosen⟩ := List.exists_of_findSome?_eq_some search
    exact covers_of_nearestMultiple chosen

end RoundingInterval

end Kaleidoscope
