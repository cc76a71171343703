import Kaleidoscope.Decimal.Shortest
import Mathlib.Algebra.Order.Field.Power
import Mathlib.Data.Rat.Cast.Order
import Mathlib.Tactic.Linarith
import Mathlib.Tactic.Positivity
import Mathlib.Tactic.Ring

/-!
# Doubles and the numbers that round to them

A finite double is given by its parts (`DoubleParts.ofFloat_injective`), and no number rounds to two
doubles with different significands or exponents (`RoundingInterval.Contains.unique`): the interval of
the smaller one ends where that of the larger one begins, or earlier, and where they touch, one of the
two significands is odd, so that the end belongs to one of the intervals only.
-/
namespace Kaleidoscope

namespace DoubleParts

variable {x y : Float} {negative : Bool} {significand : Nat} {exponent : Int}

/-- A finite number has a sign, a significand and an exponent. -/
theorem ofFloat_of_isFinite (finite : x.isFinite = true) :
    ∃ negative significand exponent, ofFloat x = .finite negative significand exponent := by
  have exponent_lt : (x.toBits.toNat >>> 52) % 2048 ≠ 2047 := by
    intro whole
    have top : @Float.Model.UnpackedFloat.unpackExponent Float.Model.Format.binary64
        x.toModel.toBits.toBitVec = -1#_ := by
      apply BitVec.eq_of_toNat_eq
      simp only [Float.Model.UnpackedFloat.unpackExponent, BitVec.toNat_cast, BitVec.extractLsb_toNat]
      exact whole
    change Float.Model.UnpackedFloat.isFinite (Float.Model.UnpackedFloat.unpack _ _) = true at finite
    unfold Float.Model.UnpackedFloat.unpack at finite
    rw [if_pos top] at finite
    split at finite <;> contradiction
  unfold ofFloat
  simp only
  rw [if_neg exponent_lt]
  split
  · exact ⟨_, _, _, rfl⟩
  · exact ⟨_, _, _, rfl⟩

/-- A significand and an exponent as finite doubles have them: the significand has 53 bits at most,
and fewer only with the least exponent. -/
structure IsDouble (significand : Nat) (exponent : Int) : Prop where
  /-- The significand has 53 bits at most. -/
  significand_lt : significand < 2 ^ 53
  /-- No exponent is smaller. -/
  exponent_ge : -1074 ≤ exponent
  /-- The significand has 53 bits unless the exponent is the least one. -/
  normal : exponent ≠ -1074 → 2 ^ 52 ≤ significand

/-- The parts of a number are those of a double, and give its bits. -/
theorem bits_of_ofFloat (parts : ofFloat x = .finite negative significand exponent) :
    IsDouble significand exponent ∧
      (x.toBits.toNat : Int) =
        (bif negative then 2 ^ 63 else 0) + (exponent + 1074) * 2 ^ 52 + significand := by
  have bound : x.toBits.toNat < 2 ^ 64 := x.toBits.toNat_lt
  unfold ofFloat at parts
  generalize x.toBits.toNat = bits at parts bound ⊢
  simp only [Nat.shiftRight_eq_div_pow, Nat.shiftLeft_eq] at parts
  have sign : (bif bits / 2 ^ 63 == 1 then 2 ^ 63 else 0 : Int) = (bits / 2 ^ 63 : Nat) * 2 ^ 63 := by
    rcases (by omega : bits / 2 ^ 63 = 0 ∨ bits / 2 ^ 63 = 1) with top | top <;> rw [top] <;> rfl
  split at parts
  · split at parts <;> contradiction
  · split at parts <;> cases parts
    · refine ⟨⟨by omega, by omega, by omega⟩, ?_⟩
      rw [sign]
      omega
    · refine ⟨⟨by omega, by omega, by omega⟩, ?_⟩
      rw [sign]
      omega

/-- Finite numbers with the same parts are the same. -/
theorem ofFloat_injective (ofFirst : ofFloat x = .finite negative significand exponent)
    (ofSecond : ofFloat y = .finite negative significand exponent) : x = y := by
  have bits : x.toBits.toNat = y.toBits.toNat :=
    Int.ofNat_inj.1 ((bits_of_ofFloat ofFirst).2.trans (bits_of_ofFloat ofSecond).2.symm)
  obtain ⟨⟨first, _⟩⟩ := x
  obtain ⟨⟨second, _⟩⟩ := y
  obtain rfl : first = second := UInt64.toNat.inj bits
  rfl

end DoubleParts

/-- The number that a decimal stands for. -/
def Decimal.value (decimal : Decimal) : ℚ := decimal.digits * 10 ^ decimal.exponent

/-- A power with its denominator cleared. -/
theorem zpow_mul_pow_neg {base : ℚ} (nonzero : base ≠ 0) (power : Int) :
    base ^ power * base ^ (-power).toNat = base ^ power.toNat := by
  rw [← zpow_natCast, ← zpow_natCast, ← zpow_add₀ nonzero]
  congr 1
  omega

namespace RoundingInterval

open Kaleidoscope.DoubleParts (IsDouble)

/-- A number rounds to the double of an interval. -/
structure Contains (interval : RoundingInterval) (number : ℚ) : Prop where
  /-- It is not below the lower end. -/
  low_le : interval.low * 2 ^ interval.exponent ≤ number
  /-- It is not above the upper end. -/
  le_high : number ≤ interval.high * 2 ^ interval.exponent
  /-- It is neither end unless the ends round to the double. -/
  between : interval.closed = false →
    interval.low * 2 ^ interval.exponent < number ∧ number < interval.high * 2 ^ interval.exponent

variable {interval : RoundingInterval} {decimal : Decimal} {number : ℚ}
  {significand other : Nat} {exponent power : Int}

/-- A decimal that is found to round to a double does so. -/
theorem contains_of_covers (rounds : interval.covers decimal = true) :
    interval.Contains decimal.value := by
  -- Both sides of every comparison are multiplied by what clears the denominators.
  obtain ⟨scale, scaled⟩ :
      ∃ scale : ℚ, scale = 10 ^ (-decimal.exponent).toNat * 2 ^ (-interval.exponent).toNat :=
    ⟨_, rfl⟩
  have positive : 0 < scale := by
    rw [scaled]
    positivity
  have value : (decimal.digits * interval.decimalWeight decimal.exponent : Nat) =
      decimal.value * scale := by
    rw [scaled, Decimal.value, decimalWeight, Nat.pow_eq, Nat.pow_eq]
    push_cast
    rw [← zpow_mul_pow_neg (by norm_num) decimal.exponent]
    ring
  have weigh : ∀ bound : Nat, (bound * interval.binaryWeight decimal.exponent : Nat) =
      bound * 2 ^ interval.exponent * scale := by
    intro bound
    rw [scaled, binaryWeight, Nat.pow_eq, Nat.pow_eq]
    push_cast
    rw [← zpow_mul_pow_neg (by norm_num) interval.exponent]
    ring
  have le_iff : ∀ {first second : ℚ}, first * scale ≤ second * scale ↔ first ≤ second :=
    mul_le_mul_iff_left₀ positive
  have lt_iff : ∀ {first second : ℚ}, first * scale < second * scale ↔ first < second :=
    mul_lt_mul_iff_left₀ positive
  unfold covers at rounds
  cases closed : interval.closed with
  | true =>
    simp only [closed, if_true, Bool.and_eq_true, decide_eq_true_eq] at rounds
    rw [← Nat.cast_le (α := ℚ), ← Nat.cast_le (α := ℚ), value, weigh, weigh, le_iff, le_iff] at rounds
    exact ⟨rounds.1, rounds.2, fun opened => by rw [closed] at opened; contradiction⟩
  | false =>
    simp only [closed, Bool.false_eq_true, if_false, Bool.and_eq_true, decide_eq_true_eq] at rounds
    rw [← Nat.cast_lt (α := ℚ), ← Nat.cast_lt (α := ℚ), value, weigh, weigh, lt_iff, lt_iff] at rounds
    exact ⟨rounds.1.le, rounds.2.le, fun _ => rounds⟩

/-- Every number that rounds to a double other than zero is positive. -/
theorem Contains.pos (contains : (ofDouble significand exponent).Contains number)
    (positive : 0 < significand) : 0 < number := by
  have low : 0 < (ofDouble significand exponent).low := by
    unfold ofDouble
    simp only
    split <;> omega
  refine lt_of_lt_of_le ?_ contains.low_le
  positivity

/-- A number at an end of an interval rounds to its double only if the significand is even. -/
theorem Contains.even (contains : (ofDouble significand exponent).Contains number)
    (touches : (ofDouble significand exponent).low * 2 ^ (exponent - 2) = number ∨
      number = (ofDouble significand exponent).high * 2 ^ (exponent - 2)) :
    significand % 2 = 0 := by
  cases closed : (ofDouble significand exponent).closed with
  | true => simpa [ofDouble] using closed
  | false =>
    obtain ⟨above, below⟩ := contains.between closed
    rcases touches with low | high
    · exact absurd low above.ne
    · exact absurd high below.ne

/-- The lower end of an interval. -/
theorem low_ofDouble_ge (significand : Nat) (exponent : Int) :
    4 * significand - 2 ≤ (ofDouble significand exponent).low ∧
      (exponent ≠ -1074 → 2 ^ 52 ≤ significand →
        2 ^ 54 - 1 ≤ (ofDouble significand exponent).low) := by
  unfold ofDouble
  simp only [Nat.shiftLeft_eq]
  split <;> omega

/-- No number rounds to two doubles with the same exponent. -/
theorem Contains.not_lt_significand (first : (ofDouble significand exponent).Contains number)
    (second : (ofDouble other exponent).Contains number) : ¬significand < other := by
  intro less
  have unit : (0 : ℚ) < 2 ^ (exponent - 2) := by positivity
  have within : (ofDouble other exponent).low ≤ (ofDouble significand exponent).high := by
    exact_mod_cast (mul_le_mul_iff_left₀ unit).1 (second.low_le.trans first.le_high)
  have high : (ofDouble significand exponent).high = 4 * significand + 2 := rfl
  have low := (low_ofDouble_ge other exponent).1
  have touch : (ofDouble other exponent).low = (ofDouble significand exponent).high := by omega
  have evenFirst := first.even (.inr (first.le_high.antisymm (touch ▸ second.low_le)))
  have evenSecond := second.even (.inl (second.low_le.antisymm (touch ▸ first.le_high)))
  omega

/-- No number rounds to two doubles with different exponents. -/
theorem Contains.not_lt_exponent (isFirst : IsDouble significand exponent)
    (isSecond : IsDouble other power) (first : (ofDouble significand exponent).Contains number)
    (second : (ofDouble other power).Contains number) : ¬exponent < power := by
  intro less
  have unit : (0 : ℚ) < 2 ^ (exponent - 2) := by positivity
  have wider : (2 : ℚ) ^ (exponent - 2) * 2 ≤ 2 ^ (power - 2) := by
    rw [← zpow_add_one₀ (by norm_num)]
    exact zpow_le_zpow_right₀ (by norm_num) (by omega)
  have reaches : (2 * (ofDouble other power).low : Nat) * (2 : ℚ) ^ (exponent - 2) ≤ number := by
    refine le_trans ?_ second.low_le
    calc ((2 * (ofDouble other power).low : Nat) : ℚ) * 2 ^ (exponent - 2)
        = (ofDouble other power).low * (2 ^ (exponent - 2) * 2) := by
          push_cast
          ring
      _ ≤ (ofDouble other power).low * 2 ^ (power - 2) := by gcongr
  have within : 2 * (ofDouble other power).low ≤ (ofDouble significand exponent).high := by
    exact_mod_cast (mul_le_mul_iff_left₀ unit).1 (reaches.trans first.le_high)
  have high : (ofDouble significand exponent).high = 4 * significand + 2 := rfl
  have atLeast := isFirst.exponent_ge
  have low := (low_ofDouble_ge other power).2 (by omega) (isSecond.normal (by omega))
  have atMost := isFirst.significand_lt
  have touch : 2 * (ofDouble other power).low = (ofDouble significand exponent).high := by omega
  have even := first.even (.inr (first.le_high.antisymm (touch ▸ reaches)))
  omega

/-- No number rounds to two doubles. -/
theorem Contains.unique (isFirst : IsDouble significand exponent) (isSecond : IsDouble other power)
    (first : (ofDouble significand exponent).Contains number)
    (second : (ofDouble other power).Contains number) : significand = other ∧ exponent = power := by
  have forward := first.not_lt_exponent isFirst isSecond second
  have backward := second.not_lt_exponent isSecond isFirst first
  obtain rfl : exponent = power := by omega
  have less := first.not_lt_significand second
  have greater := second.not_lt_significand first
  exact ⟨by omega, rfl⟩

end RoundingInterval

end Kaleidoscope
