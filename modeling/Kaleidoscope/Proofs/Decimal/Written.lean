import Kaleidoscope.Decimal.Notation
import Kaleidoscope.Decimal.Read
import Kaleidoscope.Proofs.Decimal.Doubles
import Mathlib.Data.List.TakeWhile

/-!
# Written numbers are told apart

Positional notation writes a decimal as digits with at most one point, and read as a literal is read,
they are a decimal with the same value (`Decimal.value_ofText`). Since only one double rounds from a
value, finite doubles with the same text are the same (`NumberFormat.text_injective`). Signs count:
negative zero is written differently from zero.
-/
namespace Kaleidoscope

namespace Decimal

/-- The decimal that digits write, perhaps with a point. -/
def ofText (text : List Char) : Decimal :=
  ofParts (text.takeWhile (· ≠ '.')) ((text.dropWhile (· ≠ '.')).drop 1)

/-- Digits, perhaps with a point among them, write a number. -/
inductive Writes : List Char → ℚ → Prop
  /-- Digits without a point. -/
  | whole {digits : List Char} (some : digits ≠ []) (areDigits : ∀ c ∈ digits, c.isDigit = true) :
      Writes digits (Nat.ofDigitChars 10 digits 0)
  /-- Digits with a point behind at least one of them. -/
  | point {front back : List Char} (some : front ≠ [])
      (areDigits : ∀ c ∈ front ++ back, c.isDigit = true) :
      Writes (front ++ '.' :: back)
        (Nat.ofDigitChars 10 (front ++ back) 0 * 10 ^ (-(back.length : Int)))

variable {text : List Char} {number other : ℚ}

namespace Writes

/-- Digits are no point. -/
theorem ne_point {digits : List Char} (areDigits : ∀ c ∈ digits, c.isDigit = true) :
    ∀ c ∈ digits, decide (c ≠ '.') = true := by
  intro c member
  refine decide_eq_true ?_
  rintro rfl
  exact absurd (areDigits _ member) (by decide)

/-- The number that is written is the one that is read as a literal. -/
theorem value_ofText (writes : Writes text number) : (ofText text).value = number := by
  cases writes with
  | whole _ areDigits =>
    have plain := ne_point areDigits
    rw [ofText, List.takeWhile_eq_self_iff.2 plain, List.dropWhile_eq_nil_iff.2 plain,
      Nat.ofDigitChars_eq_foldl]
    simp [ofParts, ofDigits, value]
  | @point front back _ areDigits =>
    have plain := ne_point fun c member => areDigits c (List.mem_append_left _ member)
    rw [ofText, List.takeWhile_append_of_pos plain, List.dropWhile_append_of_pos plain,
      Nat.ofDigitChars_eq_foldl]
    simp [ofParts, ofDigits, value]

/-- A text writes one number. -/
theorem unique (writes : Writes text number) (again : Writes text other) : number = other :=
  writes.value_ofText.symm.trans again.value_ofText

/-- The text starts with a digit and has nothing but digits and a point. -/
theorem shape (writes : Writes text number) :
    (∃ c ∈ text.head?, c.isDigit = true) ∧ ∀ c ∈ text, c.isDigit = true ∨ c = '.' := by
  have starts : ∀ {digits more : List Char}, digits ≠ [] → (∀ c ∈ digits, c.isDigit = true) →
      ∃ c ∈ (digits ++ more).head?, c.isDigit = true := by
    intro digits more some areDigits
    cases digits with
    | nil => contradiction
    | cons c rest => exact ⟨c, rfl, areDigits c List.mem_cons_self⟩
  cases writes with
  | whole some areDigits =>
    exact ⟨List.append_nil text ▸ starts some areDigits, fun c member => .inl (areDigits c member)⟩
  | point some areDigits =>
    obtain ⟨ofFront, ofBack⟩ := List.forall_mem_append.1 areDigits
    refine ⟨starts some ofFront, List.forall_mem_append.2 ⟨fun c member => .inl (ofFront c member),
      List.forall_mem_cons.2 ⟨.inr rfl, fun c member => .inl (ofBack c member)⟩⟩⟩

/-- A point in front of the last digits counts powers of ten. -/
theorem cut {digits : List Char} {places : Nat} (long : places < digits.length)
    (areDigits : ∀ c ∈ digits, c.isDigit = true) :
    Writes (digits.take (digits.length - places) ++ '.' :: digits.drop (digits.length - places))
      (Nat.ofDigitChars 10 digits 0 * 10 ^ (-(places : Int))) := by
  have parts := List.take_append_drop (digits.length - places) digits
  have length : (digits.drop (digits.length - places)).length = places := by
    rw [List.length_drop]
    omega
  have some : digits.take (digits.length - places) ≠ [] := by
    rw [← List.length_pos_iff, List.length_take]
    omega
  have writes := Writes.point some (by rwa [parts])
  rwa [parts, length] at writes

end Writes

/-- Positional notation writes the number that a decimal stands for. -/
theorem writes_positionalText (decimal : Decimal) :
    Writes (NumberFormat.plain.positionalText decimal).toList decimal.value := by
  obtain ⟨count, exponent⟩ := decimal
  have some : Nat.toDigits 10 count ≠ [] := Nat.toDigits_ne_nil
  have digits : ∀ c ∈ Nat.toDigits 10 count, c.isDigit = true := fun c member =>
    Nat.isDigit_of_mem_toDigits (by decide) (by decide) member
  have zeros : ∀ (length : Nat), ∀ c ∈ List.replicate length '0', c.isDigit = true := by
    intro length c member
    rw [List.eq_of_mem_replicate member]
    decide
  unfold NumberFormat.positionalText
  cases exponent with
  | ofNat length =>
    have written : (String.ofList (Nat.toDigits 10 count ++ List.replicate length '0') ++
        if NumberFormat.plain.pointed then ".0" else "").toList =
        Nat.toDigits 10 count ++ List.replicate length '0' := by
      simp [NumberFormat.plain]
    have same : (Decimal.mk count (.ofNat length)).value =
        Nat.ofDigitChars 10 (Nat.toDigits 10 count ++ List.replicate length '0') 0 := by
      rw [Nat.ofDigitChars_append, Nat.ofDigitChars_replicate_zero, Nat.ofDigitChars_ten_toDigits]
      simp [value, mul_comm]
    simp only
    rw [written, same]
    exact .whole (by simp [some]) (List.forall_mem_append.2 ⟨digits, zeros length⟩)
  | negSucc places =>
    have same : (Decimal.mk count (.negSucc places)).value =
        Nat.ofDigitChars 10 (List.replicate (places + 2 - (Nat.toDigits 10 count).length) '0' ++
          Nat.toDigits 10 count) 0 * 10 ^ (-((places + 1 : Nat) : Int)) := by
      rw [Nat.ofDigitChars_append, Nat.ofDigitChars_replicate_zero, Nat.mul_zero,
        Nat.ofDigitChars_ten_toDigits]
      rfl
    simp only [String.toList_ofList]
    rw [same]
    refine .cut ?_ (List.forall_mem_append.2 ⟨zeros _, digits⟩)
    rw [List.length_append, List.length_replicate]
    omega

end Decimal

namespace NumberFormat

open Kaleidoscope.Decimal (Writes)

variable {x y : Float}

/-- A finite number is written as a sign, if it is negative, and the digits of a number that rounds to
its parts, or to zero. -/
theorem writes_text (finite : x.isFinite = true) : ∃ negative significand exponent magnitude number,
    DoubleParts.ofFloat x = .finite negative significand exponent ∧
      (plain.text x).toList = (bif negative then ['-'] else []) ++ magnitude ∧
      Writes magnitude number ∧
      if significand = 0 then number = 0
      else (RoundingInterval.ofDouble significand exponent).Contains number := by
  obtain ⟨negative, significand, exponent, parts⟩ := DoubleParts.ofFloat_of_isFinite finite
  obtain ⟨decimal, written, rounds⟩ : ∃ decimal : Decimal,
      plain.text x = (if negative then "-" ++ plain.positionalText decimal
        else plain.positionalText decimal) ∧
      if significand = 0 then decimal.value = 0
      else (RoundingInterval.ofDouble significand exponent).Contains decimal.value := by
    unfold text
    rw [parts]
    by_cases zero : significand = 0
    · exact ⟨⟨0, 0⟩, by simp [zero], by simp [zero, Decimal.value]⟩
    · refine ⟨_, by simp only [zero, if_false]; rfl, ?_⟩
      rw [if_neg zero]
      refine RoundingInterval.contains_of_covers (RoundingInterval.shortest_covered ?_ ?_)
      · unfold RoundingInterval.ofDouble
        simp only
        split <;> omega
      · exact Nat.lt_add_of_pos_right (by decide)
  refine ⟨negative, significand, exponent, _, _, parts, ?_, decimal.writes_positionalText, rounds⟩
  cases negative <;> simp [written]

/-- Different finite numbers have different texts. -/
theorem text_injective (ofFirst : x.isFinite = true) (ofSecond : y.isFinite = true)
    (same : plain.text x = plain.text y) : x = y := by
  obtain ⟨negative, significand, exponent, magnitude, number, parts, written, writes, rounds⟩ :=
    writes_text ofFirst
  obtain ⟨sign, other, power, digits, value, partsOther, writtenOther, writesOther, roundsOther⟩ :=
    writes_text ofSecond
  have texts := written.symm.trans ((congrArg String.toList same).trans writtenOther)
  -- A magnitude starts with a digit, so a sign stands in front of both or of none.
  have starts : ∀ {text : List Char} {number : ℚ}, Writes text number → text.head? ≠ some '-' := by
    intro text number writes first
    obtain ⟨⟨c, isHead, digit⟩, -⟩ := writes.shape
    obtain rfl := Option.some.inj (first.symm.trans isHead)
    exact absurd digit (by decide)
  obtain ⟨rfl, rfl⟩ : negative = sign ∧ magnitude = digits := by
    cases negative <;> cases sign
    · exact ⟨rfl, texts⟩
    · exact absurd (congrArg List.head? texts) (starts writes)
    · exact absurd (congrArg List.head? texts).symm (starts writesOther)
    · exact ⟨rfl, List.cons.inj texts |>.2⟩
  obtain rfl := writes.unique writesOther
  have isFirst := (DoubleParts.bits_of_ofFloat parts).1
  have isSecond := (DoubleParts.bits_of_ofFloat partsOther).1
  obtain ⟨rfl, rfl⟩ : significand = other ∧ exponent = power := by
    split at rounds <;> split at roundsOther
    · have least := isFirst.normal
      have leastOther := isSecond.normal
      omega
    · next zero some =>
      exact absurd rounds (roundsOther.pos (Nat.pos_of_ne_zero some)).ne'
    · next some zero =>
      exact absurd roundsOther (rounds.pos (Nat.pos_of_ne_zero some)).ne'
    · exact rounds.unique isFirst isSecond roundsOther
  exact DoubleParts.ofFloat_injective parts partsOther

end NumberFormat

end Kaleidoscope
