import ConstantCatalog.Proofs.Constant.Scalar
import ConstantCatalog.Proofs.Number.Nearness
import ConstantCatalog.Proofs.Number.Significant

/-!
Contract: values of single precision with nine significant digits, and what is read of
their texts.

Rounding to a count of significant digits moves a value by no more than half a unit of the
last digit, and a value has at least one unit of its first digit. With nine digits that is
less than an eighth of the spacing around a value of single precision, which has 24 bits.
So the value is read back, and its sign with it.

Owns: the error of significant digits, and `Number.readFloat_generalText`.

Does not own: texts with fewer digits, which need not be read back.
-/

namespace ConstantCatalog

/-! ## The error of rounding -/

/-- A quotient is rounded to an integer that is no more than a half away. -/
private theorem roundHalfEven_within_half (numerator : Nat) {denominator : Nat}
    (positive : 0 < denominator) :
    2 * (roundHalfEven numerator denominator * denominator) ≤ 2 * numerator + denominator ∧
      2 * numerator ≤ 2 * (roundHalfEven numerator denominator * denominator) + denominator := by
  have split := Nat.div_add_mod numerator denominator
  have small := Nat.mod_lt numerator positive
  have next := Nat.add_mul (numerator / denominator) 1 denominator
  rw [Nat.one_mul] at next
  rw [Nat.mul_comm] at split
  unfold roundHalfEven
  dsimp only
  by_cases below : 2 * (numerator % denominator) < denominator
  · rw [if_pos below]
    omega
  · rw [if_neg below]
    by_cases above : denominator < 2 * (numerator % denominator)
    · rw [if_pos above]
      omega
    · rw [if_neg above]
      rcases Nat.mod_two_eq_zero_or_one (numerator / denominator) with even | odd
      · rw [even, Nat.add_zero]
        omega
      · rw [odd]
        omega

private theorem abs_roundHalfEven_sub_le (numerator : Nat) {denominator : Nat}
    (positive : 0 < denominator) :
    |(roundHalfEven numerator denominator : ℚ) - (numerator : ℚ) / (denominator : ℚ)| ≤ 1 / 2 := by
  obtain ⟨below, above⟩ := roundHalfEven_within_half numerator positive
  have belowCast : (2 : ℚ) * (roundHalfEven numerator denominator * denominator) ≤
      2 * numerator + denominator := by
    exact_mod_cast below
  have aboveCast : (2 : ℚ) * numerator ≤
      2 * (roundHalfEven numerator denominator * denominator) + denominator := by
    exact_mod_cast above
  have isPositive : (0 : ℚ) < (denominator : ℚ) := Nat.cast_pos.2 positive
  have quotient : (numerator : ℚ) / (denominator : ℚ) * (denominator : ℚ) = (numerator : ℚ) :=
    div_mul_cancel₀ _ isPositive.ne'
  rw [abs_le]
  constructor
  · apply le_of_mul_le_mul_right _ isPositive
    rw [sub_mul, quotient]
    linarith
  · apply le_of_mul_le_mul_right _ isPositive
    rw [sub_mul, quotient]
    linarith

/-! ## Decimal exponents -/

private theorem pow_length_toDigits_le {units : Nat} (positive : 0 < units) :
    10 ^ ((Nat.toDigits 10 units).length - 1) ≤ units := by
  by_cases single : (Nat.toDigits 10 units).length = 1
  · rw [single]
    exact positive
  · have present := length_toDigits_pos units
    apply Nat.le_of_not_lt
    intro fewer
    have short := (Nat.length_toDigits_le_iff (by omega : 1 < 10) (by omega)).2 fewer
    omega

/-- A value has at least one unit of its decimal exponent. -/
private theorem pow_decimalExponent_le {grains : Nat} (positive : 0 < grains) :
    (10 : ℚ) ^ decimalExponent grains ≤ (grains : ℚ) / (grainsPerUnit : ℚ) := by
  have ten : (10 : ℚ) ≠ 0 := by norm_num
  have unit : (0 : ℚ) < (grainsPerUnit : ℚ) := Nat.cast_pos.2 grainsPerUnit_pos
  have scaled : 0 < grains * powerOfTen 400 / grainsPerUnit := by
    apply Nat.div_pos _ grainsPerUnit_pos
    calc grainsPerUnit ≤ 1 * powerOfTen 400 := by decide +kernel
      _ ≤ grains * powerOfTen 400 := Nat.mul_le_mul_right _ positive
  have leading := pow_length_toDigits_le scaled
  have present := length_toDigits_pos (grains * powerOfTen 400 / grainsPerUnit)
  have exponent : decimalExponent grains =
      (((Nat.toDigits 10 (grains * powerOfTen 400 / grainsPerUnit)).length - 1 : Nat) : Int) -
        (400 : Nat) := by
    unfold decimalExponent
    omega
  rw [exponent, zpow_sub₀ ten, zpow_natCast, zpow_natCast, div_le_iff₀ (by positivity)]
  calc (10 : ℚ) ^ ((Nat.toDigits 10 (grains * powerOfTen 400 / grainsPerUnit)).length - 1)
      ≤ ((grains * powerOfTen 400 / grainsPerUnit : Nat) : ℚ) := by exact_mod_cast leading
    _ ≤ ((grains * powerOfTen 400 : Nat) : ℚ) / (grainsPerUnit : ℚ) := Nat.cast_div_le
    _ = (grains : ℚ) / (grainsPerUnit : ℚ) * 10 ^ 400 := by
        rw [Nat.cast_mul, cast_powerOfTen, mul_div_right_comm]

/-! ## Significant digits -/

namespace Decimal

private theorem stepDenominator_pos (exponent : Int) : 0 < stepDenominator exponent :=
  Nat.mul_pos grainsPerUnit_pos (powerOfTen_pos _)

/-- A value in steps of a power of ten. -/
private theorem stepNumerator_div_stepDenominator (grains : Nat) (exponent : Int) :
    (stepNumerator grains exponent : ℚ) / (stepDenominator exponent : ℚ) * 10 ^ exponent =
      (grains : ℚ) / (grainsPerUnit : ℚ) := by
  have ten : (10 : ℚ) ≠ 0 := by norm_num
  have unit := Number.grainsPerUnit_ne_zero
  have split : exponent = (exponent.toNat : ℤ) - ((-exponent).toNat : ℤ) :=
    (Int.toNat_sub_toNat_neg exponent).symm
  have power : (10 : ℚ) ^ exponent = 10 ^ exponent.toNat / 10 ^ (-exponent).toNat := by
    conv_lhs => rw [split]
    rw [zpow_sub₀ ten, zpow_natCast, zpow_natCast]
  rw [power]
  unfold stepNumerator stepDenominator
  push_cast
  rw [cast_powerOfTen, cast_powerOfTen]
  field_simp

/-- A multiple of a power of ten that is nearest to a value is no more than half a step
away. -/
private theorem abs_nearestAt_sub_le (exponent : Int) (grains : Nat) :
    |(nearestAt exponent grains).rational - (grains : ℚ) / (grainsPerUnit : ℚ)| ≤
      10 ^ exponent / 2 := by
  have step : (0 : ℚ) < 10 ^ exponent := zpow_pos (by norm_num) exponent
  have scaled : ∀ rounded quotient value : ℚ, |rounded - quotient| ≤ 1 / 2 →
      quotient * 10 ^ exponent = value →
        |rounded * 10 ^ exponent - value| ≤ 10 ^ exponent / 2 := by
    rintro rounded quotient value error rfl
    rw [← sub_mul, abs_mul, abs_of_pos step]
    linarith [mul_le_mul_of_nonneg_right error step.le]
  have error := abs_roundHalfEven_sub_le (stepNumerator grains exponent)
    (stepDenominator_pos exponent)
  rw [nearestAt, rational]
  dsimp only
  exact scaled _ _ _ error (stepNumerator_div_stepDenominator grains exponent)

/-- So a count of significant digits bounds the error relative to the value. -/
private theorem abs_significant_sub_le {count grains : Nat} (counted : 0 < count)
    (positive : 0 < grains) :
    |(significant count grains).rational - (grains : ℚ) / (grainsPerUnit : ℚ)| ≤
      (grains : ℚ) / (grainsPerUnit : ℚ) / (2 * 10 ^ (count - 1)) := by
  have ten : (10 : ℚ) ≠ 0 := by norm_num
  have leading := pow_decimalExponent_le positive
  have exponent : decimalExponent grains + 1 - count =
      decimalExponent grains - ((count - 1 : Nat) : Int) := by omega
  calc |(significant count grains).rational - (grains : ℚ) / (grainsPerUnit : ℚ)|
      ≤ 10 ^ (decimalExponent grains + 1 - count) / 2 := abs_nearestAt_sub_le _ _
    _ = 10 ^ decimalExponent grains / (2 * 10 ^ (count - 1)) := by
        rw [exponent, zpow_sub₀ ten, zpow_natCast, div_div, mul_comm]
    _ ≤ (grains : ℚ) / (grainsPerUnit : ℚ) / (2 * 10 ^ (count - 1)) :=
        div_le_div_of_nonneg_right leading (by positivity)

/-- Nine digits are within an eighth of the spacing around a value: a value has 24 bits and
so is less than `2 ^ 27` of these eighths, and `2 * 10 ^ 8` is more. -/
private theorem significant_nine_near {grains : Nat} (positive : 0 < grains) :
    |(significant 9 grains).rational - (grains : ℚ) / (grainsPerUnit : ℚ)| ≤
      eighthOfSpacing grains := by
  have unit : (0 : ℚ) < (grainsPerUnit : ℚ) := Nat.cast_pos.2 grainsPerUnit_pos
  have eighths := @BinaryFormat.eight_mul_eighth .binary32 (by decide) grains
  have few := (Nat.div_lt_iff_lt_mul (powerOfTwo_pos _)).1
    (BinaryFormat.binary32.div_spacing_lt grains)
  have bits : powerOfTwo BinaryFormat.binary32.precision = 16777216 := rfl
  rw [bits, ← eighths] at few
  have bound : grains ≤ BinaryFormat.binary32.eighth grains * 200000000 := by omega
  have boundCast : (grains : ℚ) ≤ (BinaryFormat.binary32.eighth grains : ℚ) * 200000000 := by
    exact_mod_cast bound
  have twice : (2 * 10 ^ 8 : ℚ) = 200000000 := by norm_num
  calc |(significant 9 grains).rational - (grains : ℚ) / (grainsPerUnit : ℚ)|
      ≤ (grains : ℚ) / (grainsPerUnit : ℚ) / (2 * 10 ^ 8) :=
        abs_significant_sub_le (by decide) positive
    _ = (grains : ℚ) / 200000000 / (grainsPerUnit : ℚ) := by
        rw [div_right_comm, twice]
    _ ≤ eighthOfSpacing grains := by
        apply div_le_div_of_nonneg_right _ unit.le
        rw [div_le_iff₀ (by norm_num)]
        exact boundCast

end Decimal

/-! ## Texts -/

/-- What is read of a numeral that a decimal is written as is near the decimal's value. -/
private theorem readFloat_of_isTextOf {negative : Bool} {grains : Nat}
    (member : (Number.finite negative grains).IsMember .binary32) {decimal : Decimal}
    (near : |decimal.rational - (grains : ℚ) / (grainsPerUnit : ℚ)| ≤ eighthOfSpacing grains)
    {text : List Char} (isText : IsTextOf text decimal) :
    readFloat ((if negative then ['-'] else []) ++ text) =
      .ok (some (.finite negative grains)) := by
  obtain ⟨whole, point, fraction, exponent, wellFormed, rfl, same⟩ := isText
  rw [← same] at near
  apply readFloat_eq_some_iff.2
  cases negative with
  | false =>
      exact ⟨⟨none, .digits whole point fraction exponent⟩, ⟨by simp, wellFormed⟩, rfl,
        Decimal.toSingle_of_near member near⟩
  | true =>
      exact ⟨⟨some '-', .digits whole point fraction exponent⟩, ⟨by simp, wellFormed⟩, rfl,
        Decimal.toSingle_of_near member near⟩

/-- Every value of single precision is read back of its nine significant digits. -/
theorem Number.readFloat_generalText {number : Number} (member : number.IsMember .binary32) :
    readFloat (number.generalText 9).toList = .ok (some number) := by
  rw [generalText, String.toList_ofList]
  cases number with
  | nan => rfl
  | infinite negative => cases negative <;> rfl
  | finite negative grains =>
      refine readFloat_of_isTextOf member ?_ (NumberStyle.isTextOf_layout _ _)
      by_cases nothing : grains = 0
      · subst nothing
        rw [if_pos rfl]
        have zero : (⟨0, 0⟩ : Decimal).rational = 0 := by simp [Decimal.rational]
        rw [zero, Nat.cast_zero, zero_div, sub_zero, abs_zero]
        exact grains_div_nonneg _
      · rw [if_neg nothing]
        exact Decimal.significant_nine_near (Nat.pos_of_ne_zero nothing)

end ConstantCatalog
