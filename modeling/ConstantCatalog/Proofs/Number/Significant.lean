import ConstantCatalog.Proofs.Number.Layout

/-!
Contract: whole numbers to a count of significant digits.

The digits of a whole number are counted exactly. A whole number with no more digits than
are kept is kept as it is; of a longer one the digits beyond are rounded off, a tie going
to the even last digit.

Owns: the decimal exponents of whole numbers, and the decimals chosen for them.

Does not own: numbers that are not whole.
-/

namespace ConstantCatalog

/-! ## Digits of whole numbers -/

theorem length_toDigits_pos (units : Nat) : 0 < (Nat.toDigits 10 units).length :=
  List.length_pos_iff.2 Nat.toDigits_ne_nil

private theorem lt_pow_length_toDigits (units : Nat) :
    units < 10 ^ (Nat.toDigits 10 units).length :=
  (Nat.length_toDigits_le_iff (by omega) (length_toDigits_pos units)).1 (Nat.le_refl _)

/-- Multiplying by a power of ten appends its zeros. -/
private theorem length_toDigits_mul_powerOfTen {units : Nat} (positive : 0 < units) (zeros : Nat) :
    (Nat.toDigits 10 (units * powerOfTen zeros)).length =
      (Nat.toDigits 10 units).length + zeros := by
  show (Nat.toDigits 10 (units * 10 ^ zeros)).length = _
  have powerPositive : 0 < 10 ^ zeros := Nat.pow_pos (by omega)
  have present := length_toDigits_pos units
  have scaled := lt_pow_length_toDigits (units * 10 ^ zeros)
  apply Nat.le_antisymm
  · apply (Nat.length_toDigits_le_iff (by omega) (by omega)).2
    rw [Nat.pow_add]
    exact Nat.mul_lt_mul_of_pos_right (lt_pow_length_toDigits units) powerPositive
  · generalize (Nat.toDigits 10 (units * 10 ^ zeros)).length = count at scaled
    have more : zeros < count := by
      apply (Nat.pow_lt_pow_iff_right (by omega : 1 < 10)).1
      calc 10 ^ zeros
          ≤ units * 10 ^ zeros := Nat.le_mul_of_pos_left _ positive
        _ < 10 ^ count := scaled
    have split : 10 ^ count = 10 ^ (count - zeros) * 10 ^ zeros := by
      rw [← Nat.pow_add, Nat.sub_add_cancel (Nat.le_of_lt more)]
    have fewer : units < 10 ^ (count - zeros) := by
      rw [split] at scaled
      exact Nat.lt_of_mul_lt_mul_right scaled
    have short := (Nat.length_toDigits_le_iff (by omega : 1 < 10) (by omega)).2 fewer
    omega

/-- The decimal exponent of a whole number counts the digits after its first one. -/
private theorem decimalExponent_mul_grainsPerUnit {units : Nat} (positive : 0 < units) :
    decimalExponent (units * grainsPerUnit) = (Nat.toDigits 10 units).length - 1 := by
  have whole : units * grainsPerUnit * powerOfTen 400 / grainsPerUnit =
      units * powerOfTen 400 := by
    rw [Nat.mul_right_comm, Nat.mul_div_cancel _ grainsPerUnit_pos]
  rw [decimalExponent, whole, length_toDigits_mul_powerOfTen positive]
  omega

namespace Decimal

/-- A whole number that has no more digits than are kept is kept. -/
private theorem significant_of_short {count units : Nat} (positive : 0 < units)
    (short : (Nat.toDigits 10 units).length ≤ count) :
    significant count (units * grainsPerUnit) =
      ⟨units * 10 ^ (count - (Nat.toDigits 10 units).length),
        (Nat.toDigits 10 units).length - count⟩ := by
  have exponent : decimalExponent (units * grainsPerUnit) + 1 - count =
      ((Nat.toDigits 10 units).length : Int) - count := by
    rw [decimalExponent_mul_grainsPerUnit positive]
    omega
  have numerator : stepNumerator (units * grainsPerUnit)
        ((Nat.toDigits 10 units).length - count) =
      units * 10 ^ (count - (Nat.toDigits 10 units).length) * grainsPerUnit := by
    have places : (-((Nat.toDigits 10 units).length - count : Int)).toNat =
        count - (Nat.toDigits 10 units).length := by
      omega
    rw [stepNumerator, places, Nat.mul_right_comm]
    rfl
  have denominator : stepDenominator ((Nat.toDigits 10 units).length - count) =
      grainsPerUnit := by
    have places : ((Nat.toDigits 10 units).length - count : Int).toNat = 0 := by
      omega
    rw [stepDenominator, places, powerOfTen_zero, Nat.mul_one]
  rw [significant, exponent, nearestAt, numerator, denominator,
    roundHalfEven_mul _ grainsPerUnit_pos]

/-- Of a longer one the digits beyond are rounded off. -/
theorem significant_of_long {count units : Nat} (positive : 0 < units)
    (long : count ≤ (Nat.toDigits 10 units).length) :
    significant count (units * grainsPerUnit) =
      ⟨roundHalfEven units (10 ^ ((Nat.toDigits 10 units).length - count)),
        (Nat.toDigits 10 units).length - count⟩ := by
  have exponent : decimalExponent (units * grainsPerUnit) + 1 - count =
      ((Nat.toDigits 10 units).length : Int) - count := by
    rw [decimalExponent_mul_grainsPerUnit positive]
    omega
  have numerator : stepNumerator (units * grainsPerUnit)
        ((Nat.toDigits 10 units).length - count) = units * grainsPerUnit := by
    have places : (-((Nat.toDigits 10 units).length - count : Int)).toNat = 0 := by
      omega
    rw [stepNumerator, places, powerOfTen_zero, Nat.mul_one]
  have denominator : stepDenominator ((Nat.toDigits 10 units).length - count) =
      10 ^ ((Nat.toDigits 10 units).length - count) * grainsPerUnit := by
    have places : ((Nat.toDigits 10 units).length - count : Int).toNat =
        (Nat.toDigits 10 units).length - count := by
      omega
    rw [stepDenominator, places, Nat.mul_comm]
    rfl
  rw [significant, exponent, nearestAt, numerator, denominator,
    roundHalfEven_mul_mul _ _ grainsPerUnit_pos]

theorem rational_significant_of_short {count units : Nat} (positive : 0 < units)
    (short : (Nat.toDigits 10 units).length ≤ count) :
    (significant count (units * grainsPerUnit)).rational = units := by
  have noExponent : ((Nat.toDigits 10 units).length - count : Int) +
      ((count - (Nat.toDigits 10 units).length : Nat) : Int) = 0 := by
    omega
  rw [significant_of_short positive short, rational_mul_powerOfTen, noExponent]
  simp [rational]

end Decimal

end ConstantCatalog
