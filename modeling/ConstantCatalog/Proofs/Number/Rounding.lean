import ConstantCatalog.Number.Rounding

/-!
Contract: what rounding onto a format gives, and what it leaves alone.

The result of rounding is a value of the format, and a value of the format is its own
rounding. So rounding twice is rounding once, and an integer of at most 53 bits is held
exactly in double precision.

Owns: membership of rounded values, the values that rounding leaves alone, and the
numbers of small integers.

Does not own: how far a value is moved by rounding.
-/

namespace ConstantCatalog

/-! ## Rounding a quotient -/

theorem roundHalfEven_mul (quotient : Nat) {denominator : Nat} (positive : 0 < denominator) :
    roundHalfEven (quotient * denominator) denominator = quotient := by
  unfold roundHalfEven
  simp [Nat.mul_div_cancel _ positive, Nat.mul_mod_left, positive]

/-- Rounding depends on the ratio alone. -/
theorem roundHalfEven_mul_mul (numerator denominator : Nat) {factor : Nat} (positive : 0 < factor) :
    roundHalfEven (numerator * factor) (denominator * factor) =
      roundHalfEven numerator denominator := by
  have below : 2 * (numerator % denominator * factor) < denominator * factor ↔
      2 * (numerator % denominator) < denominator := by
    rw [← Nat.mul_assoc]
    exact Nat.mul_lt_mul_right positive
  have above : denominator * factor < 2 * (numerator % denominator * factor) ↔
      denominator < 2 * (numerator % denominator) := by
    rw [← Nat.mul_assoc]
    exact Nat.mul_lt_mul_right positive
  unfold roundHalfEven
  dsimp only
  rw [Nat.mul_div_mul_right _ _ positive, Nat.mul_mod_mul_right]
  simp only [below, above]

theorem roundHalfEven_le (numerator denominator : Nat) :
    roundHalfEven numerator denominator ≤ numerator / denominator + 1 := by
  have parity : numerator / denominator % 2 ≤ 1 := by omega
  unfold roundHalfEven
  dsimp only
  split
  · omega
  · split <;> omega

theorem div_le_roundHalfEven (numerator denominator : Nat) :
    numerator / denominator ≤ roundHalfEven numerator denominator := by
  unfold roundHalfEven
  dsimp only
  split
  · omega
  · split <;> omega

/-! ## Spacings -/

namespace BinaryFormat

theorem finest_le_spacing (format : BinaryFormat) (grains : Nat) :
    format.finest ≤ format.spacing grains :=
  Nat.le_max_left _ _

/-- In steps of its spacing a count of grains needs no more bits than the format
keeps. -/
theorem div_spacing_lt (format : BinaryFormat) (grains : Nat) :
    grains / powerOfTwo (format.spacing grains) < powerOfTwo format.precision := by
  rw [Nat.div_lt_iff_lt_mul (powerOfTwo_pos _)]
  have bits : grains < 2 ^ (grains.log2 + 1) := Nat.lt_log2_self
  have enough : grains.log2 + 1 ≤ format.precision + format.spacing grains := by
    unfold spacing
    omega
  calc grains < 2 ^ (grains.log2 + 1) := bits
    _ ≤ 2 ^ (format.precision + format.spacing grains) :=
        Nat.pow_le_pow_right (by decide) enough
    _ = powerOfTwo format.precision * powerOfTwo (format.spacing grains) := Nat.pow_add ..

/-- A spacing coarser than the finest is taken only where all bits are needed. -/
theorem precision_le_div_spacing {format : BinaryFormat} {grains : Nat}
    (coarser : format.finest < format.spacing grains) (positive : 0 < format.precision) :
    powerOfTwo (format.precision - 1) ≤ grains / powerOfTwo (format.spacing grains) := by
  have places : format.precision - 1 + format.spacing grains = grains.log2 := by
    unfold spacing at coarser ⊢
    omega
  have nonzero : grains ≠ 0 := by
    rintro rfl
    simp only [Nat.log2_zero] at places
    omega
  rw [Nat.le_div_iff_mul_le (powerOfTwo_pos _)]
  calc powerOfTwo (format.precision - 1) * powerOfTwo (format.spacing grains)
      = 2 ^ (format.precision - 1 + format.spacing grains) := (Nat.pow_add ..).symm
    _ = 2 ^ grains.log2 := by rw [places]
    _ ≤ grains := Nat.log2_self_le nonzero

/-- The spacing around a value that is held in steps of `2 ^ exponent` is no coarser
than that. -/
theorem spacing_le {format : BinaryFormat} {significand exponent : Nat}
    (positive : 0 < format.precision) (kept : significand < powerOfTwo format.precision)
    (fine : format.finest ≤ exponent) :
    format.spacing (significand * powerOfTwo exponent) ≤ exponent := by
  have bits : (significand * powerOfTwo exponent).log2 + 1 ≤ format.precision + exponent := by
    by_cases zero : significand * powerOfTwo exponent = 0
    · rw [zero, Nat.log2_zero]
      omega
    · rw [Nat.add_one_le_iff, Nat.log2_lt zero, Nat.pow_add]
      exact Nat.mul_lt_mul_of_pos_right kept (powerOfTwo_pos exponent)
  unfold spacing
  omega

/-! ## Members of a format -/

/-- Rounding gives a value of the format. -/
private theorem isMember_roundRatio (format : BinaryFormat) (positive : 0 < format.precision)
    (ordered : format.finest ≤ format.coarsest) (negative : Bool) (numerator denominator : Nat) :
    (format.roundRatio negative numerator denominator).IsMember format := by
  unfold roundRatio
  dsimp only
  split
  case isFalse => trivial
  case isTrue below =>
    generalize spacingIs : format.spacing (numerator / denominator) = spacing at below ⊢
    have inSteps : numerator / (denominator * powerOfTwo spacing) =
        numerator / denominator / powerOfTwo spacing := (Nat.div_div_eq_div_mul ..).symm
    have rounded := roundHalfEven_le numerator (denominator * powerOfTwo spacing)
    have roundedUp := div_le_roundHalfEven numerator (denominator * powerOfTwo spacing)
    have kept := format.div_spacing_lt (numerator / denominator)
    rw [spacingIs, ← inSteps] at kept
    generalize roundHalfEven numerator (denominator * powerOfTwo spacing) = steps at *
    have fine : format.finest ≤ spacing := spacingIs ▸ format.finest_le_spacing _
    -- A full significand is one bit of the next coarser spacing.
    rcases Nat.lt_or_ge steps (powerOfTwo format.precision) with within | full
    · by_cases spacing ≤ format.coarsest
      case pos coarse => exact ⟨steps, spacing, within, fine, coarse, rfl⟩
      case neg coarser =>
        have finer : format.finest < format.spacing (numerator / denominator) := by omega
        have atLeast := precision_le_div_spacing finer positive
        rw [spacingIs, ← inSteps] at atLeast
        have beyond : format.ceiling ≤ steps * powerOfTwo spacing :=
          calc format.ceiling
              ≤ 2 ^ (format.precision - 1 + spacing) :=
                Nat.pow_le_pow_right (by decide) (by omega)
            _ = powerOfTwo (format.precision - 1) * powerOfTwo spacing := Nat.pow_add ..
            _ ≤ steps * powerOfTwo spacing :=
                Nat.mul_le_mul_right _ (Nat.le_trans atLeast roundedUp)
        omega
    · have isFull : steps = powerOfTwo format.precision := by omega
      have grainsIs : steps * powerOfTwo spacing = 2 ^ (format.precision + spacing) := by
        rw [isFull]
        exact (Nat.pow_add ..).symm
      rw [grainsIs] at below ⊢
      have coarse : format.precision + spacing < format.precision + format.coarsest :=
        (Nat.pow_lt_pow_iff_right (by decide)).1 below
      refine ⟨powerOfTwo (format.precision - 1), spacing + 1, ?_, by omega, by omega, ?_⟩
      · exact Nat.pow_lt_pow_right (by decide) (by omega)
      · change _ = 2 ^ (format.precision - 1) * 2 ^ (spacing + 1)
        rw [← Nat.pow_add]
        congr 1
        omega

/-- A value of the format is its own rounding. -/
theorem roundRatio_of_isMember {format : BinaryFormat} (positive : 0 < format.precision)
    {negative : Bool} {grains : Nat} (member : (Number.finite negative grains).IsMember format) :
    format.roundRatio negative grains 1 = .finite negative grains := by
  obtain ⟨significand, exponent, kept, fine, coarse, rfl⟩ := member
  have noCoarser := spacing_le positive kept fine
  unfold roundRatio
  simp only [Nat.div_one, Nat.one_mul]
  generalize format.spacing (significand * powerOfTwo exponent) = spacing at *
  have inSteps : significand * powerOfTwo exponent =
      significand * powerOfTwo (exponent - spacing) * powerOfTwo spacing := by
    rw [Nat.mul_assoc]
    congr 1
    change 2 ^ exponent = 2 ^ (exponent - spacing) * 2 ^ spacing
    rw [← Nat.pow_add]
    congr 1
    omega
  have below : significand * powerOfTwo exponent < format.ceiling :=
    calc significand * powerOfTwo exponent
        < powerOfTwo format.precision * powerOfTwo exponent :=
          Nat.mul_lt_mul_of_pos_right kept (powerOfTwo_pos exponent)
      _ = 2 ^ (format.precision + exponent) := (Nat.pow_add ..).symm
      _ ≤ format.ceiling := Nat.pow_le_pow_right (by decide) (by omega)
  rw [inSteps, roundHalfEven_mul _ (powerOfTwo_pos spacing), ← inSteps, if_pos below]

end BinaryFormat

/-! ## Numbers -/

namespace Number

theorem isMember_round {format : BinaryFormat} (positive : 0 < format.precision)
    (ordered : format.finest ≤ format.coarsest) (number : Number) :
    (number.round format).IsMember format := by
  cases number with
  | nan => trivial
  | infinite negative => trivial
  | finite negative grains =>
      exact format.isMember_roundRatio positive ordered negative grains 1

theorem round_of_isMember {format : BinaryFormat} (positive : 0 < format.precision)
    {number : Number} (member : number.IsMember format) :
    number.round format = number := by
  cases number with
  | nan => rfl
  | infinite negative => rfl
  | finite negative grains => exact BinaryFormat.roundRatio_of_isMember positive member

/-- Rounding to single precision a second time changes nothing. -/
@[simp] theorem toSingle_toSingle (number : Number) :
    number.toSingle.toSingle = number.toSingle :=
  round_of_isMember (by decide) (isMember_round (by decide) (by decide) number)

/-- An integer of at most 53 bits is a number. -/
theorem ofInt_of_natAbs_lt {value : Int} (small : value.natAbs < powerOfTwo 53) :
    ofInt value = .finite (decide (value < 0)) (value.natAbs * grainsPerUnit) := by
  unfold ofInt
  exact BinaryFormat.roundRatio_of_isMember (by decide)
    ⟨value.natAbs, 1074, small, by decide, by decide, rfl⟩

theorem isSome_ofInt?_of_natAbs_lt {value : Int} (small : value.natAbs < powerOfTwo 53) :
    (ofInt? value).isSome = true := by
  have finite : (ofInt value).isFinite = true := by
    rw [ofInt_of_natAbs_lt small]
    rfl
  unfold ofInt?
  dsimp only
  rw [if_pos finite]
  rfl

end Number

end ConstantCatalog
