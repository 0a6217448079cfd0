import ConstantCatalog.Proofs.Number.Rounding
import Mathlib.Data.Nat.Log
import Mathlib.Order.WithBot
import Mathlib.Tactic.SplitIfs

/-!
Contract: rounding onto a format never reverses an order.

A greater ratio has no finer spacing. Where two ratios share their spacing, they are
rounded to multiples of one step; where they do not, a power of two stands between the
two results.

Owns: `roundedGrains`, `magnitudeIn`, and that both are monotone in the ratio.

Does not own: signs, and the ratios of decimals.
-/

namespace ConstantCatalog

/-! ## Rounding a quotient -/

private theorem div_le_div_of_ratio_le {numerator denominator otherNumerator otherDenominator : Nat}
    (positive : 0 < denominator) (otherPositive : 0 < otherDenominator)
    (ratioLe : numerator * otherDenominator ≤ otherNumerator * denominator) :
    numerator / denominator ≤ otherNumerator / otherDenominator := by
  rw [Nat.le_div_iff_mul_le otherPositive]
  apply Nat.le_of_mul_le_mul_right _ positive
  calc numerator / denominator * otherDenominator * denominator
      = numerator / denominator * denominator * otherDenominator := Nat.mul_right_comm ..
    _ ≤ numerator * otherDenominator := Nat.mul_le_mul_right _ (Nat.div_mul_le_self ..)
    _ ≤ otherNumerator * denominator := ratioLe

/-- Ratios with the same whole part compare as what is left of them. -/
private theorem mod_mul_le_of_ratio_le {numerator denominator otherNumerator otherDenominator : Nat}
    (ratioLe : numerator * otherDenominator ≤ otherNumerator * denominator)
    (sameWhole : numerator / denominator = otherNumerator / otherDenominator) :
    numerator % denominator * otherDenominator ≤
      otherNumerator % otherDenominator * denominator := by
  have split := Nat.div_add_mod numerator denominator
  have otherSplit := Nat.div_add_mod otherNumerator otherDenominator
  rw [← sameWhole] at otherSplit
  have common : denominator * (numerator / denominator) * otherDenominator =
      otherDenominator * (numerator / denominator) * denominator := by
    rw [Nat.mul_right_comm, Nat.mul_comm denominator, Nat.mul_right_comm]
  rw [← split, ← otherSplit, Nat.add_mul, Nat.add_mul, common] at ratioLe
  omega

/-- A greater ratio is not rounded to a smaller integer. -/
private theorem roundHalfEven_mono {numerator denominator otherNumerator otherDenominator : Nat}
    (positive : 0 < denominator) (otherPositive : 0 < otherDenominator)
    (ratioLe : numerator * otherDenominator ≤ otherNumerator * denominator) :
    roundHalfEven numerator denominator ≤ roundHalfEven otherNumerator otherDenominator := by
  have up := roundHalfEven_le numerator denominator
  have down := div_le_roundHalfEven otherNumerator otherDenominator
  by_cases sameWhole : numerator / denominator = otherNumerator / otherDenominator
  · have rests := mod_mul_le_of_ratio_le ratioLe sameWhole
    have doubled : 2 * (numerator % denominator) * otherDenominator ≤
        2 * (otherNumerator % otherDenominator) * denominator := by
      rw [Nat.mul_assoc, Nat.mul_assoc]
      exact Nat.mul_le_mul_left 2 rests
    -- Where the greater one is below its half, or at it, the smaller one is as well.
    have below : 2 * (otherNumerator % otherDenominator) < otherDenominator →
        2 * (numerator % denominator) < denominator := by
      intro otherBelow
      apply Nat.lt_of_mul_lt_mul_right (a := otherDenominator)
      calc 2 * (numerator % denominator) * otherDenominator
          ≤ 2 * (otherNumerator % otherDenominator) * denominator := doubled
        _ < otherDenominator * denominator := Nat.mul_lt_mul_of_pos_right otherBelow positive
        _ = denominator * otherDenominator := Nat.mul_comm ..
    have atHalf : 2 * (otherNumerator % otherDenominator) ≤ otherDenominator →
        2 * (numerator % denominator) ≤ denominator := by
      intro otherAtHalf
      apply Nat.le_of_mul_le_mul_right (c := otherDenominator) _ otherPositive
      calc 2 * (numerator % denominator) * otherDenominator
          ≤ 2 * (otherNumerator % otherDenominator) * denominator := doubled
        _ ≤ otherDenominator * denominator := Nat.mul_le_mul_right _ otherAtHalf
        _ = denominator * otherDenominator := Nat.mul_comm ..
    unfold roundHalfEven
    rw [← sameWhole]
    dsimp only
    split_ifs <;> omega
  · have whole := div_le_div_of_ratio_le positive otherPositive ratioLe
    omega

namespace BinaryFormat

variable (format : BinaryFormat)

/-! ## Rounding a ratio to grains -/

private theorem spacing_mono {grains otherGrains : Nat} (le : grains ≤ otherGrains) :
    format.spacing grains ≤ format.spacing otherGrains := by
  have logs : grains.log2 ≤ otherGrains.log2 := by
    rw [Nat.log2_eq_log_two, Nat.log2_eq_log_two]
    exact Nat.log_mono_right le
  unfold spacing
  omega

/-- The grains that a ratio is rounded to, however many they are. -/
def roundedGrains (numerator denominator : Nat) : Nat :=
  roundHalfEven numerator
      (denominator * powerOfTwo (format.spacing (numerator / denominator))) *
    powerOfTwo (format.spacing (numerator / denominator))

theorem roundRatio_eq (negative : Bool) (numerator denominator : Nat) :
    format.roundRatio negative numerator denominator =
      if format.roundedGrains numerator denominator < format.ceiling then
        .finite negative (format.roundedGrains numerator denominator)
      else .infinite negative := rfl

/-- A full significand in steps of the spacing is as much as a ratio is rounded to. -/
private theorem roundedGrains_le_full (numerator denominator : Nat) :
    format.roundedGrains numerator denominator ≤
      powerOfTwo (format.precision + format.spacing (numerator / denominator)) := by
  have kept := format.div_spacing_lt (numerator / denominator)
  rw [Nat.div_div_eq_div_mul] at kept
  have steps := roundHalfEven_le numerator
    (denominator * powerOfTwo (format.spacing (numerator / denominator)))
  calc format.roundedGrains numerator denominator
      ≤ powerOfTwo format.precision *
          powerOfTwo (format.spacing (numerator / denominator)) :=
        Nat.mul_le_mul_right _ (by omega)
    _ = powerOfTwo (format.precision + format.spacing (numerator / denominator)) :=
        (Nat.pow_add ..).symm

/-- Where the spacing is not the finest, a ratio is rounded to no less than half of
that. -/
private theorem half_le_roundedGrains {numerator denominator : Nat}
    (positive : 0 < format.precision)
    (coarser : format.finest < format.spacing (numerator / denominator)) :
    powerOfTwo (format.precision - 1 + format.spacing (numerator / denominator)) ≤
      format.roundedGrains numerator denominator := by
  have atLeast := precision_le_div_spacing coarser positive
  rw [Nat.div_div_eq_div_mul] at atLeast
  have steps := div_le_roundHalfEven numerator
    (denominator * powerOfTwo (format.spacing (numerator / denominator)))
  calc powerOfTwo (format.precision - 1 + format.spacing (numerator / denominator))
      = powerOfTwo (format.precision - 1) *
          powerOfTwo (format.spacing (numerator / denominator)) := Nat.pow_add ..
    _ ≤ format.roundedGrains numerator denominator :=
        Nat.mul_le_mul_right _ (Nat.le_trans atLeast steps)

/-- A greater ratio is not rounded to fewer grains. -/
private theorem roundedGrains_mono {numerator denominator otherNumerator otherDenominator : Nat}
    (precise : 0 < format.precision) (positive : 0 < denominator)
    (otherPositive : 0 < otherDenominator)
    (ratioLe : numerator * otherDenominator ≤ otherNumerator * denominator) :
    format.roundedGrains numerator denominator ≤
      format.roundedGrains otherNumerator otherDenominator := by
  have spacings := format.spacing_mono
    (div_le_div_of_ratio_le positive otherPositive ratioLe)
  by_cases sameSpacing : format.spacing (numerator / denominator) =
      format.spacing (otherNumerator / otherDenominator)
  · unfold roundedGrains
    rw [← sameSpacing]
    generalize format.spacing (numerator / denominator) = spacing
    have step := powerOfTwo_pos spacing
    apply Nat.mul_le_mul_right
    apply roundHalfEven_mono (Nat.mul_pos positive step) (Nat.mul_pos otherPositive step)
    rw [← Nat.mul_assoc, ← Nat.mul_assoc]
    exact Nat.mul_le_mul_right _ ratioLe
  · have finest := format.finest_le_spacing (numerator / denominator)
    calc format.roundedGrains numerator denominator
        ≤ powerOfTwo (format.precision + format.spacing (numerator / denominator)) :=
          format.roundedGrains_le_full numerator denominator
      _ ≤ powerOfTwo (format.precision - 1 +
            format.spacing (otherNumerator / otherDenominator)) :=
          Nat.pow_le_pow_right (by decide) (by omega)
      _ ≤ format.roundedGrains otherNumerator otherDenominator :=
          format.half_le_roundedGrains precise (by omega)

/-- What is at the ceiling or beyond is not rounded to less. -/
theorem ceiling_le_roundedGrains (precise : 0 < format.precision)
    (ordered : format.finest ≤ format.coarsest) {numerator denominator : Nat}
    (beyond : format.ceiling ≤ numerator / denominator) :
    format.ceiling ≤ format.roundedGrains numerator denominator := by
  have nonzero : numerator / denominator ≠ 0 := by
    have := powerOfTwo_pos (format.precision + format.coarsest)
    unfold ceiling at beyond
    omega
  have bits : format.precision + format.coarsest ≤ (numerator / denominator).log2 :=
    (Nat.le_log2 nonzero).2 beyond
  have coarse : format.coarsest + 1 ≤ format.spacing (numerator / denominator) := by
    unfold spacing
    omega
  calc format.ceiling
      ≤ powerOfTwo (format.precision - 1 + format.spacing (numerator / denominator)) :=
        Nat.pow_le_pow_right (by decide) (by omega)
    _ ≤ format.roundedGrains numerator denominator :=
        format.half_le_roundedGrains precise (by omega)

/-! ## Rounding a ratio to a magnitude -/

/-- The magnitude of the value that a ratio is rounded to: its grains, or more than any
count of them. -/
def magnitudeIn (numerator denominator : Nat) : WithTop Nat :=
  if format.roundedGrains numerator denominator < format.ceiling then
    WithTop.some (format.roundedGrains numerator denominator)
  else ⊤

/-- What is below half a grain is rounded to nothing. -/
theorem magnitudeIn_of_lt {numerator denominator : Nat} (small : 2 * numerator < denominator) :
    format.magnitudeIn numerator denominator = WithTop.some 0 := by
  have nothing : format.roundedGrains numerator denominator = 0 := by
    unfold roundedGrains
    generalize format.spacing (numerator / denominator) = spacing
    have coarser : denominator * 1 ≤ denominator * powerOfTwo spacing :=
      Nat.mul_le_mul_left _ (powerOfTwo_pos spacing)
    have below : numerator < denominator * powerOfTwo spacing := by omega
    unfold roundHalfEven
    rw [Nat.div_eq_of_lt below, Nat.mod_eq_of_lt below, if_pos (by omega), Nat.zero_mul]
  have above : 0 < format.ceiling := powerOfTwo_pos _
  rw [magnitudeIn, nothing, if_pos above]

theorem magnitudeIn_mono {numerator denominator otherNumerator otherDenominator : Nat}
    (precise : 0 < format.precision) (positive : 0 < denominator)
    (otherPositive : 0 < otherDenominator)
    (ratioLe : numerator * otherDenominator ≤ otherNumerator * denominator) :
    format.magnitudeIn numerator denominator ≤
      format.magnitudeIn otherNumerator otherDenominator := by
  have grains := format.roundedGrains_mono precise positive otherPositive ratioLe
  unfold magnitudeIn
  by_cases otherFinite : format.roundedGrains otherNumerator otherDenominator < format.ceiling
  · rw [if_pos otherFinite, if_pos (by omega)]
    exact WithTop.coe_le_coe.2 grains
  · rw [if_neg otherFinite]
    exact le_top

end BinaryFormat

end ConstantCatalog
