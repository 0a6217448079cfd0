import ConstantCatalog.Proofs.Number.Faithful

/-!
Contract: what is near a value of single precision is rounded to it, also through double
precision.

An eighth of a spacing is less than half of any spacing next to a value, those below a
power of two included. And a value with an eighth of its spacing added or taken away needs
three more bits, which double precision has. So what lies between the two is rounded to
the value by both roundings in a row, since neither reverses an order.

Owns: `BinaryFormat.eighth`, the roundings of what is within it, and decimals near a value.

Does not own: which decimals are near.
-/

namespace ConstantCatalog

private theorem powerOfTwo_add (exponent otherExponent : Nat) :
    powerOfTwo (exponent + otherExponent) = powerOfTwo exponent * powerOfTwo otherExponent :=
  Nat.pow_add ..

private theorem powerOfTwo_pred {exponent : Nat} (positive : 0 < exponent) :
    powerOfTwo exponent = 2 * powerOfTwo (exponent - 1) := by
  obtain ⟨before, rfl⟩ := Nat.exists_eq_add_one.2 positive
  rw [powerOfTwo_add, Nat.mul_comm, Nat.add_sub_cancel]
  rfl

/-! ## Rounding a quotient -/

/-- A quotient that is nearer than a half to an integer is rounded to it. -/
private theorem roundHalfEven_of_near {numerator denominator quotient : Nat}
    (above : 2 * (quotient * denominator) < 2 * numerator + denominator)
    (below : 2 * numerator < 2 * (quotient * denominator) + denominator) :
    roundHalfEven numerator denominator = quotient := by
  have split := Nat.div_add_mod numerator denominator
  have positive : 0 < denominator := by omega
  have small := Nat.mod_lt numerator positive
  rw [Nat.mul_comm] at split
  have next := Nat.add_mul (numerator / denominator) 1 denominator
  have further := Nat.add_mul quotient 1 denominator
  rw [Nat.one_mul] at next further
  -- The whole part is the integer itself, or the one before it.
  have atMost : numerator / denominator < quotient + 1 := by
    apply Nat.lt_of_mul_lt_mul_right (a := denominator)
    omega
  have atLeast : quotient < numerator / denominator + 1 + 1 := by
    apply Nat.lt_of_mul_lt_mul_right (a := denominator)
    rw [Nat.add_mul _ 1, Nat.one_mul]
    omega
  unfold roundHalfEven
  dsimp only
  by_cases same : numerator / denominator = quotient
  · rw [same] at split ⊢
    rw [if_pos (by omega)]
  · have isNext : quotient = numerator / denominator + 1 := by omega
    rw [isNext] at above ⊢
    rw [if_neg (by omega), if_pos (by omega)]

namespace BinaryFormat

variable {format : BinaryFormat}

/-! ## Spacings -/

/-- A count of grains below a full significand of some spacing has no coarser one. -/
private theorem spacing_le_of_lt {grains exponent : Nat} (positive : 0 < format.precision)
    (fine : format.finest ≤ exponent) (below : grains < powerOfTwo (format.precision + exponent)) :
    format.spacing grains ≤ exponent := by
  unfold spacing
  by_cases zero : grains = 0
  · rw [zero, Nat.log2_zero]
    omega
  · have bits : grains.log2 < format.precision + exponent := (Nat.log2_lt zero).2 below
    omega

/-- A count of grains that has half a significand of some spacing has no finer one. -/
private theorem le_spacing_of_le {grains exponent : Nat} (positive : 0 < format.precision)
    (above : powerOfTwo (format.precision - 1 + exponent) ≤ grains) :
    exponent ≤ format.spacing grains := by
  have notZero := powerOfTwo_pos (format.precision - 1 + exponent)
  have bits : format.precision - 1 + exponent ≤ grains.log2 :=
    (Nat.le_log2 (by omega)).2 above
  unfold spacing
  omega

/-- A value of a format is a count of its spacings, which is less than a full
significand. -/
private theorem exists_steps_of_isMember {negative : Bool} {grains : Nat}
    (positive : 0 < format.precision) (member : (Number.finite negative grains).IsMember format) :
    ∃ steps, grains = steps * powerOfTwo (format.spacing grains) ∧
      steps < powerOfTwo format.precision ∧
      format.spacing grains ≤ format.coarsest := by
  obtain ⟨significand, exponent, kept, fine, coarse, isGrains⟩ := member
  have noCoarser : format.spacing grains ≤ exponent := by
    rw [isGrains]
    exact spacing_le positive kept fine
  have inSteps : grains =
      significand * powerOfTwo (exponent - format.spacing grains) *
        powerOfTwo (format.spacing grains) := by
    rw [Nat.mul_assoc, ← powerOfTwo_add, Nat.sub_add_cancel noCoarser]
    exact isGrains
  refine ⟨_, inSteps, ?_, by omega⟩
  have few := format.div_spacing_lt grains
  rwa [Nat.div_eq_of_eq_mul_left (powerOfTwo_pos _) inSteps] at few

private theorem lt_ceiling_of_isMember {negative : Bool} {grains : Nat}
    (positive : 0 < format.precision) (member : (Number.finite negative grains).IsMember format) :
    grains < format.ceiling := by
  have kept := roundRatio_of_isMember positive member
  rw [roundRatio_eq] at kept
  split at kept
  · rename_i below
    rwa [(Number.finite.inj kept).2] at below
  · contradiction

/-! ## Eighths of a spacing -/

/-- An eighth of the spacing around a count of grains. -/
def eighth (format : BinaryFormat) (grains : Nat) : Nat :=
  powerOfTwo (format.spacing grains - 3)

section Eighths

variable (precise : 1 < format.precision) (divisible : 3 ≤ format.finest)

include divisible in
theorem eight_mul_eighth (grains : Nat) :
    8 * format.eighth grains = powerOfTwo (format.spacing grains) := by
  have fine := format.finest_le_spacing grains
  have split : format.spacing grains = 3 + (format.spacing grains - 3) := by omega
  rw [split, powerOfTwo_add]
  unfold eighth
  rfl

include precise divisible in
/-- Within an eighth of a spacing of a value, counts of grains are rounded to it. -/
private theorem roundedGrains_of_near {negative : Bool} {grains near : Nat}
    (member : (Number.finite negative grains).IsMember format)
    (above : grains ≤ near + format.eighth grains) (below : near ≤ grains + format.eighth grains) :
    format.roundedGrains near 1 = grains := by
  have eighths := eight_mul_eighth divisible grains
  have someEighth : 0 < format.eighth grains := powerOfTwo_pos _
  obtain ⟨steps, inSteps, few, -⟩ := exists_steps_of_isMember (by omega) member
  have fine := format.finest_le_spacing grains
  have full : powerOfTwo (format.precision + format.spacing grains) =
      powerOfTwo format.precision * powerOfTwo (format.spacing grains) := powerOfTwo_add ..
  have noCoarser : format.spacing near ≤ format.spacing grains := by
    apply spacing_le_of_lt (by omega) fine
    have next : (steps + 1) * powerOfTwo (format.spacing grains) ≤
        powerOfTwo format.precision * powerOfTwo (format.spacing grains) :=
      Nat.mul_le_mul_right _ few
    rw [Nat.add_mul, Nat.one_mul, ← inSteps] at next
    omega
  unfold roundedGrains
  rw [Nat.div_one, Nat.one_mul]
  by_cases same : format.spacing near = format.spacing grains
  · have isSteps : roundHalfEven near (powerOfTwo (format.spacing grains)) = steps := by
      apply roundHalfEven_of_near
      · rw [← inSteps]
        omega
      · rw [← inSteps]
        omega
    rw [same, isSteps]
    exact inSteps.symm
  · -- Below a power of two the spacing is half as coarse.
    have coarser : format.finest < format.spacing grains := by
      have nearFine := format.finest_le_spacing near
      omega
    have half : powerOfTwo (format.spacing grains) =
        2 * powerOfTwo (format.spacing grains - 1) := powerOfTwo_pred (by omega)
    have isHalf : format.spacing near = format.spacing grains - 1 := by
      apply Nat.le_antisymm (by omega)
      apply le_spacing_of_le (by omega)
      have atLeast := precision_le_div_spacing coarser (by omega)
      rw [Nat.le_div_iff_mul_le (powerOfTwo_pos _)] at atLeast
      have quarter : powerOfTwo (format.precision - 1) =
          2 * powerOfTwo (format.precision - 2) := powerOfTwo_pred (by omega)
      have places : format.precision - 1 + (format.spacing grains - 1) =
          format.precision - 2 + format.spacing grains := by omega
      have atLeastOne : 1 * powerOfTwo (format.spacing grains) ≤
          powerOfTwo (format.precision - 2) * powerOfTwo (format.spacing grains) :=
        Nat.mul_le_mul_right _ (powerOfTwo_pos _)
      rw [quarter, Nat.mul_assoc] at atLeast
      rw [places, powerOfTwo_add]
      omega
    have isSteps :
        roundHalfEven near (powerOfTwo (format.spacing grains - 1)) = 2 * steps := by
      have doubled : 2 * steps * powerOfTwo (format.spacing grains - 1) = grains := by
        rw [Nat.mul_right_comm, ← half, Nat.mul_comm]
        exact inSteps.symm
      apply roundHalfEven_of_near
      · rw [doubled]
        omega
      · rw [doubled]
        omega
    rw [isHalf, isSteps, Nat.mul_right_comm, ← half, Nat.mul_comm]
    exact inSteps.symm

end Eighths

end BinaryFormat

/-! ## Rounding twice -/

namespace Number

section Twice

variable {wide narrow : BinaryFormat} {negative : Bool} {grains near numerator denominator : Nat}
  (precise : 1 < narrow.precision) (divisible : 3 ≤ narrow.finest)
  (member : (finite negative grains).IsMember narrow)

include precise divisible member in
/-- An eighth of a spacing more or less takes three more bits. -/
private theorem isMember_of_near (wider : narrow.precision + 3 ≤ wide.precision)
    (finer : wide.finest + 3 ≤ narrow.finest) (coarser : narrow.coarsest ≤ wide.coarsest)
    (isNear : near = grains - narrow.eighth grains ∨ near = grains + narrow.eighth grains) :
    (finite negative near).IsMember wide := by
  have eighths := BinaryFormat.eight_mul_eighth divisible grains
  have fine := narrow.finest_le_spacing grains
  obtain ⟨steps, inSteps, few, coarse⟩ :=
    BinaryFormat.exists_steps_of_isMember (by omega) member
  have room : 8 * powerOfTwo narrow.precision ≤ powerOfTwo wide.precision :=
    calc 8 * powerOfTwo narrow.precision
        = powerOfTwo (narrow.precision + 3) := by rw [powerOfTwo_add, Nat.mul_comm]; rfl
      _ ≤ powerOfTwo wide.precision := Nat.pow_le_pow_right (by decide) wider
  have inEighths : grains = 8 * steps * narrow.eighth grains := by
    rw [Nat.mul_right_comm, eighths, Nat.mul_comm]
    exact inSteps
  rcases isNear with less | more
  · refine ⟨8 * steps - 1, narrow.spacing grains - 3, by omega, by omega, by omega, ?_⟩
    rw [Nat.sub_mul, Nat.one_mul, less]
    exact congrArg (· - narrow.eighth grains) inEighths
  · refine ⟨8 * steps + 1, narrow.spacing grains - 3, by omega, by omega, by omega, ?_⟩
    rw [Nat.add_mul, Nat.one_mul, more]
    exact congrArg (· + narrow.eighth grains) inEighths

private theorem magnitudeIn_of_isMember {format : BinaryFormat} (positive : 0 < format.precision)
    (isMember : (finite negative grains).IsMember format) :
    format.magnitudeIn grains 1 = WithTop.some grains := by
  have kept := BinaryFormat.roundRatio_of_isMember positive isMember
  have below := BinaryFormat.lt_ceiling_of_isMember positive isMember
  rw [BinaryFormat.roundRatio_eq] at kept
  split at kept
  · rename_i finite
    rw [BinaryFormat.magnitudeIn, if_pos finite, (Number.finite.inj kept).2]
  · contradiction

include precise divisible member in
/-- What is within an eighth of a spacing of a value is rounded to it. -/
private theorem narrowed_of_near (above : grains ≤ near + narrow.eighth grains)
    (below : near ≤ grains + narrow.eighth grains) :
    narrowed narrow (WithTop.some near) = WithTop.some grains := by
  have rounded := BinaryFormat.roundedGrains_of_near precise divisible member above below
  have finite := BinaryFormat.lt_ceiling_of_isMember (by omega) member
  show narrow.magnitudeIn near 1 = WithTop.some grains
  rw [BinaryFormat.magnitudeIn, rounded, if_pos finite]

include precise divisible member in
/-- A ratio that is within an eighth of a spacing of a value is rounded to it through a
format with three more bits. -/
private theorem roundTwice_of_near (wider : narrow.precision + 3 ≤ wide.precision)
    (finer : wide.finest + 3 ≤ narrow.finest) (coarser : narrow.coarsest ≤ wide.coarsest)
    (positive : 0 < denominator) (above : (grains - narrow.eighth grains) * denominator ≤ numerator)
    (below : numerator ≤ (grains + narrow.eighth grains) * denominator) :
    roundTwice wide narrow negative numerator denominator = .finite negative grains := by
  -- The two ends pass the first rounding unchanged, and the second takes them to the value.
  have least : narrowed narrow (wide.magnitudeIn (grains - narrow.eighth grains) 1) =
      WithTop.some grains := by
    have isWide := isMember_of_near precise divisible member wider finer coarser (.inl rfl)
    rw [magnitudeIn_of_isMember (by omega) isWide]
    exact narrowed_of_near precise divisible member (by omega) (by omega)
  have greatest : narrowed narrow (wide.magnitudeIn (grains + narrow.eighth grains) 1) =
      WithTop.some grains := by
    have isWide := isMember_of_near precise divisible member wider finer coarser (.inr rfl)
    rw [magnitudeIn_of_isMember (by omega) isWide]
    exact narrowed_of_near precise divisible member (by omega) (by omega)
  have isGrains : narrowed narrow (wide.magnitudeIn numerator denominator) =
      WithTop.some grains := by
    apply le_antisymm
    · rw [← greatest]
      apply narrowed_mono (by omega)
      apply wide.magnitudeIn_mono (by omega) positive Nat.one_pos
      rwa [Nat.mul_one]
    · rw [← least]
      apply narrowed_mono (by omega)
      apply wide.magnitudeIn_mono (by omega) Nat.one_pos positive
      rwa [Nat.mul_one]
  rw [roundTwice_eq_ofMagnitude, isGrains]
  rfl

end Twice

end Number

/-! ## Decimals -/

/-- The rational that an eighth of the spacing around a value of single precision is. -/
def eighthOfSpacing (grains : Nat) : ℚ :=
  (BinaryFormat.binary32.eighth grains : ℚ) / (grainsPerUnit : ℚ)

/-- A decimal that is within an eighth of a spacing of a value of single precision is
rounded to it. -/
theorem Decimal.toSingle_of_near {negative : Bool} {grains : Nat}
    (member : (Number.finite negative grains).IsMember .binary32) {decimal : Decimal}
    (near : |decimal.rational - (grains : ℚ) / (grainsPerUnit : ℚ)| ≤ eighthOfSpacing grains) :
    (decimal.toNumber negative).toSingle = .finite negative grains := by
  obtain ⟨above, below⟩ := abs_le.1 near
  have unit : (0 : ℚ) < (grainsPerUnit : ℚ) := Nat.cast_pos.2 grainsPerUnit_pos
  have ratio : ∀ count : Nat,
      Number.grainRatio count 1 = (count : ℚ) / (grainsPerUnit : ℚ) := by
    intro count
    rw [Number.grainRatio, Nat.cast_one, div_one]
  rw [toSingle_toNumber]
  apply Number.roundTwice_of_near (by decide) (by decide) member (by decide) (by decide)
    (by decide) decimal.denominator_pos
  · rw [← Nat.mul_one decimal.numerator,
      ← Number.grainRatio_le_iff Nat.one_pos decimal.denominator_pos, grainRatio_eq_rational,
      ratio]
    by_cases small : grains ≤ BinaryFormat.binary32.eighth grains
    · rw [Nat.sub_eq_zero_of_le small, Nat.cast_zero, zero_div, ← grainRatio_eq_rational]
      exact Number.grainRatio_nonneg _ _
    · rw [Nat.cast_sub (by omega), sub_div]
      unfold eighthOfSpacing at above
      linarith
  · rw [← Nat.mul_one decimal.numerator,
      ← Number.grainRatio_le_iff decimal.denominator_pos Nat.one_pos, grainRatio_eq_rational,
      ratio, Nat.cast_add, add_div]
    unfold eighthOfSpacing at below
    linarith

end ConstantCatalog
