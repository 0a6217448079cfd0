import ConstantCatalog.Number.Decimal
import ConstantCatalog.Proofs.Number.Place
import Mathlib.Tactic.FieldSimp
import Mathlib.Tactic.Positivity

/-!
Contract: decimals in single precision, which are reached through double precision.

Rounding twice need not give the nearest value. It does give a faithful one, by two facts
about either rounding alone: it is monotone, and it leaves the values of its format as
they are.

Owns: `Number.roundTwice`, and that decimals are rounded faithfully and in order.

Does not own: the texts of decimals.
-/

namespace ConstantCatalog

namespace Number

/-! ## Ratios of grains -/

/-- The rational that a ratio of grains is. -/
def grainRatio (numerator denominator : Nat) : ℚ :=
  (numerator : ℚ) / (denominator : ℚ) / (grainsPerUnit : ℚ)

theorem grainRatio_nonneg (numerator denominator : Nat) :
    0 ≤ grainRatio numerator denominator := by
  unfold grainRatio
  positivity

theorem grainRatio_le_iff {numerator denominator otherNumerator otherDenominator : Nat}
    (positive : 0 < denominator) (otherPositive : 0 < otherDenominator) :
    grainRatio numerator denominator ≤ grainRatio otherNumerator otherDenominator ↔
      numerator * otherDenominator ≤ otherNumerator * denominator := by
  have unit : (0 : ℚ) < (grainsPerUnit : ℚ) := Nat.cast_pos.2 grainsPerUnit_pos
  have below : (0 : ℚ) < (denominator : ℚ) := Nat.cast_pos.2 positive
  have otherBelow : (0 : ℚ) < (otherDenominator : ℚ) := Nat.cast_pos.2 otherPositive
  unfold grainRatio
  rw [div_le_div_iff_of_pos_right unit, div_le_div_iff₀ below otherBelow]
  exact_mod_cast Iff.rfl

private theorem grainRatio_eq_zero_iff {numerator denominator : Nat} (positive : 0 < denominator) :
    grainRatio numerator denominator = 0 ↔ numerator = 0 := by
  have unit : (0 : ℚ) < (grainsPerUnit : ℚ) := Nat.cast_pos.2 grainsPerUnit_pos
  have below : (0 : ℚ) < (denominator : ℚ) := Nat.cast_pos.2 positive
  rw [grainRatio, div_eq_zero_iff, or_iff_left unit.ne', div_eq_zero_iff,
    or_iff_left below.ne', Nat.cast_eq_zero]

/-! ## Rounding twice -/

section Twice

variable {wide narrow : BinaryFormat} {numerator denominator otherNumerator otherDenominator : Nat}

/-- The magnitude that a magnitude is rounded to. -/
def narrowed (format : BinaryFormat) : WithTop Nat → WithTop Nat
  | ⊤ => ⊤
  | (grains : Nat) => format.magnitudeIn grains 1

private theorem round_ofMagnitude (format : BinaryFormat) (negative : Bool)
    (magnitude : WithTop Nat) :
    (ofMagnitude negative magnitude).round format =
      ofMagnitude negative (narrowed format magnitude) := by
  cases magnitude with
  | top => rfl
  | coe grains => exact roundRatio_eq_ofMagnitude format negative grains 1

theorem narrowed_mono (precise : 0 < narrow.precision) {magnitude otherMagnitude : WithTop Nat}
    (le : magnitude ≤ otherMagnitude) :
    narrowed narrow magnitude ≤ narrowed narrow otherMagnitude := by
  cases otherMagnitude with
  | top => exact le_top
  | coe otherGrains =>
      cases magnitude with
      | top => exact absurd le (WithTop.coe_lt_top otherGrains).not_ge
      | coe grains =>
          have grainsLe : grains ≤ otherGrains := WithTop.coe_le_coe.1 le
          exact narrow.magnitudeIn_mono precise Nat.one_pos Nat.one_pos
            (Nat.mul_le_mul_right 1 grainsLe)

/-- A ratio rounded to one format and from there to another one. -/
def roundTwice (wide narrow : BinaryFormat) (negative : Bool)
    (numerator denominator : Nat) : Number :=
  (wide.roundRatio negative numerator denominator).round narrow

theorem roundTwice_eq_ofMagnitude (negative : Bool) (numerator denominator : Nat) :
    roundTwice wide narrow negative numerator denominator =
      ofMagnitude negative (narrowed narrow (wide.magnitudeIn numerator denominator)) := by
  rw [roundTwice, roundRatio_eq_ofMagnitude, round_ofMagnitude]

/-- A ratio that the narrow format has is kept by both roundings. -/
private theorem roundTwice_of_isMember (wideIsPrecise : 0 < wide.precision)
    (narrowIsPrecise : 0 < narrow.precision) {negative : Bool} {grains : Nat}
    (isWide : (finite negative grains).IsMember wide)
    (isNarrow : (finite negative grains).IsMember narrow) :
    roundTwice wide narrow negative grains 1 = .finite negative grains := by
  rw [roundTwice, BinaryFormat.roundRatio_of_isMember wideIsPrecise isWide]
  exact round_of_isMember narrowIsPrecise isNarrow

/-- Ratios with signs are rounded in the order that they have. -/
private theorem atMost_roundTwice (wideIsPrecise : 0 < wide.precision)
    (narrowIsPrecise : 0 < narrow.precision) {negative otherNegative : Bool}
    (positive : 0 < denominator) (otherPositive : 0 < otherDenominator)
    (le : withSign negative (grainRatio numerator denominator) ≤
      withSign otherNegative (grainRatio otherNumerator otherDenominator)) :
    (roundTwice wide narrow negative numerator denominator).AtMost
      (roundTwice wide narrow otherNegative otherNumerator otherDenominator) := by
  rw [roundTwice_eq_ofMagnitude, roundTwice_eq_ofMagnitude]
  refine ⟨_, _, place?_ofMagnitude _ _, place?_ofMagnitude _ _, ?_⟩
  have mono : ∀ {first below second above : Nat}, 0 < below → 0 < above →
      grainRatio first below ≤ grainRatio second above →
      narrowed narrow (wide.magnitudeIn first below) ≤
        narrowed narrow (wide.magnitudeIn second above) :=
    fun isBelow isAbove ratioLe =>
      narrowed_mono narrowIsPrecise (wide.magnitudeIn_mono wideIsPrecise isBelow isAbove
        ((grainRatio_le_iff isBelow isAbove).1 ratioLe))
  have first := grainRatio_nonneg numerator denominator
  have second := grainRatio_nonneg otherNumerator otherDenominator
  cases negative with
  | false =>
      cases otherNegative with
      | false => exact signedPlace_false_mono (mono positive otherPositive le)
      | true =>
          -- Only zero is neither below zero nor above it.
          have firstZero : numerator = 0 :=
            (grainRatio_eq_zero_iff positive).1 (by
              simp only [withSign_true, withSign_false] at le
              linarith)
          have secondZero : otherNumerator = 0 :=
            (grainRatio_eq_zero_iff otherPositive).1 (by
              simp only [withSign_true, withSign_false] at le
              linarith)
          have nothing : ∀ {below : Nat}, 0 < below →
              narrowed narrow (wide.magnitudeIn 0 below) = WithTop.some 0 := by
            intro below isBelow
            rw [wide.magnitudeIn_of_lt (by omega)]
            exact narrow.magnitudeIn_of_lt (by omega)
          rw [firstZero, secondZero, nothing positive, nothing otherPositive]
          have zeros : withSign false ((0 : Nat) / (grainsPerUnit : ℚ)) ≤
              withSign true ((0 : Nat) / (grainsPerUnit : ℚ)) := by
            rw [withSign_true, withSign_false, Nat.cast_zero, zero_div, neg_zero]
          exact Place.of_le_of.2 zeros
  | true =>
      cases otherNegative with
      | false => exact signedPlace_true_le_false _ _
      | true =>
          exact signedPlace_true_antitone (mono otherPositive positive (neg_le_neg_iff.1 le))

/-- A ratio with a sign is rounded faithfully to the narrow one of two formats, if the wide
one has all its values. -/
private theorem isFaithful_roundTwice (wideIsPrecise : 0 < wide.precision)
    (narrowIsPrecise : 0 < narrow.precision) (ordered : narrow.finest ≤ narrow.coarsest)
    (within : ∀ number : Number, number.IsMember narrow → number.IsMember wide) (negative : Bool)
    (positive : 0 < denominator) :
    (roundTwice wide narrow negative numerator denominator).IsFaithful narrow
      (withSign negative (grainRatio numerator denominator)) := by
  have asRounded : ∀ (held : Number) (value : ℚ), held.IsMember narrow →
      held.rational? = some value →
      ∃ heldNegative grains, held = roundTwice wide narrow heldNegative grains 1 ∧
        value = withSign heldNegative (grainRatio grains 1) := by
    intro held value isNarrow isValue
    cases held with
    | nan => contradiction
    | infinite heldNegative => contradiction
    | finite heldNegative grains =>
        rw [rational?_finite] at isValue
        refine ⟨heldNegative, grains, ?_, ?_⟩
        · exact (roundTwice_of_isMember wideIsPrecise narrowIsPrecise
            (within _ isNarrow) isNarrow).symm
        · rw [grainRatio, Nat.cast_one, div_one]
          exact (Option.some.inj isValue).symm
  apply isFaithful_of_atMost ordered
  · exact isMember_round narrowIsPrecise ordered _
  · intro held value isNarrow isValue le
    obtain ⟨heldNegative, grains, rfl, rfl⟩ := asRounded held value isNarrow isValue
    exact atMost_roundTwice wideIsPrecise narrowIsPrecise positive Nat.one_pos le
  · intro held value isNarrow isValue le
    obtain ⟨heldNegative, grains, rfl, rfl⟩ := asRounded held value isNarrow isValue
    exact atMost_roundTwice wideIsPrecise narrowIsPrecise Nat.one_pos positive le

end Twice

/-- A value of single precision is a value of double precision. -/
private theorem isMember_binary64 {number : Number} (member : number.IsMember .binary32) :
    number.IsMember .binary64 := by
  cases number with
  | nan => trivial
  | infinite negative => trivial
  | finite negative grains =>
      obtain ⟨significand, exponent, kept, fine, coarse, isGrains⟩ := member
      have bits : powerOfTwo BinaryFormat.binary32.precision ≤
          powerOfTwo BinaryFormat.binary64.precision := by decide
      exact ⟨significand, exponent, Nat.lt_of_lt_of_le kept bits, Nat.zero_le _,
        Nat.le_trans coarse (by decide), isGrains⟩

end Number

/-! ## Decimals -/

namespace Decimal

theorem denominator_pos (decimal : Decimal) : 0 < decimal.denominator :=
  powerOfTen_pos _

theorem grainRatio_eq_rational (decimal : Decimal) :
    Number.grainRatio decimal.numerator decimal.denominator = decimal.rational := by
  have exponents : decimal.exponent =
      (decimal.exponent.toNat : ℤ) - ((-decimal.exponent).toNat : ℤ) :=
    (Int.toNat_sub_toNat_neg decimal.exponent).symm
  have unit := Number.grainsPerUnit_ne_zero
  have ten : (10 : ℚ) ≠ 0 := by norm_num
  unfold Number.grainRatio rational numerator denominator
  rw [exponents, zpow_sub₀ ten, zpow_natCast, zpow_natCast, ← exponents]
  push_cast
  rw [cast_powerOfTen, cast_powerOfTen]
  field_simp

/-- A vast decimal is at the ceiling of double precision or beyond. -/
private theorem ceiling_le_of_isVast {decimal : Decimal} (nonzero : decimal.coefficient ≠ 0)
    (vast : decimal.isVast = true) :
    BinaryFormat.binary64.ceiling ≤ decimal.numerator / decimal.denominator := by
  have large : 400 < decimal.exponent := of_decide_eq_true vast
  have whole : decimal.denominator = 1 := by
    unfold denominator
    rw [Int.toNat_of_nonpos (by omega)]
    rfl
  have tens : powerOfTwo 1024 ≤ powerOfTen decimal.exponent.toNat :=
    calc powerOfTwo 1024 ≤ powerOfTen 401 := by decide +kernel
      _ ≤ powerOfTen decimal.exponent.toNat := powerOfTen_le_powerOfTen (by omega)
  rw [whole, Nat.div_one]
  calc BinaryFormat.binary64.ceiling
      = powerOfTwo 1024 * grainsPerUnit := by decide +kernel
    _ ≤ powerOfTen decimal.exponent.toNat * grainsPerUnit := Nat.mul_le_mul_right _ tens
    _ ≤ decimal.coefficient * powerOfTen decimal.exponent.toNat * grainsPerUnit := by
        rw [Nat.mul_assoc]
        exact Nat.le_mul_of_pos_left _ (Nat.pos_of_ne_zero nonzero)

/-- A minute decimal is below half a grain. -/
private theorem double_numerator_lt_of_isMinute {decimal : Decimal}
    (minute : decimal.isMinute = true) :
    2 * decimal.numerator < decimal.denominator := by
  have small : decimal.exponent + decimal.coefficient.log2 + 1 < -400 :=
    of_decide_eq_true minute
  have whole : powerOfTen decimal.exponent.toNat = 1 := by
    rw [Int.toNat_of_nonpos (by omega)]
    rfl
  have bits : decimal.coefficient < 2 ^ (decimal.coefficient.log2 + 1) := Nat.lt_log2_self
  have places : decimal.coefficient.log2 + 1 + 401 ≤ (-decimal.exponent).toNat := by omega
  unfold numerator denominator
  rw [whole, Nat.mul_one]
  calc 2 * (decimal.coefficient * grainsPerUnit)
      = decimal.coefficient * (2 * grainsPerUnit) := Nat.mul_left_comm ..
    _ < 2 ^ (decimal.coefficient.log2 + 1) * (2 * grainsPerUnit) :=
        Nat.mul_lt_mul_of_pos_right bits (by decide +kernel)
    _ ≤ powerOfTen (decimal.coefficient.log2 + 1) * powerOfTen 401 :=
        Nat.mul_le_mul (Nat.pow_le_pow_left (by decide) _) (by decide +kernel)
    _ = powerOfTen (decimal.coefficient.log2 + 1 + 401) := (powerOfTen_add _ _).symm
    _ ≤ powerOfTen (-decimal.exponent).toNat := powerOfTen_le_powerOfTen places

/-- The vast and the minute are answered as rounding their ratio would answer. -/
private theorem toNumber_eq_roundRatio (decimal : Decimal) (negative : Bool) :
    decimal.toNumber negative =
      BinaryFormat.binary64.roundRatio negative decimal.numerator decimal.denominator := by
  unfold toNumber
  split
  · rename_i zero
    have small : 2 * decimal.numerator < decimal.denominator := by
      have positive := decimal.denominator_pos
      have nothing : decimal.numerator = 0 := by simp [numerator, zero]
      omega
    rw [Number.roundRatio_eq_ofMagnitude, BinaryFormat.magnitudeIn_of_lt _ small]
    rfl
  · rename_i nonzero
    split
    · rename_i vast
      have beyond := BinaryFormat.binary64.ceiling_le_roundedGrains (by decide) (by decide)
        (ceiling_le_of_isVast nonzero vast)
      rw [BinaryFormat.roundRatio_eq, if_neg (Nat.not_lt.2 beyond)]
    · split
      · rename_i minute
        have small := double_numerator_lt_of_isMinute minute
        rw [Number.roundRatio_eq_ofMagnitude, BinaryFormat.magnitudeIn_of_lt _ small]
        rfl
      · rfl

theorem toSingle_toNumber (decimal : Decimal) (negative : Bool) :
    (decimal.toNumber negative).toSingle =
      Number.roundTwice .binary64 .binary32 negative decimal.numerator decimal.denominator := by
  rw [toNumber_eq_roundRatio]
  rfl

/-- Decimals are rounded faithfully to single precision. -/
theorem isFaithful_toSingle (decimal : Decimal) (negative : Bool) :
    (decimal.toNumber negative).toSingle.IsFaithful .binary32
      (withSign negative decimal.rational) := by
  rw [toSingle_toNumber, ← grainRatio_eq_rational]
  exact Number.isFaithful_roundTwice (by decide) (by decide) (by decide)
    (fun _ member => Number.isMember_binary64 member) negative decimal.denominator_pos

/-- Decimals with signs are rounded to single precision in the order that they have. -/
theorem atMost_toSingle {decimal otherDecimal : Decimal} {negative otherNegative : Bool}
    (le : withSign negative decimal.rational ≤
      withSign otherNegative otherDecimal.rational) :
    (decimal.toNumber negative).toSingle.AtMost
      (otherDecimal.toNumber otherNegative).toSingle := by
  rw [toSingle_toNumber, toSingle_toNumber]
  rw [← grainRatio_eq_rational, ← grainRatio_eq_rational] at le
  exact Number.atMost_roundTwice (by decide) (by decide) decimal.denominator_pos
    otherDecimal.denominator_pos le

end Decimal

end ConstantCatalog
