import ConstantCatalog.Proofs.Number.Denotation
import ConstantCatalog.Proofs.Number.Monotone
import Mathlib.Algebra.Order.Field.Basic
import Mathlib.Algebra.Order.Ring.Rat
import Mathlib.Data.Nat.Cast.Order.Field
import Mathlib.Tactic.Linarith

/-!
Contract: numbers among the rationals, and what a faithful rounding is.

Every number but NaN has a place among the rationals, the infinities standing at the two
ends. A number of a format is a faithful rounding of a rational if it is the rational
itself, where the format has it, and otherwise has no value of the format between the
rational and itself.

Owns: `Number.place?`, `Number.AtMost`, `Number.IsFaithful`, and the places of magnitudes
with signs.

Does not own: which roundings are faithful.
-/

namespace ConstantCatalog

/-! ## Places among the rationals -/

/-- The rationals between two ends. -/
abbrev Place : Type := WithBot (WithTop ℚ)

/-- The place of a rational. -/
def Place.of (value : ℚ) : Place := ((value : WithTop ℚ) : WithBot (WithTop ℚ))

namespace Place

@[simp] theorem of_le_of {left right : ℚ} :
    Place.of left ≤ Place.of right ↔ left ≤ right := by
  rw [Place.of, Place.of, WithBot.coe_le_coe, WithTop.coe_le_coe]

@[simp] theorem of_inj {left right : ℚ} :
    Place.of left = Place.of right ↔ left = right := by
  rw [Place.of, Place.of, WithBot.coe_inj, WithTop.coe_inj]

private theorem of_lt_top (value : ℚ) : Place.of value < ⊤ :=
  WithBot.coe_lt_coe.2 (WithTop.coe_lt_top value)

private theorem bot_lt_of (value : ℚ) : ⊥ < Place.of value :=
  WithBot.bot_lt_coe _

end Place

namespace Number

/-- Where a number stands among the rationals, an infinity at its end. NaN stands
nowhere. -/
def place? : Number → Option Place
  | .nan => none
  | .infinite negative => some (if negative then ⊥ else ⊤)
  | .finite negative grains =>
      some (Place.of (withSign negative ((grains : ℚ) / (grainsPerUnit : ℚ))))

/-- Whether a number does not stand beyond another one. -/
def AtMost (left right : Number) : Prop :=
  ∃ leftPlace rightPlace,
    left.place? = some leftPlace ∧ right.place? = some rightPlace ∧ leftPlace ≤ rightPlace

/-- Whether a number of a format is a faithful rounding of a rational. -/
structure IsFaithful (format : BinaryFormat) (exact : ℚ) (number : Number) : Prop where
  member : number.IsMember format
  /-- A rational that the format has is kept. -/
  kept :
    (∃ held : Number, held.IsMember format ∧ held.rational? = some exact) →
      number.rational? = some exact
  /-- No value of the format stands strictly between the rational and the number. -/
  adjacent :
    ∃ place, number.place? = some place ∧
      ∀ (held : Number) (value : ℚ), held.IsMember format → held.rational? = some value →
        ¬(exact < value ∧ Place.of value < place) ∧
        ¬(place < Place.of value ∧ value < exact)
  /-- No infinity is given but the one of the rational's own sign. -/
  overflow :
    ∀ negative, number = .infinite negative → if negative then exact < 0 else 0 < exact

private theorem rational?_eq_some_iff {number : Number} {exact : ℚ} :
    number.rational? = some exact ↔ number.place? = some (Place.of exact) := by
  cases number with
  | nan => simp [rational?, place?]
  | infinite negative => cases negative <;> simp [rational?, place?, Place.of]
  | finite negative grains =>
      rw [rational?_finite, place?, Option.some.injEq, Option.some.injEq, Place.of_inj]

private theorem AtMost.le_of_place {left right : Number} {leftPlace rightPlace : Place}
    (atMost : left.AtMost right) (isLeft : left.place? = some leftPlace)
    (isRight : right.place? = some rightPlace) :
    leftPlace ≤ rightPlace := by
  obtain ⟨first, second, isFirst, isSecond, le⟩ := atMost
  rw [isLeft] at isFirst
  rw [isRight] at isSecond
  rwa [Option.some.inj isFirst, Option.some.inj isSecond]

section Faithful

variable {format : BinaryFormat}

private theorem isMember_zero (ordered : format.finest ≤ format.coarsest) :
    (finite false 0).IsMember format :=
  ⟨0, format.finest, powerOfTwo_pos _, Nat.le_refl _, ordered, (Nat.zero_mul _).symm⟩

private theorem rational?_zero : (finite false 0).rational? = some 0 := by
  rw [rational?_finite, withSign_false, Nat.cast_zero, zero_div]

/-- A number that compares with the values of its format as a rational does is a faithful
rounding of the rational. -/
theorem isFaithful_of_atMost (ordered : format.finest ≤ format.coarsest) {exact : ℚ}
    {number : Number} (member : number.IsMember format)
    (below : ∀ (held : Number) (value : ℚ), held.IsMember format →
      held.rational? = some value → exact ≤ value → number.AtMost held)
    (above : ∀ (held : Number) (value : ℚ), held.IsMember format →
      held.rational? = some value → value ≤ exact → held.AtMost number) :
    number.IsFaithful format exact := by
  have zeroMember := isMember_zero ordered
  have exists_place : ∃ place, number.place? = some place := by
    rcases le_total exact 0 with negative | positive
    · obtain ⟨place, -, isPlace, -⟩ := below _ 0 zeroMember rational?_zero negative
      exact ⟨place, isPlace⟩
    · obtain ⟨-, place, -, isPlace, -⟩ := above _ 0 zeroMember rational?_zero positive
      exact ⟨place, isPlace⟩
  obtain ⟨place, isPlace⟩ := exists_place
  have placeLe : ∀ (held : Number) (value : ℚ), held.IsMember format →
      held.rational? = some value → exact ≤ value → place ≤ Place.of value :=
    fun held value heldMember isValue le =>
      (below held value heldMember isValue le).le_of_place isPlace
        (rational?_eq_some_iff.1 isValue)
  have lePlace : ∀ (held : Number) (value : ℚ), held.IsMember format →
      held.rational? = some value → value ≤ exact → Place.of value ≤ place :=
    fun held value heldMember isValue le =>
      (above held value heldMember isValue le).le_of_place
        (rational?_eq_some_iff.1 isValue) isPlace
  refine ⟨member, ?_, ⟨place, isPlace, ?_⟩, ?_⟩
  · rintro ⟨held, heldMember, isValue⟩
    rw [rational?_eq_some_iff, isPlace]
    exact congrArg some (le_antisymm (placeLe held exact heldMember isValue le_rfl)
      (lePlace held exact heldMember isValue le_rfl))
  · intro held value heldMember isValue
    constructor
    · rintro ⟨exactBelow, placeAbove⟩
      exact absurd (placeLe held value heldMember isValue exactBelow.le) placeAbove.not_ge
    · rintro ⟨placeBelow, exactAbove⟩
      exact absurd (lePlace held value heldMember isValue exactAbove.le) placeBelow.not_ge
  · rintro negative rfl
    cases negative with
    | false =>
        by_contra notPositive
        have wrong := placeLe _ 0 zeroMember rational?_zero (not_lt.1 notPositive)
        obtain rfl := Option.some.inj isPlace
        exact absurd wrong (Place.of_lt_top 0).not_ge
    | true =>
        by_contra notNegative
        have wrong := lePlace _ 0 zeroMember rational?_zero (not_lt.1 notNegative)
        obtain rfl := Option.some.inj isPlace
        exact absurd wrong (Place.bot_lt_of 0).not_ge

end Faithful

/-! ## Magnitudes with signs -/

/-- The number of a magnitude, an infinite one for the greatest of them. -/
def ofMagnitude (negative : Bool) : WithTop Nat → Number
  | ⊤ => .infinite negative
  | (grains : Nat) => .finite negative grains

def signedPlace (negative : Bool) : WithTop Nat → Place
  | ⊤ => if negative then ⊥ else ⊤
  | (grains : Nat) => Place.of (withSign negative ((grains : ℚ) / (grainsPerUnit : ℚ)))

theorem place?_ofMagnitude (negative : Bool) (magnitude : WithTop Nat) :
    (ofMagnitude negative magnitude).place? = some (signedPlace negative magnitude) := by
  cases magnitude with
  | top => rfl
  | coe grains => rfl

theorem grains_div_nonneg (grains : Nat) : 0 ≤ (grains : ℚ) / (grainsPerUnit : ℚ) :=
  div_nonneg (Nat.cast_nonneg grains) (Nat.cast_nonneg grainsPerUnit)

private theorem grains_div_mono {grains otherGrains : Nat} (le : grains ≤ otherGrains) :
    (grains : ℚ) / (grainsPerUnit : ℚ) ≤ (otherGrains : ℚ) / (grainsPerUnit : ℚ) :=
  div_le_div_of_nonneg_right (Nat.cast_le.2 le) (Nat.cast_nonneg grainsPerUnit)

section Places

variable {magnitude otherMagnitude : WithTop Nat}

theorem signedPlace_false_mono (le : magnitude ≤ otherMagnitude) :
    signedPlace false magnitude ≤ signedPlace false otherMagnitude := by
  cases otherMagnitude with
  | top => exact le_top
  | coe otherGrains =>
      cases magnitude with
      | top => exact absurd le (WithTop.coe_lt_top otherGrains).not_ge
      | coe grains =>
          have mono := grains_div_mono (WithTop.coe_le_coe.1 le)
          exact Place.of_le_of.2 mono

theorem signedPlace_true_antitone (le : magnitude ≤ otherMagnitude) :
    signedPlace true otherMagnitude ≤ signedPlace true magnitude := by
  cases otherMagnitude with
  | top => exact bot_le
  | coe otherGrains =>
      cases magnitude with
      | top => exact absurd le (WithTop.coe_lt_top otherGrains).not_ge
      | coe grains =>
          have mono := grains_div_mono (WithTop.coe_le_coe.1 le)
          exact Place.of_le_of.2 (neg_le_neg mono)

theorem signedPlace_true_le_false (magnitude otherMagnitude : WithTop Nat) :
    signedPlace true magnitude ≤ signedPlace false otherMagnitude := by
  cases magnitude with
  | top => exact bot_le
  | coe grains =>
      cases otherMagnitude with
      | top => exact le_top
      | coe otherGrains =>
          have first := grains_div_nonneg grains
          have second := grains_div_nonneg otherGrains
          exact Place.of_le_of.2 (by simp only [withSign_true, withSign_false]; linarith)

end Places

theorem roundRatio_eq_ofMagnitude (format : BinaryFormat) (negative : Bool)
    (numerator denominator : Nat) :
    format.roundRatio negative numerator denominator =
      ofMagnitude negative (format.magnitudeIn numerator denominator) := by
  rw [BinaryFormat.roundRatio_eq, BinaryFormat.magnitudeIn]
  split <;> rfl

end Number

end ConstantCatalog
