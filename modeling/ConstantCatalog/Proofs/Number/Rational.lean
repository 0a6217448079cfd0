import ConstantCatalog.Proofs.Number.Rounding
import Mathlib.Algebra.Field.Rat
import Mathlib.Data.Int.Cast.Basic

/-!
Contract: the rational numbers that finite values stand for.

A finite value is its grains with its sign, measured in units. Integers of at most 53 bits
are represented without loss.

Owns: `Number.rational?`, and the representation of integers.

Does not own: rounding, and the texts of numbers.
-/

namespace ConstantCatalog

theorem grainsPerUnit_pos : 0 < grainsPerUnit := powerOfTwo_pos 1074

namespace Number

/-- The rational number that a finite value stands for; NaN and the infinities stand for
none. -/
def rational? : Number → Option ℚ
  | .nan => none
  | .infinite _ => none
  | .finite negative grains =>
      some ((if negative then -(grains : ℚ) else (grains : ℚ)) / (grainsPerUnit : ℚ))

theorem grainsPerUnit_ne_zero : (grainsPerUnit : ℚ) ≠ 0 := by
  exact_mod_cast grainsPerUnit_pos.ne'

/-- An integer of at most 53 bits is represented by itself. -/
theorem rational?_ofInt {value : Int} (small : value.natAbs < powerOfTwo 53) :
    (ofInt value).rational? = some (value : ℚ) := by
  have whole : ((value.natAbs * grainsPerUnit : Nat) : ℚ) / (grainsPerUnit : ℚ) =
      (value.natAbs : ℚ) := by
    rw [Nat.cast_mul, mul_div_cancel_right₀ _ grainsPerUnit_ne_zero]
  rw [ofInt_of_natAbs_lt small, rational?]
  by_cases negative : value < 0
  · have isAbs : ((value.natAbs : ℤ) : ℚ) = ((-value : ℤ) : ℚ) := by
      rw [Int.ofNat_natAbs_of_nonpos negative.le]
    rw [Int.cast_natCast, Int.cast_neg] at isAbs
    rw [decide_eq_true negative, if_pos rfl, neg_div, whole, isAbs, neg_neg]
  · have isAbs : ((value.natAbs : ℤ) : ℚ) = (value : ℚ) := by
      rw [Int.natAbs_of_nonneg (Int.not_lt.1 negative)]
    rw [Int.cast_natCast] at isAbs
    rw [decide_eq_false negative, if_neg (by decide), whole, isAbs]

end Number

end ConstantCatalog
