import ConstantCatalog.Number.Rounding

/-!
Contract: exact decimals `coefficient * 10 ^ exponent` and the double-precision
value nearest to one.

Owns: `Decimal`, its ratio in grains, and `Decimal.toNumber`.

Does not own: the grammar of decimal text, or the choice of digits in printing.
-/

namespace ConstantCatalog

/-- The non-negative decimal `coefficient * 10 ^ exponent`. -/
structure Decimal where
  coefficient : Nat
  exponent : Int
deriving DecidableEq, Repr, Inhabited

namespace Decimal

/-- Numerator of the decimal's ratio in grains. -/
def numerator (decimal : Decimal) : Nat :=
  decimal.coefficient * powerOfTen decimal.exponent.toNat * grainsPerUnit

/-- Denominator of the decimal's ratio in grains. -/
def denominator (decimal : Decimal) : Nat :=
  powerOfTen (-decimal.exponent).toNat

/-- Whether a non-zero decimal is at least `10 ^ 401`, beyond every finite
double-precision value, because its exponent alone says so. -/
def isVast (decimal : Decimal) : Bool :=
  decide (400 < decimal.exponent)

/-- Whether a decimal is below `10 ^ -400`, nearer to zero than to the first
grain: its coefficient is below `2 ^ (log2 + 1)`, hence below `10 ^ (log2 + 1)`. -/
def isMinute (decimal : Decimal) : Bool :=
  decide (decimal.exponent + decimal.coefficient.log2 + 1 < -400)

/-- The double-precision value nearest to the decimal, with the given sign. The
vast and the minute are answered without forming their powers of ten, so the
work is bounded by the length of the coefficient. -/
def toNumber (negative : Bool) (decimal : Decimal) : Number :=
  if decimal.coefficient = 0 then .finite negative 0
  else if decimal.isVast then .infinite negative
  else if decimal.isMinute then .finite negative 0
  else
    BinaryFormat.binary64.roundRatio negative decimal.numerator decimal.denominator

end Decimal

end ConstantCatalog
