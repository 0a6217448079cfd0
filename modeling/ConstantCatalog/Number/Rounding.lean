import ConstantCatalog.Number.Basic

/-!
Contract: rounding to nearest, a tie going to the even neighbour.

Owns:
- `roundHalfEven` on a quotient of naturals;
- rounding of an exact ratio, of a `Number` and of an integer onto a format.

Does not own: reading the ratio from text.
-/

namespace ConstantCatalog

/-- The integer nearest to `numerator / denominator`; of two equally near, the
even one. -/
def roundHalfEven (numerator denominator : Nat) : Nat :=
  let quotient := numerator / denominator
  let remainder := numerator % denominator
  if 2 * remainder < denominator then quotient
  else if denominator < 2 * remainder then quotient + 1
  else quotient + quotient % 2

/-- The value of the format nearest to `numerator / denominator` grains. What
rounds to the ceiling or beyond becomes infinite. -/
def BinaryFormat.roundRatio (format : BinaryFormat) (negative : Bool)
    (numerator denominator : Nat) : Number :=
  let spacing := format.spacing (numerator / denominator)
  let step := powerOfTwo spacing
  let grains := roundHalfEven numerator (denominator * step) * step
  if grains < format.ceiling then .finite negative grains else .infinite negative

namespace Number

/-- The value of the format nearest to a number; NaN and the infinities stay. -/
def round (format : BinaryFormat) : Number → Number
  | .nan => .nan
  | .infinite negative => .infinite negative
  | .finite negative grains => format.roundRatio negative grains 1

def toSingle (number : Number) : Number :=
  number.round .binary32

def ofInt (value : Int) : Number :=
  BinaryFormat.binary64.roundRatio (decide (value < 0))
    (value.natAbs * grainsPerUnit) 1

/-- The double-precision value nearest to an integer that is not beyond the
largest of them. -/
def ofInt? (value : Int) : Option Number :=
  let number := ofInt value
  if number.isFinite then some number else none

end Number

end ConstantCatalog
