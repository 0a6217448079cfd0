import ConstantCatalog.Number.Basic

/-!
Contract: the interchange pattern of a double-precision value: one sign bit,
eleven exponent bits, fifty-two fraction bits.

Owns: `Number.ofBits` and `Number.toBits`. Every NaN is written as the one quiet
pattern without payload.

Does not own: the spelling of a pattern as text.
-/

namespace ConstantCatalog

/-- The weight of the lowest exponent bit of a pattern, and the number of values that
the fraction bits have. -/
def exponentUnit : Nat := powerOfTwo 52

def signUnit : Nat := powerOfTwo 63

/-- The exponent field of the infinities and of NaN; also the mask of exponents. -/
def greatestExponent : Nat := 2047

namespace Number

/-- The value that a 64-bit pattern stands for. -/
def ofBits (pattern : UInt64) : Number :=
  let word := pattern.toNat
  let negative := decide (signUnit ≤ word)
  let exponent := word / exponentUnit % (greatestExponent + 1)
  let fraction := word % exponentUnit
  if exponent = greatestExponent then
    if fraction = 0 then .infinite negative else .nan
  else if exponent = 0 then
    .finite negative fraction
  else
    .finite negative ((exponentUnit + fraction) * powerOfTwo (exponent - 1))

/-- The exponent and fraction fields of a finite double-precision magnitude. -/
def magnitudeWord (grains : Nat) : Nat :=
  if grains < exponentUnit then grains
  else
    let spacing := grains.log2 - 52
    (spacing + 1) * exponentUnit + (grains / powerOfTwo spacing - exponentUnit)

/-- The sign field of a pattern. -/
def signWord (negative : Bool) : Nat :=
  if negative then signUnit else 0

def toBits : Number → UInt64
  | .nan => UInt64.ofNat (greatestExponent * exponentUnit + exponentUnit / 2)
  | .infinite negative =>
      UInt64.ofNat (signWord negative + greatestExponent * exponentUnit)
  | .finite negative grains => UInt64.ofNat (signWord negative + magnitudeWord grains)

end Number

end ConstantCatalog
