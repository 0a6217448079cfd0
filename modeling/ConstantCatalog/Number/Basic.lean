/-!
Contract: exact values of binary floating point and the grids that hold them.

A finite value is a sign and a whole count of grains, one grain being
`2 ^ -1074`, so that every binary64 value (and with it every binary32 value) is
such a count and comparing magnitudes is comparing natural numbers.

Owns:
- the powers of two and of ten that grids and decimals are made of;
- `Number`, its magnitude and its membership in a format's grid;
- `BinaryFormat` with the binary64 and binary32 parameters.

Does not own: rounding onto a grid, bit patterns, or any decimal text.
-/

namespace ConstantCatalog

def powerOfTwo (exponent : Nat) : Nat := Nat.pow 2 exponent

def powerOfTen (exponent : Nat) : Nat := Nat.pow 10 exponent

theorem powerOfTwo_pos (exponent : Nat) : 0 < powerOfTwo exponent :=
  Nat.pow_pos (by decide)

theorem powerOfTen_pos (exponent : Nat) : 0 < powerOfTen exponent :=
  Nat.pow_pos (by decide)

/-- The grains that make up one unit. -/
def grainsPerUnit : Nat := powerOfTwo 1074

/-- A floating-point value held exactly. A finite value is a sign and a count of
grains of `2 ^ -1074`; the sign is kept for zero as well. -/
inductive Number where
  | nan
  | infinite (negative : Bool)
  | finite (negative : Bool) (grains : Nat)
deriving DecidableEq, Repr, Inhabited

/-- A binary format: how many significant bits it keeps, and the exponents (in
grains) of its finest and its coarsest spacing. -/
structure BinaryFormat where
  precision : Nat
  finest : Nat
  coarsest : Nat
deriving DecidableEq, Repr

/-- Double precision: 53 bits, spacings from `2 ^ -1074` to `2 ^ 971`. -/
def BinaryFormat.binary64 : BinaryFormat := ⟨53, 0, 2045⟩

/-- Single precision: 24 bits, spacings from `2 ^ -149` to `2 ^ 104`. -/
def BinaryFormat.binary32 : BinaryFormat := ⟨24, 925, 1178⟩

/-- The first grain count past the largest finite value of the format. -/
def BinaryFormat.ceiling (format : BinaryFormat) : Nat :=
  powerOfTwo (format.precision + format.coarsest)

/-- The exponent of the spacing that the format uses around `grains`: as fine as
its precision allows, but no finer than its finest spacing. -/
def BinaryFormat.spacing (format : BinaryFormat) (grains : Nat) : Nat :=
  max format.finest (grains.log2 + 1 - format.precision)

namespace Number

def isFinite : Number → Bool
  | .finite _ _ => true
  | _ => false

/-- Membership in a format's grid. A finite member is an integer of at most
`precision` bits times one of the format's spacings. -/
def IsMember (format : BinaryFormat) : Number → Prop
  | .nan => True
  | .infinite _ => True
  | .finite _ grains =>
      ∃ significand exponent,
        significand < powerOfTwo format.precision ∧
        format.finest ≤ exponent ∧ exponent ≤ format.coarsest ∧
        grains = significand * powerOfTwo exponent

end Number

end ConstantCatalog
