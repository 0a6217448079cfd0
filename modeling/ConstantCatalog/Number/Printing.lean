import ConstantCatalog.Number.Decimal

/-!
Contract: decimal text of double-precision values.

Two ways of choosing digits share one layout. `significant` rounds to a given
count of digits, a tie going to the even last digit. `shortest` takes the fewest
digits that read back as the same value, and of those the nearest. A
`NumberStyle` says where positional notation ends and whether a whole number
keeps a point.

Owns: both choices of digits, the layout, and the texts of the two styles in use.

Does not own: which output uses which style.
-/

namespace ConstantCatalog

/-- The decimal exponent of a positive count of grains: the greatest `e` such
that the value is at least `10 ^ e`. The value is scaled by `10 ^ 400`, which
makes even one grain exceed one, and the digits of the whole part are counted. -/
def decimalExponent (grains : Nat) : Int :=
  (Nat.toDigits 10 (grains * powerOfTen 400 / grainsPerUnit)).length - 401

namespace Decimal

/-- Numerator of `grains` counted in steps of `10 ^ exponent`. -/
def stepNumerator (grains : Nat) (exponent : Int) : Nat :=
  grains * powerOfTen (-exponent).toNat

def stepDenominator (exponent : Int) : Nat :=
  grainsPerUnit * powerOfTen exponent.toNat

/-- The multiple of `10 ^ exponent` nearest to a count of grains, of two equally near
the even one. -/
def nearestAt (exponent : Int) (grains : Nat) : Decimal :=
  ⟨roundHalfEven (stepNumerator grains exponent) (stepDenominator exponent), exponent⟩

/-- The other one of the two multiples of `10 ^ exponent` next to a count of grains. -/
def secondNearestAt (exponent : Int) (grains : Nat) : Decimal :=
  let below := stepNumerator grains exponent / stepDenominator exponent
  let nearest := (nearestAt exponent grains).coefficient
  ⟨if nearest = below then below + 1 else below, exponent⟩

/-- The decimal of `count` significant digits nearest to a positive count of grains. -/
def significant (count grains : Nat) : Decimal :=
  nearestAt (decimalExponent grains + 1 - count) grains

/-- Whether a decimal is read as exactly this count of grains. -/
def readsAs (decimal : Decimal) (grains : Nat) : Bool :=
  decide (decimal.toNumber false = .finite false grains)

/-- A multiple of `10 ^ exponent` that reads back, the nearer one if both neighbours
do. -/
def readingBackAt? (exponent : Int) (grains : Nat) : Option Decimal :=
  [nearestAt exponent grains, secondNearestAt exponent grains].find? (·.readsAs grains)

/-- The shortest decimal that reads back as a positive double-precision value.
Seventeen digits always read back. -/
def shortest (grains : Nat) : Decimal :=
  let leading := decimalExponent grains
  ((List.range' 1 17).findSome? fun (count : Nat) =>
    readingBackAt? (leading + 1 - count) grains).getD (significant 17 grains)

end Decimal

/-- How the digits of a decimal are laid out as text. -/
structure NumberStyle where
  /-- Decimal exponents from -4 up to this one, exclusive, are written
  positionally; all others with an exponent. -/
  positionalBelow : Int
  /-- Whether a whole number in positional notation ends in `.0`. -/
  pointOnWhole : Bool
deriving DecidableEq, Repr

namespace NumberStyle

def withoutTrailingZeros (digits : List Char) : List Char :=
  (digits.reverse.dropWhile (· = '0')).reverse

/-- An exponent as text: always a sign, and at least two digits. -/
def exponentText (exponent : Int) : List Char :=
  let digits := Nat.toDigits 10 exponent.natAbs
  'e' :: (if exponent < 0 then '-' else '+') ::
    (List.replicate (2 - digits.length) '0' ++ digits)

/-- One digit, the others after a point, and the exponent. -/
def scientific (digits : List Char) (exponent : Int) : List Char :=
  let mantissa :=
    match digits with
    | [] => ['0']
    | [digit] => [digit]
    | digit :: others => digit :: '.' :: others
  mantissa ++ exponentText exponent

/-- All digits in place, zeros filling up to the point. -/
def positional (style : NumberStyle) (digits : List Char) (exponent : Int) : List Char :=
  if exponent < 0 then
    '0' :: '.' :: (List.replicate (-exponent - 1).toNat '0' ++ digits)
  else
    let places := exponent.toNat + 1
    let whole := digits.take places ++ List.replicate (places - digits.length) '0'
    match digits.drop places with
    | [] => if style.pointOnWhole then whole ++ ['.', '0'] else whole
    | fraction => whole ++ '.' :: fraction

/-- The text of a decimal. Zeros at the end of its digits are not written. -/
def layout (style : NumberStyle) (decimal : Decimal) : List Char :=
  let digits := Nat.toDigits 10 decimal.coefficient
  let exponent := decimal.exponent + digits.length - 1
  let shown := withoutTrailingZeros digits
  if exponent < -4 ∨ style.positionalBelow ≤ exponent then scientific shown exponent
  else style.positional shown exponent

end NumberStyle

namespace Number

/-- The text of a number whose positive magnitudes are given digits by `choose`. -/
def textWith (style : NumberStyle) (choose : Nat → Decimal) : Number → List Char
  | .nan => "nan".toList
  | .infinite negative => (if negative then ['-'] else []) ++ "inf".toList
  | .finite negative grains =>
      (if negative then ['-'] else []) ++
        style.layout (if grains = 0 then ⟨0, 0⟩ else choose grains)

/-- At most `count` significant digits; positional for exponents from -4 to
below `count`; zeros at the end and a point without digits are dropped. -/
def generalText (count : Nat) (number : Number) : String :=
  String.ofList (number.textWith ⟨count, false⟩ (Decimal.significant count))

/-- The shortest text that reads back as the same value; positional for exponents
from -4 to 15, a whole number then ending in `.0`. -/
def shortestText (number : Number) : String :=
  String.ofList (number.textWith ⟨16, true⟩ Decimal.shortest)

end Number

end ConstantCatalog
