import ConstantCatalog.Text.Digit
import ConstantCatalog.Text.Pieces
import ConstantCatalog.Text.Quoted
import ConstantCatalog.Number.Numeral

/-!
Contract: integers as settings spell them.

White space of any script may surround the integer, a sign may precede it, its
digits may be those of any script, and single underscores may stand between
digits. More than `maxIntegerDigits` digits are refused before they are converted.

Owns: `IntegerFault` with its messages and `readSettingInteger`.

Does not own: the stricter integers of declarations.
-/

namespace ConstantCatalog

/-- The most decimal digits that an integer may be written with. -/
def maxIntegerDigits : Nat := 4300

/-- Why a text is no integer. -/
inductive IntegerFault where
  | tooManyDigits (count : Nat)
  /-- The text is not spelled like an integer. -/
  | unreadable (text : String)
deriving DecidableEq, Repr

namespace IntegerFault

def tooManyDigitsMessage (count : Nat) : String :=
  s!"Exceeds the limit ({maxIntegerDigits} digits) for integer string conversion: " ++
  s!"value has {count} digits; use sys.set_int_max_str_digits() to increase the limit"

/-- The message of a fault. Of an unreadable text at most two hundred characters
of its quoted form are shown. -/
def message : IntegerFault → String
  | .tooManyDigits count => tooManyDigitsMessage count
  | .unreadable text =>
      "invalid literal for int() with base 10: " ++
        String.ofList ((quoted text).toList.take 200)

end IntegerFault

def isPlainSpace (character : Char) : Bool :=
  character == ' ' ||
    (decide ('\t'.toNat ≤ character.toNat) && decide (character.toNat ≤ '\r'.toNat))

/-- The ASCII character that a character of a setting counts as: a space for white
space, the digit for a digit of any script, itself within ASCII, and otherwise a
character that belongs to no integer. -/
def plainSettingChar (character : Char) : Char :=
  if character.toNat < 0x7F then character
  else if wideSpaceRanges.contains character then ' '
  else
    match digitValue? character with
    | some value => Char.ofNat ('0'.toNat + value)
    | none => '?'

/-- Whether underscores stand singly between digits. -/
def underscoresSeparateDigits (run : List Char) : Bool :=
  (pieces (· == '_') run).all (!·.isEmpty)

/-- The integer that a setting spells. -/
def readSettingInteger (text : String) : Except IntegerFault Int :=
  let plain := (text.toList.map plainSettingChar).dropWhile isPlainSpace
  let (sign, unsigned) := splitSign plain
  let belongs := fun character => character.isDigit || character == '_'
  let run := unsigned.takeWhile belongs
  let digits := run.filter Char.isDigit
  if !underscoresSeparateDigits run then .error (.unreadable text)
  else if maxIntegerDigits < digits.length then .error (.tooManyDigits digits.length)
  else if (unsigned.dropWhile belongs).all isPlainSpace then
    let magnitude : Int := digitsValue digits
    .ok (if sign = some '-' then -magnitude else magnitude)
  else .error (.unreadable text)

end ConstantCatalog
