import ConstantCatalog.Number.IntegerText

/-!
Contract: the integer and float values of declarations.

An integer is optionally signed decimal digits, or `0x` and hexadecimal digits
without a sign, and must fit in 32 bits. A float is a numeral, stored in single
precision. Any other text is no value of its kind and its line is passed over.

Two texts are recognised as values but cannot be converted: a decimal of more than
`maxIntegerDigits` digits, and a word numeral written with a dotted capital or a
dotless small I, which are letters i to a comparison without regard to case.

Owns: `ConversionFault`, `readInteger` and `readFloat`.

Does not own: numerals inside vectors, which admit ASCII letters alone.
-/

namespace ConstantCatalog

/-- A value that is recognised but cannot be converted. -/
inductive ConversionFault where
  | tooManyDigits (count : Nat)
  | unreadableFloat (text : String)
deriving DecidableEq, Repr

def ConversionFault.message : ConversionFault → String
  | .tooManyDigits count => IntegerFault.tooManyDigitsMessage count
  | .unreadableFloat text => "could not convert string to float: " ++ quoted text

def isHexDigit (character : Char) : Bool :=
  character.isDigit ||
    (decide ('a'.toNat ≤ character.toNat) && decide (character.toNat ≤ 'f'.toNat)) ||
    (decide ('A'.toNat ≤ character.toNat) && decide (character.toNat ≤ 'F'.toNat))

def hexDigitValue (digit : Char) : Nat :=
  if digit.isDigit then digit.toNat - '0'.toNat
  else digit.toLower.toNat - 'a'.toNat + 10

def hexDigitsValue (digits : List Char) : Nat :=
  digits.foldl (fun value digit => 16 * value + hexDigitValue digit) 0

/-- The least and the greatest integer of 32 bits with sign. -/
def leastInteger : Int := -2147483648

def greatestInteger : Int := 2147483647

def fitting32? (value : Int) : Option Int :=
  if leastInteger ≤ value ∧ value ≤ greatestInteger then some value else none

/-- The sign and the digits of a text that is an optionally signed decimal. -/
def signedDigits? (text : List Char) : Option (Option Char × List Char) :=
  let (sign, digits) := splitSign text
  if !digits.isEmpty && digits.all Char.isDigit then some (sign, digits) else none

/-- The digits of a text that is `0x` and hexadecimal digits. -/
def prefixedHexDigits? : List Char → Option (List Char)
  | '0' :: 'x' :: digits =>
      if !digits.isEmpty && digits.all isHexDigit then some digits else none
  | _ => none

def signedValue (sign : Option Char) (digits : List Char) : Int :=
  if sign = some '-' then -(digitsValue digits : Int) else (digitsValue digits : Int)

/-- The integer value that a text declares, if it declares one. -/
def readInteger (text : List Char) : Except ConversionFault (Option Int) :=
  match signedDigits? text with
  | some (sign, digits) =>
      if maxIntegerDigits < digits.length then .error (.tooManyDigits digits.length)
      else .ok (fitting32? (signedValue sign digits))
  | none => .ok ((prefixedHexDigits? text).bind fun digits =>
      fitting32? (hexDigitsValue digits : Int))

/-- A letter with the dotted capital and the dotless small I taken for an i. -/
def plainLetterI (character : Char) : Char :=
  if character = '\u0130' ∨ character = '\u0131' then 'i' else character

/-- The float value that a text declares, if it declares one. -/
def readFloat (text : List Char) : Except ConversionFault (Option Number) :=
  match Numeral.read? text with
  | some numeral => .ok (some numeral.toSingle)
  | none =>
      if (Numeral.read? (text.map plainLetterI)).isSome then
        .error (.unreadableFloat (String.ofList text))
      else .ok none

end ConstantCatalog
