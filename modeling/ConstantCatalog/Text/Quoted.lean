import ConstantCatalog.Text.Unprintable

/-!
Contract: the quoted form in which messages and reports show texts and bytes.

The quote is the apostrophe, unless the text has an apostrophe and no double
quote. The quote in use and the backslash stand after a backslash; line feed,
carriage return and tab are written by letter; any other character that is not
printable is written by its code in two, four or eight hexadecimal digits.

Owns: `quoted` for texts and `quotedBytes` for byte sequences.

Does not own: the decoding of string literals in declarations, whose escapes are
different ones.
-/

namespace ConstantCatalog

/-- The lower-case hexadecimal digits of a number, filled up to a width. -/
def hexadecimal (width number : Nat) : List Char :=
  let digits := Nat.toDigits 16 number
  List.replicate (width - digits.length) '0' ++ digits

/-- A character by its code, in the narrowest of the three forms that holds it. -/
def codeEscape (code : Nat) : List Char :=
  if code ≤ 0xFF then '\\' :: 'x' :: hexadecimal 2 code
  else if code ≤ 0xFFFF then '\\' :: 'u' :: hexadecimal 4 code
  else '\\' :: 'U' :: hexadecimal 8 code

/-- A character inside a text that is quoted by `quote`. -/
def quotedChar (quote character : Char) : List Char :=
  if character = quote ∨ character = '\\' then ['\\', character]
  else if character = '\n' then ['\\', 'n']
  else if character = '\r' then ['\\', 'r']
  else if character = '\t' then ['\\', 't']
  else if isPrintable character then [character]
  else codeEscape character.toNat

/-- The quote for a text with these characters. -/
def quoteFor (hasApostrophe hasDoubleQuote : Bool) : Char :=
  if hasApostrophe && !hasDoubleQuote then '\x22' else '\x27'

def quoted (text : String) : String :=
  let characters := text.toList
  let quote := quoteFor (characters.contains '\x27') (characters.contains '\x22')
  String.ofList (quote :: (characters.flatMap (quotedChar quote) ++ [quote]))

/-- A byte inside a byte sequence that is quoted by `quote`: as the ASCII character
of that code, if it is one that is shown, and by its code otherwise. -/
def quotedByte (quote : Char) (byte : UInt8) : List Char :=
  if byte.toNat < 0x7F then quotedChar quote (Char.ofNat byte.toNat)
  else codeEscape byte.toNat

/-- The quoted form of a byte sequence, marked by a leading `b`. -/
def quotedBytes (bytes : List UInt8) : String :=
  let quote := quoteFor (bytes.contains 0x27) (bytes.contains 0x22)
  String.ofList ('b' :: quote :: (bytes.flatMap (quotedByte quote) ++ [quote]))

end ConstantCatalog
