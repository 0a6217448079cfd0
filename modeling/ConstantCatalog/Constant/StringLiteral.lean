import ConstantCatalog.Text.Pieces
import ConstantCatalog.Constant.Scalar

/-!
Contract: string and key values of declarations.

A string literal stands between double quotes. Inside, a backslash takes the next
character with it: `n`, `t` and `r` become line feed, tab and carriage return, any
other character stands for itself. A backslash with nothing after it is kept.

A text in the canonical form of a UUID is a key, whichever keyword declared it.

Owns: `unquoted?`, its decoding, and `isUuid`.

Does not own: the quoting of texts in messages.
-/

namespace ConstantCatalog

/-- What a backslash and this character stand for. -/
def escapedChar : Char → Char
  | 'n' => '\n'
  | 't' => '\t'
  | 'r' => '\r'
  | character => character

/-- The text between the quotes, escapes decoded from left to right. -/
def decodeEscapes : List Char → List Char
  | [] => []
  | '\\' :: character :: rest => escapedChar character :: decodeEscapes rest
  | character :: rest => character :: decodeEscapes rest

def unquoted? : List Char → Option (List Char)
  | '\x22' :: rest =>
      if rest.getLast? = some '\x22' then some (decodeEscapes rest.dropLast) else none
  | _ => none

def uuidGroupLengths : List Nat := [8, 4, 4, 4, 12]

/-- Whether a text is a UUID in canonical form: groups of hexadecimal digits of
either case with hyphens between them. -/
def isUuid (text : List Char) : Bool :=
  let groups := pieces (· == '-') text
  groups.map List.length == uuidGroupLengths && groups.all (·.all isHexDigit)

end ConstantCatalog
