import ConstantCatalog.Text.Pieces
import ConstantCatalog.Diagnostics.Event

/-!
Contract: the lines of declaration sources.

Every carriage return and every line feed ends a line, so that a pair of them has an
empty line between its two. Bytes are cut into lines before they are decoded, and a
line that is not UTF-8 is left out with an event of its own.

Owns: `DeclarationSource`, its lines, and the events about undecodable ones.

Does not own: what a line declares, or how a file comes to be read.
-/

namespace ConstantCatalog

/-- The content of a declaration file: text, or bytes yet to be decoded. -/
inductive DeclarationSource where
  | text (content : String)
  | bytes (content : ByteArray)

def isLineBreak (character : Char) : Bool :=
  character == '\n' || character == '\r'

def isLineBreakByte (byte : UInt8) : Bool :=
  byte == 0x0A || byte == 0x0D

/-- The text that a sequence of bytes encodes in UTF-8. -/
def decodeUtf8? (bytes : List UInt8) : Option String :=
  String.fromUTF8? ⟨bytes.toArray⟩

def textLines (content : String) : List String :=
  (pieces isLineBreak content.toList).map String.ofList

/-- The lines of a byte sequence before decoding. -/
def byteLines (content : ByteArray) : List (List UInt8) :=
  pieces isLineBreakByte content.data.toList

namespace DeclarationSource

/-- The lines that can be read, in order. -/
def lines : DeclarationSource → List String
  | .text content => textLines content
  | .bytes content => (byteLines content).filterMap decodeUtf8?

/-- One event for each line that cannot be decoded, in order. -/
def lineEvents : DeclarationSource → List Event
  | .text _ => []
  | .bytes content =>
      ((byteLines content).filter fun line => (decodeUtf8? line).isNone).map
        Event.undecodableLine

end DeclarationSource

end ConstantCatalog
