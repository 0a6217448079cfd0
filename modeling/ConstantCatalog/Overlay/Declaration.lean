import ConstantCatalog.Declaration.Reading
import ConstantCatalog.Text.Blank

/-!
Contract: type declarations, one to a line:

  declare <name>: <label>

Blank lines and lines that begin with two hyphens declare nothing. A line that does
not begin with `declare` and a space, that has no colon, or that contains one of the
marks of functions, external types and tables is passed over without a word.

Owns: the shape of a declaration, its names, and `typeFormat`.

Does not own: the meaning of labels.
-/

namespace ConstantCatalog

/-- The marks of declarations that are more than a name with a type: two words, an
opening parenthesis, an opening brace. -/
def compoundMarks : List (List Char) :=
  ["function".toList, "extern".toList, ['('], ['\x7b']]

def occursIn (part : List Char) : List Char → Bool
  | [] => part.isEmpty
  | character :: rest => part.isPrefixOf (character :: rest) || occursIn part rest

/-- The characters of declared names: ASCII letters and digits, and the underscore. -/
def isNameChar (character : Char) : Bool :=
  character.isAlphanum || character == '_'

def hasNameCharsOnly (text : List Char) : Bool :=
  text.all isNameChar

/-- What a line of type declarations is. -/
inductive TypeLine where
  | silent
  /-- A declaration without a proper name or without a label, as it is written. -/
  | malformed (trimmed : List Char)
  | declaration (name label : List Char)
deriving DecidableEq, Repr

def declareOpening : List Char := "declare ".toList

/-- What the text after the opening of a declaration declares. -/
def TypeLine.ofBody (trimmed body : List Char) : TypeLine :=
  match body.dropWhile (· != ':') with
  | [] => .silent
  | _ :: afterColon =>
      let name := trimBlanks (body.takeWhile (· != ':'))
      let label := trimBlanks afterColon
      if name.isEmpty || label.isEmpty || !hasNameCharsOnly name then
        .malformed trimmed
      else .declaration name label

def TypeLine.ofText (text : List Char) : TypeLine :=
  let trimmed := trimBlanks text
  if trimmed.isEmpty || ['-', '-'].isPrefixOf trimmed then .silent
  else if !declareOpening.isPrefixOf trimmed then .silent
  else if compoundMarks.any (occursIn · trimmed) then .silent
  else TypeLine.ofBody trimmed (trimmed.drop declareOpening.length)

/-- What a line of a source of type declarations amounts to. Only its name is
copied. -/
def readTypeLine (line : String) : LineReading DeclaredType :=
  match TypeLine.ofText line.toList with
  | .silent => .skipped []
  | .malformed trimmed => .skipped [.malformedTypeLine (String.ofList trimmed)]
  | .declaration nameText labelText =>
      let name := String.ofList nameText
      let label := String.ofList labelText
      let declared := DeclaredType.ofLabel label
      let events :=
        if declared = .unknown then [Event.unrecognizedLabel name label] else []
      .accepted name declared [name.utf8ByteSize] events

def typeFormat : DeclarationFormat DeclaredType where
  readLine := readTypeLine
  loadedEvent := fun count _ => Event.typesLoaded count

end ConstantCatalog
