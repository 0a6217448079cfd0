import ConstantCatalog.Constant.StringLiteral
import ConstantCatalog.Declaration.Reading
import ConstantCatalog.Literal.Grammar

/-!
Contract: constant declarations, one to a line:

  const <keyword> <name> = <value>

Blank lines and lines that begin with two slashes declare nothing. Any other line
must consist of at least four words, the first `const` and the fourth an equals sign.
The value is what follows the first equals sign of the line, without the blanks around
it. The names TRUE and FALSE are reserved: a declaration of either is passed over.

Owns: the header of a declaration, the reading of values by kind, the sizes that a
constant is charged with, and `constantFormat`.

Does not own: scalar, string and vector grammars.
-/

namespace ConstantCatalog

/-- What a line is, judged by its words. -/
inductive ConstantLine where
  | silent
  /-- A line that is not a declaration, without the blanks around it. -/
  | foreign (trimmed : List Char)
  | declaration (keyword name value : List Char)
deriving DecidableEq, Repr

/-- What follows the first equals sign of a text. -/
def afterEquals (text : List Char) : List Char :=
  (text.dropWhile (· != '=')).drop 1

def ConstantLine.ofText (text : List Char) : ConstantLine :=
  let trimmed := trimBlanks text
  if trimmed.isEmpty || ['/', '/'].isPrefixOf trimmed then .silent
  else
    match blankSeparatedWords trimmed with
    | first :: keyword :: name :: fourth :: _ =>
        if first == "const".toList && fourth == ['='] then
          .declaration keyword name (trimBlanks (afterEquals trimmed))
        else .foreign trimmed
    | _ => .foreign trimmed

/-- The names that no declaration can define. -/
def reservedNames : List String := ["TRUE", "FALSE"]

/-- The value of a string literal: a key if it has the form of a UUID. -/
def stringValue (content : List Char) : ConstantValue :=
  if isUuid content then .key (String.ofList content)
  else .string (String.ofList content)

def vectorValue? (text : List Char) : Option ConstantValue :=
  match Literal.components text with
  | .ok [x, y, z] => some (.vector ⟨x, y, z⟩)
  | _ => none

def rotationValue? (text : List Char) : Option ConstantValue :=
  match Literal.components text with
  | .ok [x, y, z, s] => some (.quaternion ⟨x, y, z, s⟩)
  | _ => none

/-- The value that a text spells for a kind, if it spells one. -/
def readValue (kind : ConstantKind)
    (text : List Char) : Except ConversionFault (Option ConstantValue) :=
  match kind with
  | .integer => (readInteger text).map (·.map .integer)
  | .float => (readFloat text).map (·.map .float)
  | .string => .ok ((unquoted? text).map stringValue)
  | .key => .ok ((unquoted? text).map fun content => .key (String.ofList content))
  | .vector => .ok (vectorValue? text)
  | .quaternion => .ok (rotationValue? text)
  | .null | .list | .error => .ok none

/-- The sizes that the copies of a value are charged with. Numbers are not copied. -/
def ConstantValue.copySizes : ConstantValue → List Nat
  | .string text | .key text => [text.utf8ByteSize]
  | .vector value => [componentSize * value.components.length]
  | .quaternion value => [componentSize * value.components.length]
  | _ => []

/-- The sizes that the copies of a constant are charged with: its value first, then
its name. -/
def Constant.copySizes (constant : Constant) : List Nat :=
  constant.value.copySizes ++ [constant.name.utf8ByteSize]

/-- Reads a value and charges its copy. -/
def admitValue (arena : Arena) (kind : ConstantKind)
    (text : String) : Arena × Except LoadFault (Option ConstantValue) :=
  match readValue kind text.toList with
  | .error fault => (arena, .error (.unconvertible fault))
  | .ok none => (arena, .ok none)
  | .ok (some value) =>
      match arena.chargeAll value.copySizes with
      | (charged, none) => (charged, .ok (some value))
      | (charged, some cause) => (charged, .error (.exhausted cause))

def readDeclaration (keyword name : String) (value : List Char) : LineReading Constant :=
  if reservedNames.contains name then .skipped []
  else
    match ConstantKind.ofKeyword? keyword with
    | none => .skipped [.unsupportedKeyword name keyword]
    | some kind =>
        match readValue kind value with
        | .error fault => .unconvertible fault
        | .ok none => .skipped [.malformedValue name keyword (String.ofList value)]
        | .ok (some found) =>
            let constant : Constant := ⟨name, found⟩
            .accepted name constant constant.copySizes []

def readConstantLine (line : String) : LineReading Constant :=
  match ConstantLine.ofText line.toList with
  | .silent => .skipped []
  | .foreign trimmed => .skipped [.foreignLine (String.ofList trimmed)]
  | .declaration keyword name value =>
      readDeclaration (String.ofList keyword) (String.ofList name) value

def constantFormat : DeclarationFormat Constant where
  readLine := readConstantLine
  loadedEvent := Event.constantsLoaded

end ConstantCatalog
