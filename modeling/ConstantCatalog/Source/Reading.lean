import ConstantCatalog.Diagnostics.Reported
import ConstantCatalog.Source.Embedded
import ConstantCatalog.Source.FileView

/-!
Contract: the reading of a declaration source as a whole, from a file that the caller
names or from the embedded source.

A file is used whole or not at all: one that exceeds the budget, or that is not UTF-8
from end to end, is refused with its path and the reason.

Owns: `SourceFault` with its messages and `readSource`.

Does not own: the budget, or what the text declares.
-/

namespace ConstantCatalog

inductive Unavailability where
  | unopened (fault : FileFault)
  | overBudget (budget : Int)
  | notUtf8
deriving DecidableEq, Repr

def Unavailability.reason : Unavailability → String
  | .unopened fault => fault.reason
  | .overBudget budget => s!"file exceeds {budget} bytes"
  | .notUtf8 => "not valid UTF-8"

/-- Why so many bytes cannot be asked of a file. -/
inductive CountFault where
  /-- The count is below minus one, which asks for all that there is. -/
  | negative
  /-- The count is beyond an index, which has 64 bits with sign. -/
  | beyondIndex
  /-- The count is an index, but no buffer can be that long. -/
  | beyondBuffer
  /-- A buffer of that length is more than there is memory for. -/
  | beyondMemory
deriving DecidableEq, Repr

def CountFault.message : CountFault → String
  | .negative => "read length must be non-negative or -1"
  | .beyondIndex => "cannot fit 'int' into an index-sized integer"
  | .beyondBuffer => "byte string is too large"
  | .beyondMemory => ""

/-- The number of values of an index on one side of zero. -/
def indexBound : Int := 9223372036854775808

/-- The bytes that a buffer takes besides its content. -/
def bufferOverhead : Int := 33

/-- Why a count of bytes cannot be asked of a file, if it cannot. The buffer is made as long
as what is asked for, however short the file is. -/
def countFault? (memoryBound count : Int) : Option CountFault :=
  if count < -indexBound ∨ indexBound ≤ count then some .beyondIndex
  else if count < -1 then some .negative
  else if indexBound - bufferOverhead ≤ count then some .beyondBuffer
  else if memoryBound ≤ count then some .beyondMemory
  else none

/-- Why a source cannot be read. -/
inductive SourceFault where
  | unavailable (path : String) (cause : Unavailability)
  /-- The path holds a null character, which no file name can. -/
  | nullInPath
  /-- One byte more than the budget allows cannot be asked for. -/
  | uncountable (fault : CountFault)
deriving DecidableEq, Repr

def SourceFault.message : SourceFault → String
  | .unavailable path cause =>
      "couldn't read declaration file " ++ path ++ ": " ++ cause.reason
  | .nullInPath => "embedded null byte"
  | .uncountable fault => fault.message

/-- The refusal of a file, with the event that reports it. -/
def refusal (event : Event) (path : String)
    (cause : Unavailability) : Reported SourceFault String :=
  ⟨[event], .error (.unavailable path cause)⟩

def readContent (memoryBound budget : Int) (path : String)
    (content : ByteArray) : Reported SourceFault String :=
  match countFault? memoryBound (budget + 1) with
  | some fault => ⟨[], .error (.uncountable fault)⟩
  | none =>
      if budget < content.size then
        refusal (.fileTooLarge path) path (.overBudget budget)
      else
        match String.fromUTF8? content with
        | some text => .done text
        | none => refusal (.fileUndecodable path) path .notUtf8

def readFile (files : FileView) (budget : Int) (path : SourcePath) : Reported SourceFault String :=
  if path.text.toList.contains '\x00' then ⟨[], .error .nullInPath⟩
  else
    match files path with
    | .ok content => readContent files.memoryBound budget path.text content
    | .error fault => refusal (.fileUnopened path.text) path.text (.unopened fault)

/-- The text of a file, if one is given, and of the embedded source otherwise. -/
def readSource (files : FileView) (budget : Int)
    (embedded : EmbeddedSource) : Option SourcePath → Reported SourceFault String
  | some path => readFile files budget path
  | none => .done embedded.text

end ConstantCatalog
