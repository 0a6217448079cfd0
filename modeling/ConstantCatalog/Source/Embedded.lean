import ConstantCatalog.Embedded.ConstantLines
import ConstantCatalog.Embedded.TypeLines

/-!
Contract: the two declaration sources that stand in for files that are not given.

Owns: `EmbeddedSource`, the file names of its sources, and their text.

Does not own: when an embedded source is used.
-/

namespace ConstantCatalog

/-- A source that the library brings along. -/
inductive EmbeddedSource where
  | constants
  | types
deriving DecidableEq, Repr

namespace EmbeddedSource

/-- The file name under which a source is known. -/
def fileName : EmbeddedSource → String
  | constants => "builtins.txt"
  | types => "slua_default.d.luau"

def ofFileName? (name : String) : Option EmbeddedSource :=
  [constants, types].find? (·.fileName == name)

def lines : EmbeddedSource → List String
  | constants => embeddedConstantLines
  | types => embeddedTypeLines

/-- The text of a source: its lines, each ended by a line feed. -/
def text (source : EmbeddedSource) : String :=
  String.join (source.lines.map (· ++ "\n"))

end EmbeddedSource

end ConstantCatalog
