import ConstantCatalog.Text.Pieces

/-!
Contract: the names of declaration files.

A path is the root that it starts from, if any, and a list of segments. Empty segments
and single dots are dropped when a path is read; double dots stay, since what they
mean depends on the directories. Two slashes at the start are kept as two, any other
number counts as one.

Owns: `SourcePath`, reading it, and its normal text.

Does not own: what a path leads to.
-/

namespace ConstantCatalog

inductive PathRoot where
  | relative
  | slash
  | doubleSlash
deriving DecidableEq, Repr

def PathRoot.text : PathRoot → String
  | .relative => ""
  | .slash => "/"
  | .doubleSlash => "//"

/-- A path in normal form. -/
structure SourcePath where
  root : PathRoot
  segments : List String
deriving DecidableEq, Repr

namespace SourcePath

/-- The root of a path that begins with so many slashes. -/
def rootOf : Nat → PathRoot
  | 0 => .relative
  | 2 => .doubleSlash
  | _ => .slash

def isSegment (piece : List Char) : Bool :=
  !(piece.isEmpty || piece == ['.'])

def ofText (text : String) : SourcePath :=
  let characters := text.toList
  { root := rootOf (characters.takeWhile (· == '/')).length
    segments := ((pieces (· == '/') characters).filter isSegment).map String.ofList }

/-- The text of a path: its segments between slashes, a dot if there is nothing. -/
def text (path : SourcePath) : String :=
  match path.root, path.segments with
  | .relative, [] => "."
  | root, segments => root.text ++ String.intercalate "/" segments

/-- Whether a segment leads to the directory above. -/
def isParent (segment : String) : Bool := segment == ".."

end SourcePath

end ConstantCatalog
