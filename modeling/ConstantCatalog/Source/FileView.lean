import ConstantCatalog.Source.Path

/-!
Contract: the files that a loading can see, and why one cannot be had.

A file is read into a buffer, for which there may be no memory. From which length on that
is so belongs to the surroundings, like the files themselves.

Owns: `FileFault`, `FileView`, and a directory tree held in memory with the rules by
which a path is followed in it.

Does not own: limits on the size of files, or their decoding.
-/

namespace ConstantCatalog

inductive FileFault where
  | missing
  | isDirectory
  | notDirectory
  | nameTooLong
  | permissionDenied
  | other (reason : String)
deriving DecidableEq, Repr

def FileFault.reason : FileFault → String
  | .missing => "No such file or directory"
  | .isDirectory => "Is a directory"
  | .notDirectory => "Not a directory"
  | .nameTooLong => "File name too long"
  | .permissionDenied => "Permission denied"
  | .other reason => reason

/-- What surrounds a loading. -/
structure FileView where
  /-- What is answered when a path is opened. -/
  opened : SourcePath → Except FileFault ByteArray
  /-- The length from which on there is no memory for a buffer. Where no other is known, it
  is a tebibyte. -/
  memoryBound : Int := 1099511627776

/-- A view answers a path as the surroundings do. -/
instance : CoeFun FileView fun _ => SourcePath → Except FileFault ByteArray :=
  ⟨FileView.opened⟩

/-- The most bytes that a segment of a path may have. -/
def maxSegmentBytes : Nat := 255

/-- The number of bytes that the text of a path must stay below. -/
def pathBytesBound : Nat := 4096

/-- Something in a directory tree, under the segments that lead to it from the working
directory. -/
structure TreeEntry where
  location : List String
  /-- The content of a file; none for a directory. -/
  content : Option ByteArray

/-- A tree of files as a list of its entries. The directories above an entry exist
without entries of their own. -/
structure FileTree where
  entries : List TreeEntry

inductive TreeNode where
  | file (content : ByteArray)
  | directory
  | nothing

/-- A place that a path has come to: so many directories above the working directory
(all of them, for the root), or a location below it. -/
inductive TreePlace where
  | root
  | above (levels : Nat)
  | within (location : List String)

namespace FileTree

/-- The tree of the given files (with content) and directories (without). -/
def ofEntries (entries : List (String × Option ByteArray)) : FileTree :=
  ⟨entries.map fun (name, content) => ⟨(SourcePath.ofText name).segments, content⟩⟩

def nodeAt (tree : FileTree) (location : List String) : TreeNode :=
  match tree.entries.find? (·.location == location) with
  | some ⟨_, some content⟩ => .file content
  | some ⟨_, none⟩ => .directory
  | none =>
      if location.isEmpty || tree.entries.any (location.isPrefixOf ·.location) then
        .directory
      else .nothing

/-- Follows segments from a directory. Only double dots lead out of the working
directory, and of what lies there nothing is known. -/
def follow (tree : FileTree) : TreePlace → List String → Except FileFault ByteArray
  | .root, [] => .error .isDirectory
  | .above _, [] => .error .isDirectory
  | .within _, [] => .error .isDirectory
  | .root, segment :: rest =>
      if SourcePath.isParent segment then tree.follow .root rest
      else if maxSegmentBytes < segment.utf8ByteSize then .error .nameTooLong
      else .error .missing
  | .above levels, segment :: rest =>
      if SourcePath.isParent segment then tree.follow (.above (levels + 1)) rest
      else if maxSegmentBytes < segment.utf8ByteSize then .error .nameTooLong
      else .error .missing
  | .within location, segment :: rest =>
      if SourcePath.isParent segment then
        match location with
        | [] => tree.follow (.above 1) rest
        | _ => tree.follow (.within location.dropLast) rest
      else if maxSegmentBytes < segment.utf8ByteSize then .error .nameTooLong
      else
        match tree.nodeAt (location ++ [segment]) with
        | .nothing => .error .missing
        | .directory => tree.follow (.within (location ++ [segment])) rest
        | .file content => if rest.isEmpty then .ok content else .error .notDirectory

/-- The view of a tree: the content of a file that a path leads to. -/
def view (tree : FileTree) : FileView where
  opened path :=
    if pathBytesBound ≤ path.text.utf8ByteSize then .error .nameTooLong
    else
      tree.follow
        (match path.root with
          | .relative => .within []
          | _ => .root)
        path.segments

end FileTree

end ConstantCatalog
