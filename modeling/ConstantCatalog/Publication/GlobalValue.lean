import ConstantCatalog.Constant.Basic

/-!
Contract: the representations in which constants become globals of the machine.

Owns: `GlobalKind` with its names and `GlobalValue`.

Does not own: which representation a constant takes.
-/

namespace ConstantCatalog

inductive GlobalKind where
  | number
  | string
  | uuid
  | vector
  | quaternion
  | nil
deriving DecidableEq, Repr

namespace GlobalKind

def all : List GlobalKind := [number, string, uuid, vector, quaternion, nil]

def name : GlobalKind → String
  | number => "number"
  | string => "string"
  | uuid => "uuid"
  | vector => "vector"
  | quaternion => "quaternion"
  | nil => "nil"

def ofName? (name : String) : Option GlobalKind :=
  all.find? (·.name == name)

def ofName (name : String) : Except UnknownName GlobalKind :=
  knownName "PublishKind" name (ofName? name)

end GlobalKind

/-- A value of the machine. A vector has three components, or four where the machine's
vectors are that wide. -/
inductive GlobalValue where
  | number (value : Number)
  | string (text : String)
  | uuid (text : String)
  | vector (value : Vector3) (fourth : Option Number)
  | quaternion (value : Rotation)
  | nil
deriving DecidableEq, Repr

namespace GlobalValue

def kind : GlobalValue → GlobalKind
  | number _ => .number
  | string _ => .string
  | uuid _ => .uuid
  | vector _ _ => .vector
  | quaternion _ => .quaternion
  | nil => .nil

/-- The components of a vector or a quaternion; no others have any. -/
def components : GlobalValue → List Number
  | vector value fourth => value.components ++ fourth.toList
  | quaternion value => value.components
  | _ => []

end GlobalValue

end ConstantCatalog
