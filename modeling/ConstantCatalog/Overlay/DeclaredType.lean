import ConstantCatalog.Text.UnknownName

/-!
Contract: the types that a type declaration can give a constant.

Owns: `DeclaredType`, its names, and the labels that stand for each type.

Does not own: which constants can take which type.
-/

namespace ConstantCatalog

/-- The declared type of a constant. A label that names no type leaves it unknown. -/
inductive DeclaredType where
  | number
  | string
  | uuid
  | vector
  | quaternion
  | unknown
deriving DecidableEq, Repr

namespace DeclaredType

def all : List DeclaredType := [number, string, uuid, vector, quaternion, unknown]

def name : DeclaredType → String
  | number => "number"
  | string => "string"
  | uuid => "uuid"
  | vector => "vector"
  | quaternion => "quaternion"
  | unknown => "unknown"

def ofName? (name : String) : Option DeclaredType :=
  all.find? (·.name == name)

/-- The type of a name, or the refusal of the name. A label that stands for a type
under another name is refused here. -/
def ofName (name : String) : Except UnknownName DeclaredType :=
  knownName "OverlayType" name (ofName? name)

/-- The type that a label declares. A rotation is a quaternion. -/
def ofLabel : String → DeclaredType
  | "number" => number
  | "string" => string
  | "uuid" => uuid
  | "vector" => vector
  | "quaternion" => quaternion
  | "rotation" => quaternion
  | _ => unknown

end DeclaredType

end ConstantCatalog
