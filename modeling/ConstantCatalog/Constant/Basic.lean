import ConstantCatalog.Number.Basic
import ConstantCatalog.Text.UnknownName

/-!
Contract: the constants of a script dialect and the kinds of value they hold.

Owns: `ConstantKind` with its names, vectors and rotations, `ConstantValue` and
`Constant`.

Does not own: how values are spelled in declarations or published to a machine.
-/

namespace ConstantCatalog

inductive ConstantKind where
  | null
  | integer
  | float
  | string
  | key
  | vector
  | quaternion
  | list
  | error
deriving DecidableEq, Repr

namespace ConstantKind

def all : List ConstantKind :=
  [null, integer, float, string, key, vector, quaternion, list, error]

def name : ConstantKind → String
  | null => "null"
  | integer => "integer"
  | float => "float"
  | string => "string"
  | key => "key"
  | vector => "vector"
  | quaternion => "quaternion"
  | list => "list"
  | error => "error"

def ofName? (name : String) : Option ConstantKind :=
  all.find? (·.name == name)

def isNumeric : ConstantKind → Bool
  | integer | float => true
  | _ => false

def isText : ConstantKind → Bool
  | string | key => true
  | _ => false

/-- The kind that a type keyword of a declaration stands for. -/
def ofKeyword? : String → Option ConstantKind
  | "integer" => some integer
  | "float" => some float
  | "string" => some string
  | "key" => some key
  | "vector" => some vector
  | "rotation" => some quaternion
  | _ => none

end ConstantKind

def ConstantKind.ofName (name : String) : Except UnknownName ConstantKind :=
  knownName "ConstantKind" name (ofName? name)

structure Vector3 where
  x : Number
  y : Number
  z : Number
deriving DecidableEq, Repr

def Vector3.components (vector : Vector3) : List Number :=
  [vector.x, vector.y, vector.z]

/-- A rotation: three components and the scalar part `s`. -/
structure Rotation where
  x : Number
  y : Number
  z : Number
  s : Number
deriving DecidableEq, Repr

def Rotation.components (rotation : Rotation) : List Number :=
  [rotation.x, rotation.y, rotation.z, rotation.s]

/-- The value of a constant. Lists, errors and nulls are recorded without content. -/
inductive ConstantValue where
  | null
  | integer (value : Int)
  | float (value : Number)
  | string (text : String)
  | key (text : String)
  | vector (value : Vector3)
  | quaternion (value : Rotation)
  | list
  | error
deriving DecidableEq, Repr

def ConstantValue.kind : ConstantValue → ConstantKind
  | .null => .null
  | .integer _ => .integer
  | .float _ => .float
  | .string _ => .string
  | .key _ => .key
  | .vector _ => .vector
  | .quaternion _ => .quaternion
  | .list => .list
  | .error => .error

structure Constant where
  name : String
  value : ConstantValue
deriving DecidableEq, Repr

def Constant.kind (constant : Constant) : ConstantKind :=
  constant.value.kind

end ConstantCatalog
