import ConstantCatalog.Text.UnknownName

/-!
Contract: the dialects of the scripting machine and the width of its vectors.

Owns: `Dialect`, `VectorWidth`, and the refusal of anything else.

Does not own: where a dialect or a width is configured.
-/

namespace ConstantCatalog

/-- The dialect that the machine runs. `lsl` knows constants by their own kinds;
`slua` gives them declared types. -/
inductive Dialect where
  | lsl
  | slua
deriving DecidableEq, Repr

namespace Dialect

def all : List Dialect := [lsl, slua]

def name : Dialect → String
  | lsl => "lsl"
  | slua => "slua"

def ofName? (name : String) : Option Dialect :=
  all.find? (·.name == name)

end Dialect

/-- How many components the vectors of the machine have. -/
inductive VectorWidth where
  | three
  | four
deriving DecidableEq, Repr

namespace VectorWidth

def toNat : VectorWidth → Nat
  | three => 3
  | four => 4

def ofInt? (size : Int) : Option VectorWidth :=
  if size = 3 then some three
  else if size = 4 then some four
  else none

end VectorWidth

end ConstantCatalog
