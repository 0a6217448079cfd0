import ConstantCatalog.Text.Quoted

/-!
Contract: names that stand for none of the members of a category.

Owns: `UnknownName` with its message and `knownName`.

Does not own: the categories and the names of their members.
-/

namespace ConstantCatalog

variable {α : Type}

/-- A name, and the category that has no member of that name. -/
structure UnknownName where
  name : String
  category : String
deriving DecidableEq, Repr

def UnknownName.message (unknown : UnknownName) : String :=
  quoted unknown.name ++ " is not a valid " ++ unknown.category

/-- The member that was found under a name, or the refusal of the name. -/
def knownName (category name : String) (found : Option α) : Except UnknownName α :=
  match found with
  | some member => .ok member
  | none => .error ⟨name, category⟩

end ConstantCatalog
