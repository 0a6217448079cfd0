/-!
Contract: the pieces of a sequence between its separators.

Owns: `pieces`, which keeps empty pieces, so that there is always one piece more
than there are separators.

Does not own: which elements separate.
-/

namespace ConstantCatalog

variable {α : Type}

/-- Puts one more element in front of the first piece, or before it as a
separator. -/
def addToPieces (isSeparator : α → Bool) (element : α) (found : List (List α)) : List (List α) :=
  if isSeparator element then [] :: found
  else
    match found with
    | [] => [[element]]
    | first :: others => (element :: first) :: others

/-- The pieces between separators, in order, empty ones included. -/
def pieces (isSeparator : α → Bool) (elements : List α) : List (List α) :=
  elements.foldr (addToPieces isSeparator) [[]]

@[simp] theorem pieces_nil (isSeparator : α → Bool) :
    pieces isSeparator [] = [[]] := rfl

@[simp] theorem pieces_cons (isSeparator : α → Bool) (element : α) (elements : List α) :
    pieces isSeparator (element :: elements) =
      addToPieces isSeparator element (pieces isSeparator elements) := rfl

/-- There is always a piece. -/
theorem pieces_ne_nil (isSeparator : α → Bool) (elements : List α) :
    pieces isSeparator elements ≠ [] := by
  cases elements with
  | nil => simp
  | cons element rest =>
      rw [pieces_cons]
      unfold addToPieces
      split
      · simp
      · split <;> simp

end ConstantCatalog
