/-!
Contract: sets of characters given as ranges of code points.

Owns: `CodeRanges` and membership in it. A table lists its ranges in ascending
order with both ends included.

Does not own: any particular set.
-/

namespace ConstantCatalog

/-- A set of code points as inclusive ranges. -/
abbrev CodeRanges := List (Nat × Nat)

def CodeRanges.contains (ranges : CodeRanges) (character : Char) : Bool :=
  ranges.any fun (first, last) =>
    decide (first ≤ character.toNat) && decide (character.toNat ≤ last)

end ConstantCatalog
