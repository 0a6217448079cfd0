import ConstantCatalog.Text.Pieces

/-!
Contract: how the pieces of a sequence follow from the way it is put together.

Owns: the pieces on the two sides of a separator, the single piece of a sequence
without separators, what pieces consist of, the joining of pieces, and the pieces of a
sequence that is encoded element by element.

Does not own: lines or words, which are pieces for a particular separator.
-/

namespace ConstantCatalog

variable {α : Type} {isSeparator : α → Bool}

private theorem addToPieces_append (element : α) {found : List (List α)} (others : List (List α))
    (nonempty : found ≠ []) :
    addToPieces isSeparator element (found ++ others) =
      addToPieces isSeparator element found ++ others := by
  unfold addToPieces
  cases found with
  | nil => exact absurd rfl nonempty
  | cons first rest => split <;> rfl

/-- A separator divides: the pieces before it and the pieces after it are all the
pieces there are. -/
theorem pieces_append_cons {separator : α} (separates : isSeparator separator = true)
    (before after : List α) :
    pieces isSeparator (before ++ separator :: after) =
      pieces isSeparator before ++ pieces isSeparator after := by
  induction before with
  | nil => simp [addToPieces, separates]
  | cons element rest inductionHypothesis =>
      rw [List.cons_append, pieces_cons, inductionHypothesis, pieces_cons]
      exact addToPieces_append element _ (pieces_ne_nil isSeparator rest)

/-- Without separators there is one piece. -/
theorem pieces_eq_singleton {elements : List α}
    (plain : ∀ element ∈ elements, isSeparator element = false) :
    pieces isSeparator elements = [elements] := by
  induction elements with
  | nil => rfl
  | cons element rest inductionHypothesis =>
      have restPlain : ∀ other ∈ rest, isSeparator other = false :=
        fun other member => plain other (List.mem_cons_of_mem _ member)
      rw [pieces_cons, inductionHypothesis restPlain]
      simp [addToPieces, plain element List.mem_cons_self]

/-- No piece has a separator in it. -/
theorem plain_of_mem_pieces {elements piece : List α}
    (isPiece : piece ∈ pieces isSeparator elements) :
    ∀ element ∈ piece, isSeparator element = false := by
  induction elements generalizing piece with
  | nil => simp_all
  | cons first rest inductionHypothesis =>
      rw [pieces_cons] at isPiece
      unfold addToPieces at isPiece
      split at isPiece
      · rcases List.mem_cons.1 isPiece with rfl | inRest
        · simp
        · exact inductionHypothesis inRest
      · rename_i plain
        split at isPiece
        · simp_all
        · rename_i head others built
          rcases List.mem_cons.1 isPiece with rfl | inOthers
          · intro element member
            rcases List.mem_cons.1 member with rfl | inHead
            · simpa using plain
            · exact inductionHypothesis (by rw [built]; exact List.mem_cons_self) element inHead
          · exact inductionHypothesis (by rw [built]; exact List.mem_cons_of_mem _ inOthers)

/-- A sequence either has no separator or divides at its first one. -/
theorem plain_or_divided (isSeparator : α → Bool) (elements : List α) :
    (∀ element ∈ elements, isSeparator element = false) ∨
      ∃ before separator after,
        (∀ element ∈ before, isSeparator element = false) ∧
        isSeparator separator = true ∧
        elements = before ++ separator :: after := by
  induction elements with
  | nil => exact Or.inl (by simp)
  | cons element rest inductionHypothesis =>
      cases separates : isSeparator element with
      | true => exact Or.inr ⟨[], element, rest, by simp, separates, rfl⟩
      | false =>
          rcases inductionHypothesis with plain |
            ⟨before, separator, after, beforePlain, isOne, built⟩
          · exact Or.inl (by
              intro other member
              rcases List.mem_cons.1 member with rfl | inside
              · exact separates
              · exact plain other inside)
          · refine Or.inr ⟨element :: before, separator, after, ?_, isOne, by simp [built]⟩
            intro other member
            rcases List.mem_cons.1 member with rfl | inside
            · exact separates
            · exact beforePlain other inside

/-! ## Joining -/

/-- Joining pieces that have no separator in them gives a sequence with these pieces. -/
theorem pieces_intercalate {separator : α} (separates : isSeparator separator = true)
    {groups : List (List α)} (nonempty : groups ≠ [])
    (plain : ∀ group ∈ groups, ∀ element ∈ group, isSeparator element = false) :
    pieces isSeparator ([separator].intercalate groups) = groups := by
  induction groups with
  | nil => exact absurd rfl nonempty
  | cons first rest inductionHypothesis =>
      have firstPlain := plain first List.mem_cons_self
      cases rest with
      | nil => rw [List.intercalate_singleton, pieces_eq_singleton firstPlain]
      | cons second others =>
          have restPlain : ∀ group ∈ second :: others, ∀ element ∈ group,
              isSeparator element = false :=
            fun group member => plain group (List.mem_cons_of_mem _ member)
          rw [List.intercalate_cons_cons, List.append_assoc, List.singleton_append,
            pieces_append_cons separates, pieces_eq_singleton firstPlain,
            inductionHypothesis (by simp) restPlain]
          rfl

/-- The pieces of a sequence, joined, are the sequence, if only one element separates. -/
theorem intercalate_pieces {separator : α}
    (separatesOnly : ∀ element, isSeparator element = true → element = separator)
    (elements : List α) :
    [separator].intercalate (pieces isSeparator elements) = elements := by
  induction elements with
  | nil => rfl
  | cons element rest inductionHypothesis =>
      rw [pieces_cons]
      unfold addToPieces
      cases built : pieces isSeparator rest with
      | nil => exact absurd built (pieces_ne_nil isSeparator rest)
      | cons first others =>
          rw [built] at inductionHypothesis
          split
          · rename_i separates
            rw [List.intercalate_cons_cons, inductionHypothesis, separatesOnly element separates]
            rfl
          · cases others with
            | nil =>
                rw [List.intercalate_singleton] at inductionHypothesis ⊢
                rw [inductionHypothesis]
            | cons second remaining =>
                rw [List.intercalate_cons_cons] at inductionHypothesis ⊢
                rw [List.cons_append, List.cons_append, inductionHypothesis]

/-- Groups that each end in a separator are the pieces in front of the last separator. -/
theorem pieces_terminated {separator : α} (separates : isSeparator separator = true)
    {groups : List (List α)}
    (plain : ∀ group ∈ groups, ∀ element ∈ group, isSeparator element = false) :
    pieces isSeparator (groups.flatMap (· ++ [separator])) = groups ++ [[]] := by
  induction groups with
  | nil => rfl
  | cons first rest inductionHypothesis =>
      have firstPlain := plain first List.mem_cons_self
      have restPlain : ∀ group ∈ rest, ∀ element ∈ group, isSeparator element = false :=
        fun group member => plain group (List.mem_cons_of_mem _ member)
      rw [List.flatMap_cons, List.append_assoc, List.singleton_append,
        pieces_append_cons separates, pieces_eq_singleton firstPlain,
        inductionHypothesis restPlain]
      rfl

/-! ## Encoding -/

/-- What stands in front of a sequence without a separator belongs to its first piece. -/
private theorem pieces_plain_append {before : List α}
    (plain : ∀ element ∈ before, isSeparator element = false) {elements first : List α}
    {others : List (List α)} (built : pieces isSeparator elements = first :: others) :
    pieces isSeparator (before ++ elements) = (before ++ first) :: others := by
  induction before with
  | nil => exact built
  | cons element rest inductionHypothesis =>
      have restPlain : ∀ other ∈ rest, isSeparator other = false :=
        fun other member => plain other (List.mem_cons_of_mem _ member)
      rw [List.cons_append, pieces_cons, inductionHypothesis restPlain]
      simp [addToPieces, plain element List.mem_cons_self]

/-- Where separators, and no other elements, are encoded as separators, an encoded
sequence has the encoded pieces. -/
theorem pieces_flatMap {β : Type} {isMark : β → Bool} {encode : α → List β}
    (separating : ∀ element, isSeparator element = true →
      ∃ mark, encode element = [mark] ∧ isMark mark = true)
    (plain : ∀ element, isSeparator element = false →
      ∀ mark ∈ encode element, isMark mark = false) (elements : List α) :
    pieces isMark (elements.flatMap encode) =
      (pieces isSeparator elements).map (List.flatMap encode) := by
  induction elements with
  | nil => rfl
  | cons element rest inductionHypothesis =>
      rw [List.flatMap_cons, pieces_cons]
      cases separates : isSeparator element with
      | true =>
          obtain ⟨mark, encoded, marks⟩ := separating element separates
          rw [encoded, List.singleton_append, pieces_cons, inductionHypothesis]
          simp [addToPieces, marks, separates]
      | false =>
          cases built : pieces isSeparator rest with
          | nil => exact absurd built (pieces_ne_nil isSeparator rest)
          | cons first others =>
              rw [built, List.map_cons] at inductionHypothesis
              rw [pieces_plain_append (plain element separates) inductionHypothesis]
              simp [addToPieces, separates]

end ConstantCatalog
