/-!
Contract: the run of characters of one class with which a text begins.

Owns: `BeginsOutside`, and what a run and the text after it are when the text is put
together from the two.

Does not own: any particular class.
-/

namespace ConstantCatalog

variable {α : Type} {holds : α → Bool}

/-- A sequence that is empty or whose first element is outside a class. -/
def BeginsOutside (holds : α → Bool) (elements : List α) : Prop :=
  ∀ element, elements.head? = some element → holds element = false

theorem beginsOutside_nil : BeginsOutside holds [] := by
  simp [BeginsOutside]

theorem beginsOutside_cons {element : α} (rest : List α) (outside : holds element = false) :
    BeginsOutside holds (element :: rest) := by
  simp [BeginsOutside, outside]

/-- Only the front of a text counts, unless it is empty. -/
theorem beginsOutside_append_of_ne_nil {front rest : List α} (nonempty : front ≠ [])
    (frontOutside : BeginsOutside holds front) :
    BeginsOutside holds (front ++ rest) := by
  cases front with
  | nil => exact absurd rfl nonempty
  | cons element others => exact beginsOutside_cons _ (frontOutside element rfl)

theorem beginsOutside_append {front rest : List α} (frontOutside : BeginsOutside holds front)
    (restOutside : BeginsOutside holds rest) :
    BeginsOutside holds (front ++ rest) := by
  cases front with
  | nil => exact restOutside
  | cons element others => exact beginsOutside_cons _ (frontOutside element rfl)

theorem beginsOutside_dropWhile (elements : List α) :
    BeginsOutside holds (elements.dropWhile holds) := by
  intro element first
  have stopped := List.head?_dropWhile_not holds elements
  rw [first] at stopped
  exact stopped

theorem dropWhile_eq_self {elements : List α} (outside : BeginsOutside holds elements) :
    elements.dropWhile holds = elements := by
  cases elements with
  | nil => rfl
  | cons element rest =>
      have stopped := outside element rfl
      exact List.dropWhile_cons_of_neg (by simp [stopped])

private theorem takeWhile_eq_nil {elements : List α} (outside : BeginsOutside holds elements) :
    elements.takeWhile holds = [] := by
  cases elements with
  | nil => rfl
  | cons element rest =>
      have stopped := outside element rfl
      exact List.takeWhile_cons_of_neg (by simp [stopped])

/-- A run ends where the text after it begins outside the class. -/
theorem takeWhile_run {run rest : List α} (inside : ∀ element ∈ run, holds element = true)
    (outside : BeginsOutside holds rest) :
    (run ++ rest).takeWhile holds = run := by
  rw [List.takeWhile_append_of_pos inside, takeWhile_eq_nil outside, List.append_nil]

theorem dropWhile_run {run rest : List α} (inside : ∀ element ∈ run, holds element = true)
    (outside : BeginsOutside holds rest) :
    (run ++ rest).dropWhile holds = rest := by
  rw [List.dropWhile_append_of_pos inside, dropWhile_eq_self outside]

theorem holds_of_mem_takeWhile {elements : List α} {element : α}
    (member : element ∈ elements.takeWhile holds) :
    holds element = true :=
  List.all_eq_true.1 List.all_takeWhile element member

end ConstantCatalog
