import ConstantCatalog.Proofs.Constant.Writing.Number
import ConstantCatalog.Proofs.Literal.Components

/-!
Contract: vector and rotation literals as declarations write them.

Between angle brackets stand floats with commas between them and any blanks around each.
Such a text is read as the values of the floats.

Owns: `PaddedFloat`, `bracketedText`, and the components that are read from it.

Does not own: how many components a declaration wants.
-/

namespace ConstantCatalog

/-- A float with blanks around it. -/
structure PaddedFloat where
  before : Blanks
  number : WrittenFloat
  after : Blanks

def PaddedFloat.text (component : PaddedFloat) : List Char :=
  component.before.text ++ component.number.text ++ component.after.text

theorem PaddedFloat.unbroken_text (component : PaddedFloat) : Unbroken component.text := by
  have number : Unbroken component.number.text :=
    unbroken_of_isNumeralChar component.number.isNumeralChar_of_mem_text
  exact (component.before.blank.unbroken.append number).append component.after.blank.unbroken

namespace Literal

/-- Components separated by commas, up to the closing bracket. -/
def separatedText (first : PaddedFloat) : List PaddedFloat → List Char
  | [] => first.text ++ ['>']
  | second :: others => first.text ++ ',' :: separatedText second others

/-- A literal of one or more components. -/
def bracketedText (first : PaddedFloat) (others : List PaddedFloat) : List Char :=
  '<' :: separatedText first others

/-! ## Ends and line breaks -/

theorem unbroken_separatedText (first : PaddedFloat) (others : List PaddedFloat) :
    Unbroken (separatedText first others) := by
  induction others generalizing first with
  | nil => exact first.unbroken_text.append (by decide)
  | cons second rest inductionHypothesis =>
      exact first.unbroken_text.append (.cons (by decide) (inductionHypothesis second))

private theorem separatedText_eq (first : PaddedFloat) (others : List PaddedFloat) :
    separatedText first others =
      [','].intercalate ((first :: others).map PaddedFloat.text) ++ ['>'] := by
  induction others generalizing first with
  | nil => rw [separatedText, List.map_singleton, List.intercalate_singleton]
  | cons second rest inductionHypothesis =>
      rw [separatedText, inductionHypothesis second]
      simp only [List.map_cons, List.intercalate_cons_cons, List.append_assoc,
        List.cons_append, List.nil_append]

theorem blankFreeEnds_bracketedText (first : PaddedFloat) (others : List PaddedFloat) :
    BlankFreeEnds (bracketedText first others) := by
  rw [bracketedText, separatedText_eq]
  exact blankFreeEnds_enclosed (by decide) (by decide) _

/-! ## Components -/

private theorem exists_isPaddedNumeral (component : PaddedFloat) :
    ∃ numeral, IsPaddedNumeral component.text numeral ∧
      numeral.toSingle = component.number.value := by
  obtain ⟨numeral, wellFormed, isText, isValue⟩ := component.number.exists_numeral
  refine ⟨numeral, ?_, isValue⟩
  rw [PaddedFloat.text, ← isText]
  exact isPaddedNumeral_append component.before.blank component.after.blank wellFormed

/-- A written literal is read as the values of its components. -/
theorem components_bracketedText (first : PaddedFloat) (others : List PaddedFloat) :
    components (bracketedText first others) =
      .ok ((first :: others).map fun component => component.number.value) := by
  have undivided : ∀ piece ∈ (first :: others).map PaddedFloat.text,
      ∀ character ∈ piece, (character == ',') = false := by
    intro piece member
    obtain ⟨component, -, rfl⟩ := List.mem_map.1 member
    obtain ⟨numeral, padded, -⟩ := exists_isPaddedNumeral component
    exact padded.ne_comma
  refine components_eq_ok_iff_pieces.2
    ⟨[','].intercalate ((first :: others).map PaddedFloat.text), ?_, ?_⟩
  · rw [trimBlanks_eq_self (blankFreeEnds_bracketedText first others), bracketedText,
      separatedText_eq]
  · rw [pieces_intercalate (by decide) (by simp) undivided, List.forall₂_map_left_iff,
      List.forall₂_map_right_iff, List.forall₂_same]
    intro component member
    exact readFloat_trimBlanks_eq_some_iff.2 (exists_isPaddedNumeral component)

end Literal

end ConstantCatalog
