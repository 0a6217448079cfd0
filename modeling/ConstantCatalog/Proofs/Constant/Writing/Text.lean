import ConstantCatalog.Proofs.Constant.Unquoting
import ConstantCatalog.Proofs.Source.Lines

/-!
Contract: texts as declarations write them between quotes.

Backslashes, quotes and line breaks are written with a backslash in front. A tab may be
written so or as itself, so a content says of each of its characters which way is taken
if it is a tab. Every other character is written as itself.

Owns: `writtenChar`, `literalText`, and the reading of texts that are written so.

Does not own: which texts are keys.
-/

namespace ConstantCatalog

/-- A character as it is written between quotes. -/
def writtenChar (escapesTab : Bool) : Char → List Char
  | '\\' => ['\\', '\\']
  | '\x22' => ['\\', '\x22']
  | '\n' => ['\\', 'n']
  | '\r' => ['\\', 'r']
  | '\t' => if escapesTab then ['\\', 't'] else ['\t']
  | character => [character]

/-- What is written between the quotes. -/
def writtenBody (content : List (Char × Bool)) : List Char :=
  content.flatMap fun entry => writtenChar entry.2 entry.1

/-- A text as a string literal. -/
def literalText (content : List (Char × Bool)) : List Char :=
  '\x22' :: (writtenBody content ++ ['\x22'])

private theorem writesChar_writtenChar (escapesTab : Bool) (character : Char) :
    WritesChar character (writtenChar escapesTab character) := by
  unfold writtenChar
  split
  case h_1 => exact .escaped (by decide)
  case h_2 => exact .escaped (by decide)
  case h_3 => exact .letter (by decide)
  case h_4 => exact .letter (by decide)
  case h_5 =>
    cases escapesTab with
    | true => exact .letter (by decide)
    | false => exact .itself (by decide)
  case h_6 notBackslash _ _ _ _ => exact .itself notBackslash

/-- What declarations write between quotes is a way to write the content. -/
private theorem writesText_writtenBody (content : List (Char × Bool)) :
    WritesText (content.map Prod.fst) (writtenBody content) := by
  induction content with
  | nil => exact .nil
  | cons entry rest inductionHypothesis =>
      exact .cons (writesChar_writtenChar entry.2 entry.1) inductionHypothesis

theorem unquoted?_literalText (content : List (Char × Bool)) :
    unquoted? (literalText content) = some (content.map Prod.fst) :=
  unquoted?_eq_some_iff.2 ⟨_, rfl, (writesText_writtenBody content).decodeEscapes_eq⟩

private theorem unbroken_writtenChar (escapesTab : Bool) (character : Char) :
    Unbroken (writtenChar escapesTab character) := by
  unfold writtenChar
  split
  case h_1 => decide
  case h_2 => decide
  case h_3 => decide
  case h_4 => decide
  case h_5 => cases escapesTab <;> decide
  case h_6 _ _ notFeed notCarriage _ =>
    intro written member
    rw [List.mem_singleton.1 member]
    simp only [isLineBreak, Bool.or_eq_false_iff, beq_eq_false_iff_ne]
    exact ⟨notFeed, notCarriage⟩

/-- A text is written on one line, whatever line breaks it has. -/
theorem unbroken_literalText (content : List (Char × Bool)) :
    Unbroken (literalText content) := by
  intro written member
  rcases List.mem_cons.1 member with rfl | inside
  · rfl
  · rcases List.mem_append.1 inside with inBody | inEnd
    · obtain ⟨entry, -, inChar⟩ := List.mem_flatMap.1 inBody
      exact unbroken_writtenChar entry.2 entry.1 written inChar
    · rw [List.mem_singleton.1 inEnd]
      rfl

end ConstantCatalog
