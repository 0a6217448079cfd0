import ConstantCatalog.Proofs.Text.Pieces
import ConstantCatalog.Source.Lines

/-!
Contract: the lines of texts that are put together from lines.

The lines of two texts with a line end between them are the lines of the one and the
lines of the other. A carriage return with a line feed leaves an empty line between
the two, also where one of them belongs to a text and the other to the line end.

Owns: `LineEnd`, `terminatedText`, and the lines of both kinds of composition.

Does not own: the lines of bytes.
-/

namespace ConstantCatalog

/-- The ways to end a line. -/
inductive LineEnd where
  | lineFeed
  | carriageReturn
  | both
deriving DecidableEq, Repr

namespace LineEnd

def text : LineEnd → String
  | lineFeed => "\n"
  | carriageReturn => "\r"
  | both => "\r\n"

/-- The lines that lie inside a line end. -/
def inner : LineEnd → List String
  | lineFeed => []
  | carriageReturn => []
  | both => [""]

theorem eq_empty_of_mem_inner {ending : LineEnd} {line : String} (member : line ∈ ending.inner) :
    line = "" := by
  cases ending <;> simp_all [inner]

end LineEnd

/-- A text without carriage returns and line feeds. -/
def Unbroken (text : List Char) : Prop :=
  ∀ character ∈ text, isLineBreak character = false

instance (text : List Char) : Decidable (Unbroken text) :=
  decidable_of_iff (text.all (!isLineBreak ·) = true) (by simp [Unbroken])

theorem Unbroken.append {first second : List Char} (firstUnbroken : Unbroken first)
    (secondUnbroken : Unbroken second) :
    Unbroken (first ++ second) := by
  intro character member
  rcases List.mem_append.1 member with inFirst | inSecond
  · exact firstUnbroken character inFirst
  · exact secondUnbroken character inSecond

theorem Unbroken.cons {first : Char} {rest : List Char} (solid : isLineBreak first = false)
    (restUnbroken : Unbroken rest) :
    Unbroken (first :: rest) := by
  intro character member
  rcases List.mem_cons.1 member with rfl | inRest
  · exact solid
  · exact restUnbroken character inRest

theorem textLines_unbroken {line : String} (unbroken : Unbroken line.toList) :
    textLines line = [line] := by
  unfold textLines
  rw [pieces_eq_singleton unbroken]
  simp

/-- The lines of a text with a line end in it. -/
theorem textLines_append (before after : String) (ending : LineEnd) :
    textLines (before ++ ending.text ++ after) =
      textLines before ++ ending.inner ++ textLines after := by
  have feed : isLineBreak '\n' = true := by decide
  have carriage : isLineBreak '\r' = true := by decide
  unfold textLines
  rw [String.toList_append, String.toList_append, List.append_assoc]
  cases ending with
  | lineFeed =>
      change List.map String.ofList
        (pieces isLineBreak (before.toList ++ '\n' :: after.toList)) = _
      rw [pieces_append_cons feed, List.map_append]
      simp [LineEnd.inner]
  | carriageReturn =>
      change List.map String.ofList
        (pieces isLineBreak (before.toList ++ '\r' :: after.toList)) = _
      rw [pieces_append_cons carriage, List.map_append]
      simp [LineEnd.inner]
  | both =>
      change List.map String.ofList
        (pieces isLineBreak (before.toList ++ '\r' :: ([] ++ '\n' :: after.toList))) = _
      rw [pieces_append_cons carriage, pieces_append_cons feed, List.map_append,
        List.map_append]
      simp [LineEnd.inner]

/-- Lines written one after the other, each with its own end. -/
def terminatedText : List (String × LineEnd) → String
  | [] => ""
  | (line, ending) :: rest => line ++ ending.text ++ terminatedText rest

/-- The lines of a text that is written line by line, with more after the last line
end. -/
theorem textLines_terminatedText (rows : List (String × LineEnd)) (last : String) :
    textLines (terminatedText rows ++ last) =
      (rows.flatMap fun row => textLines row.1 ++ row.2.inner) ++ textLines last := by
  induction rows with
  | nil => simp [terminatedText]
  | cons row rest inductionHypothesis =>
      obtain ⟨line, ending⟩ := row
      rw [terminatedText, String.append_assoc, textLines_append, inductionHypothesis,
        List.flatMap_cons]
      simp only [List.append_assoc]

end ConstantCatalog
