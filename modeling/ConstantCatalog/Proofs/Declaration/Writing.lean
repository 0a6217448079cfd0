import ConstantCatalog.Proofs.Declaration.Concatenation

/-!
Contract: sources that are written line by line, in any format.

Lines are written one after the other with any line ends between them. If each spelling
is free of line breaks and read as what it stands for, the source loads into what its
lines add, one after the other.

Owns: `writtenText`, `WritesLines`, and the load of a written source.

Does not own: the spellings of either format.
-/

namespace ConstantCatalog

variable {α ω : Type}

/-- Spelled lines with their ends, and a last line without one. -/
def writtenText (spell : ω → List Char) (rows : List (ω × LineEnd)) (last : ω) : String :=
  terminatedText (rows.map fun row => (String.ofList (spell row.1), row.2)) ++
    String.ofList (spell last)

/-- How the lines of a format are written: each is spelled without a line break, and its
spelling is read as what the line adds. -/
structure WritesLines (format : DeclarationFormat α) (spell : ω → List Char)
    (added? : ω → Option (Addition α)) : Prop where
  unbroken : ∀ line, Unbroken (spell line)
  added : ∀ line, format.addition? (String.ofList (spell line)) = added? line
  convertible :
    ∀ line fault, format.readLine (String.ofList (spell line)) ≠ .unconvertible fault

namespace WritesLines

variable {format : DeclarationFormat α} {spell : ω → List Char} {added? : ω → Option (Addition α)}

private theorem textLines_writtenText (writes : WritesLines format spell added?)
    (rows : List (ω × LineEnd)) (last : ω) :
    textLines (writtenText spell rows last) =
      (rows.flatMap fun row => String.ofList (spell row.1) :: row.2.inner) ++
        [String.ofList (spell last)] := by
  have single : ∀ line, textLines (String.ofList (spell line)) = [String.ofList (spell line)] := by
    intro line
    apply textLines_unbroken
    rw [String.toList_ofList]
    exact writes.unbroken line
  rw [writtenText, textLines_terminatedText, List.flatMap_map, single last]
  simp only [single, List.singleton_append]

/-- A written source adds what its lines add, in their order. -/
theorem additions_writtenText (writes : WritesLines format spell added?)
    (skipsEmpty : format.Skips "") (rows : List (ω × LineEnd)) (last : ω) :
    format.additions (textLines (writtenText spell rows last)) =
      (rows.map Prod.fst ++ [last]).filterMap added? := by
  have single : ∀ line,
      format.additions [String.ofList (spell line)] = [line].filterMap added? := by
    intro line
    rw [DeclarationFormat.additions, List.filterMap_cons, List.filterMap_cons,
      writes.added line]
    rfl
  rw [writes.textLines_writtenText, format.additions_append, List.filterMap_append, single last]
  congr 1
  induction rows with
  | nil => rfl
  | cons row rest inductionHypothesis =>
      rw [List.flatMap_cons, format.additions_append, inductionHypothesis,
        ← List.singleton_append, format.additions_append, single row.1,
        format.additions_inner skipsEmpty, List.append_nil, ← List.filterMap_append]
      rfl

theorem convertible_writtenText (writes : WritesLines format spell added?)
    (skipsEmpty : format.Skips "") (rows : List (ω × LineEnd)) (last : ω) :
    format.Convertible (textLines (writtenText spell rows last)) := by
  intro line member fault
  rw [writes.textLines_writtenText] at member
  rcases List.mem_append.1 member with inRows | isLast
  · obtain ⟨row, -, inRow⟩ := List.mem_flatMap.1 inRows
    rcases List.mem_cons.1 inRow with rfl | inside
    · exact writes.convertible row.1 fault
    · obtain ⟨events, reading⟩ := skipsEmpty
      rw [LineEnd.eq_empty_of_mem_inner inside, reading]
      simp
  · rw [List.mem_singleton.1 isLast]
    exact writes.convertible last fault

/-- A written source loads without fault into what its lines add. -/
theorem loadText_writtenText (writes : WritesLines format spell added?)
    (skipsEmpty : format.Skips "") (rows : List (ω × LineEnd)) (last : ω) :
    format.loadText (.ofLimit none) (writtenText spell rows last) =
      { table := .insertAll .empty
          (DeclarationFormat.entriesOf ((rows.map Prod.fst ++ [last]).filterMap added?))
        arena := (Arena.ofLimit none).withBlocks
          (DeclarationFormat.chargesOf ((rows.map Prod.fst ++ [last]).filterMap added?))
        fault := none } := by
  rw [format.loadText_unlimited (writes.convertible_writtenText skipsEmpty rows last),
    writes.additions_writtenText skipsEmpty]

end WritesLines

end ConstantCatalog
