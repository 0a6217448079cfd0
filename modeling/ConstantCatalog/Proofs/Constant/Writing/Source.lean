import ConstantCatalog.Proofs.Constant.Integers
import ConstantCatalog.Proofs.Constant.Writing.Declaration
import ConstantCatalog.Proofs.Declaration.Writing

/-!
Contract: whole sources of constants, from the declarations to the text and back.

A written source is lines with their line ends: declarations, blank lines and comments
in any order. It is loaded without fault, and the table holds the declared constants,
each name where it was first declared and with the constant that was declared last.

Owns: `WrittenLine`, `sourceText`, and the round trip.

Does not own: the spelling of single declarations.
-/

namespace ConstantCatalog

/-- A line that declares a constant or nothing. -/
inductive WrittenLine where
  | blank (blanks : Blanks)
  | comment (lead : Blanks) (content : List Char) (unbroken : Unbroken content)
  | declaration (written : WrittenDeclaration)

namespace WrittenLine

def text : WrittenLine → List Char
  | blank blanks => blanks.text
  | comment lead content _ => lead.text ++ '/' :: '/' :: content
  | declaration written => written.text

/-- The constant that a line declares. -/
def constant? : WrittenLine → Option Constant
  | blank _ => none
  | comment _ _ _ => none
  | declaration written => some written.constant

theorem unbroken_text (line : WrittenLine) : Unbroken line.text := by
  cases line with
  | blank blanks => exact blanks.blank.unbroken
  | comment lead content unbroken =>
      exact lead.blank.unbroken.append (.cons (by decide) (.cons (by decide) unbroken))
  | declaration written => exact written.unbroken_text

private theorem trimBlanks_comment (lead : Blanks) (content : List Char) :
    ∃ kept, trimBlanks (lead.text ++ '/' :: '/' :: content) = '/' :: '/' :: kept := by
  obtain ⟨kept, trail, trailBlank, keptEnds, rfl⟩ := exists_trailing_blanks content
  have solid : isBlank '/' = false := by decide
  have ends : BlankFreeEnds (['/'] ++ '/' :: kept) :=
    blankFreeEnds_append_cons solid (beginsOutside_cons [] solid) keptEnds
  refine ⟨kept, ?_⟩
  have trimmed := trimBlanks_padded lead.blank trailBlank ends
  rw [List.append_assoc] at trimmed
  exact trimmed

/-- A written line is read as the constant that it declares, if it declares one. -/
private theorem readLine_text (line : WrittenLine) :
    constantFormat.readLine (String.ofList line.text) =
      match line.constant? with
      | none => .skipped []
      | some constant => .accepted constant.name constant constant.copySizes [] := by
  change readConstantLine _ = _
  cases line with
  | blank blanks =>
      have silent : ConstantLine.ofText blanks.text = .silent := by
        rw [ConstantLine.ofText, trimBlanks_eq_nil blanks.blank]
        rfl
      rw [readConstantLine, text, String.toList_ofList, silent]
      rfl
  | comment lead content _ =>
      obtain ⟨kept, trimmed⟩ := trimBlanks_comment lead content
      have silent : ConstantLine.ofText (lead.text ++ '/' :: '/' :: content) = .silent := by
        rw [ConstantLine.ofText, trimmed]
        rfl
      rw [readConstantLine, text, String.toList_ofList, silent]
      rfl
  | declaration written => exact written.readConstantLine_text

private theorem addition?_text (line : WrittenLine) :
    constantFormat.addition? (String.ofList line.text) =
      line.constant?.map fun constant => ⟨constant.name, constant, constant.copySizes⟩ := by
  rw [DeclarationFormat.addition?, line.readLine_text]
  cases line.constant? <;> rfl

end WrittenLine

/-! ## Sources -/

/-- A source: lines with their ends, and a last line without one. -/
def sourceText (rows : List (WrittenLine × LineEnd)) (last : WrittenLine) : String :=
  terminatedText (rows.map fun row => (String.ofList row.1.text, row.2)) ++
    String.ofList last.text

/-- The constants that a source declares, in order. -/
def declaredConstants (rows : List (WrittenLine × LineEnd)) (last : WrittenLine) : List Constant :=
  (rows.map Prod.fst ++ [last]).filterMap WrittenLine.constant?

/-- Lines are spelled as they are read. -/
theorem writesLines :
    WritesLines constantFormat WrittenLine.text fun line =>
      line.constant?.map fun constant => ⟨constant.name, constant, constant.copySizes⟩ where
  unbroken := WrittenLine.unbroken_text
  added := WrittenLine.addition?_text
  convertible := by
    intro line fault
    rw [line.readLine_text]
    cases line.constant? <;> simp

private theorem additions_sourceText (rows : List (WrittenLine × LineEnd)) (last : WrittenLine) :
    constantFormat.additions (textLines (sourceText rows last)) =
      (declaredConstants rows last).map fun constant =>
        ⟨constant.name, constant, constant.copySizes⟩ := by
  rw [declaredConstants, List.map_filterMap]
  exact writesLines.additions_writtenText ⟨[], rfl⟩ rows last

private theorem convertible_sourceText (rows : List (WrittenLine × LineEnd)) (last : WrittenLine) :
    constantFormat.Convertible (textLines (sourceText rows last)) :=
  writesLines.convertible_writtenText ⟨[], rfl⟩ rows last

private theorem lookupEntry_named (name : String) (constants : List Constant) :
    lookupEntry name (constants.map fun constant => (constant.name, constant)) =
      constants.find? fun constant => constant.name == name := by
  rw [lookupEntry_map, Option.map_id']

/-- Every source that is written from declarations loads back into them: without fault,
with each name where it was first declared, under each name the constant that was
declared last, and with the copies of all declared constants charged. The spellings of
integers include the usual decimal form of every integer of 32 bits, and of every one that
is not negative the usual hexadecimal form in letters of either case. -/
theorem load_sourceText :
    (∀ (rows : List (WrittenLine × LineEnd)) (last : WrittenLine),
      (constantFormat.loadText (.ofLimit none) (sourceText rows last)).fault = none ∧
      (constantFormat.loadText (.ofLimit none) (sourceText rows last)).table.names =
        ((declaredConstants rows last).map Constant.name).eraseDups ∧
      (∀ name,
        (constantFormat.loadText (.ofLimit none) (sourceText rows last)).table.get? name =
          (declaredConstants rows last).reverse.find? fun constant =>
            constant.name == name) ∧
      (constantFormat.loadText (.ofLimit none) (sourceText rows last)).arena =
        (Arena.ofLimit none).withBlocks
          ((declaredConstants rows last).flatMap Constant.copySizes)) ∧
    (∀ value : Int, leastInteger ≤ value → value ≤ greatestInteger →
      (∃ written : WrittenInteger,
        written.text = (toString value).toList ∧ written.value = value) ∧
      (0 ≤ value → ∀ digits : List Char,
        digits.map Char.toLower = Nat.toDigits 16 value.toNat →
        ∃ written : WrittenInteger,
          written.text = '0' :: 'x' :: digits ∧ written.value = value)) := by
  constructor
  · intro rows last
    have entries :
        DeclarationFormat.entriesOf (constantFormat.additions (textLines (sourceText rows last))) =
        (declaredConstants rows last).map fun constant => (constant.name, constant) := by
      rw [additions_sourceText, DeclarationFormat.entriesOf, List.map_map]
      rfl
    have charges :
        DeclarationFormat.chargesOf (constantFormat.additions (textLines (sourceText rows last))) =
        (declaredConstants rows last).flatMap Constant.copySizes := by
      rw [additions_sourceText, DeclarationFormat.chargesOf, List.flatMap_map]
    rw [constantFormat.loadText_unlimited (convertible_sourceText rows last), entries, charges]
    refine ⟨rfl, ?_, ?_, rfl⟩
    · rw [OrderedTable.names_insertAll, List.map_map]
      rfl
    · intro name
      rw [OrderedTable.get?_insertAll, ← List.map_reverse, lookupEntry_named,
        OrderedTable.get?_empty, Option.or_none]
  · intro value least greatest
    refine ⟨WrittenInteger.exists_decimal least greatest, ?_⟩
    intro notNegative digits lowered
    exact WrittenInteger.exists_hexadecimal notNegative greatest lowered

end ConstantCatalog
