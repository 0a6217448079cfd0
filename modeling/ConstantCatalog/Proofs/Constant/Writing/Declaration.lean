import ConstantCatalog.Proofs.Constant.Reading
import ConstantCatalog.Proofs.Constant.Writing.Components
import ConstantCatalog.Proofs.Constant.Writing.Text

/-!
Contract: declarations of constants as they can be written on a line.

A written declaration is a name, a value in one of its spellings, and the blanks around
the words. Whatever these are, the line is read back as the name with the value.

Owns: `WrittenValue`, `DeclaredName`, `WrittenDeclaration`, and the reading of written
declarations.

Does not own: the other lines of a source.
-/

namespace ConstantCatalog

/-! ## Values -/

/-- A value in one of its spellings, for each of the keywords. -/
inductive WrittenValue where
  | integer (written : WrittenInteger)
  | float (written : WrittenFloat)
  | string (content : List (Char × Bool))
  | key (content : List (Char × Bool))
  | vector (x y z : PaddedFloat)
  | rotation (x y z s : PaddedFloat)

namespace WrittenValue

def kind : WrittenValue → ConstantKind
  | integer _ => .integer
  | float _ => .float
  | string _ => .string
  | key _ => .key
  | vector _ _ _ => .vector
  | rotation _ _ _ _ => .quaternion

def keyword : WrittenValue → List Char
  | integer _ => "integer".toList
  | float _ => "float".toList
  | string _ => "string".toList
  | key _ => "key".toList
  | vector _ _ _ => "vector".toList
  | rotation _ _ _ _ => "rotation".toList

def text : WrittenValue → List Char
  | integer written => written.text
  | float written => written.text
  | string content => literalText content
  | key content => literalText content
  | vector x y z => Literal.bracketedText x [y, z]
  | rotation x y z s => Literal.bracketedText x [y, z, s]

def value : WrittenValue → ConstantValue
  | integer written => .integer written.value
  | float written => .float written.value
  | string content => stringValue (content.map Prod.fst)
  | key content => .key (String.ofList (content.map Prod.fst))
  | vector x y z => .vector ⟨x.number.value, y.number.value, z.number.value⟩
  | rotation x y z s =>
      .quaternion ⟨x.number.value, y.number.value, z.number.value, s.number.value⟩

private theorem ofKeyword?_keyword (written : WrittenValue) :
    ConstantKind.ofKeyword? (String.ofList written.keyword) = some written.kind := by
  cases written <;> rfl

private theorem isNumeralChar_of_mem_keyword (written : WrittenValue) :
    ∀ character ∈ written.keyword, isNumeralChar character = true :=
  fun character member =>
    isNumeralChar_of_isAlpha (isAlpha_of_ofKeyword? written.ofKeyword?_keyword character member)

private theorem isWord_keyword (written : WrittenValue) : IsWord written.keyword := by
  refine isWord_of_isNumeralChar ?_ written.isNumeralChar_of_mem_keyword
  intro empty
  have known := written.ofKeyword?_keyword
  rw [empty] at known
  contradiction

/-- Every spelling of a value is read as the value. -/
private theorem readValue_text (written : WrittenValue) :
    readValue written.kind written.text = .ok (some written.value) := by
  cases written with
  | integer number =>
      rw [kind, text, readValue, number.readInteger_text]
      rfl
  | float number =>
      rw [kind, text, readValue, number.accepted]
      rfl
  | string content =>
      rw [kind, text, readValue, unquoted?_literalText]
      rfl
  | key content =>
      rw [kind, text, readValue, unquoted?_literalText]
      rfl
  | vector x y z =>
      rw [kind, text, readValue, vectorValue?, Literal.components_bracketedText]
      rfl
  | rotation x y z s =>
      rw [kind, text, readValue, rotationValue?, Literal.components_bracketedText]
      rfl

end WrittenValue

/-! ## Ends and line breaks -/

namespace WrittenValue

theorem unbroken_text (written : WrittenValue) : Unbroken written.text := by
  cases written with
  | integer number => exact unbroken_of_isNumeralChar number.isNumeralChar_of_mem_text
  | float number => exact unbroken_of_isNumeralChar number.isNumeralChar_of_mem_text
  | string content => exact unbroken_literalText content
  | key content => exact unbroken_literalText content
  | vector x y z => exact .cons (by decide) (Literal.unbroken_separatedText x [y, z])
  | rotation x y z s => exact .cons (by decide) (Literal.unbroken_separatedText x [y, z, s])

private theorem blankFreeEnds_text (written : WrittenValue) : BlankFreeEnds written.text := by
  cases written with
  | integer number =>
      have word := isWord_of_isNumeralChar number.text_ne_nil number.isNumeralChar_of_mem_text
      exact word.blankFreeEnds
  | float number =>
      have word := isWord_of_isNumeralChar number.text_ne_nil number.isNumeralChar_of_mem_text
      exact word.blankFreeEnds
  | string content => exact blankFreeEnds_enclosed (by decide) (by decide) (writtenBody content)
  | key content => exact blankFreeEnds_enclosed (by decide) (by decide) (writtenBody content)
  | vector x y z => exact Literal.blankFreeEnds_bracketedText x [y, z]
  | rotation x y z s => exact Literal.blankFreeEnds_bracketedText x [y, z, s]

end WrittenValue

/-! ## Declarations -/

/-- A name that a declaration can define. -/
structure DeclaredName where
  text : List Char
  nonempty : text ≠ []
  plain : ∀ character ∈ text,
    isBlank character = false ∧ isLineBreak character = false ∧ character ≠ '='
  free : String.ofList text ∉ reservedNames

/-- A declaration with its blanks. -/
structure WrittenDeclaration where
  lead : Blanks
  keywordGap : Gap
  nameGap : Gap
  equalsGap : Gap
  valueGap : Gap
  trail : Blanks
  name : DeclaredName
  value : WrittenValue

namespace WrittenDeclaration

/-- What is written before the equals sign. -/
def opening (declaration : WrittenDeclaration) : List Char :=
  declaration.lead.text ++ "const".toList ++ declaration.keywordGap.text ++
    declaration.value.keyword ++ declaration.nameGap.text ++ declaration.name.text ++
    declaration.equalsGap.text

/-- What is written behind the equals sign. -/
def after (declaration : WrittenDeclaration) : List Char :=
  declaration.valueGap.text ++ declaration.value.text ++ declaration.trail.text

def text (declaration : WrittenDeclaration) : List Char :=
  declaration.opening ++ '=' :: declaration.after

/-- The constant that is declared. -/
def constant (declaration : WrittenDeclaration) : Constant :=
  ⟨String.ofList declaration.name.text, declaration.value.value⟩

theorem isWord_name (declaration : WrittenDeclaration) : IsWord declaration.name.text :=
  ⟨declaration.name.nonempty, fun character member =>
    (declaration.name.plain character member).1⟩

private theorem hasHeader (declaration : WrittenDeclaration) :
    HasHeader declaration.text declaration.opening declaration.value.keyword
      declaration.name.text declaration.after := by
  have constWord : IsWord "const".toList := by decide
  have keywordWord := declaration.value.isWord_keyword
  have nameWord := declaration.isWord_name
  refine ⟨rfl, ?_, declaration.equalsGap.exists_last _, ?_⟩
  · rw [opening, blankSeparatedWords_append_blanks declaration.equalsGap.blank,
      blankSeparatedWords_gap declaration.nameGap.blank declaration.nameGap.nonempty,
      blankSeparatedWords_gap declaration.keywordGap.blank declaration.keywordGap.nonempty,
      blankSeparatedWords_blanks_append declaration.lead.blank,
      blankSeparatedWords_word constWord, blankSeparatedWords_word keywordWord,
      blankSeparatedWords_word nameWord]
    rfl
  · rw [after, List.append_assoc]
    exact declaration.valueGap.beginsOutside_append _

/-- The value is cut off as it was written. -/
private theorem trimBlanks_afterEquals_text (declaration : WrittenDeclaration) :
    trimBlanks (afterEquals declaration.text) = declaration.value.text := by
  have plainKeyword := no_equals_of_ofKeyword? declaration.value.ofKeyword?_keyword
  have plainName : '=' ∉ declaration.name.text :=
    fun member => (declaration.name.plain '=' member).2.2 rfl
  rw [declaration.hasHeader.afterEquals_eq plainKeyword plainName]
  exact trimBlanks_padded declaration.valueGap.blank declaration.trail.blank
    declaration.value.blankFreeEnds_text

/-- A written declaration is read back. -/
theorem readConstantLine_text (declaration : WrittenDeclaration) :
    readConstantLine (String.ofList declaration.text) =
      .accepted declaration.constant.name declaration.constant
        declaration.constant.copySizes [] := by
  have header := declaration.hasHeader
  rw [← String.toList_ofList (l := declaration.text)] at header
  have free : reservedNames.contains (String.ofList declaration.name.text) = false := by
    rw [Bool.eq_false_iff]
    exact fun reserved => declaration.name.free (List.contains_iff_mem.1 reserved)
  rw [readConstantLine_of_hasHeader header, String.toList_ofList,
    declaration.trimBlanks_afterEquals_text]
  exact readDeclaration_eq_accepted_iff.2 ⟨free, declaration.value.kind,
    declaration.value.value, declaration.value.ofKeyword?_keyword,
    declaration.value.readValue_text, rfl, rfl, rfl, rfl⟩

theorem unbroken_text (declaration : WrittenDeclaration) : Unbroken declaration.text := by
  have constUnbroken : Unbroken "const".toList := by decide
  have keywordUnbroken : Unbroken declaration.value.keyword :=
    unbroken_of_isNumeralChar declaration.value.isNumeralChar_of_mem_keyword
  have nameUnbroken : Unbroken declaration.name.text :=
    fun character member => (declaration.name.plain character member).2.1
  have openingUnbroken : Unbroken declaration.opening :=
    (((((declaration.lead.blank.unbroken.append constUnbroken).append
      declaration.keywordGap.blank.unbroken).append keywordUnbroken).append
      declaration.nameGap.blank.unbroken).append nameUnbroken).append
      declaration.equalsGap.blank.unbroken
  have afterUnbroken : Unbroken declaration.after :=
    (declaration.valueGap.blank.unbroken.append declaration.value.unbroken_text).append
      declaration.trail.blank.unbroken
  exact openingUnbroken.append (.cons (by decide) afterUnbroken)

end WrittenDeclaration

end ConstantCatalog
