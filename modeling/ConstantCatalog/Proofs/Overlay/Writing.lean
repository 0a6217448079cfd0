import ConstantCatalog.Proofs.Constant.Writing.Number
import ConstantCatalog.Proofs.Declaration.Writing
import ConstantCatalog.Proofs.Overlay.Grammar

/-!
Contract: type declarations as they can be written, and what is loaded of them.

A written declaration is a declarable name, a label of the table, and blanks where blanks
may stand. None of its parts has a compound mark, and no mark can lie across two of them,
since a blank or a colon stands between. So the line is read back, and a source of such
lines loads into the names in the order in which they were first declared, each with the
type that was declared last.

Owns: `WrittenType`, `WrittenTypeLine`, the load of written sources, and the laws of
sources of type declarations as a whole.

Does not own: which lines declare a type.
-/

namespace ConstantCatalog

/-! ## Marks and blanks -/

private theorem isWord_of_mem_compoundMarks :
    ∀ mark ∈ compoundMarks, IsWord mark ∧ ':' ∉ mark := by
  decide

private theorem isInfix_of_blanks_append {mark blanks text : List Char} (isWord : IsWord mark)
    (blank : AllBlank blanks) (occurs : mark <:+: blanks ++ text) :
    mark <:+: text := by
  induction blanks with
  | nil => exact occurs
  | cons first rest inductionHypothesis =>
      have restBlank : AllBlank rest :=
        fun character member => blank character (List.mem_cons_of_mem _ member)
      have free : first ∉ mark := by
        intro member
        have solid := isWord.2 first member
        rw [blank first List.mem_cons_self] at solid
        contradiction
      have divided : mark <:+: [] ++ first :: (rest ++ text) := occurs
      rcases isInfix_append_cons free divided with nothing | inRest
      · exact absurd (List.infix_nil.1 nothing) isWord.1
      · exact inductionHypothesis restBlank inRest

private theorem isInfix_of_append_blanks {mark text blanks : List Char} (isWord : IsWord mark)
    (blank : AllBlank blanks) (occurs : mark <:+: text ++ blanks) :
    mark <:+: text := by
  rw [← List.reverse_infix, List.reverse_append] at occurs
  rw [← List.reverse_infix]
  have reversed : IsWord mark.reverse := by
    constructor
    · simp [isWord.1]
    · intro character member
      exact isWord.2 character (List.mem_reverse.1 member)
  exact isInfix_of_blanks_append reversed blank.reverse occurs

/-! ## Labels and names -/

private theorem isWord_of_labelled :
    ∀ entry ∈ labelledTypes, IsWord entry.1.toList ∧
      entry.1.toList.all (!isLineBreak ·) = true ∧ entry.2 ≠ .unknown := by
  decide

private theorem occursIn_labelled :
    ∀ entry ∈ labelledTypes, ∀ mark ∈ compoundMarks,
      occursIn mark entry.1.toList = false := by
  decide

private theorem occursIn_declare :
    ∀ mark ∈ compoundMarks, occursIn mark "declare".toList = false := by
  decide

namespace IsDeclarableName

variable {name : List Char}

theorem isWord (isName : IsDeclarableName name) : IsWord name := by
  refine ⟨isName.nonempty, ?_⟩
  intro character member
  rw [Bool.eq_false_iff]
  intro blank
  have plain := isNameChar_iff.2 (isName.plain character member)
  have either : character = ' ' ∨ character = '\t' := by simpa [isBlank] using blank
  rcases either with rfl | rfl
  · exact absurd plain (by decide)
  · exact absurd plain (by decide)

theorem unbroken (isName : IsDeclarableName name) : Unbroken name := by
  intro character member
  rw [Bool.eq_false_iff]
  intro breaks
  have plain := isNameChar_iff.2 (isName.plain character member)
  have either : character = '\n' ∨ character = '\r' := by simpa [isLineBreak] using breaks
  rcases either with rfl | rfl
  · exact absurd plain (by decide)
  · exact absurd plain (by decide)

private theorem noColon (isName : IsDeclarableName name) : ':' ∉ name := by
  intro member
  have plain := isNameChar_iff.2 (isName.plain ':' member)
  exact absurd plain (by decide)

/-- The marks of one character are none of the characters of names. -/
theorem unmarked (isName : IsDeclarableName name) {mark : List Char}
    (isMark : mark ∈ compoundMarks) :
    ¬mark <:+: name := by
  intro occurs
  have absentUnlessPlain : ∀ character, mark = [character] → isNameChar character = true := by
    rintro character rfl
    have member : character ∈ name := occurs.subset List.mem_cons_self
    exact isNameChar_iff.2 (isName.plain character member)
  simp only [compoundMarks, List.mem_cons, List.not_mem_nil, or_false] at isMark
  rcases isMark with rfl | rfl | rfl | rfl
  · exact isName.noFunction occurs
  · exact isName.noExternal occurs
  · exact absurd (absentUnlessPlain _ rfl) (by decide)
  · exact absurd (absentUnlessPlain _ rfl) (by decide)

end IsDeclarableName

/-! ## Declarations -/

/-- A type declaration with its blanks. -/
structure WrittenType where
  lead : Blanks
  nameLead : Blanks
  nameTrail : Blanks
  labelLead : Blanks
  trail : Blanks
  name : List Char
  isName : IsDeclarableName name
  label : String
  declared : DeclaredType
  listed : (label, declared) ∈ labelledTypes

namespace WrittenType

/-- What is written between the opening and the colon. -/
def beforeColon (written : WrittenType) : List Char :=
  written.nameLead.text ++ written.name ++ written.nameTrail.text

/-- What is written behind the colon, up to the end of the label. -/
def afterColon (written : WrittenType) : List Char :=
  written.labelLead.text ++ written.label.toList

/-- What is written between the blanks at both ends. -/
def core (written : WrittenType) : List Char :=
  "declare ".toList ++ written.beforeColon ++ ':' :: written.afterColon

def text (written : WrittenType) : List Char :=
  written.lead.text ++ written.core ++ written.trail.text

private theorem isWord_label (written : WrittenType) : IsWord written.label.toList :=
  (isWord_of_labelled _ written.listed).1

private theorem blankFreeEnds_core (written : WrittenType) : BlankFreeEnds written.core := by
  have word := written.isWord_label
  have divided : written.core =
      "declare ".toList ++ (written.beforeColon ++ ':' :: written.afterColon) :=
    List.append_assoc _ _ _
  have openingSolid : BeginsOutside isBlank "declare ".toList := by
    intro first begins
    obtain rfl : 'd' = first := Option.some.inj begins
    decide
  constructor
  · rw [divided]
    exact beginsOutside_append_of_ne_nil (by decide) openingSolid
  · rw [divided, afterColon, List.reverse_append, List.reverse_append, List.reverse_cons,
      List.reverse_append, List.append_assoc, List.append_assoc, List.append_assoc]
    exact beginsOutside_append_of_ne_nil (by simp [word.1]) word.blankFreeEnds.2

private theorem trimBlanks_text (written : WrittenType) : trimBlanks written.text = written.core :=
  trimBlanks_padded written.lead.blank written.trail.blank written.blankFreeEnds_core

private theorem trimBlanks_beforeColon (written : WrittenType) :
    trimBlanks written.beforeColon = written.name :=
  trimBlanks_padded written.nameLead.blank written.nameTrail.blank
    written.isName.isWord.blankFreeEnds

private theorem trimBlanks_afterColon (written : WrittenType) :
    trimBlanks written.afterColon = written.label.toList := by
  have trimmed := trimBlanks_padded written.labelLead.blank allBlank_nil
    written.isWord_label.blankFreeEnds
  rwa [List.append_nil] at trimmed

/-- No mark occurs in a written declaration: between its parts stand blanks and a colon,
which no mark has. -/
private theorem not_hasCompoundMark_core (written : WrittenType) :
    ¬HasCompoundMark written.core := by
  rintro ⟨mark, isMark, occurs⟩
  obtain ⟨isWord, noColon⟩ := isWord_of_mem_compoundMarks mark isMark
  have noSpace : ' ' ∉ mark := by
    intro member
    exact absurd (isWord.2 ' ' member) (by decide)
  rcases isInfix_append_cons noColon occurs with inOpening | inAfter
  · have divided : mark <:+: "declare".toList ++ ' ' :: written.beforeColon := inOpening
    rcases isInfix_append_cons noSpace divided with inDeclare | inBefore
    · have occursInDeclare := occursIn_iff_isInfix.2 inDeclare
      rw [occursIn_declare mark isMark] at occursInDeclare
      contradiction
    · rw [beforeColon, List.append_assoc] at inBefore
      have untilBlanks := isInfix_of_blanks_append isWord written.nameLead.blank inBefore
      have inName := isInfix_of_append_blanks isWord written.nameTrail.blank untilBlanks
      exact written.isName.unmarked isMark inName
  · have inLabel := isInfix_of_blanks_append isWord written.labelLead.blank inAfter
    have occursInLabel := occursIn_iff_isInfix.2 inLabel
    rw [occursIn_labelled _ written.listed mark isMark] at occursInLabel
    contradiction

private theorem isTypeDeclaration (written : WrittenType) :
    IsTypeDeclaration written.text written.beforeColon written.afterColon where
  written := written.trimBlanks_text
  firstColon := by
    have inBlanks : ∀ blanks : Blanks, ':' ∉ blanks.text := by
      intro blanks member
      exact absurd (blanks.blank ':' member) (by decide)
    simp [beforeColon, inBlanks, written.isName.noColon]
  name := by
    rw [trimBlanks_beforeColon]
    exact written.isName.toIsPlainName
  label := by
    rw [trimBlanks_afterColon]
    exact written.isWord_label.1
  simple := by
    rw [trimBlanks_text]
    exact written.not_hasCompoundMark_core

/-- A written declaration is read back. -/
theorem readTypeLine_text (written : WrittenType) :
    readTypeLine (String.ofList written.text) =
      .accepted (String.ofList written.name) written.declared
        [(String.ofList written.name).utf8ByteSize] [] := by
  have shape := written.isTypeDeclaration
  rw [← String.toList_ofList (l := written.text)] at shape
  obtain ⟨events, accepted, silent⟩ := readTypeLine_of_isTypeDeclaration shape
  rw [trimBlanks_afterColon, String.ofList_toList, ofLabel_of_mem written.listed] at accepted silent
  rw [accepted, trimBlanks_beforeColon, silent (isWord_of_labelled _ written.listed).2.2]

theorem unbroken_text (written : WrittenType) : Unbroken written.text := by
  have openingUnbroken : Unbroken "declare ".toList := by decide
  have nameUnbroken : Unbroken written.beforeColon :=
    (written.nameLead.blank.unbroken.append written.isName.unbroken).append
      written.nameTrail.blank.unbroken
  have labelUnbroken : Unbroken written.label.toList := by
    intro character member
    have solid := List.all_eq_true.1 (isWord_of_labelled _ written.listed).2.1 character member
    simpa using solid
  have coreUnbroken : Unbroken written.core :=
    (openingUnbroken.append nameUnbroken).append
      (.cons (by decide) (written.labelLead.blank.unbroken.append labelUnbroken))
  exact (written.lead.blank.unbroken.append coreUnbroken).append written.trail.blank.unbroken

end WrittenType

/-! ## Sources -/

/-- A line that declares a type or nothing. -/
inductive WrittenTypeLine where
  | blank (blanks : Blanks)
  | declaration (written : WrittenType)

namespace WrittenTypeLine

def text : WrittenTypeLine → List Char
  | blank blanks => blanks.text
  | declaration written => written.text

/-- What a line declares. -/
def declaration? : WrittenTypeLine → Option WrittenType
  | blank _ => none
  | declaration written => some written

theorem readTypeLine_text (line : WrittenTypeLine) :
    readTypeLine (String.ofList line.text) =
      match line.declaration? with
      | none => .skipped []
      | some written =>
          .accepted (String.ofList written.name) written.declared
            [(String.ofList written.name).utf8ByteSize] [] := by
  cases line with
  | blank blanks =>
      have silent : TypeLine.ofText blanks.text = .silent := by
        rw [TypeLine.ofText, trimBlanks_eq_nil blanks.blank]
        rfl
      rw [readTypeLine, text, String.toList_ofList, silent]
      rfl
  | declaration written => exact written.readTypeLine_text

theorem writesLines :
    WritesLines typeFormat WrittenTypeLine.text fun line =>
      line.declaration?.map fun written =>
        ⟨String.ofList written.name, written.declared,
          [(String.ofList written.name).utf8ByteSize]⟩ where
  unbroken := by
    intro line
    cases line with
    | blank blanks => exact blanks.blank.unbroken
    | declaration written => exact written.unbroken_text
  added := by
    intro line
    show (readTypeLine (String.ofList line.text)).addition? = _
    rw [line.readTypeLine_text]
    cases line.declaration? <;> rfl
  convertible := fun line fault => readTypeLine_ne_unconvertible (String.ofList line.text) fault

end WrittenTypeLine

/-- The declarations of a written source, in order. -/
def writtenTypes (rows : List (WrittenTypeLine × LineEnd))
    (last : WrittenTypeLine) : List WrittenType :=
  (rows.map Prod.fst ++ [last]).filterMap WrittenTypeLine.declaration?

/-- A written source loads without fault into a table of its names, in the order in which
they were first declared, with the types that were declared last. -/
private theorem loadText_writtenTypes (rows : List (WrittenTypeLine × LineEnd))
    (last : WrittenTypeLine) :
    (typeFormat.loadText (.ofLimit none) (writtenText WrittenTypeLine.text rows last)).fault =
        none ∧
      (typeFormat.loadText (.ofLimit none)
          (writtenText WrittenTypeLine.text rows last)).table.names =
        ((writtenTypes rows last).map (String.ofList ·.name)).eraseDups ∧
      ∀ name,
        (typeFormat.loadText (.ofLimit none)
            (writtenText WrittenTypeLine.text rows last)).table.get? name =
          ((writtenTypes rows last).reverse.find?
            (String.ofList ·.name == name)).map WrittenType.declared := by
  have entries :
      DeclarationFormat.entriesOf ((rows.map Prod.fst ++ [last]).filterMap fun line =>
        line.declaration?.map fun written =>
          (⟨String.ofList written.name, written.declared,
            [(String.ofList written.name).utf8ByteSize]⟩ : Addition DeclaredType)) =
        (writtenTypes rows last).map fun written =>
          (String.ofList written.name, written.declared) := by
    rw [writtenTypes, ← List.map_filterMap, DeclarationFormat.entriesOf, List.map_map]
    rfl
  rw [WrittenTypeLine.writesLines.loadText_writtenText ⟨[], rfl⟩, entries]
  refine ⟨rfl, ?_, ?_⟩
  · rw [OrderedTable.names_insertAll, List.map_map]
    rfl
  · intro name
    rw [OrderedTable.get?_insertAll, ← List.map_reverse,
      lookupEntry_map (fun written : WrittenType => String.ofList written.name),
      OrderedTable.get?_empty, Option.or_none]

/-- Type declarations are taken by their grammar. Into an arena without limit every line
can be taken, and gives an entry exactly if it declares it. A source of written
declarations loads into their table. Every name of a table that was loaded can be
declared, whatever the source and the arena. -/
theorem type_declarations_taken_by_grammar :
    (∀ (arena : Arena) (line : String), arena.limit = none →
      (∃ reading, typeFormat.outcome arena line = .ok reading) ∧
        ∀ name declared,
          typeFormat.outcome arena line = .ok (some (name, declared)) ↔
            DeclaresType line name declared) ∧
    (∀ (rows : List (WrittenTypeLine × LineEnd)) (last : WrittenTypeLine),
      (typeFormat.loadText (.ofLimit none)
          (writtenText WrittenTypeLine.text rows last)).fault = none ∧
        (typeFormat.loadText (.ofLimit none)
            (writtenText WrittenTypeLine.text rows last)).table.names =
          ((writtenTypes rows last).map (String.ofList ·.name)).eraseDups ∧
        ∀ name,
          (typeFormat.loadText (.ofLimit none)
              (writtenText WrittenTypeLine.text rows last)).table.get? name =
            ((writtenTypes rows last).reverse.find?
              (String.ofList ·.name == name)).map WrittenType.declared) ∧
    (∀ (arena : Arena) (source : DeclarationSource) (name : String),
      name ∈ (typeFormat.load arena source).1.table.names → IsDeclarableName name.toList) := by
  refine ⟨?_, loadText_writtenTypes, ?_⟩
  · intro arena line unlimited
    exact outcome_typeFormat unlimited line
  · intro arena source name present
    exact isDeclarableName_of_mem_load present

end ConstantCatalog
