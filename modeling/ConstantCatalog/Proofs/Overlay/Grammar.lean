import ConstantCatalog.Overlay.Declaration
import ConstantCatalog.Proofs.Declaration.Loading
import ConstantCatalog.Proofs.Number.Numeral
import ConstantCatalog.Proofs.Text.Blank

/-!
Contract: the type declarations that are accepted, by the text of their lines.

A line declares a type if it is the opening, a text without a colon, a colon and more
text, once the blanks around it are gone; if the text before the colon is a plain name
and the text behind it not blank, both trimmed; and if none of the compound marks occurs
anywhere in it. Every other line is passed over, and no line is a fault.

Owns: `IsPlainName`, `IsDeclarableName`, `LabelMeans`, `IsTypeDeclaration`, the lines that
declare a type, and the names of loaded types.

Does not own: how declarations are written.
-/

namespace ConstantCatalog

variable {α : Type}

/-! ## Occurrence -/

theorem occursIn_iff_isInfix {part text : List Char} :
    occursIn part text = true ↔ part <:+: text := by
  induction text with
  | nil => simp [occursIn]
  | cons first rest inductionHypothesis =>
      rw [occursIn, Bool.or_eq_true, inductionHypothesis, List.isPrefixOf_iff_prefix,
        List.infix_cons_iff]

/-- What begins a text and does not hold an element ends before the element comes. -/
private theorem isPrefix_of_notMem {part before after : List α} {separator : α}
    (free : separator ∉ part) (begins : part <+: before ++ separator :: after) :
    part <+: before := by
  rcases List.prefix_or_prefix_of_prefix begins (List.prefix_append before _) with
    inside | ⟨rest, rfl⟩
  · exact inside
  · rw [List.prefix_append_right_inj, List.prefix_cons_iff] at begins
    rcases begins with rfl | ⟨tail, rfl, -⟩
    · simp
    · simp at free

/-- What occurs in a text and does not hold a separator lies on one side of it. -/
theorem isInfix_append_cons {part before after : List α} {separator : α} (free : separator ∉ part)
    (occurs : part <:+: before ++ separator :: after) :
    part <:+: before ∨ part <:+: after := by
  induction before with
  | nil =>
      rw [List.nil_append, List.infix_cons_iff] at occurs
      rcases occurs with begins | inAfter
      · have nothing : part <+: [] := isPrefix_of_notMem free begins
        exact Or.inl nothing.isInfix
      · exact Or.inr inAfter
  | cons first rest inductionHypothesis =>
      rw [List.cons_append, List.infix_cons_iff] at occurs
      rcases occurs with begins | inRest
      · rw [← List.cons_append] at begins
        exact Or.inl (isPrefix_of_notMem free begins).isInfix
      · rcases inductionHypothesis inRest with inBefore | inAfter
        · exact Or.inl (inBefore.trans (List.suffix_cons first rest).isInfix)
        · exact Or.inr inAfter

/-! ## Names -/

/-- An ASCII letter, an ASCII digit, or the underscore. -/
def IsPlainNameChar (character : Char) : Prop :=
  ('a' ≤ character ∧ character ≤ 'z') ∨ ('A' ≤ character ∧ character ≤ 'Z') ∨
    ('0' ≤ character ∧ character ≤ '9') ∨ character = '_'

/-- A word of such characters. -/
structure IsPlainName (name : List Char) : Prop where
  nonempty : name ≠ []
  plain : ∀ character ∈ name, IsPlainNameChar character

/-- A name that a line can declare a type for: a plain one without the marks of
functions and of external types. -/
structure IsDeclarableName (name : List Char) : Prop extends IsPlainName name where
  noFunction : ¬"function".toList <:+: name
  noExternal : ¬"extern".toList <:+: name

theorem isNameChar_iff {character : Char} :
    isNameChar character = true ↔ IsPlainNameChar character := by
  have code : character = '_' ↔ character.toNat = 95 := by
    constructor
    · rintro rfl
      rfl
    · intro sameCode
      exact Char.ext (UInt32.toNat_inj.1 sameCode)
  have digit : character.isDigit = true ↔ 48 ≤ character.toNat ∧ character.toNat ≤ 57 := by
    change (decide (character.val ≥ '0'.val) && decide (character.val ≤ '9'.val)) = true ↔ _
    simp only [Bool.and_eq_true, decide_eq_true_eq, ge_iff_le, UInt32.le_iff_toNat_le]
    exact Iff.rfl
  change (character.isAlpha || character.isDigit || character == '_') = true ↔ _
  rw [Bool.or_eq_true, Bool.or_eq_true, isAlpha_iff_toNat, digit, beq_iff_eq, code,
    IsPlainNameChar, code]
  simp only [Char.le_def, UInt32.le_iff_toNat_le]
  change _ ↔ (97 ≤ character.toNat ∧ character.toNat ≤ 122) ∨
    (65 ≤ character.toNat ∧ character.toNat ≤ 90) ∨
    (48 ≤ character.toNat ∧ character.toNat ≤ 57) ∨ character.toNat = 95
  omega

private theorem hasNameCharsOnly_iff {name : List Char} :
    hasNameCharsOnly name = true ↔ ∀ character ∈ name, IsPlainNameChar character := by
  simp only [hasNameCharsOnly, List.all_eq_true, isNameChar_iff]

/-! ## Labels -/

/-- The labels that name a type, each with its type. -/
def labelledTypes : List (String × DeclaredType) :=
  [("number", .number), ("string", .string), ("uuid", .uuid), ("vector", .vector),
   ("quaternion", .quaternion), ("rotation", .quaternion)]

/-- The type that a label declares: that of the table, and the unknown one for every label
that is not in it. -/
def LabelMeans (label : String) (declared : DeclaredType) : Prop :=
  (label, declared) ∈ labelledTypes ∨
    (label ∉ labelledTypes.map Prod.fst ∧ declared = .unknown)

theorem ofLabel_of_mem {label : String} {declared : DeclaredType}
    (listed : (label, declared) ∈ labelledTypes) :
    DeclaredType.ofLabel label = declared := by
  simp only [labelledTypes, List.mem_cons, List.not_mem_nil, or_false, Prod.mk.injEq] at listed
  rcases listed with
    ⟨rfl, rfl⟩ | ⟨rfl, rfl⟩ | ⟨rfl, rfl⟩ | ⟨rfl, rfl⟩ | ⟨rfl, rfl⟩ | ⟨rfl, rfl⟩ <;> rfl

private theorem ofLabel_of_notMem {label : String} (unlisted : label ∉ labelledTypes.map Prod.fst) :
    DeclaredType.ofLabel label = .unknown := by
  unfold DeclaredType.ofLabel
  split
  all_goals first | rfl | exact absurd (by decide) unlisted

private theorem labelMeans_iff {label : String} {declared : DeclaredType} :
    LabelMeans label declared ↔ DeclaredType.ofLabel label = declared := by
  constructor
  · rintro (listed | ⟨unlisted, rfl⟩)
    · exact ofLabel_of_mem listed
    · exact ofLabel_of_notMem unlisted
  · rintro rfl
    by_cases present : label ∈ labelledTypes.map Prod.fst
    · obtain ⟨⟨key, declared⟩, listed, rfl⟩ := List.mem_map.1 present
      rw [ofLabel_of_mem listed]
      exact Or.inl listed
    · exact Or.inr ⟨present, ofLabel_of_notMem present⟩

/-! ## Lines -/

/-- Whether one of the compound marks occurs in a text. -/
def HasCompoundMark (text : List Char) : Prop :=
  ∃ mark ∈ compoundMarks, mark <:+: text

/-- A line of a type declaration: what stands between its opening and its first colon, and
what stands behind the colon. -/
structure IsTypeDeclaration (line beforeColon afterColon : List Char) : Prop where
  written : trimBlanks line = "declare ".toList ++ beforeColon ++ ':' :: afterColon
  firstColon : ':' ∉ beforeColon
  name : IsPlainName (trimBlanks beforeColon)
  label : trimBlanks afterColon ≠ []
  simple : ¬HasCompoundMark (trimBlanks line)

private theorem isPlainName_iff {name : List Char} :
    IsPlainName name ↔ name ≠ [] ∧ hasNameCharsOnly name = true := by
  rw [hasNameCharsOnly_iff]
  exact ⟨fun isName => ⟨isName.nonempty, isName.plain⟩, fun parts => ⟨parts.1, parts.2⟩⟩

private theorem any_occursIn_iff {text : List Char} :
    compoundMarks.any (occursIn · text) = true ↔ HasCompoundMark text := by
  simp only [List.any_eq_true, occursIn_iff_isInfix]
  exact Iff.rfl

/-- The body of a declaration divides at its first colon. -/
private theorem ofBody_eq_declaration_iff {trimmed body name label : List Char} :
    TypeLine.ofBody trimmed body = .declaration name label ↔
      ∃ beforeColon afterColon, body = beforeColon ++ ':' :: afterColon ∧
        ':' ∉ beforeColon ∧ IsPlainName (trimBlanks beforeColon) ∧
        trimBlanks afterColon ≠ [] ∧
        name = trimBlanks beforeColon ∧ label = trimBlanks afterColon := by
  constructor
  · intro declares
    have parts := List.takeWhile_append_dropWhile (p := (· != ':')) (l := body)
    have stops : BeginsOutside (· != ':') (body.dropWhile (· != ':')) :=
      beginsOutside_dropWhile body
    have free : ':' ∉ body.takeWhile (· != ':') := by
      intro member
      have passed := holds_of_mem_takeWhile member
      simp at passed
    unfold TypeLine.ofBody at declares
    split at declares
    · contradiction
    · rename_i colon afterColon rest
      have isColon : colon = ':' := by simpa using stops colon (by rw [rest]; rfl)
      subst isColon
      dsimp only at declares
      split at declares
      · contradiction
      · rename_i proper
        simp only [Bool.or_eq_true, Bool.not_eq_true', not_or, List.isEmpty_iff,
          Bool.not_eq_false] at proper
        obtain ⟨⟨named, labelled⟩, plain⟩ := proper
        obtain ⟨rfl, rfl⟩ := TypeLine.declaration.inj declares
        refine ⟨body.takeWhile (· != ':'), afterColon, ?_, free,
          isPlainName_iff.2 ⟨named, plain⟩, labelled, rfl, rfl⟩
        rw [← rest, parts]
  · rintro ⟨beforeColon, afterColon, rfl, free, isName, labelled, rfl, rfl⟩
    have inside : ∀ character ∈ beforeColon, (character != ':') = true := by
      intro character member
      rw [bne_iff_ne]
      rintro rfl
      exact free member
    have outside : BeginsOutside (· != ':') (':' :: afterColon) :=
      beginsOutside_cons afterColon (by decide)
    obtain ⟨named, plain⟩ := isPlainName_iff.1 isName
    rw [TypeLine.ofBody, dropWhile_run inside outside, takeWhile_run inside outside]
    simp [named, labelled, plain]

/-- The lines that declare a type are those of the grammar, with the trimmed texts on the
two sides of the first colon. -/
private theorem ofText_eq_declaration_iff {line name label : List Char} :
    TypeLine.ofText line = .declaration name label ↔
      ∃ beforeColon afterColon, IsTypeDeclaration line beforeColon afterColon ∧
        name = trimBlanks beforeColon ∧ label = trimBlanks afterColon := by
  constructor
  · intro declares
    unfold TypeLine.ofText at declares
    dsimp only at declares
    split at declares
    · contradiction
    · split at declares
      · contradiction
      · rename_i opens
        split at declares
        · contradiction
        · rename_i unmarked
          rw [Bool.not_eq_true, Bool.not_eq_false', List.isPrefixOf_iff_prefix] at opens
          obtain ⟨body, built⟩ := opens
          rw [← built, List.drop_left, built] at declares
          obtain ⟨beforeColon, afterColon, rfl, free, isName, labelled, rfl, rfl⟩ :=
            ofBody_eq_declaration_iff.1 declares
          refine ⟨beforeColon, afterColon, ?_, rfl, rfl⟩
          exact
            { written := by
                rw [← built, List.append_assoc]
                rfl
              firstColon := free
              name := isName
              label := labelled
              simple := fun marked => unmarked (any_occursIn_iff.2 marked) }
  · rintro ⟨beforeColon, afterColon, shape, rfl, rfl⟩
    have unmarked : compoundMarks.any (occursIn · (trimBlanks line)) = false := by
      rw [Bool.eq_false_iff]
      exact fun marked => shape.simple (any_occursIn_iff.1 marked)
    have opens : declareOpening.isPrefixOf (trimBlanks line) = true := by
      rw [List.isPrefixOf_iff_prefix, shape.written, List.append_assoc]
      exact List.prefix_append _ _
    have body : (trimBlanks line).drop declareOpening.length =
        beforeColon ++ ':' :: afterColon := by
      rw [shape.written, List.append_assoc]
      exact List.drop_left
    have solid : ((trimBlanks line).isEmpty || ['-', '-'].isPrefixOf (trimBlanks line)) =
        false := by
      rw [shape.written]
      rfl
    rw [TypeLine.ofText, solid, opens, unmarked, body]
    exact ofBody_eq_declaration_iff.2
      ⟨beforeColon, afterColon, rfl, shape.firstColon, shape.name, shape.label, rfl, rfl⟩

/-! ## Entries -/

/-- What a line declares: a name and the type that its label means. -/
def DeclaresType (line name : String) (declared : DeclaredType) : Prop :=
  ∃ beforeColon afterColon, IsTypeDeclaration line.toList beforeColon afterColon ∧
    name = String.ofList (trimBlanks beforeColon) ∧
    LabelMeans (String.ofList (trimBlanks afterColon)) declared

theorem readTypeLine_of_isTypeDeclaration {line : String} {beforeColon afterColon : List Char}
    (shape : IsTypeDeclaration line.toList beforeColon afterColon) :
    ∃ events,
      readTypeLine line =
        .accepted (String.ofList (trimBlanks beforeColon))
          (.ofLabel (String.ofList (trimBlanks afterColon)))
          [(String.ofList (trimBlanks beforeColon)).utf8ByteSize] events ∧
        (DeclaredType.ofLabel (String.ofList (trimBlanks afterColon)) ≠ .unknown →
          events = []) := by
  have declares := ofText_eq_declaration_iff.2 ⟨beforeColon, afterColon, shape, rfl, rfl⟩
  rw [readTypeLine, declares]
  exact ⟨_, rfl, fun known => if_neg known⟩

/-- An entry comes of a line that declares it. -/
theorem declaresType_of_accepted {line name : String} {declared : DeclaredType} {sizes : List Nat}
    {events : List Event} (accepted : readTypeLine line = .accepted name declared sizes events) :
    DeclaresType line name declared := by
  unfold readTypeLine at accepted
  split at accepted
  · contradiction
  · contradiction
  · rename_i nameText labelText declares
    obtain ⟨beforeColon, afterColon, shape, rfl, rfl⟩ :=
      ofText_eq_declaration_iff.1 declares
    injection accepted with sameName sameType
    exact ⟨beforeColon, afterColon, shape, sameName.symm, labelMeans_iff.2 sameType⟩

/-- No line is a fault. -/
theorem readTypeLine_ne_unconvertible (line : String) (fault : ConversionFault) :
    readTypeLine line ≠ .unconvertible fault := by
  unfold readTypeLine
  split <;> simp

/-- Into an arena without limit every line can be taken, and an entry comes of it exactly
if the line declares the entry. -/
theorem outcome_typeFormat {arena : Arena} (unlimited : arena.limit = none) (line : String) :
    (∃ reading, typeFormat.outcome arena line = .ok reading) ∧
      ∀ name declared,
        typeFormat.outcome arena line = .ok (some (name, declared)) ↔
          DeclaresType line name declared := by
  constructor
  · cases reading : readTypeLine line with
    | skipped events =>
        exact ⟨none, typeFormat.outcome_eq_none_iff.2 ⟨events, reading⟩⟩
    | unconvertible fault => exact absurd reading (readTypeLine_ne_unconvertible line fault)
    | accepted name declared sizes events =>
        exact ⟨some (name, declared), typeFormat.outcome_unlimited unlimited reading⟩
  · intro name declared
    constructor
    · intro admitted
      obtain ⟨sizes, events, accepted, -⟩ := typeFormat.readLine_of_outcome_eq_some admitted
      exact declaresType_of_accepted accepted
    · rintro ⟨beforeColon, afterColon, shape, rfl, means⟩
      obtain ⟨events, accepted, -⟩ := readTypeLine_of_isTypeDeclaration shape
      rw [labelMeans_iff.1 means] at accepted
      exact typeFormat.outcome_unlimited unlimited accepted

/-! ## Names of loaded types -/

private theorem IsTypeDeclaration.isDeclarableName {line beforeColon afterColon : List Char}
    (shape : IsTypeDeclaration line beforeColon afterColon) :
    IsDeclarableName (trimBlanks beforeColon) := by
  have inside : trimBlanks beforeColon <:+: trimBlanks line := by
    obtain ⟨lead, trail, -, -, built⟩ := exists_padding beforeColon
    have inPart : trimBlanks beforeColon <:+: beforeColon := ⟨lead, trail, built.symm⟩
    apply inPart.trans
    rw [shape.written]
    exact ⟨"declare ".toList, ':' :: afterColon, rfl⟩
  have unmarked : ∀ mark ∈ compoundMarks, ¬mark <:+: trimBlanks beforeColon :=
    fun mark isMark occurs => shape.simple ⟨mark, isMark, occurs.trans inside⟩
  exact
    { nonempty := shape.name.nonempty
      plain := shape.name.plain
      noFunction := unmarked _ (by simp [compoundMarks])
      noExternal := unmarked _ (by simp [compoundMarks]) }

/-- Whatever a table of types was loaded from, and into which arena, its names can be
declared. -/
theorem isDeclarableName_of_mem_load {arena : Arena} {source : DeclarationSource} {name : String}
    (present : name ∈ (typeFormat.load arena source).1.table.names) :
    IsDeclarableName name.toList := by
  obtain ⟨⟨key, declared⟩, member, rfl⟩ := List.mem_map.1 present
  obtain ⟨line, -, sizes, events, accepted⟩ := typeFormat.origin_of_mem_load member
  obtain ⟨beforeColon, afterColon, shape, isKey, -⟩ := declaresType_of_accepted accepted
  rw [isKey, String.toList_ofList]
  exact shape.isDeclarableName

end ConstantCatalog
