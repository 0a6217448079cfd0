import ConstantCatalog.Proofs.Constant.Reading
import ConstantCatalog.Proofs.Number.Rounding
import ConstantCatalog.Proofs.Source.Bytes
import ConstantCatalog.Proofs.Text.Pieces

/-!
Contract: the constants that can be read from sources.

Whatever a value is read from, integers have 32 bits, numbers with a fraction and
components are in single precision, and a text that looks like a UUID is a key. A name is
a word of a line that is not reserved. A table that was loaded holds such constants alone,
each under its own name.

Owns: `HasUuidShape`, `ConstantValue.WellFormed`, `IsConstantName`, `Constant.IsLoadable`,
and their proofs for values, lines and loads.

Does not own: what becomes of loaded constants.
-/

namespace ConstantCatalog

/-! ## Texts in the form of a UUID -/

/-- Groups of 8, 4, 4, 4 and 12 hexadecimal digits with hyphens between them. -/
def HasUuidShape (text : List Char) : Prop :=
  ∃ groups : List (List Char), text = ['-'].intercalate groups ∧
    groups.map List.length = [8, 4, 4, 4, 12] ∧
    ∀ group ∈ groups, ∀ digit ∈ group, isHexDigit digit = true

private theorem isUuid_iff_hasUuidShape {text : List Char} :
    isUuid text = true ↔ HasUuidShape text := by
  unfold isUuid
  simp only [Bool.and_eq_true, beq_iff_eq, List.all_eq_true]
  constructor
  · rintro ⟨lengths, digits⟩
    have joined : ['-'].intercalate (pieces (· == '-') text) = text :=
      intercalate_pieces (fun _ separates => eq_of_beq separates) text
    exact ⟨_, joined.symm, lengths, digits⟩
  · rintro ⟨groups, rfl, lengths, digits⟩
    have nonempty : groups ≠ [] := by
      rintro rfl
      contradiction
    have plain : ∀ group ∈ groups, ∀ digit ∈ group, (digit == '-') = false := by
      intro group member digit inGroup
      have hexadecimal := digits group member digit inGroup
      rw [beq_eq_false_iff_ne]
      rintro rfl
      contradiction
    have found : pieces (· == '-') (['-'].intercalate groups) = groups :=
      pieces_intercalate (by decide) nonempty plain
    rw [found]
    exact ⟨lengths, digits⟩

/-! ## Values -/

/-- What holds of every value that is read. -/
def ConstantValue.WellFormed : ConstantValue → Prop
  | .integer value => -2147483648 ≤ value ∧ value ≤ 2147483647
  | .float value => value.toSingle = value
  | .string text => ¬HasUuidShape text.toList
  | .key _ => True
  | .vector value =>
      value.components.length = 3 ∧
        ∀ component ∈ value.components, component.toSingle = component
  | .quaternion value =>
      value.components.length = 4 ∧
        ∀ component ∈ value.components, component.toSingle = component
  | .null | .list | .error => False

private theorem bounds_of_fitting32? {value found : Int} (fits : fitting32? value = some found) :
    -2147483648 ≤ found ∧ found ≤ 2147483647 := by
  unfold fitting32? at fits
  split at fits
  · rename_i bounds
    obtain rfl := Option.some.inj fits
    exact bounds
  · contradiction

private theorem bounds_of_readInteger {text : List Char} {value : Int}
    (isRead : readInteger text = .ok (some value)) :
    -2147483648 ≤ value ∧ value ≤ 2147483647 := by
  unfold readInteger at isRead
  split at isRead
  · split at isRead
    · contradiction
    · exact bounds_of_fitting32? (Except.ok.inj isRead)
  · obtain ⟨digits, -, fits⟩ := Option.bind_eq_some_iff.1 (Except.ok.inj isRead)
    exact bounds_of_fitting32? fits

private theorem toSingle_of_readFloat {text : List Char} {value : Number}
    (isRead : readFloat text = .ok (some value)) :
    value.toSingle = value := by
  obtain ⟨numeral, -, -, rfl⟩ := readFloat_eq_some_iff.1 isRead
  exact Number.toSingle_toSingle _

/-- A component is a number in single precision. -/
private theorem toSingle_of_components {text : List Char} {values : List Number}
    (accepted : Literal.components text = .ok values) :
    ∀ value ∈ values, value.toSingle = value := by
  obtain ⟨first, others, -, rfl⟩ := Literal.components_eq_ok_iff.1 accepted
  intro value member
  obtain ⟨numeral, -, rfl⟩ := List.mem_map.1 member
  exact Number.toSingle_toSingle _

private theorem wellFormed_stringValue (content : List Char) :
    (stringValue content).WellFormed := by
  unfold stringValue
  split
  · trivial
  · rename_i other
    intro shape
    rw [String.toList_ofList] at shape
    exact other (isUuid_iff_hasUuidShape.2 shape)

private theorem wellFormed_of_vectorValue? {text : List Char} {value : ConstantValue}
    (isRead : vectorValue? text = some value) :
    value.WellFormed := by
  unfold vectorValue? at isRead
  split at isRead
  · rename_i accepted
    obtain rfl := Option.some.inj isRead
    exact ⟨rfl, toSingle_of_components accepted⟩
  · contradiction

private theorem wellFormed_of_rotationValue? {text : List Char} {value : ConstantValue}
    (isRead : rotationValue? text = some value) :
    value.WellFormed := by
  unfold rotationValue? at isRead
  split at isRead
  · rename_i accepted
    obtain rfl := Option.some.inj isRead
    exact ⟨rfl, toSingle_of_components accepted⟩
  · contradiction

/-- A value that is built from a reading comes of one that succeeded. -/
private theorem exists_of_map_eq_some {β : Type} {outcome : Except ConversionFault (Option β)}
    {build : β → ConstantValue} {value : ConstantValue}
    (isRead : outcome.map (·.map build) = .ok (some value)) :
    ∃ found, outcome = .ok (some found) ∧ value = build found := by
  cases outcome with
  | error fault => contradiction
  | ok reading =>
      obtain ⟨found, rfl, rfl⟩ := Option.map_eq_some_iff.1 (Except.ok.inj isRead)
      exact ⟨found, rfl, rfl⟩

private theorem wellFormed_of_readValue {kind : ConstantKind} {text : List Char}
    {value : ConstantValue} (isRead : readValue kind text = .ok (some value)) :
    value.WellFormed := by
  cases kind with
  | integer =>
      obtain ⟨found, isInteger, rfl⟩ := exists_of_map_eq_some isRead
      exact bounds_of_readInteger isInteger
  | float =>
      obtain ⟨found, isFloat, rfl⟩ := exists_of_map_eq_some isRead
      exact toSingle_of_readFloat isFloat
  | string =>
      obtain ⟨content, -, rfl⟩ := Option.map_eq_some_iff.1 (Except.ok.inj isRead)
      exact wellFormed_stringValue content
  | key =>
      obtain ⟨content, -, rfl⟩ := Option.map_eq_some_iff.1 (Except.ok.inj isRead)
      trivial
  | vector => exact wellFormed_of_vectorValue? (Except.ok.inj isRead)
  | quaternion => exact wellFormed_of_rotationValue? (Except.ok.inj isRead)
  | null => simp [readValue] at isRead
  | list => simp [readValue] at isRead
  | error => simp [readValue] at isRead

/-- Values of all other kinds are never read. -/
private theorem ConstantValue.WellFormed.kind_mem {value : ConstantValue}
    (wellFormed : value.WellFormed) :
    value.kind ∈ [.integer, .float, .string, .key, .vector, .quaternion] := by
  cases value with
  | null => exact absurd wellFormed id
  | list => exact absurd wellFormed id
  | error => exact absurd wellFormed id
  | _ => simp [kind]

/-! ## Names -/

/-- A name that a declaration can define: a word of a line, and not reserved. -/
structure IsConstantName (name : String) : Prop where
  nonempty : name ≠ ""
  solid : ∀ character ∈ name.toList, character ∉ [' ', '\t', '\r', '\n']
  free : name ≠ "TRUE" ∧ name ≠ "FALSE"

private theorem isConstantName_of_word {name : List Char} (isWord : IsWord name)
    (unbroken : Unbroken name) (free : reservedNames.contains (String.ofList name) = false) :
    IsConstantName (String.ofList name) where
  nonempty := by
    intro empty
    have noCharacters := congrArg String.toList empty
    rw [String.toList_ofList] at noCharacters
    exact isWord.1 noCharacters
  solid := by
    intro character member
    rw [String.toList_ofList] at member
    have noBlank := isWord.2 character member
    have noBreak := unbroken character member
    simp_all [isBlank, isLineBreak]
  free := by
    simpa [reservedNames] using free

/-! ## Constants -/

/-- What holds of every constant that is loaded. -/
structure Constant.IsLoadable (constant : Constant) : Prop where
  name : IsConstantName constant.name
  kind : constant.kind ∈ [.integer, .float, .string, .key, .vector, .quaternion]
  value : constant.value.WellFormed

theorem HasHeader.isWord_name {text opening keyword name after : List Char}
    (header : HasHeader text opening keyword name after) :
    IsWord name := by
  obtain ⟨_, _, _, _, -, -, -, -, nameWord, -⟩ := header.exists_opening_parts
  exact nameWord

/-- The name in a header is part of the line. -/
private theorem HasHeader.mem_of_mem_name {text opening keyword name after : List Char}
    (header : HasHeader text opening keyword name after) {character : Char}
    (member : character ∈ name) :
    character ∈ text := by
  obtain ⟨_, _, _, _, -, -, -, -, -, parts⟩ := header.exists_opening_parts
  rw [header.text_eq, parts]
  simp [member]

/-- A line without a line break in it is accepted under the name of a loadable constant. -/
private theorem isLoadable_of_accepted {line key : String} {constant : Constant} {sizes : List Nat}
    {events : List Event} (unbroken : Unbroken line.toList)
    (accepted : readConstantLine line = .accepted key constant sizes events) :
    key = constant.name ∧ constant.IsLoadable := by
  obtain ⟨opening, keyword, name, after, header, declared⟩ :=
    (readConstantLine_eq_iff (by simp)).1 accepted
  obtain ⟨free, kind, found, -, isRead, rfl, rfl, -, -⟩ :=
    readDeclaration_eq_accepted_iff.1 declared
  have wellFormed := wellFormed_of_readValue isRead
  have nameUnbroken : Unbroken name :=
    fun character member => unbroken character (header.mem_of_mem_name member)
  exact ⟨rfl,
    { name := isConstantName_of_word header.isWord_name nameUnbroken free
      kind := wellFormed.kind_mem
      value := wellFormed }⟩

/-- What a load of constants holds is loadable, under its own name. -/
theorem isLoadable_of_mem_load {arena : Arena} {source : DeclarationSource} {key : String}
    {constant : Constant}
    (member : (key, constant) ∈ (constantFormat.load arena source).1.table.entries) :
    key = constant.name ∧ constant.IsLoadable := by
  obtain ⟨line, inSource, sizes, events, accepted⟩ :=
    constantFormat.origin_of_mem_load member
  exact isLoadable_of_accepted (DeclarationSource.unbroken_of_mem_lines inSource) accepted

end ConstantCatalog
