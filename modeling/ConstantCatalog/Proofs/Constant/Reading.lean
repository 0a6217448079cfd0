import ConstantCatalog.Proofs.Constant.Header
import ConstantCatalog.Proofs.Constant.Scalar
import ConstantCatalog.Proofs.Declaration.Loading
import ConstantCatalog.Proofs.Literal.Acceptance

/-!
Contract: what a line of constants is read as, by its header and its value.

A line that is more than passed over has a header, a known keyword and a name that is
not reserved. What it is read as depends on its value alone: the value is converted,
cannot be converted, or is no value of its kind.

Owns: the readings of lines in terms of `HasHeader` and `readValue`, the values with an
equals sign in them, and the admission of accepted lines.

Does not own: the grammars of values.
-/

namespace ConstantCatalog

/-! ## Keywords and names -/

/-- The keyword that declares a kind, if one does. -/
def ConstantKind.keyword? : ConstantKind → Option String
  | integer => some "integer"
  | float => some "float"
  | string => some "string"
  | key => some "key"
  | vector => some "vector"
  | quaternion => some "rotation"
  | null | list | error => none

private theorem ConstantKind.ofKeyword?_eq_some_iff {keyword : String} {kind : ConstantKind} :
    ofKeyword? keyword = some kind ↔ kind.keyword? = some keyword := by
  constructor
  · intro known
    unfold ofKeyword? at known
    split at known
    case h_7 => contradiction
    all_goals
      obtain rfl := Option.some.inj known
      rfl
  · intro declares
    cases kind
    case null => contradiction
    case list => contradiction
    case error => contradiction
    all_goals
      obtain rfl := Option.some.inj declares
      rfl

/-- Keywords are written with letters. -/
theorem isAlpha_of_ofKeyword? {keyword : List Char} {kind : ConstantKind}
    (known : ConstantKind.ofKeyword? (String.ofList keyword) = some kind) :
    ∀ character ∈ keyword, character.isAlpha = true := by
  have letters : ∀ word ∈ kind.keyword?, word.toList.all Char.isAlpha = true := by
    cases kind <;> decide
  have ofKeyword := letters _ (ConstantKind.ofKeyword?_eq_some_iff.1 known)
  rw [String.toList_ofList] at ofKeyword
  exact List.all_eq_true.1 ofKeyword

theorem no_equals_of_ofKeyword? {keyword : List Char} {kind : ConstantKind}
    (known : ConstantKind.ofKeyword? (String.ofList keyword) = some kind) :
    '=' ∉ keyword := by
  intro member
  have letter := isAlpha_of_ofKeyword? known '=' member
  contradiction

theorem ConstantKind.isText_iff {kind : ConstantKind} :
    kind.isText = true ↔ kind = .string ∨ kind = .key := by
  cases kind <;> simp [isText]

/-- The keywords of texts. -/
theorem isText_iff_of_ofKeyword? {keyword : List Char} {kind : ConstantKind}
    (known : ConstantKind.ofKeyword? (String.ofList keyword) = some kind) :
    kind.isText = true ↔ keyword = "string".toList ∨ keyword = "key".toList := by
  have among : ∀ word ∈ kind.keyword?,
      kind.isText = true ↔ word.toList = "string".toList ∨ word.toList = "key".toList := by
    cases kind <;> decide
  have decided := among _ (ConstantKind.ofKeyword?_eq_some_iff.1 known)
  rwa [String.toList_ofList] at decided

theorem not_reserved_of_equals {name : List Char} (equals : '=' ∈ name) :
    reservedNames.contains (String.ofList name) = false := by
  have plain : ∀ reserved ∈ reservedNames, '=' ∉ reserved.toList := by decide
  rw [Bool.eq_false_iff]
  intro reserved
  have absent := plain _ (List.contains_iff_mem.1 reserved)
  rw [String.toList_ofList] at absent
  exact absent equals

/-! ## Declarations -/

theorem readDeclaration_eq_accepted_iff {keyword name key : String} {value : List Char}
    {constant : Constant} {sizes : List Nat} {events : List Event} :
    readDeclaration keyword name value = .accepted key constant sizes events ↔
      reservedNames.contains name = false ∧
        ∃ kind found, ConstantKind.ofKeyword? keyword = some kind ∧
          readValue kind value = .ok (some found) ∧ key = name ∧ constant = ⟨name, found⟩ ∧
          sizes = constant.copySizes ∧ events = [] := by
  unfold readDeclaration
  constructor
  · intro accepted
    split at accepted
    · contradiction
    · rename_i free
      split at accepted
      · contradiction
      · rename_i kind known
        split at accepted
        · contradiction
        · contradiction
        · rename_i found isRead
          obtain ⟨rfl, rfl, rfl, rfl⟩ := LineReading.accepted.inj accepted
          exact ⟨Bool.eq_false_iff.2 free, kind, found, known, isRead, rfl, rfl, rfl, rfl⟩
  · rintro ⟨free, kind, found, known, isRead, rfl, rfl, rfl, rfl⟩
    simp only [free, known, isRead, Bool.false_eq_true, if_false]

theorem readDeclaration_eq_unconvertible_iff {keyword name : String} {value : List Char}
    {fault : ConversionFault} :
    readDeclaration keyword name value = .unconvertible fault ↔
      reservedNames.contains name = false ∧
        ∃ kind, ConstantKind.ofKeyword? keyword = some kind ∧
          readValue kind value = .error fault := by
  unfold readDeclaration
  constructor
  · intro refused
    split at refused
    · contradiction
    · rename_i free
      split at refused
      · contradiction
      · rename_i kind known
        split at refused
        · rename_i cause isRead
          obtain rfl := LineReading.unconvertible.inj refused
          exact ⟨Bool.eq_false_iff.2 free, kind, known, isRead⟩
        · contradiction
        · contradiction
  · rintro ⟨free, kind, known, isRead⟩
    simp only [free, known, isRead, Bool.false_eq_true, if_false]

/-! ## Lines -/

/-- A line with a header is read by its keyword, its name, and what stands behind its
first equals sign. -/
theorem readConstantLine_of_hasHeader {line : String} {opening keyword name after : List Char}
    (header : HasHeader line.toList opening keyword name after) :
    readConstantLine line =
      readDeclaration (String.ofList keyword) (String.ofList name)
        (trimBlanks (afterEquals line.toList)) := by
  rw [readConstantLine, ofText_of_hasHeader header]

/-- A line that is more than passed over has a header. -/
theorem exists_header_of_readConstantLine {line : String}
    (speaks : ∀ events, readConstantLine line ≠ .skipped events) :
    ∃ opening keyword name after, HasHeader line.toList opening keyword name after := by
  unfold readConstantLine at speaks
  cases declares : ConstantLine.ofText line.toList with
  | silent =>
      rw [declares] at speaks
      exact absurd rfl (speaks [])
  | foreign trimmed =>
      rw [declares] at speaks
      exact absurd rfl (speaks [.foreignLine (String.ofList trimmed)])
  | declaration keyword name value =>
      obtain ⟨opening, after, header, -⟩ := exists_header_of_ofText declares
      exact ⟨opening, keyword, name, after, header⟩

/-- A line is read as something else than passed over exactly when it has a header and its
declaration is read so. -/
theorem readConstantLine_eq_iff {line : String} {reading : LineReading Constant}
    (speaks : ∀ events, reading ≠ .skipped events) :
    readConstantLine line = reading ↔
      ∃ opening keyword name after, HasHeader line.toList opening keyword name after ∧
        readDeclaration (String.ofList keyword) (String.ofList name)
          (trimBlanks (afterEquals line.toList)) = reading := by
  constructor
  · rintro rfl
    obtain ⟨opening, keyword, name, after, header⟩ := exists_header_of_readConstantLine speaks
    exact ⟨opening, keyword, name, after, header, (readConstantLine_of_hasHeader header).symm⟩
  · rintro ⟨opening, keyword, name, after, header, isReading⟩
    rw [readConstantLine_of_hasHeader header, isReading]

/-- A value whose copies the arena grants is admitted. -/
theorem admitValue_snd_of_granted {arena : Arena} {kind : ConstantKind} {text : List Char}
    {found : ConstantValue} (isRead : readValue kind text = .ok (some found))
    (granted : (arena.chargeAll found.copySizes).2 = none) :
    (admitValue arena kind (String.ofList text)).2 = .ok (some found) := by
  unfold admitValue
  rw [String.toList_ofList, isRead]
  cases charged : arena.chargeAll found.copySizes with
  | mk reached refusal =>
      rw [charged] at granted
      dsimp only at granted
      subst granted
      simp only [charged]

/-! ## Values -/

/-- A value of a text kind is whatever stands between quotes. -/
theorem exists_readValue_of_isText {kind : ConstantKind} (isText : kind.isText = true) :
    ∃ build : List Char → ConstantValue,
      ∀ text, readValue kind text = .ok ((unquoted? text).map build) := by
  rcases ConstantKind.isText_iff.1 isText with rfl | rfl
  · exact ⟨stringValue, fun _ => rfl⟩
  · exact ⟨fun content => .key (String.ofList content), fun _ => rfl⟩

/-- Only texts have equals signs in them. -/
theorem readValue_eq_none_of_equals {kind : ConstantKind} {text : List Char} (equals : '=' ∈ text)
    (number : kind.isText = false) :
    readValue kind text = .ok none := by
  have noLiteral : ∀ values, Literal.components text ≠ .ok values := by
    intro values accepted
    have written := Literal.isLiteralChar_of_components accepted '=' equals
    contradiction
  cases kind with
  | integer =>
      rw [readValue, readInteger_eq_none_of_mem equals (by decide)]
      rfl
  | float =>
      rw [readValue, readFloat_eq_none_of_mem equals (by decide) (by decide)]
      rfl
  | vector =>
      have none : vectorValue? text = none := by
        unfold vectorValue?
        split
        · rename_i accepted
          exact absurd accepted (noLiteral _)
        · rfl
      rw [readValue, none]
  | quaternion =>
      have none : rotationValue? text = none := by
        unfold rotationValue?
        split
        · rename_i accepted
          exact absurd accepted (noLiteral _)
        · rfl
      rw [readValue, none]
  | string => contradiction
  | key => contradiction
  | null => rfl
  | list => rfl
  | error => rfl

end ConstantCatalog
