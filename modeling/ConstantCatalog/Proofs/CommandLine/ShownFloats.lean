import ConstantCatalog.CommandLine.Inspection
import ConstantCatalog.Proofs.Constant.WellFormed
import ConstantCatalog.Proofs.Constant.Writing.Declaration
import ConstantCatalog.Proofs.Number.ReadBack
import ConstantCatalog.Proofs.Publication.Resolution
import ConstantCatalog.Proofs.Store.Source

/-!
Contract: float constants as reports show the numbers they are published as.

A float constant is published as its own number, whatever type is declared for it, and
shown with nine significant digits. These are read back as the number, zeros with their
signs, infinities and NaN included. So what a dump shows of a float constant can be put
into a declaration again, and the line declares the same constant.

Owns: `redeclaration`, and that shown floats are read back.

Does not own: components of vectors and rotations, which are shown with six digits.
-/

namespace ConstantCatalog.CommandLine

/-! ## Names of float constants -/

/-- A float is read of no text kind. -/
private theorem isText_eq_false_of_readValue_float {kind : ConstantKind} {text : List Char}
    {value : Number} (isRead : readValue kind text = .ok (some (.float value))) :
    kind.isText = false := by
  cases kind with
  | string =>
      obtain ⟨content, -, built⟩ := Option.map_eq_some_iff.1 (Except.ok.inj isRead)
      unfold stringValue at built
      split at built
      · contradiction
      · contradiction
  | key =>
      obtain ⟨content, -, built⟩ := Option.map_eq_some_iff.1 (Except.ok.inj isRead)
      contradiction
  | _ => rfl

/-- The name of a float constant that a line declares has no equals sign, since the value
would begin inside the name. -/
private theorem no_equals_of_accepted_float {line name : String} {constant : Constant}
    {value : Number} (isFloat : constant.value = .float value) {sizes : List Nat}
    {events : List Event}
    (accepted : readConstantLine line = .accepted name constant sizes events) :
    '=' ∉ name.toList := by
  obtain ⟨opening, keyword, word, after, header, declared⟩ :=
    (readConstantLine_eq_iff (by simp)).1 accepted
  obtain ⟨-, kind, found, known, isRead, rfl, rfl, -, -⟩ :=
    readDeclaration_eq_accepted_iff.1 declared
  obtain rfl : found = .float value := isFloat
  rw [String.toList_ofList]
  intro equals
  have inValue := header.equals_mem_value (no_equals_of_ofKeyword? known) equals
  rw [readValue_eq_none_of_equals inValue (isText_eq_false_of_readValue_float isRead)] at isRead
  simp at isRead

/-! ## Declarations of shown floats -/

/-- The line that declares a name as the float that a text shows. -/
def redeclaration (name text : String) : String :=
  "const float " ++ name ++ " = " ++ text

def singleGap : Gap where
  text := [' ']
  blank := by simp [AllBlank, isBlank]
  nonempty := by simp

/-- A declaration of a float with single blanks around its words. -/
def floatDeclaration (name : DeclaredName) (written : WrittenFloat) : WrittenDeclaration where
  lead := ⟨[], allBlank_nil⟩
  keywordGap := singleGap
  nameGap := singleGap
  equalsGap := singleGap
  valueGap := singleGap
  trail := ⟨[], allBlank_nil⟩
  name := name
  value := .float written

private theorem text_floatDeclaration (name : DeclaredName) (written : WrittenFloat) :
    String.ofList (floatDeclaration name written).text =
      redeclaration (String.ofList name.text) (String.ofList written.text) := by
  have opening : (floatDeclaration name written).opening =
      "const float ".toList ++ name.text ++ [' '] := rfl
  have after : (floatDeclaration name written).after = [' '] ++ written.text ++ [] := rfl
  apply String.toList_inj.1
  rw [WrittenDeclaration.text, opening, after]
  simp [redeclaration]

private theorem readConstantLine_redeclaration {name text : String} {value : Number}
    (isName : IsConstantName name) (plain : '=' ∉ name.toList)
    (isRead : readFloat text.toList = .ok (some value)) :
    readConstantLine (redeclaration name text) =
      .accepted name ⟨name, .float value⟩ (Constant.mk name (.float value)).copySizes [] := by
  have nonempty : name.toList ≠ [] := by
    intro empty
    exact isName.nonempty (String.toList_inj.1 empty)
  have characters : ∀ character ∈ name.toList,
      isBlank character = false ∧ isLineBreak character = false ∧ character ≠ '=' := by
    intro character member
    have solid := isName.solid character member
    have different : character ≠ '=' := fun equals => plain (equals ▸ member)
    simp_all [isBlank, isLineBreak]
  have free : String.ofList name.toList ∉ reservedNames := by
    rw [String.ofList_toList]
    simp [reservedNames, isName.free]
  have declared := (floatDeclaration ⟨name.toList, nonempty, characters, free⟩
    ⟨text.toList, value, isRead⟩).readConstantLine_text
  rw [text_floatDeclaration] at declared
  dsimp only [floatDeclaration, WrittenDeclaration.constant, WrittenValue.value] at declared
  rwa [String.ofList_toList, String.ofList_toList] at declared

/-! ## Float constants -/

/-- Whatever type is declared for it, a float is published as its own number. -/
private theorem resolveConstant_float (catalog : Catalog) (name : String) (value : Number) :
    (catalog.resolveConstant ⟨name, .float value⟩).1 = .number value := by
  rw [Catalog.resolveConstant_fst]
  cases catalog.types.get? name with
  | none => rfl
  | some declared => cases declared <;> rfl

/-- Every float constant is shown by a text that is read back as the same number. What a
dump shows of a float constant that was loaded, from whatever source and under whatever
types, declares the same constant again. -/
theorem shown_floats_read_back :
    (∀ (catalog : Catalog) (name : String) (value : Number),
      value.IsMember .binary32 →
      ∃ published,
        (catalog.resolveConstant ⟨name, .float value⟩).1 = published ∧
          published.kind = .number ∧
          readFloat (globalText published).toList = .ok (some value)) ∧
    (∀ (limit : Option Int) (source : DeclarationSource) (constants : ConstantStore)
        (types : TypeStore) (width : VectorWidth) (nameLimit : Option Int)
        (name : String) (constant : Constant) (value : Number),
      Store.ofSource constantFormat limit source = .ok constants →
      constants.get? name = some constant →
      constant.value = .float value →
      ∃ published,
        ((⟨constants, types, width, nameLimit⟩ : Catalog).resolve name).1 = some published ∧
          dumpLine name published = name ++ "\tnumber\t" ++ globalText published ∧
          readConstantLine (redeclaration name (globalText published)) =
            .accepted name constant constant.copySizes []) := by
  constructor
  · intro catalog name value member
    exact ⟨_, resolveConstant_float catalog name value, rfl, value.readFloat_generalText member⟩
  · intro limit source constants types width nameLimit name constant value loaded held isFloat
    obtain ⟨line, -, sizes, events, accepted⟩ := Store.origin_of_ofSource loaded held
    obtain ⟨rfl, isLoadable⟩ :=
      isLoadable_of_holds (Store.holds_of_ofSource loaded) (mem_of_lookupEntry held)
    have plain := no_equals_of_accepted_float isFloat accepted
    obtain ⟨name, isValue⟩ := constant
    obtain rfl : isValue = .float value := isFloat
    have single : value.toSingle = value := isLoadable.value
    have member : value.IsMember .binary32 := by
      rw [← single]
      exact Number.isMember_round (by decide) (by decide) value
    refine ⟨.number value, ?_, ?_, ?_⟩
    · rw [Catalog.resolve_of_get? held, resolveConstant_float]
    · have frame : "\tnumber\t" = "\t" ++ ("number" ++ "\t") := rfl
      rw [frame, ← String.append_assoc, ← String.append_assoc]
      rfl
    · exact readConstantLine_redeclaration isLoadable.name plain
        (value.readFloat_generalText member)

/-- The least positive float of single precision is shown with nine digits, and these
declare it again. A NaN is read back as such. -/
theorem least_float_declared_again :
    ∃ constants : ConstantStore,
      Store.ofSource constantFormat none (.text "const float A = 1e-45\n") = .ok constants ∧
        constants.get? "A" = some ⟨"A", .float (.finite false (powerOfTwo 925))⟩ ∧
        readConstantLine "const float A = 1.40129846e-45" =
          .accepted "A" ⟨"A", .float (.finite false (powerOfTwo 925))⟩ [1] [] ∧
        readFloat "nan".toList = .ok (some .nan) := by
  have loaded : ∃ constants : ConstantStore,
      Store.ofSource constantFormat none (.text "const float A = 1e-45\n") = .ok constants ∧
        constants.get? "A" = some ⟨"A", .float (.finite false (powerOfTwo 925))⟩ :=
    ⟨_, Store.ofSource_of_isOk (by decide +kernel), by decide +kernel⟩
  obtain ⟨constants, isLoaded, held⟩ := loaded
  obtain ⟨published, resolved, -, declared⟩ := shown_floats_read_back.2 none _ constants
    (.ofLimit none) .three none "A" _ _ isLoaded held rfl
  have isNumber : published = .number (.finite false (powerOfTwo 925)) := by
    rw [Catalog.resolve_of_get? held, resolveConstant_float] at resolved
    exact (Option.some.inj resolved).symm
  have text : globalText (.number (.finite false (powerOfTwo 925))) = "1.40129846e-45" := by
    decide +kernel
  rw [isNumber, text] at declared
  obtain ⟨shown, isShown, -, isRead⟩ := shown_floats_read_back.1
    ⟨constants, .ofLimit none, .three, none⟩ "N" .nan trivial
  rw [resolveConstant_float] at isShown
  rw [← isShown] at isRead
  exact ⟨constants, isLoaded, held, declared, isRead⟩

end ConstantCatalog.CommandLine
