import ConstantCatalog.Proofs.Number.Rational
import ConstantCatalog.Proofs.Publication.Loaded
import ConstantCatalog.Proofs.Store.Source

/-!
Contract: what constants resolve to, by the content of their values.

A constant resolves to its value in a representation that its declared type or its own
kind asks for. Whichever that is, what the value holds is represented as a whole: the same
real number, the same text, the same components in order. Only a quaternion that is not
declared as one loses its scalar part where vectors have three components. A declaration
that the kind of a constant cannot take has no part in it.

Owns: `GlobalValue.payload`, `ConstantValue.IsHeldBy`, `ResolvesFaithfully`, and its proof
for sources of any kind.

Does not own: how values are read, and how they are published.
-/

namespace ConstantCatalog

/-! ## Content -/

/-- What a representation holds, whatever its kind. -/
inductive Payload where
  | number (value : Number)
  | text (text : String)
  | components (values : List Number)
  | nothing

def GlobalValue.payload : GlobalValue → Payload
  | .number value => .number value
  | .string text => .text text
  | .uuid text => .text text
  | .vector value fourth => .components (value.components ++ fourth.toList)
  | .quaternion value => .components value.components
  | .nil => .nothing

/-- Whether a value is held as a whole: an integer as the same number, a float as the very
same, also where it is no real number, a text letter by letter, and components one by
one. -/
def ConstantValue.IsHeldBy : ConstantValue → Payload → Prop
  | .integer value, .number held => held.rational? = some (value : ℚ)
  | .float value, .number held => held = value
  | .string text, .text held => held = text
  | .key text, .text held => held = text
  | .vector value, .components held => held = value.components
  | .quaternion value, .components held => held = value.components
  | _, _ => False

namespace ConstantValue

/-- Whether a value is a quaternion. -/
def IsQuaternion : ConstantValue → Prop
  | .quaternion _ => True
  | _ => False

theorem rational?_ofInt_of_wellFormed {value : Int} (wellFormed : (integer value).WellFormed) :
    (Number.ofInt value).rational? = some (value : ℚ) := by
  obtain ⟨least, greatest⟩ := wellFormed
  apply Number.rational?_ofInt
  exact Nat.lt_of_le_of_lt (show value.natAbs ≤ 2147483648 by omega) (by decide)

/-- A declared type that a value can take gives it its own kind, and holds all of it. -/
private theorem isHeldBy_of_coerced? {value : ConstantValue} (wellFormed : value.WellFormed)
    {declared : DeclaredType} {published : GlobalValue}
    (coerced : value.coerced? declared = some published) :
    value.IsHeldBy published.payload ∧ published.kind.name = declared.name := by
  cases value with
  | integer number =>
      cases declared with
      | number =>
          obtain rfl := Option.some.inj coerced
          exact ⟨rational?_ofInt_of_wellFormed wellFormed, rfl⟩
      | _ => contradiction
  | float number =>
      cases declared with
      | number =>
          obtain rfl := Option.some.inj coerced
          exact ⟨rfl, rfl⟩
      | _ => contradiction
  | string text =>
      cases declared with
      | uuid =>
          obtain rfl := Option.some.inj coerced
          exact ⟨rfl, rfl⟩
      | string =>
          obtain rfl := Option.some.inj coerced
          exact ⟨rfl, rfl⟩
      | _ => contradiction
  | key text =>
      cases declared with
      | uuid =>
          obtain rfl := Option.some.inj coerced
          exact ⟨rfl, rfl⟩
      | string =>
          obtain rfl := Option.some.inj coerced
          exact ⟨rfl, rfl⟩
      | _ => contradiction
  | vector vector =>
      cases declared with
      | vector =>
          obtain rfl := Option.some.inj coerced
          exact ⟨List.append_nil _, rfl⟩
      | _ => contradiction
  | quaternion rotation =>
      cases declared with
      | quaternion =>
          obtain rfl := Option.some.inj coerced
          exact ⟨rfl, rfl⟩
      | _ => contradiction
  | null => exact absurd wellFormed id
  | list => exact absurd wellFormed id
  | error => exact absurd wellFormed id

/-- By its own kind a value is held as a whole, unless it is a quaternion and vectors have
three components. -/
private theorem isHeldBy_native {value : ConstantValue} (wellFormed : value.WellFormed)
    {width : VectorWidth} (fits : value.IsQuaternion → width = .four) :
    value.IsHeldBy (value.native width).payload := by
  cases value with
  | integer number => exact rational?_ofInt_of_wellFormed wellFormed
  | float number => rfl
  | string text => rfl
  | key text => rfl
  | vector vector => exact List.append_nil _
  | quaternion rotation =>
      obtain rfl := fits trivial
      rfl
  | null => exact absurd wellFormed id
  | list => exact absurd wellFormed id
  | error => exact absurd wellFormed id

end ConstantValue
namespace Catalog

/-! ## Representations -/

/-- The representation of a constant: that of its declared type, if it has one that it can
take, and otherwise that of its own kind. -/
theorem resolveConstant_fst (catalog : Catalog) (constant : Constant) :
    (catalog.resolveConstant constant).1 =
      ((catalog.types.get? constant.name).bind constant.value.coerced?).getD
        (constant.value.native catalog.vectorWidth) := by
  unfold resolveConstant
  cases catalog.types.get? constant.name with
  | none => rfl
  | some declared =>
      simp only [Option.bind_some]
      cases constant.value.coerced? declared with
      | none => rfl
      | some published => rfl

/-- Whether a constant's value loses its scalar part: a quaternion that is not declared as
one, where vectors have three components. -/
def Truncates (catalog : Catalog) (name : String) (value : ConstantValue) : Prop :=
  value.IsQuaternion ∧ catalog.types.get? name ≠ some .quaternion ∧
    catalog.vectorWidth = .three

/-- Only a quaternion that is not truncated needs its declared type to be held as a
whole. -/
private theorem isHeldBy_resolveConstant {catalog : Catalog} {constant : Constant}
    (wellFormed : constant.value.WellFormed)
    (whole : ¬catalog.Truncates constant.name constant.value) :
    constant.value.IsHeldBy (catalog.resolveConstant constant).1.payload := by
  rw [resolveConstant_fst]
  cases coerced : (catalog.types.get? constant.name).bind constant.value.coerced? with
  | some published =>
      obtain ⟨declared, -, isCoerced⟩ := Option.bind_eq_some_iff.1 coerced
      exact (ConstantValue.isHeldBy_of_coerced? wellFormed isCoerced).1
  | none =>
      apply ConstantValue.isHeldBy_native wellFormed
      intro isQuaternion
      cases width : catalog.vectorWidth with
      | four => rfl
      | three =>
          refine absurd ⟨isQuaternion, ?_, width⟩ whole
          intro isDeclared
          rw [isDeclared, Option.bind_some] at coerced
          cases value : constant.value with
          | quaternion rotation =>
              rw [value] at coerced
              contradiction
          | _ =>
              rw [value] at isQuaternion
              contradiction

/-- A truncated quaternion is the vector of its first three components. -/
private theorem resolveConstant_of_truncates {catalog : Catalog} {constant : Constant}
    {rotation : Rotation} (isRotation : constant.value = .quaternion rotation)
    (truncates : catalog.Truncates constant.name constant.value) :
    (catalog.resolveConstant constant).1 =
      .vector ⟨rotation.x, rotation.y, rotation.z⟩ none := by
  obtain ⟨-, otherwise, width⟩ := truncates
  have setAside : (catalog.types.get? constant.name).bind constant.value.coerced? = none := by
    rw [Option.bind_eq_none_iff]
    intro declared isDeclared
    rw [isRotation]
    cases declared with
    | quaternion => exact absurd isDeclared otherwise
    | _ => rfl
  rw [resolveConstant_fst, setAside, isRotation, width]
  rfl

/-- A constant whose kind can take the declared type is of that type. -/
private theorem kind_resolveConstant {catalog : Catalog} {constant : Constant}
    (wellFormed : constant.value.WellFormed) {declared : DeclaredType}
    (isDeclared : catalog.types.get? constant.name = some declared)
    (accepts : declared.accepts constant.kind = true) :
    (catalog.resolveConstant constant).1.kind.name = declared.name := by
  rw [Constant.kind, ← ConstantValue.isSome_coerced?] at accepts
  obtain ⟨published, coerced⟩ := Option.isSome_iff_exists.1 accepts
  rw [resolveConstant_fst, isDeclared, Option.bind_some, coerced]
  exact (ConstantValue.isHeldBy_of_coerced? wellFormed coerced).2

/-- A declared type that the kind of a constant cannot take has no part in it. -/
private theorem resolveConstant_of_not_accepts {catalog : Catalog} {constant : Constant}
    (setAside :
      ∀ declared, catalog.types.get? constant.name = some declared →
        declared.accepts constant.kind = false) :
    (catalog.resolveConstant constant).1 = constant.value.native catalog.vectorWidth := by
  have nothing : (catalog.types.get? constant.name).bind constant.value.coerced? = none := by
    rw [Option.bind_eq_none_iff]
    intro declared isDeclared
    rw [← Option.not_isSome_iff_eq_none, ConstantValue.isSome_coerced?]
    exact Bool.eq_false_iff.1 (setAside declared isDeclared)
  rw [resolveConstant_fst, nothing]
  rfl

/-- A constant that was loaded resolves to its representation. -/
theorem resolve_of_get? {catalog : Catalog} {name : String} {constant : Constant}
    (held : catalog.constants.get? name = some constant) :
    (catalog.resolve name).1 = some (catalog.resolveConstant constant).1 := by
  rw [resolve_fst, held]
  rfl

private theorem resolve_of_not_accepts {catalog : Catalog} {constant : Constant}
    (held : catalog.constants.get? constant.name = some constant)
    (setAside :
      ∀ declared, catalog.types.get? constant.name = some declared →
        declared.accepts constant.kind = false) :
    (catalog.resolve constant.name).1 = some (constant.value.native catalog.vectorWidth) := by
  rw [resolve_of_get? held, resolveConstant_of_not_accepts setAside]

/-! ## Resolution -/

/-- What the resolution of names keeps to. -/
structure ResolvesFaithfully (catalog : Catalog) : Prop where
  /-- The names of constants, and no others, resolve to something. -/
  constants :
    ∀ name, (catalog.resolve name).1 = none ↔ name ∉ catalog.constants.table.names
  /-- Unless it is truncated, the value of a constant is held as a whole. -/
  whole :
    ∀ name constant, catalog.constants.get? name = some constant →
      ¬catalog.Truncates name constant.value →
      ∃ published, (catalog.resolve name).1 = some published ∧
        constant.value.IsHeldBy published.payload
  /-- A truncated quaternion is the vector of its first three components. -/
  truncated :
    ∀ name constant rotation, catalog.constants.get? name = some constant →
      constant.value = .quaternion rotation →
      catalog.Truncates name constant.value →
      (catalog.resolve name).1 = some (.vector ⟨rotation.x, rotation.y, rotation.z⟩ none)
  /-- A declared type that the kind of a constant can take is the type it has. -/
  declared :
    ∀ name constant declared, catalog.constants.get? name = some constant →
      catalog.types.get? name = some declared →
      declared.accepts constant.kind = true →
      ∃ published, (catalog.resolve name).1 = some published ∧
        published.kind.name = declared.name
  /-- In every other case the constant resolves as under any source of types that does not
  declare its name. -/
  undeclared :
    ∀ name constant, catalog.constants.get? name = some constant →
      (∀ declared, catalog.types.get? name = some declared →
        declared.accepts constant.kind = false) →
      ∀ limit source without, Store.ofSource typeFormat limit source = .ok without →
        (∀ line ∈ source.lines, ∀ declared, ¬DeclaresType line name declared) →
        (catalog.resolve name).1 = ({ catalog with types := without }.resolve name).1

end Catalog

/-- Constants from whatever source, under whatever types, resolve faithfully. -/
theorem resolution_faithful {limit : Option Int} {source : DeclarationSource}
    {constants : ConstantStore}
    (loaded : Store.ofSource constantFormat limit source = .ok constants) (types : TypeStore)
    (width : VectorWidth) (nameLimit : Option Int) :
    (⟨constants, types, width, nameLimit⟩ : Catalog).ResolvesFaithfully := by
  have loadable : ∀ name constant, constants.get? name = some constant →
      name = constant.name ∧ constant.IsLoadable :=
    fun name constant held =>
      isLoadable_of_holds (Store.holds_of_ofSource loaded) (mem_of_lookupEntry held)
  exact
    { constants := by
        intro name
        constructor
        · intro unresolved present
          obtain ⟨value, resolved⟩ := Catalog.exists_resolve_of_mem_names _ present
          rw [unresolved] at resolved
          contradiction
        · exact Catalog.resolve_eq_none _
      whole := by
        intro name constant held whole
        obtain ⟨rfl, isLoadable⟩ := loadable name constant held
        exact ⟨_, Catalog.resolve_of_get? held,
          Catalog.isHeldBy_resolveConstant isLoadable.value whole⟩
      truncated := by
        intro name constant rotation held isRotation truncates
        obtain ⟨rfl, -⟩ := loadable name constant held
        rw [Catalog.resolve_of_get? held,
          Catalog.resolveConstant_of_truncates isRotation truncates]
      declared := by
        intro name constant declared held isDeclared accepts
        obtain ⟨rfl, isLoadable⟩ := loadable name constant held
        exact ⟨_, Catalog.resolve_of_get? held,
          Catalog.kind_resolveConstant isLoadable.value isDeclared accepts⟩
      undeclared := by
        intro name constant held setAside typeLimit typeSource without typesLoaded absent
        obtain ⟨rfl, -⟩ := loadable name constant held
        have nothing : without.get? constant.name = none := by
          rw [Store.get?_of_ofSource typesLoaded]
          apply DeclarationFormat.lastUnder?_eq_none
          intro line member declares
          obtain ⟨declared, declaresType⟩ := declaresName_typeFormat_iff.1 declares
          exact absent line member declared declaresType
        have withoutType : ∀ declared, without.get? constant.name = some declared →
            declared.accepts constant.kind = false := by
          intro declared isDeclared
          rw [nothing] at isDeclared
          contradiction
        let other : Catalog := ⟨constants, without, width, nameLimit⟩
        have heldOther : other.constants.get? constant.name = some constant := held
        exact (Catalog.resolve_of_not_accepts held setAside).trans
          (Catalog.resolve_of_not_accepts heldOther withoutType).symm }

/-- A quaternion that is declared as a vector is truncated where vectors have three
components. -/
theorem rotation_declared_as_vector_truncated :
    let source : DeclarationSource := .text "const rotation Q = <1,2,3,4>"
    let constants := ((Store.ofLimit none).load constantFormat source).store
    let types := ((Store.ofLimit none).load typeFormat (.text "declare Q: vector")).store
    let catalog : Catalog := ⟨constants, types, .three, none⟩
    Store.ofSource constantFormat none source = .ok constants ∧
      catalog.ResolvesFaithfully ∧
      (catalog.resolve "Q").1 = some (.vector ⟨.ofInt 1, .ofInt 2, .ofInt 3⟩ none) := by
  intro source constants types catalog
  have loaded : Store.ofSource constantFormat none source = .ok constants :=
    Store.ofSource_of_isOk (by decide +kernel)
  exact ⟨loaded, resolution_faithful loaded types .three none, by decide +kernel⟩

end ConstantCatalog
