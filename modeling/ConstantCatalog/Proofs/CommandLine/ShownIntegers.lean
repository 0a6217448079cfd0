import ConstantCatalog.CommandLine.Display
import ConstantCatalog.Proofs.Number.Significant
import ConstantCatalog.Proofs.Publication.Resolution

/-!
Contract: integer constants as reports show the numbers they are published as.

An integer constant is published as the number that it is, but a number is shown with nine
significant digits, and an integer of 32 bits may have ten. The text denotes the integer
if nine digits suffice for it. Otherwise it denotes the nearest multiple of ten, of two
equally near the one whose other digits are even, and so do the texts of its neighbours.

Owns: `toNineDigits`, `ShowsIntegersToNineDigits`, and its proof for sources of any kind.

Does not own: the texts of constants themselves, which have all digits.
-/

namespace ConstantCatalog.CommandLine

/-! ## Nine digits -/

/-- A number of at most ten digits to nine significant ones. -/
def nineDigits (units : Nat) : Nat :=
  if units < 10 ^ 9 then units else 10 * roundHalfEven units 10

/-- An integer of at most ten digits to nine significant ones. -/
def toNineDigits (value : Int) : Int :=
  if value < 0 then -(nineDigits value.natAbs : Int) else nineDigits value.natAbs

/-- Rounding to tens moves a number by five at most, and only if it is no multiple of
ten. -/
private theorem roundHalfEven_ten_spec (units : Nat) :
    10 * roundHalfEven units 10 ≤ units + 5 ∧
      units ≤ 10 * roundHalfEven units 10 + 5 ∧
      (10 * roundHalfEven units 10 = units ↔ 10 ∣ units) := by
  unfold roundHalfEven
  dsimp only
  split
  · omega
  · split
    · omega
    · omega

private theorem nineDigits_eq_zero_iff {units : Nat} :
    nineDigits units = 0 ↔ units = 0 := by
  have moved := roundHalfEven_ten_spec units
  unfold nineDigits
  split
  · exact Iff.rfl
  · omega

/-- Ten digits stay ten digits, or become eleven. -/
private theorem nineDigits_lt_iff {units : Nat} :
    nineDigits units < 10 ^ 9 ↔ units < 10 ^ 9 := by
  have atLeast := div_le_roundHalfEven units 10
  unfold nineDigits
  split
  · rename_i short
    exact iff_of_true short short
  · omega

/-- An integer is the same with nine significant digits if it has no more, or if its last
digit is a zero. -/
private theorem toNineDigits_eq_self_iff {value : Int} :
    toNineDigits value = value ↔ value.natAbs < 10 ^ 9 ∨ 10 ∣ value := by
  have moved := roundHalfEven_ten_spec value.natAbs
  unfold toNineDigits nineDigits
  split
  · split <;> omega
  · split <;> omega

private theorem natAbs_toNineDigits_sub_le (value : Int) :
    (toNineDigits value - value).natAbs ≤ 5 := by
  have moved := roundHalfEven_ten_spec value.natAbs
  unfold toNineDigits nineDigits
  split
  · split <;> omega
  · split <;> omega

/-- Integers with the same nine digits have the same sign. -/
private theorem eq_of_toNineDigits_eq {value other : Int}
    (same : toNineDigits value = toNineDigits other) :
    decide (value < 0) = decide (other < 0) ∧
      nineDigits value.natAbs = nineDigits other.natAbs := by
  have zero := @nineDigits_eq_zero_iff value.natAbs
  have otherZero := @nineDigits_eq_zero_iff other.natAbs
  unfold toNineDigits at same
  have signs : value < 0 ↔ other < 0 := by
    split at same
    · split at same <;> omega
    · split at same <;> omega
  refine ⟨decide_eq_decide.2 signs, ?_⟩
  split at same
  · split at same <;> omega
  · split at same <;> omega

/-! ## Chosen decimals -/

/-- The decimal that is shown of a whole number. -/
def shownDecimal (units : Nat) : Decimal :=
  if units * grainsPerUnit = 0 then ⟨0, 0⟩ else Decimal.significant 9 (units * grainsPerUnit)

private theorem length_toDigits_of_ten {units : Nat} (long : 10 ^ 9 ≤ units)
    (small : units < 10 ^ 10) :
    (Nat.toDigits 10 units).length = 10 := by
  have atMost : (Nat.toDigits 10 units).length ≤ 10 :=
    (Nat.length_toDigits_le_iff (by omega) (by omega)).2 small
  have more : ¬(Nat.toDigits 10 units).length ≤ 9 := by
    intro fewer
    have short := (Nat.length_toDigits_le_iff (by omega : 1 < 10) (by omega)).1 fewer
    omega
  omega

private theorem shownDecimal_of_ten {units : Nat} (long : 10 ^ 9 ≤ units)
    (small : units < 10 ^ 10) :
    shownDecimal units = ⟨roundHalfEven units 10, 1⟩ := by
  have positive : 0 < units := by omega
  have length := length_toDigits_of_ten long small
  have grains : units * grainsPerUnit ≠ 0 := (Nat.mul_pos positive grainsPerUnit_pos).ne'
  rw [shownDecimal, if_neg grains, Decimal.significant_of_long positive (by omega), length]
  rfl

/-- The decimal of a whole number of at most ten digits is that number to nine of them. -/
private theorem rational_shownDecimal {units : Nat} (small : units < 10 ^ 10) :
    (shownDecimal units).rational = (nineDigits units : ℚ) := by
  by_cases nothing : units = 0
  · subst nothing
    rw [shownDecimal, if_pos (Nat.zero_mul _)]
    simp [Decimal.rational, nineDigits]
  · have positive : 0 < units := Nat.pos_of_ne_zero nothing
    by_cases short : units < 10 ^ 9
    · have fewer : (Nat.toDigits 10 units).length ≤ 9 :=
        (Nat.length_toDigits_le_iff (by omega) (by omega)).2 short
      have grains : units * grainsPerUnit ≠ 0 := (Nat.mul_pos positive grainsPerUnit_pos).ne'
      rw [shownDecimal, if_neg grains, Decimal.rational_significant_of_short positive fewer,
        nineDigits, if_pos short]
    · rw [shownDecimal_of_ten (by omega) small, nineDigits, if_neg short, Decimal.rational]
      push_cast
      ring

/-- The decimal depends on the nine digits alone. -/
private theorem shownDecimal_eq {units otherUnits : Nat} (small : units < 10 ^ 10)
    (otherSmall : otherUnits < 10 ^ 10) (same : nineDigits units = nineDigits otherUnits) :
    shownDecimal units = shownDecimal otherUnits := by
  have lengths := @nineDigits_lt_iff units
  have otherLengths := @nineDigits_lt_iff otherUnits
  by_cases short : units < 10 ^ 9
  · have otherShort : otherUnits < 10 ^ 9 := by omega
    rw [nineDigits, if_pos short, nineDigits, if_pos otherShort] at same
    rw [same]
  · have otherLong : ¬otherUnits < 10 ^ 9 := by omega
    rw [nineDigits, if_neg short, nineDigits, if_neg otherLong] at same
    rw [shownDecimal_of_ten (by omega) small, shownDecimal_of_ten (by omega) otherSmall]
    congr 1
    omega

/-! ## Texts of integers -/

/-- The text that is shown of an integer as a number. -/
def integerText (value : Int) : String :=
  globalText (.number (.ofInt value))

section Texts

variable {value : Int} (small : value.natAbs < 10 ^ 10)

include small

private theorem ofInt_of_small :
    Number.ofInt value = .finite (decide (value < 0)) (value.natAbs * grainsPerUnit) :=
  Number.ofInt_of_natAbs_lt (Nat.lt_trans small (by decide))

private theorem toList_integerText :
    (integerText value).toList =
      (if decide (value < 0) then ['-'] else []) ++
        (⟨9, false⟩ : NumberStyle).layout (shownDecimal value.natAbs) := by
  rw [integerText, ofInt_of_small small, globalText, Number.generalText, String.toList_ofList]
  rfl

/-- The text of an integer denotes it to nine digits. -/
private theorem denotesDecimal_integerText :
    DenotesDecimal (integerText value).toList (toNineDigits value : ℚ) := by
  have text := Number.denotesDecimal_textWith ⟨9, false⟩ (Decimal.significant 9)
    (decide (value < 0)) (value.natAbs * grainsPerUnit)
  have magnitude : (if value.natAbs * grainsPerUnit = 0 then 0
      else (Decimal.significant 9 (value.natAbs * grainsPerUnit)).rational) =
        (nineDigits value.natAbs : ℚ) := by
    rw [← rational_shownDecimal small, shownDecimal, apply_ite Decimal.rational]
    congr 1
    simp [Decimal.rational]
  have shown : withSign (decide (value < 0)) (nineDigits value.natAbs : ℚ) =
      (toNineDigits value : ℚ) := by
    unfold toNineDigits
    by_cases negative : value < 0
    · rw [decide_eq_true negative, if_pos negative, withSign_true]
      push_cast
      rfl
    · rw [decide_eq_false negative, if_neg negative, withSign_false]
      push_cast
      rfl
  rw [magnitude, shown] at text
  rwa [integerText, ofInt_of_small small, globalText, Number.generalText, String.toList_ofList]

private theorem integerText_eq_iff {other : Int} (otherSmall : other.natAbs < 10 ^ 10) :
    integerText value = integerText other ↔ toNineDigits value = toNineDigits other := by
  constructor
  · intro same
    have denotes := denotesDecimal_integerText small
    rw [same] at denotes
    exact_mod_cast denotes.unique (denotesDecimal_integerText otherSmall)
  · intro same
    obtain ⟨signs, digits⟩ := eq_of_toNineDigits_eq same
    apply String.toList_inj.1
    rw [toList_integerText small, toList_integerText otherSmall, signs,
      shownDecimal_eq small otherSmall digits]

end Texts

/-! ## Integer constants -/

/-- Whether a catalog has an integer constant of a value, and shows it by a text. -/
def ShowsInteger (catalog : Catalog) (value : Int) (text : String) : Prop :=
  ∃ name constant,
    catalog.constants.get? name = some constant ∧
      constant.value = .integer value ∧
      (catalog.resolve name).1.map globalText = some text

/-- What the texts of the integer constants of a catalog tell of them. -/
structure ShowsIntegersToNineDigits (catalog : Catalog) : Prop where
  /-- An integer constant resolves to the number that it is. -/
  resolved :
    ∀ name constant value, catalog.constants.get? name = some constant →
      constant.value = .integer value →
      ∃ number, (catalog.resolve name).1 = some (.number number) ∧
        number.rational? = some (value : ℚ)
  /-- The text denotes the integer to nine significant digits, which is no more than five
  away. -/
  denoted :
    ∀ value text, ShowsInteger catalog value text →
      DenotesDecimal text.toList (toNineDigits value : ℚ) ∧
        (toNineDigits value - value).natAbs ≤ 5
  /-- It denotes the integer itself exactly if nine digits suffice, or if the tenth is a
  zero. -/
  whole :
    ∀ value text, ShowsInteger catalog value text →
      (DenotesDecimal text.toList (value : ℚ) ↔ value.natAbs < 10 ^ 9 ∨ 10 ∣ value)
  /-- Two integers are shown alike exactly if they are the same to nine digits. -/
  alike :
    ∀ value text other otherText, ShowsInteger catalog value text →
      ShowsInteger catalog other otherText →
      (text = otherText ↔ toNineDigits value = toNineDigits other)

/-- Whatever type is declared for it, an integer is published as a number. -/
private theorem resolveConstant_integer (catalog : Catalog) {constant : Constant} {value : Int}
    (isInteger : constant.value = .integer value) :
    (catalog.resolveConstant constant).1 = .number (.ofInt value) := by
  rw [Catalog.resolveConstant_fst, isInteger]
  cases catalog.types.get? constant.name with
  | none => rfl
  | some declared => cases declared <;> rfl

private theorem resolve_integer {catalog : Catalog} {name : String} {constant : Constant}
    {value : Int} (held : catalog.constants.get? name = some constant)
    (isInteger : constant.value = .integer value) :
    (catalog.resolve name).1 = some (.number (.ofInt value)) := by
  rw [Catalog.resolve_of_get? held, resolveConstant_integer catalog isInteger]

/-- Integer constants from whatever source, under whatever types, are shown to nine
significant digits. -/
theorem integers_shown_to_nine_digits {limit : Option Int} {source : DeclarationSource}
    {constants : ConstantStore}
    (loaded : Store.ofSource constantFormat limit source = .ok constants) (types : TypeStore)
    (width : VectorWidth) (nameLimit : Option Int) :
    ShowsIntegersToNineDigits ⟨constants, types, width, nameLimit⟩ := by
  have wellFormed : ∀ name constant value, constants.get? name = some constant →
      constant.value = .integer value → (ConstantValue.integer value).WellFormed := by
    intro name constant value held isInteger
    obtain ⟨-, isLoadable⟩ :=
      isLoadable_of_holds (Store.holds_of_ofSource loaded) (mem_of_lookupEntry held)
    rw [← isInteger]
    exact isLoadable.value
  have shown : ∀ value text,
      ShowsInteger ⟨constants, types, width, nameLimit⟩ value text →
        value.natAbs < 10 ^ 10 ∧ text = integerText value := by
    rintro value text ⟨name, constant, held, isInteger, isText⟩
    obtain ⟨least, greatest⟩ := wellFormed name constant value held isInteger
    rw [resolve_integer held isInteger] at isText
    exact ⟨by omega, (Option.some.inj isText).symm⟩
  exact
    { resolved := by
        intro name constant value held isInteger
        exact ⟨_, resolve_integer held isInteger,
          ConstantValue.rational?_ofInt_of_wellFormed
            (wellFormed name constant value held isInteger)⟩
      denoted := by
        intro value text isShown
        obtain ⟨small, rfl⟩ := shown value text isShown
        exact ⟨denotesDecimal_integerText small, natAbs_toNineDigits_sub_le value⟩
      whole := by
        intro value text isShown
        obtain ⟨small, rfl⟩ := shown value text isShown
        have denotes := denotesDecimal_integerText small
        rw [← toNineDigits_eq_self_iff]
        constructor
        · intro denotesValue
          exact_mod_cast denotes.unique denotesValue
        · intro same
          rwa [same] at denotes
      alike := by
        intro value text other otherText isShown otherShown
        obtain ⟨small, rfl⟩ := shown value text isShown
        obtain ⟨otherSmall, rfl⟩ := shown other otherText otherShown
        exact integerText_eq_iff small otherSmall }

/-- Of two neighbours with ten digits, one ends in a zero and is shown by a text that
denotes it; the other one is shown by the same text. -/
theorem neighbour_of_round_integer_shown_alike :
    ∃ (catalog : Catalog) (text : String),
      Store.ofSource constantFormat none
          (.text "const integer A = 2000000000\nconst integer B = 2000000001\n") =
        .ok catalog.constants ∧
      ShowsInteger catalog 2000000000 text ∧
      ShowsInteger catalog 2000000001 text ∧
      DenotesDecimal text.toList 2000000000 := by
  have loaded : ∃ constants : ConstantStore,
      Store.ofSource constantFormat none
          (.text "const integer A = 2000000000\nconst integer B = 2000000001\n") =
        .ok constants ∧
      ShowsInteger ⟨constants, .ofLimit none, .three, none⟩ 2000000000
        (integerText 2000000000) ∧
      ShowsInteger ⟨constants, .ofLimit none, .three, none⟩ 2000000001
        (integerText 2000000001) :=
    ⟨_, rfl, ⟨"A", _, rfl, rfl, rfl⟩, ⟨"B", _, rfl, rfl, rfl⟩⟩
  obtain ⟨constants, isLoaded, isShown, otherShown⟩ := loaded
  have shows := integers_shown_to_nine_digits isLoaded (.ofLimit none) .three none
  have same : integerText 2000000000 = integerText 2000000001 :=
    (shows.alike _ _ _ _ isShown otherShown).2 (by decide)
  refine ⟨_, integerText 2000000000, isLoaded, isShown, ?_, ?_⟩
  · rwa [same]
  · exact_mod_cast (shows.whole _ _ isShown).2 (.inr (by decide))

/-- The greatest integer and the one before it are published as different numbers and
shown by one text. -/
theorem greatest_integers_shown_alike :
    ∃ (constants : ConstantStore) (number other : Number),
      Store.ofSource constantFormat none
          (.text "const integer A = 2147483647\nconst integer B = 2147483646\n") =
        .ok constants ∧
      ((⟨constants, .ofLimit none, .three, none⟩ : Catalog).resolve "A").1 =
        some (.number number) ∧
      ((⟨constants, .ofLimit none, .three, none⟩ : Catalog).resolve "B").1 =
        some (.number other) ∧
      number ≠ other ∧
      globalText (.number number) = "2.14748365e+09" ∧
      globalText (.number other) = "2.14748365e+09" :=
  ⟨_, .ofInt 2147483647, .ofInt 2147483646, rfl, rfl, rfl, by decide +kernel, by decide +kernel,
    by decide +kernel⟩

end ConstantCatalog.CommandLine
