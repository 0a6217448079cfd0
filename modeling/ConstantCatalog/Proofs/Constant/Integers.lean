import ConstantCatalog.Proofs.Constant.Writing.Number
import ConstantCatalog.Proofs.Number.Denotation

/-!
Contract: the integers that texts denote, and which of them are read.

A text denotes an integer in decimal digits behind an optional sign, or in hexadecimal
digits behind `0x`. It is read as that integer if 32 bits hold it, and as no other one,
however many zeros stand at the front.

Owns: `DenotesInteger`, `HasFewDigits`, and the exact texts of each integer.

Does not own: decimals with more digits than are converted.
-/

namespace ConstantCatalog

/-! ## Digits -/

private theorem isDigitOf_sixteen_iff {character : Char} {place : Nat} :
    IsDigitOf 16 character place ↔
      isHexDigit character = true ∧ place = hexDigitValue character := by
  have digit : character.isDigit = true ↔ 48 ≤ character.toNat ∧ character.toNat ≤ 57 :=
    Char.isDigit_iff_toNat
  have hexadecimal : isHexDigit character = true ↔
      (48 ≤ character.toNat ∧ character.toNat ≤ 57) ∨
        (97 ≤ character.toNat ∧ character.toNat ≤ 102) ∨
        (65 ≤ character.toNat ∧ character.toNat ≤ 70) := by
    rw [← digit]
    simp [isHexDigit, or_assoc]
  have value : hexDigitValue character =
      if 48 ≤ character.toNat ∧ character.toNat ≤ 57 then character.toNat - 48
      else character.toLower.toNat - 97 + 10 := by
    unfold hexDigitValue
    simp only [digit]
    rfl
  rw [isDigitOf_iff_toNat (by omega), hexadecimal, value, toNat_toLower]
  split_ifs <;> omega

private theorem digitsDenote_sixteen_iff {digits : List Char} {value : Nat} :
    DigitsDenote 16 digits value ↔
      (∀ digit ∈ digits, isHexDigit digit = true) ∧ value = hexDigitsValue digits :=
  digitsDenote_iff_foldl fun _ _ => isDigitOf_sixteen_iff

/-- Every integer of 32 bits that is not negative can be written in its usual hexadecimal
form, in letters of either case. -/
theorem WrittenInteger.exists_hexadecimal {value : Int} (notNegative : 0 ≤ value)
    (greatest : value ≤ greatestInteger) {digits : List Char}
    (lowered : digits.map Char.toLower = Nat.toDigits 16 value.toNat) :
    ∃ written : WrittenInteger,
      written.text = '0' :: 'x' :: digits ∧ written.value = value := by
  have nonempty : digits ≠ [] := by
    rintro rfl
    exact Nat.toDigits_ne_nil lowered.symm
  obtain ⟨areHex, isValue⟩ := digitsDenote_sixteen_iff.1
    (digitsDenote_of_toDigits (by omega) lowered)
  have sameValue : (hexDigitsValue digits : Int) = value := by
    rw [← isValue]
    exact Int.toNat_of_nonneg notNegative
  exact ⟨.hexadecimal digits nonempty areHex (sameValue ▸ greatest), rfl, sameValue⟩

/-! ## Texts of integers -/

/-- Whether a text denotes an integer: in decimal digits with an optional sign, or in
hexadecimal digits of either case behind `0x`, without a sign. -/
inductive DenotesInteger : List Char → Int → Prop
  | decimal {sign : Option Char} {digits : List Char} {magnitude : Nat}
      (isSign : ∀ written, sign = some written → written = '+' ∨ written = '-')
      (nonempty : digits ≠ []) (denotes : DigitsDenote 10 digits magnitude) :
      DenotesInteger (sign.toList ++ digits)
        (if sign = some '-' then -(magnitude : Int) else (magnitude : Int))
  | hexadecimal {digits : List Char} {magnitude : Nat} (nonempty : digits ≠ [])
      (denotes : DigitsDenote 16 digits magnitude) :
      DenotesInteger ('0' :: 'x' :: digits) (magnitude : Int)

/-- Whether a text has no more digits than are converted, if it is a decimal with an
optional sign. -/
def HasFewDigits (text : List Char) : Prop :=
  ∀ (sign : Option Char) (digits : List Char),
    text = sign.toList ++ digits →
    (∀ written, sign = some written → written = '+' ∨ written = '-') →
    (∀ digit ∈ digits, digit.isDigit = true) →
    digits.length ≤ maxIntegerDigits

/-- A text is in no more than one way a decimal with an optional sign. -/
private theorem hasFewDigits_of_signedDigits? {text digits : List Char} {sign : Option Char}
    (found : signedDigits? text = some (sign, digits)) (few : digits.length ≤ maxIntegerDigits) :
    HasFewDigits text := by
  intro otherSign otherDigits isText isSign areDigits
  by_cases empty : otherDigits = []
  · rw [empty]
    exact Nat.zero_le _
  · rw [signedDigits?_eq_some_iff.2 ⟨isText, isSign, empty, areDigits⟩] at found
    rwa [(Prod.mk.inj (Option.some.inj found)).2]

private theorem hasFewDigits_of_signedDigits?_eq_none {text : List Char}
    (noDecimal : signedDigits? text = none) :
    HasFewDigits text := by
  intro sign digits isText isSign areDigits
  by_cases empty : digits = []
  · rw [empty]
    exact Nat.zero_le _
  · rw [signedDigits?_eq_some_iff.2 ⟨isText, isSign, empty, areDigits⟩] at noDecimal
    contradiction

/-! ## Reading -/

private theorem fitting32?_eq_some_iff {denoted value : Int} :
    fitting32? denoted = some value ↔
      denoted = value ∧ -2 ^ 31 ≤ value ∧ value ≤ 2 ^ 31 - 1 := by
  unfold fitting32? leastInteger greatestInteger
  constructor
  · intro fits
    split at fits
    · rename_i bounds
      obtain rfl := Option.some.inj fits
      exact ⟨rfl, bounds⟩
    · contradiction
  · rintro ⟨rfl, bounds⟩
    exact if_pos bounds

private theorem exists_readInteger_eq_ok {text : List Char} (few : HasFewDigits text) :
    ∃ found, readInteger text = .ok found := by
  cases isRead : readInteger text with
  | ok found => exact ⟨found, rfl⟩
  | error fault =>
      obtain ⟨sign, digits, found, tooMany, -⟩ := readInteger_eq_error_iff.1 isRead
      obtain ⟨isText, isSign, -, areDigits⟩ := signedDigits?_eq_some_iff.1 found
      have notTooMany := few sign digits isText isSign areDigits
      omega

/-- The texts that are read as an integer. -/
private theorem readInteger_eq_some_iff {text : List Char} {value : Int} :
    readInteger text = .ok (some value) ↔
      HasFewDigits text ∧ DenotesInteger text value ∧ -2 ^ 31 ≤ value ∧ value ≤ 2 ^ 31 - 1 := by
  constructor
  · intro isRead
    unfold readInteger at isRead
    split at isRead
    · rename_i sign digits found
      split at isRead
      · contradiction
      · rename_i notTooMany
        obtain ⟨rfl, isSign, nonempty, areDigits⟩ := signedDigits?_eq_some_iff.1 found
        obtain ⟨rfl, bounds⟩ := fitting32?_eq_some_iff.1 (Except.ok.inj isRead)
        exact ⟨hasFewDigits_of_signedDigits? found (by omega),
          .decimal isSign nonempty (digitsDenote_ten_iff.2 ⟨areDigits, rfl⟩), bounds⟩
    · rename_i noDecimal
      obtain ⟨digits, found, fits⟩ := Option.bind_eq_some_iff.1 (Except.ok.inj isRead)
      obtain ⟨rfl, nonempty, areHex⟩ := prefixedHexDigits?_eq_some_iff.1 found
      obtain ⟨rfl, bounds⟩ := fitting32?_eq_some_iff.1 fits
      exact ⟨hasFewDigits_of_signedDigits?_eq_none noDecimal,
        .hexadecimal nonempty (digitsDenote_sixteen_iff.2 ⟨areHex, rfl⟩), bounds⟩
  · rintro ⟨few, denotes, bounds⟩
    cases denotes with
    | decimal isSign nonempty denotes =>
        obtain ⟨areDigits, rfl⟩ := digitsDenote_ten_iff.1 denotes
        rw [readInteger_decimal isSign nonempty areDigits (few _ _ rfl isSign areDigits)]
        exact congrArg Except.ok (fitting32?_eq_some_iff.2 ⟨rfl, bounds⟩)
    | hexadecimal nonempty denotes =>
        obtain ⟨areHex, rfl⟩ := digitsDenote_sixteen_iff.1 denotes
        rw [readInteger_hexadecimal nonempty areHex]
        exact congrArg Except.ok (fitting32?_eq_some_iff.2 ⟨rfl, bounds⟩)

/-- A text denotes no more than one integer. -/
theorem DenotesInteger.unique {text : List Char} {first second : Int}
    (denotesFirst : DenotesInteger text first) (denotesSecond : DenotesInteger text second) :
    first = second := by
  cases denotesFirst with
  | @decimal sign digits magnitude isSign nonempty denotes =>
      obtain ⟨areDigits, rfl⟩ := digitsDenote_ten_iff.1 denotes
      have found : signedDigits? (sign.toList ++ digits) = some (sign, digits) :=
        signedDigits?_eq_some_iff.2 ⟨rfl, isSign, nonempty, areDigits⟩
      generalize isText : sign.toList ++ digits = text at denotesSecond found
      cases denotesSecond with
      | decimal isOtherSign otherNonempty otherDenotes =>
          obtain ⟨areOtherDigits, rfl⟩ := digitsDenote_ten_iff.1 otherDenotes
          have alsoFound := signedDigits?_eq_some_iff.2
            ⟨rfl, isOtherSign, otherNonempty, areOtherDigits⟩
          rw [found] at alsoFound
          obtain ⟨rfl, rfl⟩ := Prod.mk.inj (Option.some.inj alsoFound)
          rfl
      | hexadecimal => contradiction
  | @hexadecimal digits magnitude nonempty denotes =>
      obtain ⟨areHex, rfl⟩ := digitsDenote_sixteen_iff.1 denotes
      generalize isText : '0' :: 'x' :: digits = text at denotesSecond
      cases denotesSecond with
      | decimal isSign otherNonempty otherDenotes =>
          have found := signedDigits?_eq_some_iff.2
            ⟨rfl, isSign, otherNonempty, (digitsDenote_ten_iff.1 otherDenotes).1⟩
          rw [← isText] at found
          contradiction
      | hexadecimal otherNonempty otherDenotes =>
          obtain ⟨-, rfl⟩ := digitsDenote_sixteen_iff.1 otherDenotes
          obtain rfl := (List.cons.inj (List.cons.inj isText).2).2
          rfl

/-- A text is read as an integer exactly if it denotes that integer and 32 bits hold it.
Every integer of 32 bits is read from its decimal text, and every one that is not negative
from its hexadecimal text in letters of either case. -/
theorem integers_of_32_bits_read_exactly :
    (∀ text, HasFewDigits text →
      ∃ found, readInteger text = .ok found ∧
        ∀ value, found = some value ↔
          DenotesInteger text value ∧ -2 ^ 31 ≤ value ∧ value ≤ 2 ^ 31 - 1) ∧
    (∀ value : Int, -2 ^ 31 ≤ value → value ≤ 2 ^ 31 - 1 →
      readInteger (toString value).toList = .ok (some value) ∧
      (0 ≤ value → ∀ digits : List Char,
        digits.map Char.toLower = Nat.toDigits 16 value.toNat →
        readInteger ('0' :: 'x' :: digits) = .ok (some value))) ∧
    (∀ text denoted value, DenotesInteger text denoted →
      readInteger text = .ok (some value) → value = denoted) := by
  refine ⟨?_, ?_, ?_⟩
  · intro text few
    obtain ⟨found, isRead⟩ := exists_readInteger_eq_ok few
    refine ⟨found, isRead, ?_⟩
    intro value
    have exactly := @readInteger_eq_some_iff text value
    rw [isRead] at exactly
    constructor
    · rintro rfl
      exact (exactly.1 rfl).2
    · intro denotes
      exact Except.ok.inj (exactly.2 ⟨few, denotes⟩)
  · intro value least greatest
    constructor
    · obtain ⟨written, isText, isValue⟩ := WrittenInteger.exists_decimal least greatest
      rw [← isText, ← isValue]
      exact written.readInteger_text
    · intro notNegative digits lowered
      obtain ⟨written, isText, isValue⟩ :=
        WrittenInteger.exists_hexadecimal notNegative greatest lowered
      rw [← isText, ← isValue]
      exact written.readInteger_text
  · intro text denoted value denotes isRead
    exact (readInteger_eq_some_iff.1 isRead).2.1.unique denotes

/-- The least integer is read behind zeros and the greatest one in mixed letters; the text
of the next one is not read as any. -/
theorem integers_read_up_to_both_ends :
    readInteger "-0002147483648".toList = .ok (some (-2147483648)) ∧
      readInteger "0x7fFFffFF".toList = .ok (some 2147483647) ∧
      ∀ value, readInteger "2147483648".toList ≠ .ok (some value) := by
  obtain ⟨exactly, fromText, asDenoted⟩ := integers_of_32_bits_read_exactly
  have leastFew : HasFewDigits "-0002147483648".toList :=
    hasFewDigits_of_signedDigits? rfl (by decide)
  have leastDenotes : DenotesInteger "-0002147483648".toList (-2147483648) :=
    @DenotesInteger.decimal (some '-') "0002147483648".toList 2147483648
      (by simp) (by decide) (digitsDenote_ten_iff.2 ⟨List.all_eq_true.1 (by decide), rfl⟩)
  have beyondDenotes : DenotesInteger "2147483648".toList 2147483648 :=
    @DenotesInteger.decimal none "2147483648".toList 2147483648
      (by simp) (by decide) (digitsDenote_ten_iff.2 ⟨List.all_eq_true.1 (by decide), rfl⟩)
  refine ⟨?_, ?_, ?_⟩
  · obtain ⟨found, isRead, isFound⟩ := exactly _ leastFew
    rw [isRead, (isFound _).2 ⟨leastDenotes, by omega, by omega⟩]
  · exact (fromText 2147483647 (by omega) (by omega)).2 (by omega) "7fFFffFF".toList
      (by decide)
  · intro value isRead
    have beyondFew : HasFewDigits "2147483648".toList :=
      hasFewDigits_of_signedDigits? rfl (by decide)
    have isValue := asDenoted _ _ value beyondDenotes isRead
    obtain ⟨found, alsoRead, isFound⟩ := exactly _ beyondFew
    rw [isRead] at alsoRead
    have fits := ((isFound value).1 (Except.ok.inj alsoRead).symm).2
    omega

end ConstantCatalog
