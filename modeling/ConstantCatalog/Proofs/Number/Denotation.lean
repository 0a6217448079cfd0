import ConstantCatalog.Proofs.Number.LongestMatch
import ConstantCatalog.Proofs.Number.Rational
import Mathlib.Data.Nat.Digits.Defs
import Mathlib.Tactic.FieldSimp

/-!
Contract: the numbers that digits and numerals denote.

Digits denote a sum of powers of their base. A numeral in digits denotes its whole part
and its fraction, scaled by its exponent, with its sign. What is read of digits and of
numerals, from the left and without fractions, is the same number.

Owns: `DigitsDenote`, `Numeral.Denotes`, `DenotesDecimal`, and their agreement with the
values of digits and decimals.

Does not own: rounding, and which texts are accepted.
-/

namespace ConstantCatalog

/-! ## Characters by code -/

theorem toNat_toLower (character : Char) :
    character.toLower.toNat =
      if 65 ≤ character.toNat ∧ character.toNat ≤ 90 then character.toNat + 32
      else character.toNat := by
  have isUpper : (character.val ≥ 'A'.val ∧ character.val ≤ 'Z'.val) ↔
      65 ≤ character.toNat ∧ character.toNat ≤ 90 := by
    simp only [ge_iff_le, UInt32.le_iff_toNat_le]
    exact Iff.rfl
  unfold Char.toLower
  split
  · rename_i upper
    have bounds := isUpper.1 upper
    rw [if_pos bounds]
    show (character.val + 32).toNat = character.val.toNat + 32
    have small : character.val.toNat ≤ 90 := bounds.2
    rw [UInt32.toNat_add]
    exact Nat.mod_eq_of_lt (by show character.val.toNat + 32 < 2 ^ 32; omega)
  · rename_i notUpper
    rw [if_neg fun bounds => notUpper (isUpper.2 bounds)]

private theorem toNat_digitChar {place : Nat} (small : place < 16) :
    place.digitChar.toNat = if place < 10 then 48 + place else 87 + place := by
  have listed : ∀ place < 16,
      place.digitChar.toNat = if place < 10 then 48 + place else 87 + place := by decide
  exact listed place small

/-! ## Digits -/

/-- Whether a character is the digit for a place value in a base. Letters are digits
beyond nine, in either case. -/
def IsDigitOf (base : Nat) (character : Char) (place : Nat) : Prop :=
  place < base ∧ character.toLower = place.digitChar

/-- Whether digits of a base denote a number, the last of them counting ones. -/
def DigitsDenote (base : Nat) (digits : List Char) (value : Nat) : Prop :=
  ∃ places : List Nat,
    List.Forall₂ (IsDigitOf base) digits places ∧
      value = Nat.ofDigits base places.reverse

theorem isDigitOf_iff_toNat {base : Nat} (small : base ≤ 16) {character : Char} {place : Nat} :
    IsDigitOf base character place ↔
      place < base ∧
        (if 65 ≤ character.toNat ∧ character.toNat ≤ 90 then character.toNat + 32
          else character.toNat) = if place < 10 then 48 + place else 87 + place := by
  unfold IsDigitOf
  constructor
  · rintro ⟨below, same⟩
    rw [← toNat_toLower, same, toNat_digitChar (by omega)]
    exact ⟨below, rfl⟩
  · rintro ⟨below, same⟩
    rw [← toNat_toLower, ← toNat_digitChar (by omega : place < 16)] at same
    exact ⟨below, Char.toNat_inj.1 same⟩

private theorem isDigitOf_ten_iff {character : Char} {place : Nat} :
    IsDigitOf 10 character place ↔
      character.isDigit = true ∧ place = character.toNat - '0'.toNat := by
  have zero : '0'.toNat = 48 := rfl
  have digit : character.isDigit = true ↔ 48 ≤ character.toNat ∧ character.toNat ≤ 57 :=
    Char.isDigit_iff_toNat
  rw [isDigitOf_iff_toNat (by omega), digit, zero]
  split <;> split <;> omega

section Digits

variable {base : Nat} {isOne : Char → Bool} {placeOf : Char → Nat}

private theorem forall₂_isDigitOf_iff
    (isDigit : ∀ character place,
      IsDigitOf base character place ↔ isOne character = true ∧ place = placeOf character)
    {digits : List Char} {places : List Nat} :
    List.Forall₂ (IsDigitOf base) digits places ↔
      (∀ digit ∈ digits, isOne digit = true) ∧ places = digits.map placeOf := by
  induction digits generalizing places with
  | nil => simp
  | cons digit rest inductionHypothesis =>
      cases places with
      | nil => simp
      | cons place others =>
          rw [List.forall₂_cons, inductionHypothesis, isDigit, List.forall_mem_cons,
            List.map_cons, List.cons.injEq]
          exact and_and_and_comm

/-- Digits that are told by a test and valued by a function denote the number that
reading them from the left gives. -/
theorem digitsDenote_iff_foldl
    (isDigit : ∀ character place,
      IsDigitOf base character place ↔ isOne character = true ∧ place = placeOf character)
    {digits : List Char} {value : Nat} :
    DigitsDenote base digits value ↔
      (∀ digit ∈ digits, isOne digit = true) ∧
        value = digits.foldl (fun value digit => base * value + placeOf digit) 0 := by
  have read : Nat.ofDigits base (digits.map placeOf).reverse =
      digits.foldl (fun value digit => base * value + placeOf digit) 0 := by
    rw [Nat.ofDigits_eq_foldr, List.foldr_reverse, List.foldl_map]
    simp only [Nat.cast_id, Nat.add_comm]
  unfold DigitsDenote
  simp only [forall₂_isDigitOf_iff isDigit]
  constructor
  · rintro ⟨places, ⟨areDigits, rfl⟩, rfl⟩
    exact ⟨areDigits, read⟩
  · rintro ⟨areDigits, rfl⟩
    exact ⟨digits.map placeOf, ⟨areDigits, rfl⟩, read.symm⟩

end Digits

private theorem DigitsDenote.concat {base : Nat} {digits : List Char} {value : Nat}
    (denotes : DigitsDenote base digits value) {last : Char} {place : Nat}
    (isDigit : IsDigitOf base last place) :
    DigitsDenote base (digits ++ [last]) (base * value + place) := by
  obtain ⟨places, areDigits, rfl⟩ := denotes
  refine ⟨places ++ [place], List.rel_append areDigits (.cons isDigit .nil), ?_⟩
  rw [List.reverse_append, List.reverse_singleton, List.singleton_append, Nat.ofDigits_cons,
    Nat.add_comm]

/-- The usual digits of a number denote it, in letters of either case. -/
theorem digitsDenote_of_toDigits {base : Nat} (proper : 1 < base) {digits : List Char}
    {number : Nat} (lowered : digits.map Char.toLower = Nat.toDigits base number) :
    DigitsDenote base digits number := by
  induction number using Nat.strongRecOn generalizing digits with
  | ind number inductionHypothesis =>
      rw [Nat.toDigits_eq_if proper] at lowered
      split at lowered
      · rename_i single
        obtain ⟨digit, rfl, isDigit⟩ := List.map_eq_singleton_iff.1 lowered
        exact ⟨[number], .cons ⟨single, isDigit⟩ .nil, by simp⟩
      · rename_i more
        obtain ⟨front, rest, rfl, frontLowered, restLowered⟩ := List.map_eq_append_iff.1 lowered
        obtain ⟨last, rfl, isLast⟩ := List.map_eq_singleton_iff.1 restLowered
        have fewer : number / base < number := Nat.div_lt_self (by omega) proper
        have lastSmall : number % base < base := Nat.mod_lt number (by omega)
        have whole := (inductionHypothesis _ fewer frontLowered).concat ⟨lastSmall, isLast⟩
        rwa [Nat.div_add_mod] at whole

theorem digitsDenote_ten_iff {digits : List Char} {value : Nat} :
    DigitsDenote 10 digits value ↔
      (∀ digit ∈ digits, digit.isDigit = true) ∧ value = digitsValue digits :=
  digitsDenote_iff_foldl fun _ _ => isDigitOf_ten_iff

theorem digitsValue_append (front rest : List Char) :
    digitsValue (front ++ rest) = digitsValue front * 10 ^ rest.length + digitsValue rest := by
  have asLibrary : ∀ digits, digitsValue digits = Nat.ofDigitChars 10 digits 0 :=
    fun digits => Nat.ofDigitChars_eq_foldl.symm
  rw [asLibrary, asLibrary, asLibrary, Nat.ofDigitChars_append,
    Nat.ofDigitChars_eq_ofDigitChars_zero, Nat.mul_comm]

/-! ## Decimals -/

theorem powerOfTen_le_powerOfTen {exponent otherExponent : Nat} (le : exponent ≤ otherExponent) :
    powerOfTen exponent ≤ powerOfTen otherExponent :=
  Nat.pow_le_pow_right (by decide) le

theorem powerOfTen_zero : powerOfTen 0 = 1 := rfl

theorem powerOfTen_add (exponent otherExponent : Nat) :
    powerOfTen (exponent + otherExponent) = powerOfTen exponent * powerOfTen otherExponent :=
  Nat.pow_add ..

theorem cast_powerOfTen (exponent : Nat) : (powerOfTen exponent : ℚ) = 10 ^ exponent := by
  show ((10 ^ exponent : Nat) : ℚ) = 10 ^ exponent
  push_cast
  rfl

/-- The rational number that a decimal is. -/
def Decimal.rational (decimal : Decimal) : ℚ :=
  decimal.coefficient * 10 ^ decimal.exponent

/-- A magnitude with a sign before it. -/
def withSign (negative : Bool) (magnitude : ℚ) : ℚ :=
  if negative then -magnitude else magnitude

@[simp] theorem withSign_true (magnitude : ℚ) : withSign true magnitude = -magnitude := rfl

@[simp] theorem withSign_false (magnitude : ℚ) : withSign false magnitude = magnitude := rfl

theorem Number.rational?_finite (negative : Bool) (grains : Nat) :
    (Number.finite negative grains).rational? =
      some (withSign negative ((grains : ℚ) / (grainsPerUnit : ℚ))) := by
  cases negative with
  | false => rfl
  | true => exact congrArg some (neg_div _ _)

/-! ## Numerals -/

/-- Whether an exponent denotes an integer. Where none is written, it is zero. -/
def ExponentDenotes : Option ExponentPart → Int → Prop
  | none, value => value = 0
  | some part, value =>
      ∃ magnitude : Nat,
        DigitsDenote 10 part.digits magnitude ∧
          value = if part.sign = some '-' then -(magnitude : Int) else (magnitude : Int)

/-- Whether a numeral in digits denotes a rational number: its whole part and its
fraction, scaled by its exponent, with its sign. A word denotes none. -/
def Numeral.Denotes (numeral : Numeral) (exact : ℚ) : Prop :=
  match numeral.magnitude with
  | .word _ => False
  | .digits whole _ fraction exponent =>
      ∃ (wholeValue fractionValue : Nat) (exponentValue : Int),
        DigitsDenote 10 whole wholeValue ∧
        DigitsDenote 10 fraction fractionValue ∧
        ExponentDenotes exponent exponentValue ∧
        exact = withSign (decide (numeral.sign = some '-'))
          (((wholeValue : ℚ) + fractionValue / 10 ^ fraction.length) * 10 ^ exponentValue)

/-- Whether a text is a decimal literal, with or without an exponent, that denotes a
rational number. -/
def DenotesDecimal (text : List Char) (exact : ℚ) : Prop :=
  ∃ numeral : Numeral,
    numeral.WellFormed ∧ numeral.text = text ∧ numeral.Denotes exact

private theorem exponentDenotes_iff {exponent : Option ExponentPart}
    (areDigits : ∀ part, exponent = some part → ∀ digit ∈ part.digits, digit.isDigit = true)
    {value : Int} :
    ExponentDenotes exponent value ↔ value = (exponent.map ExponentPart.value).getD 0 := by
  cases exponent with
  | none => rfl
  | some part =>
      unfold ExponentDenotes
      simp only [digitsDenote_ten_iff]
      constructor
      · rintro ⟨magnitude, ⟨-, rfl⟩, rfl⟩
        rfl
      · rintro rfl
        exact ⟨digitsValue part.digits, ⟨areDigits part rfl, rfl⟩, rfl⟩

/-- A whole part and a fraction make up the decimal of their digits in a row. -/
private theorem Magnitude.rational_decimal (whole fraction : List Char)
    (exponent : Option ExponentPart) :
    (decimal whole fraction exponent).rational =
      ((digitsValue whole : ℚ) + digitsValue fraction / 10 ^ fraction.length) *
        10 ^ (exponent.map ExponentPart.value).getD 0 := by
  have nonzero : (10 : ℚ) ≠ 0 := by norm_num
  unfold Decimal.rational decimal
  rw [digitsValue_append, zpow_sub₀ nonzero, zpow_natCast]
  push_cast
  field_simp

namespace Numeral

theorem denotes_digits_iff {sign : Option Char} {whole fraction : List Char} {point : Bool}
    {exponent : Option ExponentPart}
    (wellFormed : (Magnitude.digits whole point fraction exponent).WellFormed) {exact : ℚ} :
    (Numeral.mk sign (.digits whole point fraction exponent)).Denotes exact ↔
      exact = withSign (decide (sign = some '-'))
        (Magnitude.decimal whole fraction exponent).rational := by
  obtain ⟨areDigits, -, -, exponentFormed⟩ := wellFormed
  have wholeDigits : ∀ digit ∈ whole, digit.isDigit = true :=
    fun digit member => areDigits digit (List.mem_append_left _ member)
  have fractionDigits : ∀ digit ∈ fraction, digit.isDigit = true :=
    fun digit member => areDigits digit (List.mem_append_right _ member)
  have exponentDigits : ∀ part, exponent = some part →
      ∀ digit ∈ part.digits, digit.isDigit = true :=
    fun part isPart => (exponentFormed part isPart).2.2.2
  rw [Magnitude.rational_decimal]
  unfold Denotes
  simp only [digitsDenote_ten_iff, exponentDenotes_iff exponentDigits]
  constructor
  · rintro ⟨wholeValue, fractionValue, exponentValue, ⟨-, rfl⟩, ⟨-, rfl⟩, rfl, rfl⟩
    rfl
  · rintro rfl
    exact ⟨_, _, _, ⟨wholeDigits, rfl⟩, ⟨fractionDigits, rfl⟩, rfl, rfl⟩

/-- A numeral denotes a number exactly if it is in digits, and then the decimal of the
digits with the sign. -/
theorem denotes_iff {numeral : Numeral} (wellFormed : numeral.WellFormed) {exact : ℚ} :
    numeral.Denotes exact ↔
      ∃ whole point fraction exponent,
        numeral.magnitude = .digits whole point fraction exponent ∧
        exact = withSign (decide (numeral.sign = some '-'))
          (Magnitude.decimal whole fraction exponent).rational := by
  obtain ⟨sign, magnitude⟩ := numeral
  cases magnitude with
  | word letters =>
      constructor
      · intro denotes
        exact denotes.elim
      · rintro ⟨whole, point, fraction, exponent, isDigits, -⟩
        contradiction
  | digits whole point fraction exponent =>
      rw [denotes_digits_iff wellFormed.2]
      constructor
      · intro isValue
        exact ⟨whole, point, fraction, exponent, rfl, isValue⟩
      · rintro ⟨otherWhole, otherPoint, otherFraction, otherExponent, same, isValue⟩
        obtain ⟨rfl, rfl, rfl, rfl⟩ := Magnitude.digits.inj same
        exact isValue

end Numeral

/-- A text denotes no more than one number. -/
theorem DenotesDecimal.unique {text : List Char} {first second : ℚ}
    (denotesFirst : DenotesDecimal text first) (denotesSecond : DenotesDecimal text second) :
    first = second := by
  obtain ⟨numeral, wellFormed, isText, isFirst⟩ := denotesFirst
  obtain ⟨other, otherFormed, otherText, isSecond⟩ := denotesSecond
  have same : some numeral = some other := by
    rw [← Numeral.read?_eq_some_iff.2 ⟨wellFormed, isText⟩,
      ← Numeral.read?_eq_some_iff.2 ⟨otherFormed, otherText⟩]
  obtain rfl := Option.some.inj same
  obtain ⟨whole, point, fraction, exponent, isDigits, rfl⟩ :=
    (Numeral.denotes_iff wellFormed).1 isFirst
  obtain ⟨_, _, _, _, alsoDigits, rfl⟩ := (Numeral.denotes_iff wellFormed).1 isSecond
  rw [isDigits] at alsoDigits
  obtain ⟨rfl, rfl, rfl, rfl⟩ := Magnitude.digits.inj alsoDigits
  rfl

end ConstantCatalog
