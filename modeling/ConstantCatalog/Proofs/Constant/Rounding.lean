import ConstantCatalog.Proofs.Constant.Scalar
import ConstantCatalog.Proofs.Number.Faithful

/-!
Contract: the values of float constants against the numbers that their texts denote.

A text that is read as a float is a decimal literal or a word. The value of a decimal
literal is a faithful rounding of the number that the text denotes, whatever the length
of its digits and of its exponent, and greater numbers have no smaller values.

Owns: `IsWordNumeral`, and the values of decimal literals.

Does not own: the nearest value, which two roundings in a row need not give.
-/

namespace ConstantCatalog

/-- Whether a text is one of the words for an infinity or for NaN, with an optional
sign. -/
def IsWordNumeral (text : List Char) : Prop :=
  ∃ (sign : Option Char) (letters : List Char),
    (Numeral.mk sign (.word letters)).WellFormed ∧ text = sign.toList ++ letters

/-- A decimal literal is read as the decimal of its digits in single precision. -/
theorem DenotesDecimal.exists_decimal {text : List Char} {exact : ℚ}
    (denotes : DenotesDecimal text exact) :
    ∃ (negative : Bool) (decimal : Decimal),
      exact = withSign negative decimal.rational ∧
        readFloat text = .ok (some (decimal.toNumber negative).toSingle) := by
  obtain ⟨⟨sign, magnitude⟩, wellFormed, isText, isValue⟩ := denotes
  obtain ⟨whole, point, fraction, exponent, isDigits, rfl⟩ :=
    (Numeral.denotes_iff wellFormed).1 isValue
  obtain rfl : magnitude = .digits whole point fraction exponent := isDigits
  exact ⟨decide (sign = some '-'), Magnitude.decimal whole fraction exponent, rfl,
    readFloat_eq_some_iff.2 ⟨_, wellFormed, isText, rfl⟩⟩

private theorem denotesDecimal_or_isWordNumeral {text : List Char} {value : Number}
    (isRead : readFloat text = .ok (some value)) :
    (∃ exact, DenotesDecimal text exact) ∨ IsWordNumeral text := by
  obtain ⟨⟨sign, magnitude⟩, wellFormed, rfl, -⟩ := readFloat_eq_some_iff.1 isRead
  cases magnitude with
  | digits whole point fraction exponent =>
      exact Or.inl ⟨_, _, wellFormed, rfl, (Numeral.denotes_digits_iff wellFormed.2).2 rfl⟩
  | word letters => exact Or.inr ⟨sign, letters, wellFormed, rfl⟩

/-- Every decimal literal is read as a faithful rounding of the number that it denotes,
and decimal literals are read in the order of their numbers. All other texts that are
read as floats are words. -/
theorem decimal_literals_faithfully_rounded :
    (∀ text exact, DenotesDecimal text exact →
      ∃ value, readFloat text = .ok (some value) ∧ value.IsFaithful .binary32 exact) ∧
    (∀ lowerText upperText lower upper lowerValue upperValue,
      DenotesDecimal lowerText lower → DenotesDecimal upperText upper → lower ≤ upper →
      readFloat lowerText = .ok (some lowerValue) →
      readFloat upperText = .ok (some upperValue) →
      lowerValue.AtMost upperValue) ∧
    (∀ text value, readFloat text = .ok (some value) →
      (∃ exact, DenotesDecimal text exact) ∨ IsWordNumeral text) := by
  refine ⟨?_, ?_, ?_⟩
  · intro text exact denotes
    obtain ⟨negative, decimal, rfl, isRead⟩ := denotes.exists_decimal
    exact ⟨_, isRead, decimal.isFaithful_toSingle negative⟩
  · intro lowerText upperText lower upper lowerValue upperValue denotesLower denotesUpper
      le isLower isUpper
    obtain ⟨negative, decimal, rfl, isRead⟩ := denotesLower.exists_decimal
    obtain ⟨otherNegative, otherDecimal, rfl, otherIsRead⟩ := denotesUpper.exists_decimal
    rw [isRead] at isLower
    rw [otherIsRead] at isUpper
    obtain rfl := Option.some.inj (Except.ok.inj isLower)
    obtain rfl := Option.some.inj (Except.ok.inj isUpper)
    exact Decimal.atMost_toSingle le
  · intro text value isRead
    exact denotesDecimal_or_isWordNumeral isRead

/-- A decimal just above the middle of two values falls to the lower one, since double
precision has the middle itself. It is a faithful rounding, but not the nearest value. -/
theorem decimal_above_middle_rounded_down :
    DenotesDecimal "1.0000000596046448".toList (10000000596046448 / 10 ^ 16) ∧
      ∃ value,
        readFloat "1.0000000596046448".toList = .ok (some value) ∧
        value.rational? = some 1 ∧
        value.IsFaithful .binary32 (10000000596046448 / 10 ^ 16) := by
  have isNumeral : Numeral.read? "1.0000000596046448".toList =
      some ⟨none, .digits ['1'] true "0000000596046448".toList none⟩ := by decide +kernel
  have digits : Magnitude.decimal ['1'] "0000000596046448".toList none =
      ⟨10000000596046448, -16⟩ := by decide +kernel
  have rounded : ((⟨10000000596046448, -16⟩ : Decimal).toNumber false).toSingle =
      .finite false grainsPerUnit := by decide +kernel
  obtain ⟨wellFormed, isText⟩ := Numeral.read?_eq_some_iff.1 isNumeral
  have denotes : DenotesDecimal "1.0000000596046448".toList (10000000596046448 / 10 ^ 16) := by
    refine ⟨_, wellFormed, isText, (Numeral.denotes_digits_iff wellFormed.2).2 ?_⟩
    show _ = withSign false _
    rw [digits, withSign_false]
    norm_num [Decimal.rational]
  have isValue : readFloat "1.0000000596046448".toList =
      .ok (some (.finite false grainsPerUnit)) := by
    rw [readFloat, isNumeral, ← rounded, ← digits]
    rfl
  obtain ⟨value, isRead, faithful⟩ := decimal_literals_faithfully_rounded.1 _ _ denotes
  have isOne : value = .finite false grainsPerUnit := by
    rw [isRead] at isValue
    exact Option.some.inj (Except.ok.inj isValue)
  refine ⟨denotes, value, isRead, ?_, faithful⟩
  rw [isOne, Number.rational?_finite, withSign_false, div_self Number.grainsPerUnit_ne_zero]

end ConstantCatalog
