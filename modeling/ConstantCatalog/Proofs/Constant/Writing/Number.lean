import ConstantCatalog.Proofs.Constant.Scalar
import ConstantCatalog.Proofs.Source.Lines
import ConstantCatalog.Proofs.Text.Blank

/-!
Contract: integers and floats as declarations write them.

A written number carries its spelling together with what makes the spelling valid, so
that it is always read back as its value. Every integer of 32 bits can be written in its
usual decimal form.

Owns: `WrittenInteger`, `WrittenFloat`, and the reading of both.

Does not own: the line a number stands in.
-/

namespace ConstantCatalog

/-! ## Characters -/

theorem isWord_of_isNumeralChar {text : List Char} (nonempty : text ≠ [])
    (written : ∀ character ∈ text, isNumeralChar character = true) :
    IsWord text :=
  ⟨nonempty, fun character member =>
    isBlank_eq_false_of_isNumeralChar (written character member)⟩

theorem unbroken_of_isNumeralChar {text : List Char}
    (written : ∀ character ∈ text, isNumeralChar character = true) :
    Unbroken text := by
  intro character member
  have isWritten := written character member
  have noFeed : character ≠ '\n' := by
    rintro rfl
    contradiction
  have noCarriage : character ≠ '\r' := by
    rintro rfl
    contradiction
  simp [isLineBreak, noFeed, noCarriage]

theorem AllBlank.unbroken {text : List Char} (blank : AllBlank text) :
    Unbroken text := by
  intro character member
  rcases Bool.or_eq_true_iff.1 (blank character member) with space | tab
  · rw [eq_of_beq space]
    rfl
  · rw [eq_of_beq tab]
    rfl

/-! ## Integers -/

/-- An integer of 32 bits in decimal or in hexadecimal digits. -/
inductive WrittenInteger where
  | decimal (sign : Option Char) (digits : List Char)
      (isSign : ∀ written, sign = some written → written = '+' ∨ written = '-')
      (nonempty : digits ≠ []) (areDigits : ∀ digit ∈ digits, digit.isDigit = true)
      (few : digits.length ≤ maxIntegerDigits)
      (fits : leastInteger ≤ signedValue sign digits ∧
        signedValue sign digits ≤ greatestInteger)
  | hexadecimal (digits : List Char) (nonempty : digits ≠ [])
      (areHex : ∀ digit ∈ digits, isHexDigit digit = true)
      (fits : (hexDigitsValue digits : Int) ≤ greatestInteger)

namespace WrittenInteger

def text : WrittenInteger → List Char
  | .decimal sign digits _ _ _ _ _ => sign.toList ++ digits
  | .hexadecimal digits _ _ _ => '0' :: 'x' :: digits

def value : WrittenInteger → Int
  | .decimal sign digits _ _ _ _ _ => signedValue sign digits
  | .hexadecimal digits _ _ _ => (hexDigitsValue digits : Int)

theorem readInteger_text (written : WrittenInteger) :
    readInteger written.text = .ok (some written.value) := by
  cases written with
  | decimal sign digits isSign nonempty areDigits few fits =>
      rw [text, readInteger_decimal isSign nonempty areDigits few, fitting32?, if_pos fits]
      rfl
  | hexadecimal digits nonempty areHex fits =>
      have positive : leastInteger ≤ (hexDigitsValue digits : Int) := by
        unfold leastInteger
        omega
      rw [text, readInteger_hexadecimal nonempty areHex, fitting32?, if_pos ⟨positive, fits⟩]
      rfl

theorem isNumeralChar_of_mem_text (written : WrittenInteger) :
    ∀ character ∈ written.text, isNumeralChar character = true := by
  intro character member
  cases foreign : isNumeralChar character with
  | true => rfl
  | false =>
      have unread := readInteger_eq_none_of_mem member foreign
      rw [written.readInteger_text] at unread
      simp at unread

theorem text_ne_nil (written : WrittenInteger) : written.text ≠ [] := by
  intro empty
  have isRead := written.readInteger_text
  have nothing : readInteger [] = .ok none := rfl
  rw [empty, nothing] at isRead
  simp at isRead

private theorem digitsValue_toDigits (magnitude : Nat) :
    digitsValue (Nat.toDigits 10 magnitude) = magnitude :=
  Nat.ofDigitChars_ten_toDigits

private theorem exists_decimal_of_signedValue {sign : Option Char}
    (isSign : ∀ written, sign = some written → written = '+' ∨ written = '-') {magnitude : Nat}
    (small : magnitude < 10000000000) {value : Int}
    (isValue : signedValue sign (Nat.toDigits 10 magnitude) = value) (least : leastInteger ≤ value)
    (greatest : value ≤ greatestInteger) :
    ∃ written : WrittenInteger,
      written.text = sign.toList ++ Nat.toDigits 10 magnitude ∧ written.value = value := by
  have short : (Nat.toDigits 10 magnitude).length ≤ 10 :=
    (Nat.length_toDigits_le_iff (by omega) (by omega)).2 small
  have few : (Nat.toDigits 10 magnitude).length ≤ maxIntegerDigits := by
    unfold maxIntegerDigits
    omega
  subst isValue
  exact ⟨.decimal sign (Nat.toDigits 10 magnitude) isSign Nat.toDigits_ne_nil
    (fun _ member => Nat.isDigit_of_mem_toDigits (by omega) (by omega) member) few
    ⟨least, greatest⟩, rfl, rfl⟩

/-- Every integer of 32 bits can be written in its usual decimal form. -/
theorem exists_decimal {value : Int} (least : leastInteger ≤ value)
    (greatest : value ≤ greatestInteger) :
    ∃ written : WrittenInteger,
      written.text = (toString value).toList ∧ written.value = value := by
  have bounds : -2147483648 ≤ value ∧ value ≤ 2147483647 := ⟨least, greatest⟩
  rw [Int.toString_eq_repr, Int.repr_eq_if]
  by_cases positive : 0 ≤ value
  · have isValue : signedValue none (Nat.toDigits 10 value.toNat) = value := by
      simp only [signedValue, digitsValue_toDigits, reduceCtorEq, if_false]
      omega
    rw [if_pos positive, Nat.toList_repr]
    exact exists_decimal_of_signedValue (by simp) (by omega) isValue least greatest
  · have isValue : signedValue (some '-') (Nat.toDigits 10 (-value).toNat) = value := by
      simp only [signedValue, digitsValue_toDigits, if_true]
      omega
    rw [if_neg positive, String.toList_append, Nat.toList_repr]
    exact exists_decimal_of_signedValue (by simp) (by omega) isValue least greatest

end WrittenInteger

/-! ## Floats -/

/-- A text that is read as a float, with the value that it is read as. -/
structure WrittenFloat where
  text : List Char
  value : Number
  accepted : readFloat text = .ok (some value)

namespace WrittenFloat

theorem exists_numeral (written : WrittenFloat) :
    ∃ numeral : Numeral, numeral.WellFormed ∧ numeral.text = written.text ∧
      numeral.toSingle = written.value :=
  readFloat_eq_some_iff.1 written.accepted

theorem isNumeralChar_of_mem_text (written : WrittenFloat) :
    ∀ character ∈ written.text, isNumeralChar character = true := by
  obtain ⟨numeral, wellFormed, isText, -⟩ := written.exists_numeral
  rw [← isText]
  exact Numeral.isNumeralChar_of_mem_text wellFormed

theorem text_ne_nil (written : WrittenFloat) : written.text ≠ [] := by
  intro empty
  have isRead := written.accepted
  have nothing : readFloat [] = .ok none := rfl
  rw [empty, nothing] at isRead
  simp at isRead

end WrittenFloat

end ConstantCatalog
