import ConstantCatalog.Number.Printing
import ConstantCatalog.Proofs.Number.Denotation

/-!
Contract: what the texts of decimals denote.

However the digits of a decimal are laid out, the text is a numeral in digits. Zeros that
are left out at the end of the digits are made up for by the exponent or by the place of
the point, and zeros that fill up to the point count for nothing. So the text denotes the
decimal, and the text of a finite number denotes the decimal that is chosen for it.

Owns: `IsTextOf`, and the decimals that laid out texts denote.

Does not own: which decimal is chosen for a number.
-/

namespace ConstantCatalog

/-! ## Digits -/

private theorem digitsValue_zeros (count : Nat) : digitsValue (List.replicate count '0') = 0 := by
  induction count with
  | zero => rfl
  | succ count inductionHypothesis =>
      rw [List.replicate_succ', digitsValue_append, inductionHypothesis, Nat.zero_mul]
      rfl

private theorem digitsValue_zeros_append (count : Nat) (digits : List Char) :
    digitsValue (List.replicate count '0' ++ digits) = digitsValue digits := by
  rw [digitsValue_append, digitsValue_zeros, Nat.zero_mul, Nat.zero_add]

private theorem digitsValue_append_zeros (digits : List Char) (count : Nat) :
    digitsValue (digits ++ List.replicate count '0') = digitsValue digits * 10 ^ count := by
  rw [digitsValue_append, digitsValue_zeros, List.length_replicate, Nat.add_zero]

private theorem isDigit_of_mem_zeros {count : Nat} {digit : Char}
    (member : digit ∈ List.replicate count '0') :
    digit.isDigit = true := by
  rw [List.eq_of_mem_replicate member]
  rfl

/-- Zeros at the end of a coefficient count as much as in the exponent. -/
theorem Decimal.rational_mul_powerOfTen (coefficient shift : Nat) (exponent : Int) :
    (⟨coefficient * 10 ^ shift, exponent⟩ : Decimal).rational =
      (⟨coefficient, exponent + shift⟩ : Decimal).rational := by
  have nonzero : (10 : ℚ) ≠ 0 := by norm_num
  unfold rational
  dsimp only
  rw [zpow_add₀ nonzero, zpow_natCast]
  push_cast
  ring

/-! ## Layouts -/

/-- Whether a text is a numeral in digits, without a sign, that denotes a decimal. -/
def IsTextOf (text : List Char) (decimal : Decimal) : Prop :=
  ∃ whole point fraction exponent,
    (Magnitude.digits whole point fraction exponent).WellFormed ∧
      (Magnitude.digits whole point fraction exponent).text = text ∧
      (Magnitude.decimal whole fraction exponent).rational = decimal.rational

/-- Digits among zeros denote what the digits do, as far as the zeros behind them do not
shift their places. -/
private theorem isTextOf_padded {digits : List Char}
    (areDigits : ∀ digit ∈ digits, digit.isDigit = true) {before after : Nat}
    {whole fraction : List Char} (point : Bool)
    (padded : whole ++ fraction =
      List.replicate before '0' ++ (digits ++ List.replicate after '0')) (nonempty : whole ≠ [])
    (pointed : point = false → fraction = []) {exponent : Int}
    (places : exponent = after - fraction.length) :
    IsTextOf (whole ++ (if point then ['.'] else []) ++ fraction)
      ⟨digitsValue digits, exponent⟩ := by
  refine ⟨whole, point, fraction, none, ⟨?_, .inl nonempty, pointed, by simp⟩, ?_, ?_⟩
  · intro digit member
    rw [padded, List.mem_append, List.mem_append] at member
    rcases member with isZero | inDigits | isZero
    · exact isDigit_of_mem_zeros isZero
    · exact areDigits digit inDigits
    · exact isDigit_of_mem_zeros isZero
  · simp [Magnitude.text]
  · have coefficient : digitsValue (whole ++ fraction) = digitsValue digits * 10 ^ after := by
      rw [padded, digitsValue_zeros_append, digitsValue_append_zeros]
    have sum : (0 - fraction.length : Int) + after = exponent := by omega
    rw [Magnitude.decimal, coefficient, Decimal.rational_mul_powerOfTen, Option.map_none,
      Option.getD_none, sum]

namespace NumberStyle

private theorem exists_withoutTrailingZeros (digits : List Char) :
    ∃ count, digits = withoutTrailingZeros digits ++ List.replicate count '0' := by
  refine ⟨(digits.reverse.takeWhile (· = '0')).length, ?_⟩
  have zeros : (digits.reverse.takeWhile (· = '0')).reverse =
      List.replicate (digits.reverse.takeWhile (· = '0')).length '0' := by
    rw [List.eq_replicate_iff]
    refine ⟨List.length_reverse, ?_⟩
    intro digit member
    have inRun := List.mem_reverse.1 member
    have isZero := holds_of_mem_takeWhile inRun
    exact of_decide_eq_true isZero
  rw [← zeros, withoutTrailingZeros, ← List.reverse_append, List.takeWhile_append_dropWhile,
    List.reverse_reverse]

/-- The exponent that is written behind a mantissa. -/
def exponentPart (exponent : Int) : ExponentPart where
  marker := 'e'
  sign := some (if exponent < 0 then '-' else '+')
  digits :=
    List.replicate (2 - (Nat.toDigits 10 exponent.natAbs).length) '0' ++
      Nat.toDigits 10 exponent.natAbs

private theorem text_exponentPart (exponent : Int) :
    (exponentPart exponent).text = exponentText exponent := rfl

private theorem isDigit_of_mem_exponentPart {exponent : Int} {digit : Char}
    (member : digit ∈ (exponentPart exponent).digits) :
    digit.isDigit = true := by
  rcases List.mem_append.1 member with isZero | inDigits
  · exact isDigit_of_mem_zeros isZero
  · exact Nat.isDigit_of_mem_toDigits (by omega) (by omega) inDigits

private theorem value_exponentPart (exponent : Int) : (exponentPart exponent).value = exponent := by
  have magnitude : digitsValue (exponentPart exponent).digits = exponent.natAbs := by
    rw [exponentPart, digitsValue_zeros_append]
    exact Nat.ofDigitChars_ten_toDigits
  rw [ExponentPart.value, magnitude, exponentPart]
  dsimp only
  by_cases negative : exponent < 0
  · rw [if_pos negative, if_pos rfl]
    omega
  · rw [if_neg negative, if_neg (by decide)]
    omega

private theorem wellFormed_exponentPart (exponent : Int) : (exponentPart exponent).WellFormed := by
  refine ⟨.inl rfl, ?_, ?_, fun digit => isDigit_of_mem_exponentPart⟩
  · intro sign isSign
    obtain rfl := Option.some.inj isSign
    split
    · exact .inr rfl
    · exact .inl rfl
  · exact List.append_ne_nil_of_right_ne_nil _ Nat.toDigits_ne_nil

section Digits

variable {digits : List Char} (areDigits : ∀ digit ∈ digits, digit.isDigit = true) (exponent : Int)

include areDigits

/-- The exponent is that of the first digit, so the others count it down. -/
private theorem isTextOf_scientific :
    IsTextOf (scientific digits exponent)
      ⟨digitsValue digits, exponent + 1 - digits.length⟩ := by
  have isPart : ∀ part, some (exponentPart exponent) = some part → part.WellFormed := by
    intro part same
    rw [← Option.some.inj same]
    exact wellFormed_exponentPart exponent
  cases digits with
  | nil =>
      refine ⟨['0'], false, [], some (exponentPart exponent), ?_, rfl, ?_⟩
      · exact ⟨fun _ => @isDigit_of_mem_zeros 1 _, .inl (by decide), fun _ => rfl, isPart⟩
      · simp [Magnitude.decimal, Decimal.rational, digitsValue]
  | cons first others =>
      have coefficient : digitsValue ([first] ++ others) = digitsValue (first :: others) := rfl
      have places : (exponentPart exponent).value - (others.length : Int) =
          exponent + 1 - ((first :: others).length : Int) := by
        rw [value_exponentPart, List.length_cons]
        omega
      cases others with
      | nil =>
          refine ⟨[first], false, [], some (exponentPart exponent), ?_, rfl, ?_⟩
          · exact ⟨areDigits, .inl (by simp), fun _ => rfl, isPart⟩
          · rw [Magnitude.decimal, coefficient, Option.map_some, Option.getD_some, places]
      | cons second more =>
          refine ⟨[first], true, second :: more, some (exponentPart exponent), ?_, ?_, ?_⟩
          · exact ⟨areDigits, .inl (by simp), by simp, isPart⟩
          · simp [Magnitude.text, scientific, text_exponentPart]
          · rw [Magnitude.decimal, coefficient, Option.map_some, Option.getD_some, places]

/-- Digits in place, where zeros fill up to the point. -/
private theorem isTextOf_positional (style : NumberStyle) :
    IsTextOf (style.positional digits exponent)
      ⟨digitsValue digits, exponent + 1 - digits.length⟩ := by
  unfold positional
  split
  · -- All digits are behind the point.
    rename_i negative
    have padded : ['0'] ++ (List.replicate (-exponent - 1).toNat '0' ++ digits) =
        List.replicate ((-exponent - 1).toNat + 1) '0' ++ (digits ++ List.replicate 0 '0') := by
      simp [List.replicate_succ]
    apply isTextOf_padded areDigits true padded (by simp) (by simp)
    rw [List.length_append, List.length_replicate]
    omega
  · rename_i notNegative
    dsimp only
    split
    · -- All digits are in front of it, and zeros fill up to it.
      rename_i noFraction
      have short : digits.length ≤ exponent.toNat + 1 := List.drop_eq_nil_iff.1 noFraction
      rw [List.take_of_length_le short]
      generalize isCount : exponent.toNat + 1 - digits.length = count
      have nonempty : digits ++ List.replicate count '0' ≠ [] := by
        intro empty
        have none := congrArg List.length empty
        rw [List.length_append, List.length_replicate] at none
        simp only [List.length_nil] at none
        omega
      split
      · have padded : digits ++ List.replicate count '0' ++ ['0'] =
            List.replicate 0 '0' ++ (digits ++ List.replicate (count + 1) '0') := by
          simp [List.replicate_succ']
        have text : IsTextOf (digits ++ List.replicate count '0' ++ ['.'] ++ ['0'])
            ⟨digitsValue digits, exponent + 1 - digits.length⟩ :=
          isTextOf_padded areDigits true padded nonempty (by simp)
            (by rw [List.length_singleton]; omega)
        rwa [List.append_assoc _ ['.']] at text
      · have padded : digits ++ List.replicate count '0' ++ [] =
            List.replicate 0 '0' ++ (digits ++ List.replicate count '0') := by
          simp
        have text : IsTextOf (digits ++ List.replicate count '0' ++ [] ++ [])
            ⟨digitsValue digits, exponent + 1 - digits.length⟩ :=
          isTextOf_padded areDigits false padded nonempty (by simp)
            (by rw [List.length_nil]; omega)
        rwa [List.append_nil, List.append_nil] at text
    · -- The point is among the digits, so there is nothing to fill up.
      rename_i hasFraction
      have long : exponent.toNat + 1 < digits.length :=
        Nat.lt_of_not_le fun short => hasFraction (List.drop_eq_nil_iff.2 short)
      have noZeros : exponent.toNat + 1 - digits.length = 0 := by omega
      have padded : digits.take (exponent.toNat + 1) ++ digits.drop (exponent.toNat + 1) =
          List.replicate 0 '0' ++ (digits ++ List.replicate 0 '0') := by
        simp
      have nonempty : digits.take (exponent.toNat + 1) ≠ [] := by
        intro empty
        have none := congrArg List.length empty
        rw [List.length_take, List.length_nil] at none
        omega
      have text : IsTextOf (digits.take (exponent.toNat + 1) ++ ['.'] ++
            digits.drop (exponent.toNat + 1))
          ⟨digitsValue digits, exponent + 1 - digits.length⟩ :=
        isTextOf_padded areDigits true padded nonempty (by simp)
          (by rw [List.length_drop]; omega)
      rw [noZeros, List.replicate_zero, List.append_nil]
      rwa [List.append_assoc _ ['.']] at text

end Digits

/-- However a decimal is laid out, its text denotes it. -/
theorem isTextOf_layout (style : NumberStyle) (decimal : Decimal) :
    IsTextOf (style.layout decimal) decimal := by
  obtain ⟨count, shown⟩ := exists_withoutTrailingZeros (Nat.toDigits 10 decimal.coefficient)
  have areDigits : ∀ digit ∈ withoutTrailingZeros (Nat.toDigits 10 decimal.coefficient),
      digit.isDigit = true := by
    intro digit member
    have inDigits : digit ∈ Nat.toDigits 10 decimal.coefficient := by
      rw [shown]
      exact List.mem_append_left _ member
    exact Nat.isDigit_of_mem_toDigits (by omega) (by omega) inDigits
  have coefficient : decimal.coefficient =
      digitsValue (withoutTrailingZeros (Nat.toDigits 10 decimal.coefficient)) * 10 ^ count := by
    rw [← digitsValue_append_zeros, ← shown]
    exact Nat.ofDigitChars_ten_toDigits.symm
  have length := congrArg List.length shown
  rw [List.length_append, List.length_replicate] at length
  -- The zeros that are not written are counted in the exponent.
  have same : decimal.rational =
      (⟨digitsValue (withoutTrailingZeros (Nat.toDigits 10 decimal.coefficient)),
        decimal.exponent + count⟩ : Decimal).rational := by
    rw [← Decimal.rational_mul_powerOfTen, ← coefficient]
  have places : decimal.exponent + (Nat.toDigits 10 decimal.coefficient).length - 1 + 1 -
      (withoutTrailingZeros (Nat.toDigits 10 decimal.coefficient)).length =
        decimal.exponent + count := by
    omega
  unfold layout
  dsimp only
  unfold IsTextOf
  rw [same, ← places]
  split
  · exact isTextOf_scientific areDigits _
  · exact isTextOf_positional areDigits _ style

end NumberStyle

/-- The text of a finite number denotes the decimal that is chosen for it, with its
sign. -/
theorem Number.denotesDecimal_textWith (style : NumberStyle) (choose : Nat → Decimal)
    (negative : Bool) (grains : Nat) :
    DenotesDecimal ((Number.finite negative grains).textWith style choose)
      (withSign negative (if grains = 0 then 0 else (choose grains).rational)) := by
  have isZero : (⟨0, 0⟩ : Decimal).rational = 0 := by simp [Decimal.rational]
  obtain ⟨whole, point, fraction, exponent, wellFormed, isText, same⟩ :=
    style.isTextOf_layout (if grains = 0 then ⟨0, 0⟩ else choose grains)
  rw [apply_ite Decimal.rational, isZero] at same
  have signs : (if negative then ['-'] else []) = (if negative then some '-' else none).toList := by
    cases negative <;> rfl
  refine ⟨⟨if negative then some '-' else none, .digits whole point fraction exponent⟩,
    ⟨?_, wellFormed⟩, ?_, ?_⟩
  · intro sign isSign
    cases negative with
    | false => contradiction
    | true => exact .inr (Option.some.inj isSign).symm
  · rw [Numeral.text, isText, textWith, signs]
  · rw [Numeral.denotes_digits_iff wellFormed, same]
    cases negative <;> rfl

end ConstantCatalog
