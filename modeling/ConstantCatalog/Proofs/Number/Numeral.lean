import ConstantCatalog.Number.Numeral
import ConstantCatalog.Proofs.Text.Run
import ConstantCatalog.Text.Blank

/-!
Contract: what the scanner of numerals takes off a text is a numeral of the grammar.

Owns: `isNumeralChar`, signs, digits and exponents in front of a text, and
`Numeral.wellFormed_of_scan?`.

Does not own: how far the scanner goes, or the values of numerals.
-/

namespace ConstantCatalog

/-- The characters that numerals are written with, and the other ASCII letters. -/
def isNumeralChar (character : Char) : Bool :=
  character.isDigit || character.isAlpha ||
    character == '+' || character == '-' || character == '.'

theorem isNumeralChar_of_isDigit {character : Char} (digit : character.isDigit = true) :
    isNumeralChar character = true := by
  simp [isNumeralChar, digit]

theorem isNumeralChar_of_isAlpha {character : Char} (letter : character.isAlpha = true) :
    isNumeralChar character = true := by
  simp [isNumeralChar, letter]

theorem isBlank_eq_false_of_isNumeralChar {character : Char}
    (written : isNumeralChar character = true) :
    isBlank character = false := by
  have noSpace : character ≠ ' ' := by
    rintro rfl
    contradiction
  have noTab : character ≠ '\t' := by
    rintro rfl
    contradiction
  simp [isBlank, noSpace, noTab]

theorem isAlpha_iff_toNat {character : Char} :
    character.isAlpha = true ↔
      (65 ≤ character.toNat ∧ character.toNat ≤ 90) ∨
        (97 ≤ character.toNat ∧ character.toNat ≤ 122) := by
  change (decide (character.val ≥ 'A'.val ∧ character.val ≤ 'Z'.val) ||
    (decide (character.val ≥ 'a'.val) && decide (character.val ≤ 'z'.val))) = true ↔ _
  simp only [Bool.or_eq_true, Bool.and_eq_true, decide_eq_true_eq, ge_iff_le,
    UInt32.le_iff_toNat_le]
  exact Iff.rfl

private theorem isDigit_eq_false_of_isAlpha {character : Char} (letter : character.isAlpha = true) :
    character.isDigit = false := by
  have codes := isAlpha_iff_toNat.1 letter
  rw [Bool.eq_false_iff]
  intro digit
  have bounds : 48 ≤ character.toNat ∧ character.toNat ≤ 57 := Char.isDigit_iff_toNat.1 digit
  omega

/-- Lowering the case of a character that is no letter makes no letter of it. -/
private theorem isAlpha_of_isAlpha_toLower {character : Char}
    (letter : character.toLower.isAlpha = true) :
    character.isAlpha = true := by
  unfold Char.toLower at letter
  split at letter
  · rename_i upper
    simp only [ge_iff_le, UInt32.le_iff_toNat_le] at upper
    exact isAlpha_iff_toNat.2 (Or.inl upper)
  · exact letter

/-! ## Signs and digits -/

def isSignChar (character : Char) : Bool :=
  character == '+' || character == '-'

theorem splitSign_unsigned {text : List Char} (unsigned : BeginsOutside isSignChar text) :
    splitSign text = (none, text) := by
  unfold splitSign
  split
  · have sign := unsigned '+' rfl
    contradiction
  · have sign := unsigned '-' rfl
    contradiction
  · rfl

/-- A sign that is written is split off; where none is written, none is found. -/
theorem splitSign_toList_append {sign : Option Char} {text : List Char}
    (isSign : ∀ written, sign = some written → written = '+' ∨ written = '-')
    (unsigned : BeginsOutside isSignChar text) :
    splitSign (sign.toList ++ text) = (sign, text) := by
  cases sign with
  | none => exact splitSign_unsigned unsigned
  | some written => rcases isSign written rfl with rfl | rfl <;> rfl

theorem isSign_of_splitSign {text rest : List Char} {sign : Option Char}
    (split : splitSign text = (sign, rest)) :
    ∀ written, sign = some written → written = '+' ∨ written = '-' := by
  intro written isWritten
  subst isWritten
  unfold splitSign at split
  split at split
  · exact Or.inl (Option.some.inj (congrArg Prod.fst split)).symm
  · exact Or.inr (Option.some.inj (congrArg Prod.fst split)).symm
  · simp at split

theorem splitDigits_run {digits rest : List Char}
    (areDigits : ∀ digit ∈ digits, digit.isDigit = true) (apart : BeginsOutside Char.isDigit rest) :
    splitDigits (digits ++ rest) = (digits, rest) := by
  unfold splitDigits
  rw [takeWhile_run areDigits apart, dropWhile_run areDigits apart]

private theorem isDigit_of_splitDigits {text digits rest : List Char}
    (split : splitDigits text = (digits, rest)) :
    ∀ digit ∈ digits, digit.isDigit = true := by
  intro digit member
  have taken : text.takeWhile Char.isDigit = digits := congrArg Prod.fst split
  rw [← taken] at member
  exact holds_of_mem_takeWhile member

/-- Neither a digit nor a letter is a sign. -/
theorem isSignChar_eq_false {character : Char}
    (written : character.isDigit = true ∨ character.isAlpha = true) :
    isSignChar character = false := by
  have noPlus : character ≠ '+' := by
    rintro rfl
    rcases written with digit | letter <;> contradiction
  have noMinus : character ≠ '-' := by
    rintro rfl
    rcases written with digit | letter <;> contradiction
  simp [isSignChar, noPlus, noMinus]

theorem beginsOutside_sign_of_isDigit {digit : Char} (rest : List Char)
    (isDigit : digit.isDigit = true) :
    BeginsOutside isSignChar (digit :: rest) :=
  beginsOutside_cons rest (isSignChar_eq_false (Or.inl isDigit))

/-! ## Exponents -/

def ExponentPart.WellFormed (part : ExponentPart) : Prop :=
  (part.marker = 'e' ∨ part.marker = 'E') ∧
  (∀ sign, part.sign = some sign → sign = '+' ∨ sign = '-') ∧
  part.digits ≠ [] ∧ ∀ digit ∈ part.digits, digit.isDigit

theorem ExponentPart.wellFormed_of_scan? {text rest : List Char} {part : ExponentPart}
    (scanned : ExponentPart.scan? text = some (part, rest)) :
    part.WellFormed := by
  unfold ExponentPart.scan? at scanned
  split at scanned
  · simp at scanned
  · rename_i marker afterMarker
    split at scanned
    · rename_i isMarker
      cases signSplit : splitSign afterMarker with
      | mk sign unsigned =>
          rw [signSplit] at scanned
          dsimp only at scanned
          split at scanned
          · simp at scanned
          · rename_i digits remainder nonempty digitSplit
            simp only [Option.some.injEq, Prod.mk.injEq] at scanned
            obtain ⟨rfl, -⟩ := scanned
            exact ⟨isMarker, isSign_of_splitSign signSplit, nonempty,
              isDigit_of_splitDigits digitSplit⟩
    · simp at scanned

/-- An exponent begins with its marker, which is no digit. -/
theorem ExponentPart.beginsOutside_text {part : ExponentPart} (wellFormed : part.WellFormed)
    (rest : List Char) :
    BeginsOutside Char.isDigit (part.text ++ rest) := by
  apply beginsOutside_cons
  rcases wellFormed.1 with marker | marker
  · rw [marker]
    rfl
  · rw [marker]
    rfl

/-! ## Magnitudes -/

private theorem Magnitude.wellFormed_withExponent {whole fraction rest : List Char} {point : Bool}
    (areDigits : ∀ digit ∈ whole ++ fraction, digit.isDigit)
    (nonempty : whole ≠ [] ∨ (point = true ∧ fraction ≠ []))
    (pointed : point = false → fraction = []) :
    (withExponent whole point fraction rest).1.WellFormed := by
  unfold withExponent
  split
  · rename_i part remainder scanned
    refine ⟨areDigits, nonempty, pointed, ?_⟩
    intro written isWritten
    rw [← Option.some.inj isWritten]
    exact ExponentPart.wellFormed_of_scan? scanned
  · exact ⟨areDigits, nonempty, pointed, by simp⟩

theorem Magnitude.wellFormed_of_scan? {text rest : List Char} {magnitude : Magnitude}
    (scanned : Magnitude.scan? text = some (magnitude, rest)) :
    magnitude.WellFormed := by
  unfold Magnitude.scan? at scanned
  split at scanned
  · split at scanned
    · simp at scanned
    · rename_i fraction remainder nonempty fractionSplit
      have built := congrArg Prod.fst (Option.some.inj scanned)
      dsimp only at built
      rw [← built]
      exact wellFormed_withExponent (isDigit_of_splitDigits fractionSplit)
        (Or.inr ⟨rfl, nonempty⟩) (by simp)
  · unfold scanWord? at scanned
    obtain ⟨word, member, taken⟩ := List.exists_of_findSome?_eq_some scanned
    dsimp only at taken
    split at taken
    · rename_i spelled
      simp only [Option.some.injEq, Prod.mk.injEq] at taken
      obtain ⟨rfl, -⟩ := taken
      exact (spelled ▸ member : _ ∈ words)
    · simp at taken
  · rename_i digits afterPoint nonempty wholeSplit
    have built := congrArg Prod.fst (Option.some.inj scanned)
    dsimp only at built
    rw [← built]
    refine wellFormed_withExponent ?_ (Or.inl nonempty) (by simp)
    intro digit member
    rcases List.mem_append.1 member with inWhole | inFraction
    · exact isDigit_of_splitDigits wholeSplit digit inWhole
    · exact holds_of_mem_takeWhile inFraction
  · rename_i digits remainder _ nonempty _ wholeSplit
    have built := congrArg Prod.fst (Option.some.inj scanned)
    dsimp only at built
    rw [← built]
    refine wellFormed_withExponent ?_ (Or.inl nonempty) (by simp)
    rw [List.append_nil]
    exact isDigit_of_splitDigits wholeSplit

theorem Magnitude.isAlpha_of_mem_word {letters : List Char}
    (wellFormed : (Magnitude.word letters).WellFormed) :
    ∀ letter ∈ letters, letter.isAlpha = true := by
  intro letter member
  apply isAlpha_of_isAlpha_toLower
  have lowered : letter.toLower ∈ letters.map Char.toLower := List.mem_map_of_mem member
  have alphabetic : words.all (·.all Char.isAlpha) = true := by decide
  exact List.all_eq_true.1 (List.all_eq_true.1 alphabetic _ wellFormed) _ lowered

/-- A text that begins with a letter is looked through for words. -/
theorem Magnitude.scan?_of_isAlpha {letter : Char} (isLetter : letter.isAlpha = true)
    (rest : List Char) :
    Magnitude.scan? (letter :: rest) = scanWord? (letter :: rest) := by
  have noDigit := isDigit_eq_false_of_isAlpha isLetter
  have noPoint : letter ≠ '.' := by
    rintro rfl
    contradiction
  have split : splitDigits ([] ++ letter :: rest) = ([], letter :: rest) :=
    splitDigits_run (by simp) (beginsOutside_cons _ noDigit)
  rw [List.nil_append] at split
  rw [Magnitude.scan?, split]
  split
  · rename_i isPoint
    exact absurd (List.cons.inj (Prod.mk.inj isPoint).2).1 noPoint
  · rfl
  · simp_all
  · simp_all

/-- A magnitude has characters, and none of them is a sign in front. -/
theorem Magnitude.beginsOutside_sign {magnitude : Magnitude} (wellFormed : magnitude.WellFormed)
    (rest : List Char) :
    BeginsOutside isSignChar (magnitude.text ++ rest) := by
  cases magnitude with
  | digits whole point fraction exponent =>
      obtain ⟨areDigits, nonempty, -, -⟩ := wellFormed
      cases whole with
      | cons first others => exact beginsOutside_sign_of_isDigit _ (areDigits first (by simp))
      | nil =>
          cases point with
          | false => simp at nonempty
          | true => exact beginsOutside_cons _ (by decide)
  | word letters =>
      have alphabetic := isAlpha_of_mem_word wellFormed
      cases letters with
      | nil => simp [WellFormed, words] at wellFormed
      | cons letter others =>
          have isLetter := alphabetic letter List.mem_cons_self
          exact beginsOutside_cons _ (isSignChar_eq_false (Or.inr isLetter))

namespace Numeral

/-! ## Numerals -/

/-- What the scanner takes off is a numeral of the grammar. -/
theorem wellFormed_of_scan? {text rest : List Char} {numeral : Numeral}
    (scanned : scan? text = some (numeral, rest)) :
    numeral.WellFormed := by
  unfold scan? at scanned
  cases signSplit : splitSign text with
  | mk sign unsigned =>
      rw [signSplit] at scanned
      obtain ⟨⟨magnitude, remainder⟩, magnitudeScanned, built⟩ :=
        Option.map_eq_some_iff.1 scanned
      simp only [Prod.mk.injEq] at built
      obtain ⟨rfl, -⟩ := built
      exact ⟨isSign_of_splitSign signSplit, Magnitude.wellFormed_of_scan? magnitudeScanned⟩

theorem isNumeralChar_of_mem_text {numeral : Numeral} (wellFormed : numeral.WellFormed) :
    ∀ character ∈ numeral.text, isNumeralChar character = true := by
  obtain ⟨sign, magnitude⟩ := numeral
  obtain ⟨isSign, magnitudeFormed⟩ := wellFormed
  intro character member
  rcases List.mem_append.1 member with inSign | inMagnitude
  · rcases isSign character (Option.mem_toList.1 inSign) with rfl | rfl <;> rfl
  · cases magnitude with
    | word letters =>
        exact isNumeralChar_of_isAlpha
          (Magnitude.isAlpha_of_mem_word magnitudeFormed character inMagnitude)
    | digits whole point fraction exponent =>
        obtain ⟨areDigits, -, -, exponentFormed⟩ := magnitudeFormed
        simp only [Magnitude.text, List.mem_append] at inMagnitude
        rcases inMagnitude with ((inWhole | inPoint) | inFraction) | inExponent
        · exact isNumeralChar_of_isDigit (areDigits character (by simp [inWhole]))
        · cases point with
          | false => simp at inPoint
          | true => simp_all [isNumeralChar]
        · exact isNumeralChar_of_isDigit (areDigits character (by simp [inFraction]))
        · cases exponent with
          | none => simp at inExponent
          | some part =>
              obtain ⟨isMarker, isExponentSign, -, exponentDigits⟩ := exponentFormed part rfl
              simp only [Option.map_some, Option.getD_some, ExponentPart.text,
                List.mem_cons, List.mem_append] at inExponent
              rcases inExponent with rfl | inExponentSign | inDigits
              · rcases isMarker with marker | marker <;> rw [marker] <;> rfl
              · rcases isExponentSign character (Option.mem_toList.1 inExponentSign)
                  with rfl | rfl <;> rfl
              · exact isNumeralChar_of_isDigit (exponentDigits character inDigits)

end Numeral

end ConstantCatalog
