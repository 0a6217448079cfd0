import ConstantCatalog.Constant.Scalar
import ConstantCatalog.Proofs.Number.OrderedMatch

/-!
Contract: which texts are read as integers and as floats, and which of them cannot be
converted.

Both readers recognise a text by its spelling before they convert it. A decimal text
is recognised whatever its length, and a word numeral is recognised without regard to
case, where a dotted capital I and a dotless small I are letters i as well. The texts
that are recognised and not converted are exactly the decimals with too many digits and
the word numerals with one of these two letters. What is recognised as a float is what the
pattern of floats has as a word, and what is converted of it what that of numerals has.

Owns: the spellings of integers, `UnreadableWord`, and the texts on which each reader
succeeds, fails and passes over.

Does not own: the values of numerals.
-/

namespace ConstantCatalog

/-! ## Integers -/

/-- A text is taken for a decimal exactly when it is digits behind an optional sign. -/
theorem signedDigits?_eq_some_iff {text digits : List Char} {sign : Option Char} :
    signedDigits? text = some (sign, digits) ↔
      text = sign.toList ++ digits ∧
        (∀ written, sign = some written → written = '+' ∨ written = '-') ∧
        digits ≠ [] ∧ ∀ digit ∈ digits, digit.isDigit = true := by
  constructor
  · intro found
    unfold signedDigits? at found
    have whole := splitSign_append text
    cases signSplit : splitSign text with
    | mk written unsigned =>
        rw [signSplit] at found whole
        dsimp only at found whole
        split at found
        · rename_i numeric
          obtain ⟨rfl, rfl⟩ := Prod.mk.inj (Option.some.inj found)
          rw [Bool.and_eq_true] at numeric
          refine ⟨whole.symm, isSign_of_splitSign signSplit, ?_, ?_⟩
          · simpa using numeric.1
          · exact List.all_eq_true.1 numeric.2
        · contradiction
  · rintro ⟨rfl, isSign, nonempty, areDigits⟩
    have unsigned : BeginsOutside isSignChar digits := by
      cases digits with
      | nil => exact beginsOutside_nil
      | cons first others =>
          exact beginsOutside_sign_of_isDigit others (areDigits first List.mem_cons_self)
    have signSplit := splitSign_toList_append isSign unsigned
    have numeric : (!digits.isEmpty && digits.all Char.isDigit) = true := by
      rw [Bool.and_eq_true]
      refine ⟨by simpa using nonempty, List.all_eq_true.2 areDigits⟩
    rw [signedDigits?, signSplit]
    exact if_pos numeric

theorem prefixedHexDigits?_eq_some_iff {text digits : List Char} :
    prefixedHexDigits? text = some digits ↔
      text = '0' :: 'x' :: digits ∧ digits ≠ [] ∧
        ∀ digit ∈ digits, isHexDigit digit = true := by
  constructor
  · intro found
    unfold prefixedHexDigits? at found
    split at found
    · rename_i written
      split at found
      · rename_i hexadecimal
        obtain rfl := Option.some.inj found
        rw [Bool.and_eq_true] at hexadecimal
        exact ⟨rfl, by simpa using hexadecimal.1, List.all_eq_true.1 hexadecimal.2⟩
      · contradiction
    · contradiction
  · rintro ⟨rfl, nonempty, areHex⟩
    have hexadecimal : (!digits.isEmpty && digits.all isHexDigit) = true := by
      rw [Bool.and_eq_true]
      exact ⟨by simpa using nonempty, List.all_eq_true.2 areHex⟩
    exact if_pos hexadecimal

private theorem isNumeralChar_of_isHexDigit {character : Char}
    (hexadecimal : isHexDigit character = true) :
    isNumeralChar character = true := by
  have classes : character.isDigit = true ∨
      (97 ≤ character.toNat ∧ character.toNat ≤ 102) ∨
      (65 ≤ character.toNat ∧ character.toNat ≤ 70) := by
    simpa [isHexDigit, or_assoc] using hexadecimal
  rcases classes with digit | letter
  · exact isNumeralChar_of_isDigit digit
  · apply isNumeralChar_of_isAlpha
    apply isAlpha_iff_toNat.2
    omega

/-- A text with a character that no numeral is written with is no integer. -/
theorem readInteger_eq_none_of_mem {text : List Char} {character : Char} (member : character ∈ text)
    (foreign : isNumeralChar character = false) :
    readInteger text = .ok none := by
  have noDecimal : signedDigits? text = none := by
    rw [Option.eq_none_iff_forall_ne_some]
    rintro ⟨sign, digits⟩ found
    obtain ⟨rfl, isSign, -, areDigits⟩ := signedDigits?_eq_some_iff.1 found
    have written : isNumeralChar character = true := by
      rcases List.mem_append.1 member with inSign | inDigits
      · rcases isSign character (Option.mem_toList.1 inSign) with rfl | rfl <;> rfl
      · exact isNumeralChar_of_isDigit (areDigits character inDigits)
    rw [foreign] at written
    contradiction
  have noHexadecimal : prefixedHexDigits? text = none := by
    rw [Option.eq_none_iff_forall_ne_some]
    intro digits found
    obtain ⟨rfl, -, areHex⟩ := prefixedHexDigits?_eq_some_iff.1 found
    have written : isNumeralChar character = true := by
      rcases List.mem_cons.1 member with rfl | inRest
      · rfl
      · rcases List.mem_cons.1 inRest with rfl | inDigits
        · rfl
        · exact isNumeralChar_of_isHexDigit (areHex character inDigits)
    rw [foreign] at written
    contradiction
  rw [readInteger, noDecimal, noHexadecimal]
  rfl

/-- A decimal text is converted if it does not have too many digits. -/
theorem readInteger_decimal {sign : Option Char} {digits : List Char}
    (isSign : ∀ written, sign = some written → written = '+' ∨ written = '-')
    (nonempty : digits ≠ []) (areDigits : ∀ digit ∈ digits, digit.isDigit = true)
    (few : digits.length ≤ maxIntegerDigits) :
    readInteger (sign.toList ++ digits) = .ok (fitting32? (signedValue sign digits)) := by
  have found : signedDigits? (sign.toList ++ digits) = some (sign, digits) :=
    signedDigits?_eq_some_iff.2 ⟨rfl, isSign, nonempty, areDigits⟩
  rw [readInteger, found]
  exact if_neg (by omega)

theorem readInteger_hexadecimal {digits : List Char} (nonempty : digits ≠ [])
    (areHex : ∀ digit ∈ digits, isHexDigit digit = true) :
    readInteger ('0' :: 'x' :: digits) = .ok (fitting32? (hexDigitsValue digits : Int)) := by
  have noDecimal : signedDigits? ('0' :: 'x' :: digits) = none := rfl
  have found : prefixedHexDigits? ('0' :: 'x' :: digits) = some digits :=
    prefixedHexDigits?_eq_some_iff.2 ⟨rfl, nonempty, areHex⟩
  rw [readInteger, noDecimal, found]
  rfl

theorem readInteger_eq_error_iff {text : List Char} {fault : ConversionFault} :
    readInteger text = .error fault ↔
      ∃ sign digits, signedDigits? text = some (sign, digits) ∧
        maxIntegerDigits < digits.length ∧ fault = .tooManyDigits digits.length := by
  unfold readInteger
  constructor
  · intro refused
    split at refused
    · rename_i sign digits found
      split at refused
      · rename_i tooMany
        exact ⟨sign, digits, found, tooMany, (Except.error.inj refused).symm⟩
      · contradiction
    · contradiction
  · rintro ⟨sign, digits, found, tooMany, rfl⟩
    rw [found]
    exact if_pos tooMany

/-! ## Floats -/

/-- A text is read as a float exactly when it is the text of a numeral. -/
theorem readFloat_eq_some_iff {text : List Char} {value : Number} :
    readFloat text = .ok (some value) ↔
      ∃ numeral : Numeral, numeral.WellFormed ∧ numeral.text = text ∧
        numeral.toSingle = value := by
  constructor
  · intro isRead
    unfold readFloat at isRead
    split at isRead
    · rename_i numeral found
      obtain ⟨wellFormed, written⟩ := Numeral.read?_eq_some_iff.1 found
      exact ⟨numeral, wellFormed, written, Option.some.inj (Except.ok.inj isRead)⟩
    · split at isRead <;> simp at isRead
  · rintro ⟨numeral, wellFormed, written, rfl⟩
    have found := Numeral.read?_eq_some_iff.2 ⟨wellFormed, written⟩
    rw [readFloat, found]

/-- A text with a character that no numeral is written with is no float, unless the
character is one of the two letters that are taken for an i. -/
theorem readFloat_eq_none_of_mem {text : List Char} {character : Char} (member : character ∈ text)
    (foreign : isNumeralChar character = false)
    (plainForeign : isNumeralChar (plainLetterI character) = false) :
    readFloat text = .ok none := by
  have unread : ∀ written : List Char, ∀ other ∈ written, isNumeralChar other = false →
      Numeral.read? written = none := by
    intro written other inside outside
    rw [Option.eq_none_iff_forall_ne_some]
    intro numeral found
    obtain ⟨wellFormed, rfl⟩ := Numeral.read?_eq_some_iff.1 found
    rw [Numeral.isNumeralChar_of_mem_text wellFormed other inside] at outside
    contradiction
  have plainMember := List.mem_map_of_mem (f := plainLetterI) member
  rw [readFloat, unread text character member foreign]
  simp only [unread _ _ plainMember plainForeign, Option.isSome_none, Bool.false_eq_true,
    if_false]

/-- A letter I that is an i only without regard to case, and only beyond ASCII. -/
def IsForeignI (character : Char) : Prop :=
  character = '\u0130' ∨ character = '\u0131'

/-- A word numeral with an optional sign that holds a letter I beyond ASCII. -/
def UnreadableWord (text : List Char) : Prop :=
  ∃ (sign : Option Char) (letters : List Char),
    text = sign.toList ++ letters ∧
      (∀ written, sign = some written → written = '+' ∨ written = '-') ∧
      (letters.map plainLetterI).map Char.toLower ∈ Magnitude.words ∧
      ∃ letter ∈ letters, IsForeignI letter

private theorem plainLetterI_eq_self {character : Char} (plain : ¬IsForeignI character) :
    plainLetterI character = character :=
  if_neg plain

private theorem plainLetterI_of_isForeignI {character : Char} (isForeignI : IsForeignI character) :
    plainLetterI character = 'i' :=
  if_pos isForeignI

private theorem map_plainLetterI_eq_self {text : List Char}
    (plain : ∀ character ∈ text, ¬IsForeignI character) :
    text.map plainLetterI = text := by
  have unchanged : ∀ character ∈ text, plainLetterI character = id character :=
    fun character member => plainLetterI_eq_self (plain character member)
  rw [List.map_congr_left unchanged, List.map_id]

private theorem isNumeralChar_of_isForeignI {character : Char} (isForeignI : IsForeignI character) :
    isNumeralChar character = false := by
  rcases isForeignI with rfl | rfl <;> decide

/-- A text that is a sign after the two letters are taken for an i is that sign. -/
private theorem eq_sign_of_map_plainLetterI {sign : Option Char}
    (isSign : ∀ written, sign = some written → written = '+' ∨ written = '-') {text : List Char}
    (mapped : text.map plainLetterI = sign.toList) :
    text = sign.toList := by
  have plain : ∀ character ∈ text, ¬IsForeignI character := by
    intro character member isForeignI
    have inSign := List.mem_map_of_mem (f := plainLetterI) member
    rw [mapped, plainLetterI_of_isForeignI isForeignI] at inSign
    rcases isSign 'i' (Option.mem_toList.1 inSign) with wrong | wrong <;> contradiction
  rw [← mapped, map_plainLetterI_eq_self plain]

/-- No numeral in digits has an i in it. -/
private theorem Magnitude.i_notMem_digits {whole fraction : List Char} {point : Bool}
    {exponent : Option ExponentPart}
    (wellFormed : (Magnitude.digits whole point fraction exponent).WellFormed) :
    'i' ∉ (Magnitude.digits whole point fraction exponent).text := by
  obtain ⟨areDigits, -, -, exponentFormed⟩ := wellFormed
  have noDigit : ¬('i'.isDigit = true) := by decide
  intro member
  simp only [Magnitude.text, List.mem_append] at member
  rcases member with ((inWhole | inPoint) | inFraction) | inExponent
  · exact noDigit (areDigits 'i' (List.mem_append_left _ inWhole))
  · cases point with
    | false => simp at inPoint
    | true => simp at inPoint
  · exact noDigit (areDigits 'i' (List.mem_append_right _ inFraction))
  · cases exponent with
    | none => simp at inExponent
    | some part =>
        obtain ⟨isMarker, isSign, -, exponentDigits⟩ := exponentFormed part rfl
        simp only [Option.map_some, Option.getD_some, ExponentPart.text, List.mem_cons,
          List.mem_append] at inExponent
        rcases inExponent with marker | inSign | inDigits
        · rw [← marker] at isMarker
          simp at isMarker
        · have sign := isSign 'i' (Option.mem_toList.1 inSign)
          simp at sign
        · exact noDigit (exponentDigits 'i' inDigits)

/-- A text that becomes a numeral, and was none before, is an unreadable word. -/
private theorem unreadableWord_of_read? {text : List Char} {numeral : Numeral}
    (unread : Numeral.read? text = none)
    (plainRead : Numeral.read? (text.map plainLetterI) = some numeral) :
    UnreadableWord text := by
  have present : ∃ letter ∈ text, IsForeignI letter := by
    apply Classical.byContradiction
    intro absent
    have plain : ∀ character ∈ text, ¬IsForeignI character :=
      fun character member isForeignI => absent ⟨character, member, isForeignI⟩
    rw [map_plainLetterI_eq_self plain, unread] at plainRead
    contradiction
  obtain ⟨letter, member, isForeignI⟩ := present
  obtain ⟨sign, magnitude⟩ := numeral
  obtain ⟨⟨isSign, magnitudeFormed⟩, written⟩ := Numeral.read?_eq_some_iff.1 plainRead
  obtain ⟨front, letters, rfl, frontMapped, lettersMapped⟩ :=
    List.map_eq_append_iff.1 written.symm
  have frontIsSign := eq_sign_of_map_plainLetterI isSign frontMapped
  have inLetters : letter ∈ letters := by
    rcases List.mem_append.1 member with inFront | inside
    · rw [frontIsSign] at inFront
      rcases isSign letter (Option.mem_toList.1 inFront) with rfl | rfl
      · exact absurd isForeignI (by unfold IsForeignI; decide)
      · exact absurd isForeignI (by unfold IsForeignI; decide)
    · exact inside
  cases magnitude with
  | digits whole point fraction exponent =>
      have isI := List.mem_map_of_mem (f := plainLetterI) inLetters
      rw [lettersMapped, plainLetterI_of_isForeignI isForeignI] at isI
      exact absurd isI (Magnitude.i_notMem_digits magnitudeFormed)
  | word spelled =>
      change letters.map plainLetterI = spelled at lettersMapped
      refine ⟨sign, letters, by rw [frontIsSign], isSign, ?_, letter, inLetters, isForeignI⟩
      rw [lettersMapped]
      exact magnitudeFormed

/-- A text is recognised as a float and not converted exactly when it is an unreadable
word. -/
theorem readFloat_eq_error_iff {text : List Char} {fault : ConversionFault} :
    readFloat text = .error fault ↔
      UnreadableWord text ∧ fault = .unreadableFloat (String.ofList text) := by
  constructor
  · intro refused
    unfold readFloat at refused
    split at refused
    · contradiction
    · rename_i unread
      split at refused
      · rename_i plainRead
        obtain ⟨numeral, found⟩ := Option.isSome_iff_exists.1 plainRead
        exact ⟨unreadableWord_of_read? unread found, (Except.error.inj refused).symm⟩
      · contradiction
  · rintro ⟨⟨sign, letters, rfl, isSign, spelled, letter, member, isForeignI⟩, rfl⟩
    have unread : Numeral.read? (sign.toList ++ letters) = none := by
      rw [Option.eq_none_iff_forall_ne_some]
      intro numeral found
      obtain ⟨wellFormed, written⟩ := Numeral.read?_eq_some_iff.1 found
      have inside : letter ∈ numeral.text := by
        rw [written]
        exact List.mem_append_right _ member
      have isWritten := Numeral.isNumeralChar_of_mem_text wellFormed letter inside
      rw [isNumeralChar_of_isForeignI isForeignI] at isWritten
      contradiction
    have signUnchanged : sign.toList.map plainLetterI = sign.toList := by
      cases sign with
      | none => rfl
      | some written => rcases isSign written rfl with rfl | rfl <;> rfl
    have plainRead : Numeral.read? ((sign.toList ++ letters).map plainLetterI) =
        some ⟨sign, .word (letters.map plainLetterI)⟩ := by
      apply Numeral.read?_eq_some_iff.2
      refine ⟨⟨isSign, spelled⟩, ?_⟩
      rw [List.map_append, signUnchanged]
      rfl
    rw [readFloat, unread]
    simp only [plainRead, Option.isSome_some, if_true]

/-! ## Floats as a pattern -/

/-- A test that takes the two letters for an i does not notice that they are made one. -/
private theorem test_plainLetterI {holds : Char → Bool}
    (asI : ∀ character, IsForeignI character → holds character = holds 'i') (character : Char) :
    holds (plainLetterI character) = holds character := by
  by_cases isForeignI : IsForeignI character
  · rw [plainLetterI_of_isForeignI isForeignI, asI character isForeignI]
  · rw [plainLetterI_eq_self isForeignI]

/-- Comparing without regard to case is comparing in either case once the two letters are
made an i. -/
private theorem inEitherCase_plainLetterI {letter : Char} (plain : ¬IsForeignI letter)
    (character : Char) :
    Pattern.inEitherCase letter (plainLetterI character) =
      Pattern.withoutCase letter character := by
  unfold Pattern.inEitherCase Pattern.withoutCase
  by_cases isForeignI : IsForeignI character
  · have other : character.toLower ≠ letter := by
      rintro rfl
      rcases isForeignI with rfl | rfl
      · exact plain (by unfold IsForeignI; decide)
      · exact plain (by unfold IsForeignI; decide)
    have isI : (character == '\u0130' || character == '\u0131') = true := by
      simpa [IsForeignI] using isForeignI
    rw [plainLetterI_of_isForeignI isForeignI, isI, beq_eq_false_iff_ne.2 other,
      Bool.false_or, Bool.and_true]
    exact BEq.comm
  · have notI : (character == '\u0130' || character == '\u0131') = false := by
      simpa [IsForeignI] using isForeignI
    rw [plainLetterI_eq_self isForeignI, notI, Bool.and_false, Bool.or_false]

private theorem through_letters {word : List Char} (plain : ∀ letter ∈ word, ¬IsForeignI letter) :
    (Pattern.letters Pattern.inEitherCase word).through plainLetterI =
      Pattern.letters Pattern.withoutCase word := by
  induction word with
  | nil => rfl
  | cons letter others inductionHypothesis =>
      obtain ⟨plainLetter, plainOthers⟩ := List.forall_mem_cons.1 plain
      rw [Pattern.letters, Pattern.letters, Pattern.through, Pattern.through,
        inductionHypothesis plainOthers]
      simp only [inEitherCase_plainLetterI plainLetter]

/-- Numerals that are read with the two letters made an i are floats. -/
private theorem through_numeral : Pattern.numeral.through plainLetterI = Pattern.float := by
  have isSign := @test_plainLetterI isSignChar (by rintro _ (rfl | rfl) <;> decide)
  have isDigit := @test_plainLetterI Char.isDigit (by rintro _ (rfl | rfl) <;> decide)
  have isPoint := @test_plainLetterI (· == '.') (by rintro _ (rfl | rfl) <;> decide)
  have isMarker := @test_plainLetterI (fun character => character == 'e' || character == 'E')
    (by rintro _ (rfl | rfl) <;> decide)
  have plain : ∀ word ∈ ["inf".toList, "inity".toList, "nan".toList],
      ∀ letter ∈ word, ¬IsForeignI letter := by
    unfold IsForeignI
    simp
  have inf := through_letters (plain "inf".toList (by simp))
  have inity := through_letters (plain "inity".toList (by simp))
  have nan := through_letters (plain "nan".toList (by simp))
  simp only [Pattern.numeral, Pattern.float, Pattern.sign, Pattern.decimal, Pattern.wholeDigits,
    Pattern.digits, Pattern.point, Pattern.exponent, Pattern.words, Pattern.optional,
    Pattern.through, isSign, isDigit, isPoint, isMarker, inf, inity, nan]

/-- A text is recognised as a float exactly when it is a word of the pattern of floats. -/
theorem readFloat_eq_none_iff {text : List Char} :
    readFloat text = .ok none ↔ ¬Pattern.float.Matches text := by
  have isWord : Pattern.float.Matches text ↔
      (Numeral.read? (text.map plainLetterI)).isSome = true := by
    rw [← through_numeral, Pattern.matches_through_iff, Pattern.matches_numeral_iff,
      Option.isSome_iff_exists]
    simp only [Numeral.read?_eq_some_iff]
  rw [isWord]
  unfold readFloat
  cases found : Numeral.read? text with
  | some numeral =>
      obtain ⟨wellFormed, written⟩ := Numeral.read?_eq_some_iff.1 found
      have plain : ∀ character ∈ text, ¬IsForeignI character := by
        intro character member isForeignI
        rw [← written] at member
        have isWritten := Numeral.isNumeralChar_of_mem_text wellFormed character member
        rw [isNumeralChar_of_isForeignI isForeignI] at isWritten
        contradiction
      rw [map_plainLetterI_eq_self plain, found]
      simp
  | none => simp

/-- Of what is recognised, the words of the pattern of numerals have values, and nothing
else has. -/
theorem exists_readFloat_eq_some_iff {text : List Char} :
    (∃ value, readFloat text = .ok (some value)) ↔ Pattern.numeral.Matches text := by
  rw [Pattern.matches_numeral_iff]
  constructor
  · rintro ⟨value, isRead⟩
    obtain ⟨numeral, wellFormed, isText, -⟩ := readFloat_eq_some_iff.1 isRead
    exact ⟨numeral, wellFormed, isText⟩
  · rintro ⟨numeral, wellFormed, isText⟩
    exact ⟨numeral.toSingle, readFloat_eq_some_iff.2 ⟨numeral, wellFormed, isText, rfl⟩⟩

end ConstantCatalog
