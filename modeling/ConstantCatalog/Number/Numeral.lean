import ConstantCatalog.Number.Decimal

/-!
Contract: numerals as declaration files spell them.

A numeral is an optional sign before either digits (with an optional point, a
fraction and an exponent) or one of the words `inf`, `infinity` and `nan` in any
letter case. `Numeral.scan?` takes the longest numeral that a text begins with;
`Numeral.read?` accepts a text that is a numeral as a whole.

Owns: the parts of a numeral, its text, its value, its grammar and the scanner.

Does not own: the rounding to single precision, or what a declaration does with
a text that is no numeral.
-/

namespace ConstantCatalog

def digitsValue (digits : List Char) : Nat :=
  digits.foldl (fun value digit => 10 * value + (digit.toNat - '0'.toNat)) 0

/-- An optional leading `+` or `-`, and the text after it. -/
def splitSign : List Char → Option Char × List Char
  | '+' :: rest => (some '+', rest)
  | '-' :: rest => (some '-', rest)
  | text => (none, text)

/-- The run of ASCII digits that a text begins with, and the text after it. -/
def splitDigits (text : List Char) : List Char × List Char :=
  (text.takeWhile Char.isDigit, text.dropWhile Char.isDigit)

/-- The exponent of a numeral: `e` or `E`, an optional sign, digits. -/
structure ExponentPart where
  marker : Char
  sign : Option Char
  digits : List Char
deriving DecidableEq, Repr

namespace ExponentPart

def text (part : ExponentPart) : List Char :=
  part.marker :: (part.sign.toList ++ part.digits)

def value (part : ExponentPart) : Int :=
  if part.sign = some '-' then -(digitsValue part.digits : Int)
  else (digitsValue part.digits : Int)

/-- An exponent that a text begins with. A marker without digits after it is
none. -/
def scan? : List Char → Option (ExponentPart × List Char)
  | [] => none
  | marker :: rest =>
      if marker = 'e' ∨ marker = 'E' then
        let (sign, unsigned) := splitSign rest
        match splitDigits unsigned with
        | ([], _) => none
        | (digits, remainder) => some (⟨marker, sign, digits⟩, remainder)
      else none

end ExponentPart

/-- A numeral without its sign. -/
inductive Magnitude where
  | digits (whole : List Char) (point : Bool) (fraction : List Char)
      (exponent : Option ExponentPart)
  | word (letters : List Char)
deriving DecidableEq, Repr

namespace Magnitude

/-- The words that name a value without digits. Where two of them fit, the
longer one stands first. -/
def words : List (List Char) :=
  ["infinity".toList, "inf".toList, "nan".toList]

def text : Magnitude → List Char
  | .digits whole point fraction exponent =>
      whole ++ (if point then ['.'] else []) ++ fraction ++
        (exponent.map ExponentPart.text).getD []
  | .word letters => letters

def decimal (whole fraction : List Char) (exponent : Option ExponentPart) : Decimal where
  coefficient := digitsValue (whole ++ fraction)
  exponent := (exponent.map ExponentPart.value).getD 0 - fraction.length

def toNumber (negative : Bool) : Magnitude → Number
  | .digits whole _ fraction exponent =>
      (decimal whole fraction exponent).toNumber negative
  | .word letters =>
      if letters.map Char.toLower = "nan".toList then .nan else .infinite negative

/-- The magnitudes that the grammar admits. -/
def WellFormed : Magnitude → Prop
  | .digits whole point fraction exponent =>
      (∀ digit ∈ whole ++ fraction, digit.isDigit) ∧
      (whole ≠ [] ∨ (point = true ∧ fraction ≠ [])) ∧
      (point = false → fraction = []) ∧
      ∀ part, exponent = some part →
        (part.marker = 'e' ∨ part.marker = 'E') ∧
        (∀ sign, part.sign = some sign → sign = '+' ∨ sign = '-') ∧
        part.digits ≠ [] ∧ ∀ digit ∈ part.digits, digit.isDigit
  | .word letters => letters.map Char.toLower ∈ words

def scanWord? (text : List Char) : Option (Magnitude × List Char) :=
  words.findSome? fun word =>
    let letters := text.take word.length
    if letters.map Char.toLower = word then
      some (.word letters, text.drop word.length)
    else none

/-- Completes digits already taken by the exponent that follows them, if any. -/
def withExponent (whole : List Char) (point : Bool)
    (fraction rest : List Char) : Magnitude × List Char :=
  match ExponentPart.scan? rest with
  | some (part, remainder) => (.digits whole point fraction (some part), remainder)
  | none => (.digits whole point fraction none, rest)

def scan? (text : List Char) : Option (Magnitude × List Char) :=
  match splitDigits text with
  | ([], '.' :: afterPoint) =>
      match splitDigits afterPoint with
      | ([], _) => none
      | (fraction, rest) => some (withExponent [] true fraction rest)
  | ([], _) => scanWord? text
  | (whole, '.' :: afterPoint) =>
      let (fraction, rest) := splitDigits afterPoint
      some (withExponent whole true fraction rest)
  | (whole, rest) => some (withExponent whole false [] rest)

end Magnitude

structure Numeral where
  sign : Option Char
  magnitude : Magnitude
deriving DecidableEq, Repr

namespace Numeral

def text (numeral : Numeral) : List Char :=
  numeral.sign.toList ++ numeral.magnitude.text

def WellFormed (numeral : Numeral) : Prop :=
  (∀ sign, numeral.sign = some sign → sign = '+' ∨ sign = '-') ∧
  numeral.magnitude.WellFormed

def toNumber (numeral : Numeral) : Number :=
  numeral.magnitude.toNumber (decide (numeral.sign = some '-'))

/-- The value of a numeral as constants store it: rounded to double precision
first and from there to single precision. -/
def toSingle (numeral : Numeral) : Number :=
  numeral.toNumber.toSingle

/-- The longest numeral that a text begins with, and the text after it. -/
def scan? (text : List Char) : Option (Numeral × List Char) :=
  let (sign, unsigned) := splitSign text
  (Magnitude.scan? unsigned).map fun (magnitude, rest) => (⟨sign, magnitude⟩, rest)

/-- The numeral that a text is as a whole. -/
def read? (text : List Char) : Option Numeral :=
  match scan? text with
  | some (numeral, []) => some numeral
  | _ => none

end Numeral

/-! ## What the scanner takes off is what the text begins with -/

theorem splitSign_append (text : List Char) :
    (splitSign text).1.toList ++ (splitSign text).2 = text := by
  unfold splitSign
  split <;> simp

theorem splitDigits_append (text : List Char) :
    (splitDigits text).1 ++ (splitDigits text).2 = text :=
  List.takeWhile_append_dropWhile

theorem splitDigits_append_of_eq {text digits rest : List Char}
    (split : splitDigits text = (digits, rest)) :
    digits ++ rest = text := by
  have whole := splitDigits_append text
  rwa [split] at whole

theorem ExponentPart.text_append_of_scan? {text rest : List Char} {part : ExponentPart}
    (scanned : ExponentPart.scan? text = some (part, rest)) :
    part.text ++ rest = text := by
  unfold ExponentPart.scan? at scanned
  split at scanned
  · simp at scanned
  · rename_i marker afterMarker
    split at scanned
    · have signed := splitSign_append afterMarker
      cases signSplit : splitSign afterMarker with
      | mk sign unsigned =>
          rw [signSplit] at scanned signed
          dsimp only at scanned signed
          split at scanned
          · simp at scanned
          · rename_i digits remainder _ digitSplit
            simp only [Option.some.injEq, Prod.mk.injEq] at scanned
            obtain ⟨partEq, restEq⟩ := scanned
            subst partEq restEq
            simp only [ExponentPart.text, List.cons_append, List.append_assoc]
            rw [splitDigits_append_of_eq digitSplit, signed]
    · simp at scanned

private theorem Magnitude.text_append_withExponent (whole fraction rest : List Char)
    (point : Bool) :
    (withExponent whole point fraction rest).1.text ++
        (withExponent whole point fraction rest).2 =
      whole ++ (if point then ['.'] else []) ++ fraction ++ rest := by
  unfold withExponent
  split
  · rename_i part remainder scanned
    have law := ExponentPart.text_append_of_scan? scanned
    simp [Magnitude.text, law]
  · simp [Magnitude.text]

private theorem Magnitude.text_append_of_scanWord? {text rest : List Char} {magnitude : Magnitude}
    (scanned : Magnitude.scanWord? text = some (magnitude, rest)) :
    magnitude.text ++ rest = text := by
  unfold Magnitude.scanWord? at scanned
  obtain ⟨word, _, taken⟩ := List.exists_of_findSome?_eq_some scanned
  dsimp only at taken
  split at taken
  · simp only [Option.some.injEq, Prod.mk.injEq] at taken
    obtain ⟨magnitudeEq, restEq⟩ := taken
    subst magnitudeEq restEq
    exact List.take_append_drop _ _
  · simp at taken

theorem Magnitude.text_append_of_scan? {text rest : List Char} {magnitude : Magnitude}
    (scanned : Magnitude.scan? text = some (magnitude, rest)) :
    magnitude.text ++ rest = text := by
  unfold Magnitude.scan? at scanned
  split at scanned
  · rename_i afterPoint noWhole
    have whole := splitDigits_append_of_eq noWhole
    split at scanned
    · simp at scanned
    · rename_i fraction remainder _ fractionSplit
      have law := Magnitude.text_append_withExponent [] fraction remainder true
      rw [Option.some.inj scanned] at law
      dsimp only at law
      rw [law, ← whole]
      simp [splitDigits_append_of_eq fractionSplit]
  · exact Magnitude.text_append_of_scanWord? scanned
  · rename_i digits afterPoint _ wholeSplit
    have whole := splitDigits_append_of_eq wholeSplit
    cases fractionSplit : splitDigits afterPoint with
    | mk fraction remainder =>
        rw [fractionSplit] at scanned
        have law := Magnitude.text_append_withExponent digits fraction remainder true
        rw [Option.some.inj scanned] at law
        dsimp only at law
        rw [law, ← whole]
        simp [splitDigits_append_of_eq fractionSplit]
  · rename_i digits remainder _ _ _ wholeSplit
    have whole := splitDigits_append_of_eq wholeSplit
    have law := Magnitude.text_append_withExponent digits [] remainder false
    rw [Option.some.inj scanned] at law
    dsimp only at law
    rw [law, ← whole]
    simp

/-- A numeral that is scanned stands, as written, at the head of the text. -/
theorem Numeral.text_append_of_scan? {text rest : List Char} {numeral : Numeral}
    (scanned : Numeral.scan? text = some (numeral, rest)) :
    numeral.text ++ rest = text := by
  unfold Numeral.scan? at scanned
  have signed := splitSign_append text
  cases signSplit : splitSign text with
  | mk sign unsigned =>
      rw [signSplit] at scanned signed
      dsimp only at scanned signed
      obtain ⟨⟨magnitude, remainder⟩, magnitudeScanned, built⟩ :=
        Option.map_eq_some_iff.1 scanned
      simp only [Prod.mk.injEq] at built
      obtain ⟨numeralEq, restEq⟩ := built
      subst numeralEq restEq
      simp only [Numeral.text, List.append_assoc]
      rw [Magnitude.text_append_of_scan? magnitudeScanned, signed]

/-! ## A scanned numeral is not empty -/

private theorem Magnitude.withExponent_text_ne_nil (whole fraction rest : List Char) (point : Bool)
    (nonempty : whole ≠ [] ∨ point = true) :
    (withExponent whole point fraction rest).1.text ≠ [] := by
  unfold withExponent
  split <;> rcases nonempty with present | present <;>
    simp [Magnitude.text, present]

private theorem Magnitude.text_ne_nil_of_scanWord? {text rest : List Char} {magnitude : Magnitude}
    (scanned : Magnitude.scanWord? text = some (magnitude, rest)) :
    magnitude.text ≠ [] := by
  unfold Magnitude.scanWord? at scanned
  obtain ⟨word, wordMember, taken⟩ := List.exists_of_findSome?_eq_some scanned
  dsimp only at taken
  split at taken
  · rename_i spelled
    simp only [Option.some.injEq, Prod.mk.injEq] at taken
    rw [← taken.1]
    intro empty
    simp only [Magnitude.text] at empty
    rw [empty] at spelled
    rw [← spelled] at wordMember
    simp [Magnitude.words] at wordMember
  · simp at taken

private theorem Magnitude.text_ne_nil_of_scan? {text rest : List Char} {magnitude : Magnitude}
    (scanned : Magnitude.scan? text = some (magnitude, rest)) :
    magnitude.text ≠ [] := by
  unfold Magnitude.scan? at scanned
  split at scanned
  · split at scanned
    · simp at scanned
    · rename_i fraction remainder _ _
      have present := Magnitude.withExponent_text_ne_nil [] fraction remainder true (Or.inr rfl)
      rwa [Option.some.inj scanned] at present
  · exact Magnitude.text_ne_nil_of_scanWord? scanned
  · rename_i digits afterPoint _ _
    have present := Magnitude.withExponent_text_ne_nil digits
      (afterPoint.takeWhile Char.isDigit) (afterPoint.dropWhile Char.isDigit) true
      (Or.inr rfl)
    rwa [Option.some.inj scanned] at present
  · rename_i digits remainder _ empty _ _
    have present := Magnitude.withExponent_text_ne_nil digits [] remainder false
      (Or.inl empty)
    rwa [Option.some.inj scanned] at present

/-- What follows a scanned numeral is shorter than the text. -/
theorem Numeral.length_lt_of_scan? {text rest : List Char} {numeral : Numeral}
    (scanned : Numeral.scan? text = some (numeral, rest)) :
    rest.length < text.length := by
  have law := congrArg List.length (Numeral.text_append_of_scan? scanned)
  have present : numeral.magnitude.text ≠ [] := by
    unfold Numeral.scan? at scanned
    obtain ⟨⟨magnitude, remainder⟩, magnitudeScanned, built⟩ :=
      Option.map_eq_some_iff.1 scanned
    simp only [Prod.mk.injEq] at built
    rw [← built.1]
    exact Magnitude.text_ne_nil_of_scan? magnitudeScanned
  have positive := List.length_pos_iff.2 present
  simp only [Numeral.text, List.length_append] at law
  omega

end ConstantCatalog
