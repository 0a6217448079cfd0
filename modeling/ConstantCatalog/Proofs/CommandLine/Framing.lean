import ConstantCatalog.CommandLine.Display
import ConstantCatalog.Overlay.DeclaredType
import ConstantCatalog.Proofs.Number.Numeral

/-!
Contract: texts that can stand in one field of a line.

Reports put tabs between the fields of a line and end it with a line feed. What is shown
of a value has neither: numbers are written with the characters of numerals, and texts
are quoted, with tabs and line breaks written by letter. So a line of a report is one
line, and has the fields that it was made of.

Owns: `WrittenWith`, `IsField`, and that numbers, texts, constants and globals are shown
as fields.

Does not own: the layout of the lines.
-/

namespace ConstantCatalog

/-! ## Characters of texts -/

/-- Whether all characters of a text are of one sort. -/
def WrittenWith (isOne : Char → Bool) (text : List Char) : Prop :=
  ∀ character ∈ text, isOne character = true

instance (isOne : Char → Bool) (text : List Char) : Decidable (WrittenWith isOne text) :=
  decidable_of_iff (text.all isOne = true) List.all_eq_true

namespace WrittenWith

variable {isOne : Char → Bool}

theorem nil : WrittenWith isOne [] := by
  intro character member
  contradiction

theorem cons {first : Char} {rest : List Char} (firstIsOne : isOne first = true)
    (written : WrittenWith isOne rest) :
    WrittenWith isOne (first :: rest) := by
  intro character member
  rcases List.mem_cons.1 member with rfl | inRest
  · exact firstIsOne
  · exact written character inRest

theorem append {front rest : List Char} (frontWritten : WrittenWith isOne front)
    (restWritten : WrittenWith isOne rest) :
    WrittenWith isOne (front ++ rest) := by
  intro character member
  rcases List.mem_append.1 member with inFront | inRest
  · exact frontWritten character inFront
  · exact restWritten character inRest

theorem of_subset {part text : List Char} (written : WrittenWith isOne text)
    (inside : part ⊆ text) :
    WrittenWith isOne part :=
  fun character member => written character (inside member)

theorem intercalate {separator : List Char} {texts : List (List Char)}
    (separatorWritten : WrittenWith isOne separator)
    (textsWritten : ∀ text ∈ texts, WrittenWith isOne text) :
    WrittenWith isOne (separator.intercalate texts) := by
  induction texts with
  | nil => exact .nil
  | cons first rest inductionHypothesis =>
      have firstWritten := textsWritten first List.mem_cons_self
      cases rest with
      | nil =>
          rw [List.intercalate_singleton]
          exact firstWritten
      | cons second others =>
          rw [List.intercalate_cons_cons]
          apply (firstWritten.append separatorWritten).append
          apply inductionHypothesis
          intro text member
          exact textsWritten text (List.mem_cons_of_mem _ member)

end WrittenWith

/-- Whether a character neither separates fields nor ends lines. -/
def isFieldChar (character : Char) : Bool :=
  character != '\t' && character != '\n' && character != '\r'

/-- A text that can stand in a field. -/
abbrev IsField (text : List Char) : Prop := WrittenWith isFieldChar text

theorem isField_iff {text : List Char} :
    IsField text ↔ '\t' ∉ text ∧ '\n' ∉ text ∧ '\r' ∉ text := by
  unfold IsField WrittenWith
  simp only [isFieldChar, Bool.and_eq_true, bne_iff_ne, ne_eq]
  constructor
  · intro isField
    refine ⟨?_, ?_, ?_⟩
    · exact fun tab => (isField '\t' tab).1.1 rfl
    · exact fun feed => (isField '\n' feed).1.2 rfl
    · exact fun carriage => (isField '\r' carriage).2 rfl
  · intro absent character member
    refine ⟨⟨?_, ?_⟩, ?_⟩
    · exact fun isTab => absent.1 (isTab ▸ member)
    · exact fun isFeed => absent.2.1 (isFeed ▸ member)
    · exact fun isCarriage => absent.2.2 (isCarriage ▸ member)

/-- A text of characters that numerals are written with. -/
abbrev IsNumeralText (text : List Char) : Prop := WrittenWith isNumeralChar text

theorem IsNumeralText.isField {text : List Char} (isNumeral : IsNumeralText text) :
    IsField text := by
  intro character member
  have written := isNumeral character member
  unfold isFieldChar
  simp only [Bool.and_eq_true, bne_iff_ne, ne_eq]
  refine ⟨⟨?_, ?_⟩, ?_⟩
  all_goals
    rintro rfl
    contradiction

/-! ## Numbers -/

private theorem isNumeralText_zeros (count : Nat) : IsNumeralText (List.replicate count '0') := by
  intro character member
  rw [List.eq_of_mem_replicate member]
  decide

/-- The digits of a number, in a base that letters suffice for. -/
private theorem isNumeralText_toDigits {base : Nat} (proper : 1 < base) (small : base ≤ 16)
    (number : Nat) :
    IsNumeralText (Nat.toDigits base number) := by
  have digit : ∀ value, value < 16 → isNumeralChar value.digitChar = true := by decide
  induction number using Nat.strongRecOn with
  | ind number inductionHypothesis =>
      rw [Nat.toDigits_eq_if proper]
      split
      · rename_i single
        exact .cons (digit number (by omega)) .nil
      · rename_i more
        have fewer : number / base < number := Nat.div_lt_self (by omega) proper
        have last : number % base < base := Nat.mod_lt number (by omega)
        exact (inductionHypothesis _ fewer).append
          (.cons (digit (number % base) (by omega)) .nil)

private theorem isNumeralText_decimal (number : Nat) : IsNumeralText (Nat.toDigits 10 number) :=
  isNumeralText_toDigits (by omega) (by omega) number

namespace NumberStyle

private theorem isNumeralText_exponentText (exponent : Int) :
    IsNumeralText (exponentText exponent) := by
  unfold exponentText
  apply WrittenWith.cons (by decide)
  apply WrittenWith.cons
  · split
    · decide
    · decide
  · exact (isNumeralText_zeros _).append (isNumeralText_decimal exponent.natAbs)

private theorem isNumeralText_scientific {digits : List Char} (isNumeral : IsNumeralText digits)
    (exponent : Int) :
    IsNumeralText (scientific digits exponent) := by
  unfold scientific
  apply WrittenWith.append _ (isNumeralText_exponentText exponent)
  split
  · decide
  · exact isNumeral
  · rename_i digit others _
    have first := isNumeral digit List.mem_cons_self
    have rest := isNumeral.of_subset (List.subset_cons_self digit others)
    exact .cons first (.cons (by decide) rest)

private theorem isNumeralText_positional (style : NumberStyle) {digits : List Char}
    (isNumeral : IsNumeralText digits) (exponent : Int) :
    IsNumeralText (style.positional digits exponent) := by
  unfold positional
  split
  · have fraction := (isNumeralText_zeros (-exponent - 1).toNat).append isNumeral
    exact .cons (by decide) (.cons (by decide) fraction)
  · dsimp only
    have taken := isNumeral.of_subset (List.take_subset (exponent.toNat + 1) digits)
    have dropped := isNumeral.of_subset (List.drop_subset (exponent.toNat + 1) digits)
    have whole := taken.append (isNumeralText_zeros (exponent.toNat + 1 - digits.length))
    split
    · split
      · exact whole.append (by decide)
      · exact whole
    · exact whole.append (.cons (by decide) dropped)

private theorem isNumeralText_layout (style : NumberStyle) (decimal : Decimal) :
    IsNumeralText (style.layout decimal) := by
  have shown : IsNumeralText (withoutTrailingZeros (Nat.toDigits 10 decimal.coefficient)) := by
    apply (isNumeralText_decimal decimal.coefficient).of_subset
    intro character member
    have inReverse := (List.dropWhile_sublist _).subset (List.mem_reverse.1 member)
    exact List.mem_reverse.1 inReverse
  unfold layout
  dsimp only
  split
  · exact isNumeralText_scientific shown _
  · exact style.isNumeralText_positional shown _

end NumberStyle

/-- Whatever digits are chosen and however they are laid out, a number is written with the
characters of numerals. -/
private theorem Number.isNumeralText_textWith (style : NumberStyle) (choose : Nat → Decimal)
    (number : Number) :
    IsNumeralText (number.textWith style choose) := by
  have sign : ∀ negative : Bool, IsNumeralText (if negative then ['-'] else []) := by decide
  have noNumber : IsNumeralText "nan".toList := by decide
  have infinity : IsNumeralText "inf".toList := by decide
  cases number with
  | nan => exact noNumber
  | infinite negative => exact (sign negative).append infinity
  | finite negative grains => exact (sign negative).append (style.isNumeralText_layout _)

private theorem isField_generalText (count : Nat) (number : Number) :
    IsField (number.generalText count).toList := by
  rw [Number.generalText, String.toList_ofList]
  exact (number.isNumeralText_textWith _ _).isField

private theorem isField_shortestText (number : Number) : IsField number.shortestText.toList := by
  rw [Number.shortestText, String.toList_ofList]
  exact (number.isNumeralText_textWith _ _).isField

theorem isField_natText (number : Nat) : IsField number.repr.toList := by
  rw [Nat.repr, String.toList_ofList]
  exact (isNumeralText_decimal number).isField

theorem isField_intText (number : Int) : IsField (toString number).toList := by
  cases number with
  | ofNat magnitude => exact isField_natText magnitude
  | negSucc magnitude =>
      have negative : toString (Int.negSucc magnitude) = "-" ++ (magnitude + 1).repr := rfl
      have sign : IsField "-".toList := by decide
      rw [negative, String.toList_append]
      exact sign.append (isField_natText _)

/-! ## Texts -/

private theorem isField_codeEscape (code : Nat) : IsField (codeEscape code) := by
  have byCode : ∀ width, IsField (hexadecimal width code) := by
    intro width
    have digits : IsNumeralText (hexadecimal width code) :=
      (isNumeralText_zeros _).append (isNumeralText_toDigits (by omega) (by omega) code)
    exact digits.isField
  unfold codeEscape
  split
  · exact .cons (by decide) (.cons (by decide) (byCode 2))
  · split
    · exact .cons (by decide) (.cons (by decide) (byCode 4))
    · exact .cons (by decide) (.cons (by decide) (byCode 8))

/-- A character that separates fields or ends lines is written by letter. -/
private theorem isField_quotedChar {quote : Char} (quoteField : isFieldChar quote = true)
    (character : Char) :
    IsField (quotedChar quote character) := by
  unfold quotedChar
  by_cases marked : character = quote ∨ character = '\\'
  · rw [if_pos marked]
    have solid : isFieldChar character = true := by
      rcases marked with rfl | rfl
      · exact quoteField
      · decide
    exact .cons (by decide) (.cons solid .nil)
  · rw [if_neg marked]
    by_cases feed : character = '\n'
    · rw [if_pos feed]
      decide
    · rw [if_neg feed]
      by_cases carriage : character = '\r'
      · rw [if_pos carriage]
        decide
      · rw [if_neg carriage]
        by_cases tab : character = '\t'
        · rw [if_pos tab]
          decide
        · rw [if_neg tab]
          split
          · have solid : isFieldChar character = true := by
              simp [isFieldChar, feed, carriage, tab]
            exact .cons solid .nil
          · exact isField_codeEscape character.toNat

/-- Whatever characters a text has, its quoted form is a field. -/
theorem isField_quoted (text : String) : IsField (quoted text).toList := by
  have quoteField : ∀ hasApostrophe hasDoubleQuote,
      isFieldChar (quoteFor hasApostrophe hasDoubleQuote) = true := by decide
  unfold quoted
  dsimp only
  rw [String.toList_ofList]
  have solid := quoteField (text.toList.contains '\x27') (text.toList.contains '\x22')
  have body : ∀ characters : List Char, IsField (characters.flatMap
      (quotedChar (quoteFor (text.toList.contains '\x27') (text.toList.contains '\x22')))) := by
    intro characters character member
    obtain ⟨original, -, inQuoted⟩ := List.mem_flatMap.1 member
    exact isField_quotedChar solid original character inQuoted
  exact .cons solid ((body text.toList).append (.cons solid .nil))

/-! ## Values -/

theorem isField_kindName (kind : ConstantKind) : IsField kind.name.toList := by
  cases kind <;> decide

theorem isField_globalKindName (kind : GlobalKind) : IsField kind.name.toList := by
  cases kind <;> decide

theorem isField_typeName (declared : DeclaredType) : IsField declared.name.toList := by
  cases declared <;> decide

namespace CommandLine

private theorem isField_componentsText (components : List Number) :
    IsField (componentsText components).toList := by
  have between : IsField ", ".toList := by decide
  have opening : IsField "<".toList := by decide
  have closing : IsField ">".toList := by decide
  rw [componentsText, String.toList_append, String.toList_append, String.toList_intercalate]
  refine (opening.append (between.intercalate ?_)).append closing
  intro text member
  obtain ⟨shown, inShown, rfl⟩ := List.mem_map.1 member
  obtain ⟨component, -, rfl⟩ := List.mem_map.1 inShown
  exact isField_generalText 6 component

theorem isField_globalText (value : GlobalValue) : IsField (globalText value).toList := by
  have nothing : IsField "nil".toList := by decide
  cases value with
  | number value => exact isField_generalText 9 value
  | string text => exact isField_quoted text
  | uuid text => exact isField_quoted text
  | vector value fourth => exact isField_componentsText _
  | quaternion value => exact isField_componentsText _
  | nil => exact nothing

theorem isField_constantText (value : ConstantValue) : IsField (constantText value).toList := by
  have nothing : IsField "None".toList := by decide
  cases value with
  | integer value => exact isField_intText value
  | float value => exact isField_shortestText value
  | string text => exact isField_quoted text
  | key text => exact isField_quoted text
  | vector value => exact isField_componentsText _
  | quaternion value => exact isField_componentsText _
  | null => exact nothing
  | list => exact nothing
  | error => exact nothing

end CommandLine

end ConstantCatalog
