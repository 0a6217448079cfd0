import ConstantCatalog.Constant.Declaration
import ConstantCatalog.Proofs.Constant.Scalar
import ConstantCatalog.Proofs.Literal.Acceptance
import ConstantCatalog.Proofs.Text.Blank
import Mathlib.Data.List.Forall2

/-!
Contract: the components of a literal are the floats of its pieces.

Floats and literals are read by different means: a float by the spelling of the whole
text, a literal token by token. A text is a literal exactly when it stands between angle
brackets and each of its pieces between commas is a float with blanks around it. So both
readers know the same numbers, and a number has the same value on its own and as a
component.

Owns: `IsPaddedNumeral`, literals by their pieces, `HasFloatPieces`, and `NumbersAgree`
with its proof for parsers in use.

Does not own: the tokens of literals, and what is wrong with a text that is none.
-/

namespace ConstantCatalog.Literal

/-! ## Numerals with blanks around them -/

/-- Whether a text is a numeral with blanks alone around it. -/
def IsPaddedNumeral (piece : List Char) (numeral : Numeral) : Prop :=
  numeral.WellFormed ∧ trimBlanks piece = numeral.text

theorem isPaddedNumeral_append {before after : List Char} {numeral : Numeral}
    (beforeBlank : AllBlank before) (afterBlank : AllBlank after)
    (wellFormed : numeral.WellFormed) :
    IsPaddedNumeral (before ++ numeral.text ++ after) numeral := by
  have ends : BlankFreeEnds numeral.text := by
    apply blankFreeEnds_of_solid
    intro character member
    exact isBlank_eq_false_of_isNumeralChar
      (Numeral.isNumeralChar_of_mem_text wellFormed character member)
  exact ⟨wellFormed, trimBlanks_padded beforeBlank afterBlank ends⟩

/-- No piece with one numeral in it is divided by a comma. -/
theorem IsPaddedNumeral.ne_comma {piece : List Char} {numeral : Numeral}
    (padded : IsPaddedNumeral piece numeral) :
    ∀ character ∈ piece, (character == ',') = false := by
  obtain ⟨wellFormed, trimmed⟩ := padded
  obtain ⟨before, after, beforeBlank, afterBlank, built⟩ := exists_padding piece
  rw [trimmed] at built
  intro character member
  apply beq_false_of_ne
  rintro rfl
  rw [built, List.append_assoc] at member
  rcases List.mem_append.1 member with inBefore | behind
  · exact absurd (beforeBlank ',' inBefore) (by decide)
  · rcases List.mem_append.1 behind with inNumeral | inAfter
    · exact absurd (Numeral.isNumeralChar_of_mem_text wellFormed ',' inNumeral) (by decide)
    · exact absurd (afterBlank ',' inAfter) (by decide)

/-- A piece is read as a float when it is a padded numeral. -/
theorem readFloat_trimBlanks_eq_some_iff {piece : List Char} {value : Number} :
    readFloat (trimBlanks piece) = .ok (some value) ↔
      ∃ numeral, IsPaddedNumeral piece numeral ∧ numeral.toSingle = value := by
  rw [readFloat_eq_some_iff]
  constructor
  · rintro ⟨numeral, wellFormed, written, isValue⟩
    exact ⟨numeral, ⟨wellFormed, written.symm⟩, isValue⟩
  · rintro ⟨numeral, ⟨wellFormed, trimmed⟩, isValue⟩
    exact ⟨numeral, wellFormed, trimmed.symm, isValue⟩

/-- Pieces are read as floats when they are padded numerals, one by one. -/
private theorem forall₂_readFloat_iff {parts : List (List Char)} {values : List Number} :
    List.Forall₂ (fun piece value => readFloat (trimBlanks piece) = .ok (some value))
        parts values ↔
      ∃ numerals, List.Forall₂ IsPaddedNumeral parts numerals ∧
        numerals.map Numeral.toSingle = values := by
  constructor
  · intro areRead
    induction areRead with
    | nil => exact ⟨[], .nil, rfl⟩
    | cons isRead others inductionHypothesis =>
        obtain ⟨numeral, padded, rfl⟩ := readFloat_trimBlanks_eq_some_iff.1 isRead
        obtain ⟨numerals, othersPadded, rfl⟩ := inductionHypothesis
        exact ⟨numeral :: numerals, .cons padded othersPadded, rfl⟩
  · rintro ⟨numerals, arePadded, rfl⟩
    rw [List.forall₂_map_right_iff]
    exact arePadded.imp fun piece numeral padded =>
      readFloat_trimBlanks_eq_some_iff.2 ⟨numeral, padded, rfl⟩

/-! ## Pieces between the brackets -/

private theorem spells_nil_iff {text : List Char} : Spells text [] ↔ AllBlank text := by
  constructor
  · intro spells
    cases spells with
    | blanks blank => exact blank
  · exact .blanks

private theorem spells_cons_iff {text : List Char} {token : Token} {tokens : List Token} :
    Spells text (token :: tokens) ↔
      token.WellFormed ∧ ∃ blanks rest, AllBlank blanks ∧ Spells rest tokens ∧
        text = blanks ++ token.text ++ rest := by
  constructor
  · intro spells
    cases spells with
    | token blank wellFormed others =>
        exact ⟨wellFormed, _, _, blank, others, (List.append_assoc ..).symm⟩
  · rintro ⟨wellFormed, blanks, rest, blank, others, rfl⟩
    rw [List.append_assoc]
    exact .token blank wellFormed others

/-- A number and another token are spelled by a padded numeral in front of the other
token. -/
private theorem spells_number_cons_iff {text : List Char} {numeral : Numeral} {tokens : List Token}
    (token : Token) (tokenFormed : token.WellFormed) :
    Spells text (.number numeral :: token :: tokens) ↔
      ∃ piece rest, IsPaddedNumeral piece numeral ∧ Spells rest tokens ∧
        text = piece ++ token.text ++ rest := by
  constructor
  · intro spells
    obtain ⟨wellFormed, before, behind, beforeBlank, following, rfl⟩ :=
      spells_cons_iff.1 spells
    obtain ⟨-, after, rest, afterBlank, others, rfl⟩ := spells_cons_iff.1 following
    refine ⟨before ++ numeral.text ++ after, rest,
      isPaddedNumeral_append beforeBlank afterBlank wellFormed, others, ?_⟩
    simp only [Token.text, List.append_assoc]
  · rintro ⟨piece, rest, ⟨wellFormed, trimmed⟩, others, rfl⟩
    obtain ⟨before, after, beforeBlank, afterBlank, built⟩ := exists_padding piece
    rw [trimmed] at built
    have following : Spells (after ++ token.text ++ rest) (token :: tokens) :=
      spells_cons_iff.2 ⟨tokenFormed, after, rest, afterBlank, others, rfl⟩
    refine spells_cons_iff.2 ⟨wellFormed, before, _, beforeBlank, following, ?_⟩
    rw [built]
    simp only [Token.text, List.append_assoc]

/-- The tokens behind an opening bracket are spelled by padded numerals with commas
between them, and a closing bracket with blanks behind it. -/
private theorem spells_furtherTokens_iff {text : List Char} {first : Numeral}
    {others : List Numeral} :
    Spells text (.number first :: furtherTokens others) ↔
      ∃ parts trail, List.Forall₂ IsPaddedNumeral parts (first :: others) ∧
        AllBlank trail ∧ text = [','].intercalate parts ++ '>' :: trail := by
  -- The blanks in front of a comma or the closing bracket belong to the piece before it.
  induction others generalizing text first with
  | nil =>
      constructor
      · intro spells
        obtain ⟨piece, trail, padded, blank, rfl⟩ :=
          (spells_number_cons_iff .closing trivial).1 spells
        refine ⟨[piece], trail, .cons padded .nil, spells_nil_iff.1 blank, ?_⟩
        rw [List.intercalate_singleton, List.append_assoc]
        rfl
      · rintro ⟨parts, trail, arePadded, blank, rfl⟩
        obtain ⟨piece, nothing, padded, isNil, rfl⟩ := List.forall₂_cons_right_iff.1 arePadded
        obtain rfl := List.forall₂_nil_right_iff.1 isNil
        refine (spells_number_cons_iff .closing trivial).2
          ⟨piece, trail, padded, spells_nil_iff.2 blank, ?_⟩
        rw [List.intercalate_singleton, List.append_assoc]
        rfl
  | cons second rest inductionHypothesis =>
      constructor
      · intro spells
        obtain ⟨piece, behind, padded, following, rfl⟩ :=
          (spells_number_cons_iff .comma trivial).1 spells
        obtain ⟨parts, trail, arePadded, blank, rfl⟩ := inductionHypothesis.1 following
        obtain ⟨next, further, -, -, rfl⟩ := List.forall₂_cons_right_iff.1 arePadded
        refine ⟨piece :: next :: further, trail, .cons padded arePadded, blank, ?_⟩
        simp only [List.intercalate_cons_cons, Token.text, List.append_assoc]
      · rintro ⟨parts, trail, arePadded, blank, rfl⟩
        obtain ⟨piece, others, padded, othersPadded, rfl⟩ :=
          List.forall₂_cons_right_iff.1 arePadded
        have following := inductionHypothesis.2 ⟨others, trail, othersPadded, blank, rfl⟩
        obtain ⟨next, further, -, -, rfl⟩ := List.forall₂_cons_right_iff.1 othersPadded
        refine (spells_number_cons_iff .comma trivial).2
          ⟨piece, _, padded, following, ?_⟩
        simp only [List.intercalate_cons_cons, Token.text, List.append_assoc]

/-- A text is a literal exactly when it is a pair of brackets with blanks around it and
every piece between its commas is a float with blanks around it. -/
theorem components_eq_ok_iff_pieces {text : List Char} {values : List Number} :
    components text = .ok values ↔
      ∃ inner, trimBlanks text = '<' :: (inner ++ ['>']) ∧
        List.Forall₂ (fun piece value => readFloat (trimBlanks piece) = .ok (some value))
          (pieces (· == ',') inner) values := by
  rw [components_eq_ok_iff]
  constructor
  · rintro ⟨first, others, spells, rfl⟩
    obtain ⟨-, lead, behind, leadBlank, following, rfl⟩ := spells_cons_iff.1 spells
    obtain ⟨parts, trail, arePadded, trailBlank, rfl⟩ := spells_furtherTokens_iff.1 following
    have nonempty : parts ≠ [] := by
      rintro rfl
      contradiction
    have undivided : ∀ piece ∈ parts, ∀ character ∈ piece, (character == ',') = false :=
      ((List.forall₂_and_left parts _).1
        (arePadded.imp fun _ _ padded => ⟨padded.ne_comma, padded⟩)).1
    have ends : BlankFreeEnds ('<' :: ([','].intercalate parts ++ ['>'])) :=
      blankFreeEnds_enclosed (by decide) (by decide) _
    refine ⟨[','].intercalate parts, ?_, ?_⟩
    · rw [← trimBlanks_padded leadBlank trailBlank ends]
      simp only [Token.text, List.append_assoc, List.cons_append, List.nil_append]
    · rw [pieces_intercalate (by decide) nonempty undivided]
      exact forall₂_readFloat_iff.2 ⟨first :: others, arePadded, rfl⟩
  · rintro ⟨inner, trimmed, areRead⟩
    obtain ⟨numerals, arePadded, rfl⟩ := forall₂_readFloat_iff.1 areRead
    cases numerals with
    | nil => exact absurd (List.forall₂_nil_right_iff.1 arePadded) (pieces_ne_nil _ inner)
    | cons first others =>
        obtain ⟨lead, trail, leadBlank, trailBlank, built⟩ := exists_padding text
        have following :
            Spells (inner ++ '>' :: trail) (.number first :: furtherTokens others) := by
          refine spells_furtherTokens_iff.2 ⟨_, trail, arePadded, trailBlank, ?_⟩
          rw [intercalate_pieces fun character isComma => eq_of_beq isComma]
        refine ⟨first, others,
          spells_cons_iff.2 ⟨trivial, lead, _, leadBlank, following, ?_⟩, rfl⟩
        rw [built, trimmed]
        simp only [Token.text, List.append_assoc, List.cons_append, List.nil_append]

/-! ## Numbers alone and in literals -/

/-- A text between brackets is a literal with one component exactly when it is a float with
blanks around it. -/
private theorem components_enclosed_eq_singleton_iff {text : List Char} {value : Number} :
    components ('<' :: (text ++ ['>'])) = .ok [value] ↔
      readFloat (trimBlanks text) = .ok (some value) := by
  have untrimmed : trimBlanks ('<' :: (text ++ ['>'])) = '<' :: (text ++ ['>']) :=
    trimBlanks_eq_self (blankFreeEnds_enclosed (by decide) (by decide) text)
  rw [components_eq_ok_iff_pieces, untrimmed]
  constructor
  · rintro ⟨inner, enclosed, areRead⟩
    obtain rfl : text = inner := List.append_cancel_right (List.cons.inj enclosed).2
    obtain ⟨piece, others, isRead, isNil, single⟩ := List.forall₂_cons_right_iff.1 areRead
    obtain rfl := List.forall₂_nil_right_iff.1 isNil
    have whole : [','].intercalate (pieces (· == ',') text) = text :=
      intercalate_pieces (fun character isComma => eq_of_beq isComma) text
    rw [single, List.intercalate_singleton] at whole
    rwa [← whole]
  · intro isRead
    obtain ⟨numeral, padded, -⟩ := readFloat_trimBlanks_eq_some_iff.1 isRead
    refine ⟨text, rfl, ?_⟩
    rw [pieces_eq_singleton padded.ne_comma]
    exact .cons isRead .nil

private theorem vectorValue?_eq_some_iff {text : List Char} {vector : Vector3} :
    vectorValue? text = some (.vector vector) ↔ components text = .ok vector.components := by
  obtain ⟨x, y, z⟩ := vector
  unfold vectorValue? Vector3.components
  split
  · rename_i read
    simp [read]
  · rename_i others
    simp only [reduceCtorEq, false_iff]
    exact others x y z

private theorem rotationValue?_eq_some_iff {text : List Char} {rotation : Rotation} :
    rotationValue? text = some (.quaternion rotation) ↔
      components text = .ok rotation.components := by
  obtain ⟨x, y, z, s⟩ := rotation
  unfold rotationValue? Rotation.components
  split
  · rename_i read
    simp [read]
  · rename_i others
    simp only [reduceCtorEq, false_iff]
    exact others x y z s

private theorem readValue_float_eq_some_iff {text : List Char} {value : Number} :
    readValue .float text = .ok (some (.float value)) ↔ readFloat text = .ok (some value) := by
  unfold readValue
  cases readFloat text with
  | error fault => simp [Except.map]
  | ok read => simp [Except.map]

/-- Whether a text is the components of a literal between its brackets, each of them the
value of a float declaration of the same text. -/
def HasFloatPieces (text : List Char) (values : List Number) : Prop :=
  ∃ inner, trimBlanks text = '<' :: (inner ++ ['>']) ∧
    List.Forall₂
      (fun piece value => readValue .float (trimBlanks piece) = .ok (some (.float value)))
      (pieces (· == ',') inner) values

private theorem hasFloatPieces_iff {text : List Char} {values : List Number} :
    HasFloatPieces text values ↔ components text = .ok values := by
  unfold HasFloatPieces
  simp only [readValue_float_eq_some_iff]
  exact components_eq_ok_iff_pieces.symm

/-- What the reader of floats and a reader of literals, which may have read any texts
before, have to agree on. -/
structure NumbersAgree (lexer : Lexer) : Prop where
  /-- A text without blanks is a float exactly when it is a literal of one component
  between brackets, and then with the same value. -/
  read
      (text : List Char)
      (solid : ∀ character ∈ text, isBlank character = false)
      (value : Number) :
      readFloat text = .ok (some value) ↔
        (lexer.parse ('<' :: (text ++ ['>']))).1 = .ok [value]
  /-- Any other such text is no float, and is passed over without a fault unless it has a
  letter that is taken for an i. -/
  passedOver
      (text : List Char)
      (solid : ∀ character ∈ text, isBlank character = false)
      (plain : ∀ character ∈ text, ¬IsForeignI character)
      (other : ∀ value, (lexer.parse ('<' :: (text ++ ['>']))).1 ≠ .ok [value]) :
      readFloat text = .ok none
  /-- The components of a vector are what its pieces declare as floats. -/
  vector
      (text : List Char)
      (value : Vector3) :
      readValue .vector text = .ok (some (.vector value)) ↔
        HasFloatPieces text value.components
  /-- The components of a rotation are what its pieces declare as floats. -/
  rotation
      (text : List Char)
      (value : Rotation) :
      readValue .quaternion text = .ok (some (.quaternion value)) ↔
        HasFloatPieces text value.components

/-- Floats and literals have the same numbers with the same values. -/
theorem floats_agree_with_literals (lexer : Lexer) : NumbersAgree lexer := by
  have read : ∀ text, (∀ character ∈ text, isBlank character = false) → ∀ value,
      readFloat text = .ok (some value) ↔
        (lexer.parse ('<' :: (text ++ ['>']))).1 = .ok [value] := by
    intro text solid value
    have untrimmed : trimBlanks text = text := trimBlanks_eq_self (blankFreeEnds_of_solid solid)
    rw [lexer.parse_fst, components_enclosed_eq_singleton_iff, untrimmed]
  refine ⟨read, ?_, ?_, ?_⟩
  · intro text solid plain other
    match outcome : readFloat text with
    | .ok none => rfl
    | .ok (some value) => exact absurd ((read text solid value).1 outcome) (other value)
    | .error fault =>
        obtain ⟨⟨sign, letters, rfl, -, -, letter, member, isForeignI⟩, -⟩ :=
          readFloat_eq_error_iff.1 outcome
        exact absurd isForeignI (plain letter (List.mem_append_right _ member))
  · intro text value
    rw [hasFloatPieces_iff, ← vectorValue?_eq_some_iff, readValue, Except.ok.injEq]
  · intro text value
    rw [hasFloatPieces_iff, ← rotationValue?_eq_some_iff, readValue, Except.ok.injEq]

end ConstantCatalog.Literal
