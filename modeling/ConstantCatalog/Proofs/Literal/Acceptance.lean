import ConstantCatalog.Proofs.Literal.Items
import ConstantCatalog.Proofs.Literal.Reuse
import ConstantCatalog.Proofs.Literal.Sentence

/-!
Contract: the texts that are literals, and what is wrong with any other text.

A text is a literal when it is the tokens of one with blanks alone around them. In a
literal no number stands right behind another, so the tokens that it is written with are
its longest-match sequence. Any other text has a leftmost fault.

Owns: `Spells`, `IsWrittenLiteral`, `IsLeftmostFault`, the characters of literals, and
what `Lexer.parse` makes of every text.

Does not own: how many components a declaration wants.
-/

namespace ConstantCatalog.Literal

/-! ## Texts of tokens -/

/-- Whether a text is some tokens in order, with blanks alone before, between and after
them. -/
inductive Spells : List Char → List Token → Prop where
  | blanks {blanks : List Char} (blank : AllBlank blanks) :
      Spells blanks []
  | token {blanks rest : List Char} {token : Token} {tokens : List Token} (blank : AllBlank blanks)
      (wellFormed : token.WellFormed) (others : Spells rest tokens) :
      Spells (blanks ++ (token.text ++ rest)) (token :: tokens)

theorem Itemized.spells {position : Nat} {text : List Char} {tokens : List PlacedToken}
    {ending : Ending} (itemized : Itemized position text tokens ending)
    (complete : ending = .complete) :
    Spells text (tokens.map PlacedToken.token) := by
  induction itemized with
  | complete blank => exact .blanks blank
  | illegal blank solid noToken => contradiction
  | token blank longest others inductionHypothesis =>
      exact .token blank longest.wellFormed (inductionHypothesis complete)

namespace Spells

/-- What may follow a number in a literal does not go on with it. -/
private theorem beginsOutside_of_separator {text : List Char} {tokens : List Token}
    (spells : Spells text tokens) {reached : Stage}
    (isReached : Stage.separator.after? tokens = some reached) :
    BeginsOutside isNumeralChar text := by
  cases spells with
  | blanks blank => exact beginsOutside_isNumeralChar_of_allBlank blank
  | @token blanks rest token tokens blank wellFormed others =>
      refine beginsOutside_append (beginsOutside_isNumeralChar_of_allBlank blank) ?_
      cases token with
      | comma => exact beginsOutside_cons rest (by decide)
      | closing => exact beginsOutside_cons rest (by decide)
      | number numeral => contradiction
      | opening => contradiction

/-- Tokens that may follow one another are the longest-match sequence of their text. -/
private theorem exists_itemized {text : List Char} {tokens : List Token}
    (spells : Spells text tokens) {stage reached : Stage}
    (isReached : stage.after? tokens = some reached) (position : Nat) :
    ∃ placed,
      Itemized position text placed .complete ∧
        placed.map PlacedToken.token = tokens := by
  induction spells generalizing stage position with
  | blanks blank => exact ⟨[], .complete blank, rfl⟩
  | @token blanks rest token tokens blank wellFormed others inductionHypothesis =>
      rw [Stage.after?_cons, Option.bind_eq_some_iff] at isReached
      obtain ⟨following, follows, isReached⟩ := isReached
      obtain ⟨placed, itemized, areTokens⟩ := inductionHypothesis isReached
        (position + blanks.length + token.text.length)
      have found : nextToken? (token.text ++ rest) = some (token, rest) := by
        cases token with
        | opening => rfl
        | closing => rfl
        | comma => rfl
        | number numeral =>
            -- The only stage behind a number is the one before a separator.
            obtain rfl : following = .separator := by
              cases stage with
              | component => exact (Option.some.inj follows).symm
              | start => contradiction
              | separator => contradiction
              | finished => contradiction
            rw [Token.text, nextToken?_numeral_append wellFormed,
              Numeral.scan?_text_append wellFormed
                (others.beginsOutside_of_separator isReached)]
            rfl
      obtain ⟨-, longest⟩ := nextToken?_eq_some_iff.1 found
      exact ⟨⟨token, position + blanks.length⟩ :: placed, .token blank longest itemized,
        by rw [List.map_cons, areTokens]⟩

end Spells

/-! ## Values -/

def Token.value? : Token → Option Number
  | .number numeral => some numeral.toSingle
  | _ => none

private theorem numbersOf_eq_filterMap (tokens : List PlacedToken) :
    numbersOf tokens = (tokens.map PlacedToken.token).filterMap Token.value? := by
  rw [List.filterMap_map]
  rfl

private theorem filterMap_value?_furtherTokens (others : List Numeral) :
    (furtherTokens others).filterMap Token.value? = others.map Numeral.toSingle := by
  induction others with
  | nil => rfl
  | cons numeral rest inductionHypothesis =>
      rw [furtherTokens_cons]
      exact congrArg (numeral.toSingle :: ·) inductionHypothesis

private theorem numbersOf_of_literalTokens {tokens : List PlacedToken} {first : Numeral}
    {others : List Numeral}
    (areTokens : tokens.map PlacedToken.token = literalTokens first others) :
    numbersOf tokens = (first :: others).map Numeral.toSingle := by
  rw [numbersOf_eq_filterMap, areTokens]
  exact congrArg (first.toSingle :: ·) (filterMap_value?_furtherTokens others)

/-! ## Literals and faults -/

/-- Whether a text is a literal with the given values: an opening bracket, one or more
numerals with commas between them, and a closing bracket, with blanks alone around them,
and the values those of the numerals in single precision. -/
def IsWrittenLiteral (text : List Char) (values : List Number) : Prop :=
  ∃ first others,
    Spells text (literalTokens first others) ∧
      values = (first :: others).map Numeral.toSingle

/-- Whether a fault is at the first item of a text that cannot follow the items before
it. -/
def IsLeftmostFault (text : List Char) (fault : Fault) : Prop :=
  ∃ tokens ending, Itemized 0 text tokens ending ∧ IsFirstFault tokens ending fault

theorem components_eq_ok_iff {text : List Char} {values : List Number} :
    components text = .ok values ↔ IsWrittenLiteral text values := by
  constructor
  · intro accepted
    have itemized := Itemized.of_tokensFrom 0 text
    unfold components tokensOf at accepted
    dsimp only at accepted
    split at accepted
    · rename_i faultless
      obtain ⟨complete, first, others, areTokens⟩ := firstFault?_eq_none_iff.1 faultless
      have spells := itemized.spells complete
      rw [areTokens] at spells
      refine ⟨first, others, spells, ?_⟩
      rw [← numbersOf_of_literalTokens areTokens]
      exact (Except.ok.inj accepted).symm
    · contradiction
  · rintro ⟨first, others, spells, rfl⟩
    have finished := Stage.after?_start_iff.2 ⟨first, others, rfl⟩
    obtain ⟨tokens, itemized, areTokens⟩ := spells.exists_itemized finished 0
    have faultless : firstFault? .start tokens .complete = none :=
      firstFault?_eq_none_iff.2 ⟨rfl, first, others, areTokens⟩
    rw [components, tokensOf, Itemized.iff_tokensFrom.1 itemized]
    simp only [faultless]
    rw [numbersOf_of_literalTokens areTokens]

private theorem components_eq_error_iff {text : List Char} {fault : Fault} :
    components text = .error fault ↔ IsLeftmostFault text fault := by
  have isFault : components text = .error fault ↔
      firstFault? .start (tokensFrom 0 text).1 (tokensFrom 0 text).2 = some fault := by
    unfold components tokensOf
    dsimp only
    cases firstFault? .start (tokensFrom 0 text).1 (tokensFrom 0 text).2 with
    | none => simp
    | some found => simp
  rw [isFault, firstFault?_eq_some_iff]
  constructor
  · intro isFirst
    exact ⟨_, _, .of_tokensFrom 0 text, isFirst⟩
  · rintro ⟨tokens, ending, itemized, isFirst⟩
    rw [Itemized.iff_tokensFrom.1 itemized]
    exact isFirst

/-! ## Characters -/

/-- The characters that literals are written with, and the other ASCII letters. -/
def isLiteralChar (character : Char) : Bool :=
  isBlank character || isNumeralChar character ||
    character == '<' || character == '>' || character == ','

private theorem isLiteralChar_of_allBlank {blanks : List Char} (blank : AllBlank blanks) :
    ∀ character ∈ blanks, isLiteralChar character = true := by
  intro character member
  simp [isLiteralChar, blank character member]

private theorem Token.isLiteralChar_of_mem_text {token : Token} (wellFormed : token.WellFormed) :
    ∀ character ∈ token.text, isLiteralChar character = true := by
  intro character member
  cases token with
  | number numeral =>
      have written := Numeral.isNumeralChar_of_mem_text wellFormed character member
      simp [isLiteralChar, written]
  | opening => simp [isLiteralChar, List.mem_singleton.1 member]
  | closing => simp [isLiteralChar, List.mem_singleton.1 member]
  | comma => simp [isLiteralChar, List.mem_singleton.1 member]

private theorem Spells.isLiteralChar_of_mem {text : List Char} {tokens : List Token}
    (spells : Spells text tokens) :
    ∀ character ∈ text, isLiteralChar character = true := by
  induction spells with
  | blanks blank => exact isLiteralChar_of_allBlank blank
  | token blank wellFormed others inductionHypothesis =>
      intro character member
      rcases List.mem_append.1 member with inBlanks | behind
      · exact isLiteralChar_of_allBlank blank character inBlanks
      · rcases List.mem_append.1 behind with inToken | inRest
        · exact Token.isLiteralChar_of_mem_text wellFormed character inToken
        · exact inductionHypothesis character inRest

/-- A text that is accepted as a literal has literal characters alone. -/
theorem isLiteralChar_of_components {text : List Char} {values : List Number}
    (accepted : components text = .ok values) :
    ∀ character ∈ text, isLiteralChar character = true := by
  obtain ⟨first, others, spells, -⟩ := components_eq_ok_iff.1 accepted
  exact spells.isLiteralChar_of_mem

/-! ## Parsers in use -/

/-- A parser that may have read any texts before makes of a text what `components` does.
It accepts exactly the literals, with the values of their numerals in order, and finds in
every other text its leftmost fault. -/
theorem parse_accepts_literals_and_locates_faults (lexer : Lexer) (text : List Char) :
    (lexer.parse text).1 = components text ∧
      (∀ values, (lexer.parse text).1 = .ok values ↔ IsWrittenLiteral text values) ∧
      ∀ fault, (lexer.parse text).1 = .error fault ↔ IsLeftmostFault text fault := by
  have same := lexer.parse_fst text
  refine ⟨same, ?_, ?_⟩
  · intro values
    rw [same, components_eq_ok_iff]
  · intro fault
    rw [same, components_eq_error_iff]

end ConstantCatalog.Literal
