import ConstantCatalog.Proofs.Literal.Token
import ConstantCatalog.Proofs.Number.LongestMatch

/-!
Contract: the tokens of a text are its longest-match sequence.

From left to right, past blanks, each token is the longest one that the rest of the text
begins with, and it has the position at which it stands. The sequence ends where nothing
but blanks is left, or at a character with which no token begins.

Owns: well-formed tokens, `Token.IsLongestIn`, and `Itemized` with its agreement with
`tokensFrom`.

Does not own: which sequences of tokens are literals.
-/

namespace ConstantCatalog.Literal

/-! ## Tokens -/

/-- Whether a token is written as the grammar has it. -/
def Token.WellFormed : Token → Prop
  | .number numeral => numeral.WellFormed
  | .opening => True
  | .closing => True
  | .comma => True

/-- Whether a token is the longest one that a text begins with. -/
structure Token.IsLongestIn (token : Token) (text : List Char) : Prop where
  wellFormed : token.WellFormed
  begins : token.text <+: text
  longest :
    ∀ other : Token, other.WellFormed → other.text <+: text →
      other.text.length ≤ token.text.length

theorem exists_numeral_head {numeral : Numeral} (wellFormed : numeral.WellFormed) :
    ∃ first others, numeral.text = first :: others ∧ isNumeralChar first = true := by
  have shorter := Numeral.length_lt_of_scan?
    (Numeral.scan?_text_append wellFormed (beginsOutside_nil (α := Char)))
  cases written : numeral.text with
  | nil => simp [written] at shorter
  | cons first others =>
      exact ⟨first, others, rfl, Numeral.isNumeralChar_of_mem_text wellFormed first
        (by simp [written])⟩

theorem beginsOutside_isNumeralChar_of_allBlank {blanks : List Char} (blank : AllBlank blanks) :
    BeginsOutside isNumeralChar blanks := by
  intro character first
  cases written : isNumeralChar character with
  | false => rfl
  | true =>
      have isSolid := isBlank_eq_false_of_isNumeralChar written
      rw [blank character (List.mem_of_head? first)] at isSolid
      contradiction

/-- A text that begins with some other character does not begin with a numeral. -/
private theorem not_beginsWith_numeral {first : Char} (notWritten : isNumeralChar first = false)
    (rest : List Char) {numeral : Numeral} (wellFormed : numeral.WellFormed) :
    ¬numeral.text <+: first :: rest := by
  obtain ⟨head, others, written, isWritten⟩ := exists_numeral_head wellFormed
  rintro begins
  rw [written, List.cons_prefix_cons] at begins
  rw [begins.1, notWritten] at isWritten
  contradiction

/-- A token of a single character is the longest where no numeral begins. -/
theorem isLongestIn_symbol {token : Token} {symbol : Char} (isSymbol : token.text = [symbol])
    (wellFormed : token.WellFormed) (notWritten : isNumeralChar symbol = false) (rest : List Char) :
    token.IsLongestIn (symbol :: rest) where
  wellFormed := wellFormed
  begins := ⟨rest, by rw [isSymbol]; rfl⟩
  longest := by
    intro other otherFormed begins
    rw [isSymbol]
    cases other with
    | number numeral => exact absurd begins (not_beginsWith_numeral notWritten rest otherFormed)
    | opening => exact Nat.le_refl 1
    | closing => exact Nat.le_refl 1
    | comma => exact Nat.le_refl 1

theorem Token.IsLongestIn.of_numeral {numeral : Numeral} {text : List Char}
    (isLongest : numeral.IsLongestIn text) :
    (Token.number numeral).IsLongestIn text where
  wellFormed := isLongest.wellFormed
  begins := isLongest.begins
  longest := by
    intro other otherFormed begins
    obtain ⟨first, others, written, -⟩ := exists_numeral_head isLongest.wellFormed
    have present : 1 ≤ numeral.text.length := by simp [written]
    cases other with
    | number found => exact isLongest.longest found otherFormed begins
    | opening => exact present
    | closing => exact present
    | comma => exact present

/-- A text that begins with a character of numerals is scanned for one. -/
private theorem nextToken?_of_isNumeralChar {first : Char} (written : isNumeralChar first = true)
    (rest : List Char) :
    nextToken? (first :: rest) =
      (Numeral.scan? (first :: rest)).map fun (numeral, remainder) =>
        (.number numeral, remainder) := by
  unfold nextToken?
  split
  · rename_i isOpening
    rw [(List.cons.inj isOpening).1] at written
    contradiction
  · rename_i isClosing
    rw [(List.cons.inj isClosing).1] at written
    contradiction
  · rename_i isComma
    rw [(List.cons.inj isComma).1] at written
    contradiction
  · rfl

theorem nextToken?_numeral_append {numeral : Numeral} (wellFormed : numeral.WellFormed)
    (rest : List Char) :
    nextToken? (numeral.text ++ rest) =
      (Numeral.scan? (numeral.text ++ rest)).map fun (found, remainder) =>
        (.number found, remainder) := by
  obtain ⟨first, others, written, isWritten⟩ := exists_numeral_head wellFormed
  rw [written]
  exact nextToken?_of_isNumeralChar isWritten (others ++ rest)

/-- The longest token of a text is what is taken at its beginning. -/
theorem nextToken?_eq_some_iff {text rest : List Char} {token : Token} :
    nextToken? text = some (token, rest) ↔
      token.text ++ rest = text ∧ token.IsLongestIn text := by
  constructor
  · intro found
    refine ⟨text_append_of_nextToken? found, ?_⟩
    unfold nextToken? at found
    split at found
    · obtain ⟨rfl, rfl⟩ := Prod.mk.inj (Option.some.inj found)
      exact @isLongestIn_symbol .opening '<' rfl trivial (by decide) _
    · obtain ⟨rfl, rfl⟩ := Prod.mk.inj (Option.some.inj found)
      exact @isLongestIn_symbol .closing '>' rfl trivial (by decide) _
    · obtain ⟨rfl, rfl⟩ := Prod.mk.inj (Option.some.inj found)
      exact @isLongestIn_symbol .comma ',' rfl trivial (by decide) _
    · obtain ⟨⟨numeral, remainder⟩, scanned, built⟩ := Option.map_eq_some_iff.1 found
      obtain ⟨rfl, rfl⟩ := Prod.mk.inj built
      exact .of_numeral (Numeral.isLongestIn_of_scan? scanned)
  · rintro ⟨rfl, wellFormed, begins, longest⟩
    cases token with
    | opening => rfl
    | closing => rfl
    | comma => rfl
    | number numeral =>
        have isLongest : numeral.IsLongestIn (numeral.text ++ rest) :=
          ⟨wellFormed, begins, fun other otherFormed => longest (.number other) otherFormed⟩
        have scanned := Numeral.scan?_eq_some_iff.2 ⟨rfl, isLongest⟩
        rw [Token.text, nextToken?_numeral_append wellFormed, scanned]
        rfl

/-- Nothing is taken exactly where no token begins. -/
private theorem nextToken?_eq_none_iff {text : List Char} :
    nextToken? text = none ↔ ∀ token : Token, token.WellFormed → ¬token.text <+: text := by
  constructor
  · rintro nothing token wellFormed ⟨rest, rfl⟩
    cases token with
    | opening => contradiction
    | closing => contradiction
    | comma => contradiction
    | number numeral =>
        obtain ⟨taken, remainder, scanned, -⟩ := Numeral.takesAtLeast_scan? wellFormed rest
        rw [Token.text, nextToken?_numeral_append wellFormed, scanned] at nothing
        contradiction
  · intro noToken
    rw [Option.eq_none_iff_forall_ne_some]
    rintro ⟨token, rest⟩ found
    obtain ⟨-, isLongest⟩ := nextToken?_eq_some_iff.1 found
    exact noToken token isLongest.wellFormed isLongest.begins

/-! ## Items -/

/-- The tokens of a text whose first character has the given position, and how they end:
each token the longest at its place, with blanks alone before it and after the last. -/
inductive Itemized : Nat → List Char → List PlacedToken → Ending → Prop where
  | complete {position : Nat} {blanks : List Char} (blank : AllBlank blanks) :
      Itemized position blanks [] .complete
  | illegal {position : Nat} {blanks rest : List Char} {character : Char} (blank : AllBlank blanks)
      (solid : isBlank character = false)
      (noToken : ∀ token : Token, token.WellFormed → ¬token.text <+: character :: rest) :
      Itemized position (blanks ++ character :: rest) []
        (.illegal character (position + blanks.length))
  | token {position : Nat} {blanks rest : List Char} {token : Token} {tokens : List PlacedToken}
      {ending : Ending} (blank : AllBlank blanks) (longest : token.IsLongestIn (token.text ++ rest))
      (others : Itemized (position + blanks.length + token.text.length) rest tokens ending) :
      Itemized position (blanks ++ (token.text ++ rest))
        (⟨token, position + blanks.length⟩ :: tokens) ending

namespace Itemized

/-- A blank in front moves every item by one. -/
private theorem blank_cons {position : Nat} {text : List Char} {tokens : List PlacedToken}
    {ending : Ending} {first : Char} (isFirstBlank : isBlank first = true)
    (itemized : Itemized (position + 1) text tokens ending) :
    Itemized position (first :: text) tokens ending := by
  have more : ∀ {blanks : List Char}, AllBlank blanks → AllBlank (first :: blanks) := by
    intro blanks blank character member
    rcases List.mem_cons.1 member with rfl | inside
    · exact isFirstBlank
    · exact blank character inside
  cases itemized with
  | complete blank => exact .complete (more blank)
  | @illegal _ blanks rest character blank solid noToken =>
      have moved := @illegal position (first :: blanks) rest character (more blank) solid noToken
      rwa [List.length_cons, ← Nat.add_assoc, Nat.add_right_comm] at moved
  | @token _ blanks rest token tokens ending blank longest others =>
      have sameStart : position + 1 + blanks.length = position + (first :: blanks).length := by
        rw [List.length_cons]
        omega
      rw [sameStart] at others ⊢
      exact @Itemized.token position (first :: blanks) rest token tokens ending (more blank)
        longest others

theorem of_tokensFrom (position : Nat) (text : List Char) :
    Itemized position text (tokensFrom position text).1 (tokensFrom position text).2 := by
  induction position, text using tokensFrom.induct with
  | case1 position =>
      rw [tokensFrom]
      exact .complete allBlank_nil
  | case2 position first rest blank inductionHypothesis =>
      rw [tokensFrom, if_pos blank]
      exact inductionHypothesis.blank_cons blank
  | case3 position first rest solid nothing =>
      have noToken := nextToken?_eq_none_iff.1 nothing
      rw [tokensFrom, if_neg solid]
      split
      · exact @illegal position [] rest first allBlank_nil (by simpa using solid) noToken
      · simp_all
  | case4 position first rest solid token remainder found tokens ending whole
      inductionHypothesis =>
      have begins : BeginsOutside isBlank (first :: rest) :=
        beginsOutside_cons rest (by simpa using solid)
      obtain ⟨built, isLongest⟩ := nextToken?_eq_some_iff.1 found
      rw [tokensFrom_token begins found, ← built]
      rw [← built] at isLongest
      exact @Itemized.token position [] remainder token _ _ allBlank_nil isLongest
        inductionHypothesis

/-- A token begins with a character that is no blank. -/
private theorem beginsOutside_token {token : Token} (wellFormed : token.WellFormed)
    (rest : List Char) :
    BeginsOutside isBlank (token.text ++ rest) := by
  cases token with
  | opening => exact beginsOutside_cons rest (by decide)
  | closing => exact beginsOutside_cons rest (by decide)
  | comma => exact beginsOutside_cons rest (by decide)
  | number numeral =>
      obtain ⟨first, others, written, isWritten⟩ := exists_numeral_head wellFormed
      rw [Token.text, written]
      exact beginsOutside_cons _ (isBlank_eq_false_of_isNumeralChar isWritten)

/-- The tokens of a text, and how they end, are its longest-match sequence. -/
theorem iff_tokensFrom {position : Nat} {text : List Char} {tokens : List PlacedToken}
    {ending : Ending} :
    Itemized position text tokens ending ↔ tokensFrom position text = (tokens, ending) := by
  constructor
  · intro itemized
    induction itemized with
    | @complete position blanks blank =>
        have nothing := tokensFrom_blanks_append blank position []
        rw [List.append_nil] at nothing
        rw [nothing, tokensFrom]
    | @illegal position blanks rest character blank solid noToken =>
        have nothing := nextToken?_eq_none_iff.2 noToken
        rw [tokensFrom_blanks_append blank, tokensFrom, if_neg (by simp [solid])]
        split
        · rfl
        · simp_all
    | @token position blanks rest token tokens ending blank longest others
        inductionHypothesis =>
        have found := nextToken?_eq_some_iff.2 ⟨rfl, longest⟩
        rw [tokensFrom_blanks_append blank,
          tokensFrom_token (beginsOutside_token longest.wellFormed rest) found,
          inductionHypothesis]
  · intro isTokens
    have itemized := of_tokensFrom position text
    rwa [isTokens] at itemized

end Itemized

end ConstantCatalog.Literal
