import ConstantCatalog.Proofs.Constant.Scalar
import ConstantCatalog.Proofs.Literal.Items
import ConstantCatalog.Proofs.Literal.Reuse
import ConstantCatalog.Proofs.Number.OrderedMatch

/-!
Contract: nothing of a text is lost between its tokens.

The tokens of a text stand in it one behind the other, each where its position says, and
whatever is not in one of them is blank. No bracket and no comma is inside another token,
and each number is the longest one at its place. Of a text that has other characters the
first of them is named, and everything before it is tokens and blanks. That holds for a
lexer that has read, or failed to read, any other texts before.

Owns: `Tiled` with its agreement with `Itemized`, `Lexer.tokenize`, and
`TokenizesExactly` with its proof.

Does not own: which sequences of tokens are literals.
-/

namespace ConstantCatalog.Literal

/-- The position behind a token. -/
def PlacedToken.stop (placed : PlacedToken) : Nat :=
  placed.position + placed.token.text.length

/-- Whether a stretch of a text is blank. -/
def BlankBetween (text : List Char) (start stop : Nat) : Prop :=
  ∀ index character, start ≤ index → index < stop → text[index]? = some character →
    isBlank character = true

/-- Whether tokens and blanks make up a stretch of a text: each token the longest at its
position, none of them reaching into the next, and nothing but blanks outside them. -/
structure Tiled (text : List Char) (start stop : Nat) (tokens : List PlacedToken) : Prop where
  le : start ≤ stop
  within : ∀ placed ∈ tokens, start ≤ placed.position ∧ placed.stop ≤ stop
  apart : tokens.Pairwise fun earlier later => earlier.stop ≤ later.position
  longest : ∀ placed ∈ tokens, placed.token.IsLongestIn (text.drop placed.position)
  blankOutside :
    ∀ index character, start ≤ index → index < stop → text[index]? = some character →
      (∀ placed ∈ tokens, index < placed.position ∨ placed.stop ≤ index) →
      isBlank character = true

/-- Whether a text ends so that its tokens stop at a position. -/
def EndsAt (text : List Char) (stop : Nat) : Ending → Prop
  | .complete => stop = text.length
  | .illegal character position =>
      stop = position ∧ text[position]? = some character ∧ isBlank character = false ∧
        ∀ token : Token, token.WellFormed → ¬token.text <+: text.drop position

/-- A number that is the first match at a position, which is the longest one there, with
the value that its characters have on their own. -/
structure NumberAt (text : List Char) (position : Nat) (numeral : Numeral) : Prop where
  wellFormed : numeral.WellFormed
  first :
    Pattern.numeral.firstRest? (text.drop position) =
      some (text.drop (position + numeral.text.length))
  longest : Pattern.numeral.IsLongestMatch numeral.text (text.drop position)
  value : readFloat numeral.text = .ok (some numeral.toSingle)

/-- What the tokens of a text have in common with the text, up to a position. -/
structure TokenizedUpTo (text : List Char) (stop : Nat) (tokens : List PlacedToken) : Prop where
  inOrder :
    tokens.Pairwise fun earlier later =>
      earlier.position < later.position ∧ earlier.stop ≤ later.position
  within : ∀ placed ∈ tokens, placed.stop ≤ stop
  /-- A token stands at its position as it is written. -/
  written :
    ∀ placed ∈ tokens,
      (text.drop placed.position).take placed.token.text.length = placed.token.text
  /-- What is in no token is a space or a tab. -/
  blankOutside :
    ∀ index character, index < stop → text[index]? = some character →
      (∀ placed ∈ tokens, index < placed.position ∨ placed.stop ≤ index) →
      character = ' ' ∨ character = '\t'
  /-- A bracket or a comma is a token wherever it stands. -/
  symbols :
    ∀ token ∈ [Token.opening, .closing, .comma], ∀ index < stop,
      token.text <+: text.drop index → ⟨token, index⟩ ∈ tokens
  numbers :
    ∀ numeral position, ⟨.number numeral, position⟩ ∈ tokens → NumberAt text position numeral

/-- Whether a text is taken apart as a whole, or refused at the first character with which
no token begins behind the tokens before it. -/
structure TokenizesExactly (text : List Char)
    (outcome : Except Fault (List PlacedToken)) : Prop where
  taken : ∀ tokens, outcome = .ok tokens ↔ TokenizedUpTo text text.length tokens
  refused :
    ∀ fault, outcome = .error fault ↔
      ∃ tokens character position, fault = .illegalCharacter character position ∧
        TokenizedUpTo text position tokens ∧ text[position]? = some character ∧
        isBlank character = false ∧
        ∀ token : Token, token.WellFormed → ¬token.text <+: text.drop position

/-! ## Stretches of a text -/

private theorem drop_eq_take_append {start stop : Nat} (le : start ≤ stop) (text : List Char) :
    text.drop start = (text.drop start).take (stop - start) ++ text.drop stop := by
  have rest : (text.drop start).drop (stop - start) = text.drop stop := by
    rw [List.drop_drop]
    congr 1
    omega
  rw [← rest, List.take_append_drop]

private theorem drop_of_drop_eq_append {text front rest : List Char} {start : Nat}
    (split : text.drop start = front ++ rest) :
    text.drop (start + front.length) = rest := by
  rw [← List.drop_drop, split, List.drop_left]

/-- A stretch of blanks, as a text of its own. -/
private theorem blankBetween_iff {text blanks rest : List Char} {start : Nat}
    (split : text.drop start = blanks ++ rest) :
    BlankBetween text start (start + blanks.length) ↔ AllBlank blanks := by
  have place (offset : Nat) (inside : offset < blanks.length) :
      text[start + offset]? = blanks[offset]? := by
    rw [← List.getElem?_drop, split, List.getElem?_append_left inside]
  constructor
  · intro between character member
    obtain ⟨offset, inside, isCharacter⟩ := List.mem_iff_getElem.1 member
    apply between (start + offset) character (by omega) (by omega)
    rw [place offset inside, List.getElem?_eq_getElem inside, isCharacter]
  · intro blank index character from_start to_stop isCharacter
    have inside : index - start < blanks.length := by omega
    have same := place (index - start) inside
    rw [show start + (index - start) = index by omega, isCharacter] at same
    exact blank character (List.mem_of_getElem? same.symm)

/-! ## Tiles and items -/

private theorem exists_tiled_of_itemized {text rest : List Char} {position : Nat}
    {tokens : List PlacedToken} {ending : Ending} (itemized : Itemized position rest tokens ending)
    (isRest : text.drop position = rest) (inside : position ≤ text.length) :
    ∃ stop, EndsAt text stop ending ∧ Tiled text position stop tokens := by
  induction itemized with
  | @complete position blanks blank =>
      refine ⟨text.length, rfl, ?_⟩
      have split : text.drop position = blanks ++ [] := by rw [isRest, List.append_nil]
      have between := (blankBetween_iff split).2 blank
      have length : position + blanks.length = text.length := by
        rw [← isRest, List.length_drop]
        omega
      rw [length] at between
      exact {
        le := inside
        within := by simp
        apart := List.Pairwise.nil
        longest := by simp
        blankOutside := fun index character start stop isCharacter _ =>
          between index character start stop isCharacter }
  | @illegal position blanks rest character blank solid noToken =>
      have behind := drop_of_drop_eq_append isRest
      have between := (blankBetween_iff isRest).2 blank
      refine ⟨position + blanks.length, ⟨rfl, ?_, solid, by rwa [behind]⟩, ?_⟩
      · have first : (text.drop (position + blanks.length))[0]? = some character := by
          rw [behind]
          rfl
        rwa [List.getElem?_drop, Nat.add_zero] at first
      · exact {
          le := by omega
          within := by simp
          apart := List.Pairwise.nil
          longest := by simp
          blankOutside := fun index character start stop isCharacter _ =>
            between index character start stop isCharacter }
  | @token position blanks rest token tokens ending blank longest others inductionHypothesis =>
      have atToken := drop_of_drop_eq_append isRest
      have behind := drop_of_drop_eq_append atToken
      have between := (blankBetween_iff isRest).2 blank
      have behindInside : position + blanks.length + token.text.length ≤ text.length := by
        have lengths := congrArg List.length isRest
        simp only [List.length_drop, List.length_append] at lengths
        omega
      obtain ⟨stop, ends, tiled⟩ := inductionHypothesis behind behindInside
      refine ⟨stop, ends, ?_⟩
      have le := tiled.le
      exact {
        le := by omega
        within := by
          intro placed member
          cases List.mem_cons.1 member with
          | inl isFirst =>
              subst isFirst
              exact ⟨Nat.le_add_right _ _, le⟩
          | inr isOther =>
              have bounds := tiled.within placed isOther
              omega
        apart := by
          apply List.Pairwise.cons
          · intro placed isOther
            exact (tiled.within placed isOther).1
          · exact tiled.apart
        longest := by
          intro placed member
          cases List.mem_cons.1 member with
          | inl isFirst =>
              subst isFirst
              show token.IsLongestIn (text.drop (position + blanks.length))
              rwa [atToken]
          | inr isOther => exact tiled.longest placed isOther
        blankOutside := by
          intro index character start before isCharacter outside
          cases outside ⟨token, position + blanks.length⟩ List.mem_cons_self with
          | inl inBlanks => exact between index character start inBlanks isCharacter
          | inr isBehind =>
              exact tiled.blankOutside index character isBehind before isCharacter
                fun placed isOther => outside placed (List.mem_cons_of_mem _ isOther) }

private theorem EndsAt.le_length {text : List Char} {stop : Nat} {ending : Ending}
    (ends : EndsAt text stop ending) : stop ≤ text.length := by
  cases ending with
  | complete => exact Nat.le_of_eq ends
  | illegal character position =>
      obtain ⟨rfl, isCharacter, -, -⟩ := ends
      exact Nat.le_of_lt (List.getElem?_eq_some_iff.1 isCharacter).1

/-- Where there are no tokens everything is blank up to the end of the tokens. -/
private theorem itemized_nil_of_blankBetween {text : List Char} {start stop : Nat} {ending : Ending}
    (ends : EndsAt text stop ending) (le : start ≤ stop) (between : BlankBetween text start stop) :
    Itemized start (text.drop start) [] ending := by
  have split := drop_eq_take_append le text
  have inside := ends.le_length
  have length : start + ((text.drop start).take (stop - start)).length = stop := by
    rw [List.length_take, List.length_drop]
    omega
  rw [← length] at between
  have blank := (blankBetween_iff split).1 between
  cases ending with
  | complete =>
      have isLength : stop = text.length := ends
      rw [split, isLength, List.drop_length, List.append_nil, ← isLength]
      exact .complete blank
  | illegal character position =>
      obtain ⟨isPosition, isCharacter, solid, noToken⟩ := ends
      have behind : text.drop stop = character :: text.drop (stop + 1) := by
        rw [List.drop_eq_getElem?_toList_append, isPosition, isCharacter]
        rfl
      have illegal := @Itemized.illegal start _ (text.drop (stop + 1)) character blank solid
        (by rwa [← behind, isPosition])
      rw [length, ← behind, ← split, isPosition] at illegal
      exact illegal

private theorem itemized_of_tiled {text : List Char} {start stop : Nat} {tokens : List PlacedToken}
    {ending : Ending} (ends : EndsAt text stop ending) (tiled : Tiled text start stop tokens) :
    Itemized start (text.drop start) tokens ending := by
  induction tokens generalizing start with
  | nil =>
      apply itemized_nil_of_blankBetween ends tiled.le
      intro index character from_start to_stop isCharacter
      exact tiled.blankOutside index character from_start to_stop isCharacter (by simp)
  | cons first others inductionHypothesis =>
      obtain ⟨behindAll, apart⟩ := List.pairwise_cons.1 tiled.apart
      obtain ⟨startsBehind, stopsBefore⟩ := tiled.within first List.mem_cons_self
      have inside := ends.le_length
      have positionBeforeStop : first.position ≤ first.stop := Nat.le_add_right _ _
      -- What is left behind the first token is made up of the others in the same way.
      have rest : Tiled text first.stop stop others := {
        le := stopsBefore
        within := fun placed isOther =>
          ⟨behindAll placed isOther, (tiled.within placed (List.mem_cons_of_mem _ isOther)).2⟩
        apart := apart
        longest := fun placed isOther => tiled.longest placed (List.mem_cons_of_mem _ isOther)
        blankOutside := by
          intro index character isBehind before isCharacter outside
          apply tiled.blankOutside index character (by omega) before isCharacter
          intro placed member
          cases List.mem_cons.1 member with
          | inl isFirst => exact Or.inr (by rwa [isFirst])
          | inr isOther => exact outside placed isOther }
      have split := drop_eq_take_append startsBehind text
      have length :
          start + ((text.drop start).take (first.position - start)).length = first.position := by
        rw [List.length_take, List.length_drop]
        omega
      have blank : AllBlank ((text.drop start).take (first.position - start)) := by
        apply (blankBetween_iff split).1
        rw [length]
        intro index character from_start before isCharacter
        apply tiled.blankOutside index character from_start (by omega) isCharacter
        intro placed member
        cases List.mem_cons.1 member with
        | inl isFirst => exact Or.inl (by rwa [isFirst])
        | inr isOther =>
            have isBehind := behindAll placed isOther
            exact Or.inl (by omega)
      have isLongest := tiled.longest first List.mem_cons_self
      obtain ⟨behind, built⟩ := isLongest.begins
      have isBehind : text.drop first.stop = behind := drop_of_drop_eq_append built.symm
      rw [← built] at isLongest
      have itemized := inductionHypothesis rest
      rw [isBehind] at itemized
      have whole := @Itemized.token start _ behind first.token others ending blank isLongest
        (by rw [length]; exact itemized)
      rw [length, built, ← split] at whole
      exact whole

/-- The tokens of a text are those that make it up, up to the place where it ends. -/
private theorem tokensOf_eq_iff {text : List Char} {tokens : List PlacedToken} {ending : Ending} :
    tokensOf text = (tokens, ending) ↔
      ∃ stop, EndsAt text stop ending ∧ Tiled text 0 stop tokens := by
  rw [tokensOf, ← Itemized.iff_tokensFrom]
  constructor
  · intro itemized
    exact exists_tiled_of_itemized itemized rfl (Nat.zero_le _)
  · rintro ⟨stop, ends, tiled⟩
    exact itemized_of_tiled ends tiled

/-! ## What tokens have in common with their text -/

private theorem Token.exists_head {token : Token}
    (wellFormed : token.WellFormed) : ∃ first others, token.text = first :: others := by
  cases token with
  | number numeral =>
      obtain ⟨first, others, written, -⟩ := exists_numeral_head wellFormed
      exact ⟨first, others, written⟩
  | opening => exact ⟨'<', [], rfl⟩
  | closing => exact ⟨'>', [], rfl⟩
  | comma => exact ⟨',', [], rfl⟩

/-- A bracket or a comma is one character, and no other token has it. -/
private theorem Token.exists_symbol {symbol : Token}
    (isSymbol : symbol ∈ [Token.opening, .closing, .comma]) :
    ∃ character, symbol.text = [character] ∧ isBlank character = false ∧
      ∀ token : Token, token.WellFormed → character ∈ token.text → token = symbol := by
  have inNumber (numeral : Numeral) (wellFormed : numeral.WellFormed) (character : Char)
      (notWritten : isNumeralChar character = false) : character ∉ numeral.text := by
    intro member
    rw [Numeral.isNumeralChar_of_mem_text wellFormed character member] at notWritten
    contradiction
  simp only [List.mem_cons, List.not_mem_nil, or_false] at isSymbol
  rcases isSymbol with rfl | rfl | rfl
  · refine ⟨'<', rfl, by decide, ?_⟩
    intro token wellFormed member
    cases token with
    | number numeral => exact absurd member (inNumber numeral wellFormed '<' (by decide))
    | opening => rfl
    | closing => simp [Token.text] at member
    | comma => simp [Token.text] at member
  · refine ⟨'>', rfl, by decide, ?_⟩
    intro token wellFormed member
    cases token with
    | number numeral => exact absurd member (inNumber numeral wellFormed '>' (by decide))
    | opening => simp [Token.text] at member
    | closing => rfl
    | comma => simp [Token.text] at member
  · refine ⟨',', rfl, by decide, ?_⟩
    intro token wellFormed member
    cases token with
    | number numeral => exact absurd member (inNumber numeral wellFormed ',' (by decide))
    | opening => simp [Token.text] at member
    | closing => simp [Token.text] at member
    | comma => rfl

namespace Tiled

variable {text : List Char} {start stop : Nat} {tokens : List PlacedToken}

private theorem position_lt_stop (tiled : Tiled text start stop tokens) {placed : PlacedToken}
    (member : placed ∈ tokens) : placed.position < placed.stop := by
  obtain ⟨first, others, written⟩ := Token.exists_head (tiled.longest placed member).wellFormed
  simp [PlacedToken.stop, written]

private theorem numberAt (tiled : Tiled text start stop tokens) {numeral : Numeral} {position : Nat}
    (member : ⟨.number numeral, position⟩ ∈ tokens) : NumberAt text position numeral := by
  obtain ⟨wellFormed, begins, longest⟩ := tiled.longest _ member
  have isLongest : numeral.IsLongestIn (text.drop position) :=
    ⟨wellFormed, begins, fun other otherFormed => longest (.number other) otherFormed⟩
  have longestMatch := Pattern.isLongestMatch_of_isLongestIn isLongest
  have built : numeral.text ++ text.drop (position + numeral.text.length) =
      text.drop position := by
    obtain ⟨rest, split⟩ := begins
    have behind : text.drop (position + numeral.text.length) = rest :=
      drop_of_drop_eq_append split.symm
    rw [behind]
    exact split
  exact {
    wellFormed := wellFormed
    first := Pattern.firstRest?_numeral_eq_some_iff.2 ⟨numeral.text, built, longestMatch⟩
    longest := longestMatch
    value := readFloat_eq_some_iff.2 ⟨numeral, wellFormed, rfl, rfl⟩ }

/-- What is not blank is in a token. -/
private theorem exists_token_at (tiled : Tiled text start stop tokens) {index : Nat}
    {character : Char} (from_start : start ≤ index) (to_stop : index < stop)
    (isCharacter : text[index]? = some character) (solid : isBlank character = false) :
    ∃ placed ∈ tokens, placed.position ≤ index ∧ index < placed.stop ∧
      placed.token.text[index - placed.position]? = some character := by
  by_cases covered : ∃ placed ∈ tokens, placed.position ≤ index ∧ index < placed.stop
  · obtain ⟨placed, member, isBehind, isBefore⟩ := covered
    refine ⟨placed, member, isBehind, isBefore, ?_⟩
    obtain ⟨rest, split⟩ := (tiled.longest placed member).begins
    have inside : index - placed.position < placed.token.text.length := by
      unfold PlacedToken.stop at isBefore
      omega
    rw [← List.getElem?_append_left inside, split, List.getElem?_drop,
      show placed.position + (index - placed.position) = index by omega]
    exact isCharacter
  · have blank := tiled.blankOutside index character from_start to_stop isCharacter (by
      intro placed member
      by_cases isBefore : index < placed.position
      · exact Or.inl isBefore
      · apply Or.inr
        apply Nat.le_of_not_lt
        intro isInside
        exact covered ⟨placed, member, Nat.le_of_not_lt isBefore, isInside⟩)
    rw [solid] at blank
    contradiction

private theorem symbol_mem (tiled : Tiled text start stop tokens) {symbol : Token}
    (isSymbol : symbol ∈ [Token.opening, .closing, .comma]) {index : Nat}
    (from_start : start ≤ index) (to_stop : index < stop)
    (begins : symbol.text <+: text.drop index) : ⟨symbol, index⟩ ∈ tokens := by
  obtain ⟨character, written, solid, only⟩ := Token.exists_symbol isSymbol
  have isCharacter : text[index]? = some character := by
    obtain ⟨rest, split⟩ := begins
    have first : (text.drop index)[0]? = some character := by
      rw [← split, written]
      rfl
    rwa [List.getElem?_drop, Nat.add_zero] at first
  obtain ⟨placed, member, isBehind, isBefore, inToken⟩ :=
    tiled.exists_token_at from_start to_stop isCharacter solid
  have isSymbolToken := only placed.token (tiled.longest placed member).wellFormed
    (List.mem_of_getElem? inToken)
  obtain ⟨token, position⟩ := placed
  dsimp only at isSymbolToken isBehind
  subst isSymbolToken
  have isPosition : position = index := by
    simp only [PlacedToken.stop, written, List.length_singleton] at isBefore
    omega
  rwa [isPosition] at member

private theorem tokenizedUpTo
    (tiled : Tiled text 0 stop tokens) : TokenizedUpTo text stop tokens where
  inOrder := by
    apply List.Pairwise.imp_of_mem _ tiled.apart
    intro earlier later isEarlier isLater apart
    exact ⟨Nat.lt_of_lt_of_le (tiled.position_lt_stop isEarlier) apart, apart⟩
  within := fun placed member => (tiled.within placed member).2
  written := by
    intro placed member
    exact (List.prefix_iff_eq_take.1 (tiled.longest placed member).begins).symm
  blankOutside := by
    intro index character to_stop isCharacter outside
    have blank := tiled.blankOutside index character (Nat.zero_le _) to_stop isCharacter outside
    simpa [isBlank] using blank
  symbols := by
    intro symbol isSymbol index to_stop begins
    exact tiled.symbol_mem isSymbol (Nat.zero_le _) to_stop begins
  numbers := fun numeral position member => tiled.numberAt member

end Tiled

/-- A token that stands somewhere as it is written is the longest there, if as a number it
is. -/
private theorem isLongestIn_of_written {token : Token} {text : List Char}
    (begins : token.text <+: text)
    (isNumber : ∀ numeral, token = .number numeral → numeral.IsLongestIn text) :
    token.IsLongestIn text := by
  obtain ⟨rest, rfl⟩ := begins
  cases token with
  | number numeral => exact .of_numeral (isNumber numeral rfl)
  | opening => exact @isLongestIn_symbol .opening '<' rfl trivial (by decide) rest
  | closing => exact @isLongestIn_symbol .closing '>' rfl trivial (by decide) rest
  | comma => exact @isLongestIn_symbol .comma ',' rfl trivial (by decide) rest

private theorem TokenizedUpTo.tiled {text : List Char} {stop : Nat} {tokens : List PlacedToken}
    (tokenized : TokenizedUpTo text stop tokens) : Tiled text 0 stop tokens where
  le := Nat.zero_le _
  within := fun placed member => ⟨Nat.zero_le _, tokenized.within placed member⟩
  apart := tokenized.inOrder.imp fun {_ _} ordered => ordered.2
  longest := by
    intro placed member
    apply isLongestIn_of_written
    · exact List.prefix_iff_eq_take.2 (tokenized.written placed member).symm
    · intro numeral isNumber
      obtain ⟨token, position⟩ := placed
      dsimp only at isNumber
      subst isNumber
      obtain ⟨wellFormed, -, longest, -⟩ := tokenized.numbers numeral position member
      exact {
        wellFormed := wellFormed
        begins := longest.begins
        longest := fun other otherFormed begins =>
          longest.longest other.text (Pattern.matches_numeral_iff.2 ⟨other, otherFormed, rfl⟩)
            begins }
  blankOutside := by
    intro index character _ to_stop isCharacter outside
    have blank := tokenized.blankOutside index character to_stop isCharacter outside
    simpa [isBlank] using blank

private theorem tokenizedUpTo_iff_tiled {text : List Char} {stop : Nat}
    {tokens : List PlacedToken} :
    TokenizedUpTo text stop tokens ↔ Tiled text 0 stop tokens :=
  ⟨TokenizedUpTo.tiled, Tiled.tokenizedUpTo⟩

/-! ## Reading one token after the other -/

namespace Lexer

/-- Reads tokens one at a time, up to the end of the text or an illegal character. -/
def readAll (lexer : Lexer) (found : List PlacedToken) : Except Fault (List PlacedToken) × Lexer :=
  match _next : lexer.next with
  | (.ending .complete, after) => (.ok found, after)
  | (.ending (.illegal character position), after) =>
      (.error (.illegalCharacter character position), after)
  | (.token placed, after) => after.readAll (found ++ [placed])
termination_by lexer.unread.length
decreasing_by exact length_lt_of_next ‹_›

/-- Takes a text apart with a lexer that may have read any texts before. -/
def tokenize (lexer : Lexer) (text : List Char) : Except Fault (List PlacedToken) × Lexer :=
  (lexer.given text).readAll []

/-- One step of reading, decided by the next item. -/
private theorem readAll_eq_next (lexer : Lexer) (found : List PlacedToken) :
    lexer.readAll found =
      match lexer.next with
      | (.ending .complete, after) => (.ok found, after)
      | (.ending (.illegal character position), after) =>
          (.error (.illegalCharacter character position), after)
      | (.token placed, after) => after.readAll (found ++ [placed]) := by
  rw [readAll]
  split
  · rename_i isNext
    rw [isNext]
  · rename_i isNext
    rw [isNext]
  · rename_i isNext
    rw [isNext]

private theorem readAll_fst (lexer : Lexer) (found : List PlacedToken) :
    (lexer.readAll found).1 =
      match tokensFrom lexer.position lexer.unread with
      | (tokens, .complete) => .ok (found ++ tokens)
      | (_, .illegal character position) => .error (.illegalCharacter character position) := by
  induction lexer, found using readAll.induct with
  | case1 lexer found after isNext =>
      rw [readAll_eq_next, tokensFrom_eq_next, isNext]
      simp
  | case2 lexer found character position after isNext =>
      rw [readAll_eq_next, tokensFrom_eq_next, isNext]
  | case3 lexer found placed after isNext inductionHypothesis =>
      rw [readAll_eq_next, tokensFrom_eq_next, isNext]
      dsimp only
      rw [inductionHypothesis]
      cases tokensFrom after.position after.unread with
      | mk tokens ending =>
          cases ending with
          | complete => simp
          | illegal character position => rfl

/-- What a lexer makes of a text does not depend on what it read before. -/
private theorem tokenize_fst (lexer : Lexer)
    (text : List Char) : (lexer.tokenize text).1 = Literal.tokenize text := by
  unfold tokenize Literal.tokenize tokensOf
  rw [readAll_fst]
  rfl

end Lexer

private theorem tokenize_eq_ok_iff {text : List Char} {tokens : List PlacedToken} :
    tokenize text = .ok tokens ↔ tokensOf text = (tokens, .complete) := by
  unfold tokenize
  cases tokensOf text with
  | mk found ending =>
      cases ending with
      | complete => simp
      | illegal character position => simp

private theorem tokenize_eq_error_iff {text : List Char} {fault : Fault} :
    tokenize text = .error fault ↔
      ∃ tokens character position, fault = .illegalCharacter character position ∧
        tokensOf text = (tokens, .illegal character position) := by
  unfold tokenize
  cases tokensOf text with
  | mk found ending =>
      cases ending with
      | complete => simp
      | illegal character position =>
          constructor
          · intro isFault
            exact ⟨found, character, position, (Except.error.inj isFault).symm, rfl⟩
          · rintro ⟨_, _, _, rfl, isSame⟩
            obtain ⟨-, isEnding⟩ := Prod.mk.inj isSame
            obtain ⟨rfl, rfl⟩ := Ending.illegal.inj isEnding
            rfl

/-- Every text is tokens and blanks up to its end, or up to a character that is named,
whatever its lexer has read before. -/
theorem texts_taken_apart_exactly (lexer : Lexer) (text : List Char) :
    (lexer.tokenize text).1 = tokenize text ∧ TokenizesExactly text (tokenize text) := by
  refine ⟨lexer.tokenize_fst text, ?_, ?_⟩
  · intro tokens
    rw [tokenize_eq_ok_iff, tokensOf_eq_iff, tokenizedUpTo_iff_tiled]
    constructor
    · rintro ⟨stop, isLength, tiled⟩
      rwa [← show stop = text.length from isLength]
    · intro tiled
      exact ⟨text.length, rfl, tiled⟩
  · intro fault
    rw [tokenize_eq_error_iff]
    constructor
    · rintro ⟨tokens, character, position, isFault, isTokens⟩
      obtain ⟨stop, ⟨isStop, isCharacter, solid, noToken⟩, tiled⟩ := tokensOf_eq_iff.1 isTokens
      rw [isStop] at tiled
      exact ⟨tokens, character, position, isFault, tiled.tokenizedUpTo, isCharacter, solid,
        noToken⟩
    · rintro ⟨tokens, character, position, isFault, tokenized, isCharacter, solid, noToken⟩
      exact ⟨tokens, character, position, isFault,
        tokensOf_eq_iff.2 ⟨position, ⟨rfl, isCharacter, solid, noToken⟩, tokenized.tiled⟩⟩

end ConstantCatalog.Literal
