import ConstantCatalog.Proofs.Number.LongestMatch

/-!
Contract: numerals and floats as patterns whose alternatives are tried in order.

A pattern tries its alternatives one after the other, and a repetition as many times as it
can before it does with less. The first match that is found so is taken, even where a later
one would be longer. The pattern of numerals is written so that none is: what it finds
first is what the scanner takes, the longest numeral that the text begins with.

The pattern of floats differs from it in one thing: letters are compared without regard to
case, beyond ASCII as well. A float is a text that its pattern matches as a whole.

Owns: `Pattern` with its words and its matches, `Pattern.numeral` with its agreement with
`Numeral.WellFormed` and with `Numeral.scan?`, and `Pattern.float`.

Does not own: patterns that repeat more than single characters, and which floats have a
value.
-/

namespace ConstantCatalog

/-- A pattern for the beginning of a text. -/
inductive Pattern where
  | nothing
  | one (holds : Char → Bool)
  | many (holds : Char → Bool)
  | both (first second : Pattern)
  | either (first second : Pattern)

namespace Pattern

/-- The words of a pattern. -/
def Matches : Pattern → List Char → Prop
  | .nothing, word => word = []
  | .one holds, word => ∃ character, word = [character] ∧ holds character = true
  | .many holds, word => ∀ character ∈ word, holds character = true
  | .both first second, word =>
      ∃ front back, word = front ++ back ∧ first.Matches front ∧ second.Matches back
  | .either first second, word => first.Matches word ∨ second.Matches word

/-- What repetitions of a class leave of a text, the most repetitions first. -/
def restsOfMany (holds : Char → Bool) : List Char → List (List Char)
  | [] => [[]]
  | character :: rest =>
      if holds character then restsOfMany holds rest ++ [character :: rest]
      else [character :: rest]

/-- What the matches of a pattern leave of a text, in the order in which they are
tried. -/
def rests : Pattern → List Char → List (List Char)
  | .nothing, text => [text]
  | .one _, [] => []
  | .one holds, character :: rest => if holds character then [rest] else []
  | .many holds, text => restsOfMany holds text
  | .both first second, text => (first.rests text).flatMap second.rests
  | .either first second, text => first.rests text ++ second.rests text

/-- What the match that is taken leaves of a text. -/
def firstRest? (pattern : Pattern) (text : List Char) : Option (List Char) :=
  (pattern.rests text).head?

/-! ## The pattern of numerals -/

def optional (pattern : Pattern) : Pattern := .either pattern .nothing

/-- The letters of a word one after the other, each told by a test. -/
def letters (isLetter : Char → Char → Bool) : List Char → Pattern
  | [] => .nothing
  | letter :: others => .both (.one (isLetter letter)) (letters isLetter others)

/-- Whether a character is a letter in either case. -/
def inEitherCase (letter character : Char) : Bool := character.toLower == letter

/-- Whether a character is a letter without regard to case. A dotted capital and a dotless
small I are letters i then. -/
def withoutCase (letter character : Char) : Bool :=
  character.toLower == letter ||
    letter == 'i' && (character == '\u0130' || character == '\u0131')

def sign : Pattern := optional (.one isSignChar)

def digits : Pattern := .both (.one Char.isDigit) (.many Char.isDigit)

def point : Pattern := .one (· == '.')

def exponent : Pattern :=
  .both (.one fun character => character == 'e' || character == 'E') (.both sign digits)

/-- Digits with an optional point and fraction. -/
def wholeDigits : Pattern := .both digits (.both (optional point) (.many Char.isDigit))

def decimal : Pattern := .both (.either wholeDigits (.both point digits)) (optional exponent)

def words (isLetter : Char → Char → Bool) : Pattern :=
  .either
    (.both (letters isLetter "inf".toList) (optional (letters isLetter "inity".toList)))
    (letters isLetter "nan".toList)

/-- A numeral inside a vector, whose letters are listed in either case. -/
def numeral : Pattern := .both sign (.either decimal (words inEitherCase))

/-- A float that stands alone, whose letters are compared without regard to case. -/
def float : Pattern := .both sign (.either decimal (words withoutCase))

/-! ## Matches and words -/

private theorem mem_restsOfMany_iff {holds : Char → Bool} {text rest : List Char} :
    rest ∈ restsOfMany holds text ↔
      ∃ word, (∀ character ∈ word, holds character = true) ∧ word ++ rest = text := by
  induction text with
  | nil =>
      rw [restsOfMany, List.mem_singleton]
      constructor
      · intro isNil
        exact ⟨[], by simp, isNil⟩
      · rintro ⟨word, -, built⟩
        exact (List.append_eq_nil_iff.1 built).2
  | cons first others inductionHypothesis =>
      rw [restsOfMany]
      by_cases holdsFirst : holds first = true
      · rw [if_pos holdsFirst, List.mem_append, inductionHypothesis, List.mem_singleton]
        constructor
        · rintro (⟨word, inside, built⟩ | isText)
          · refine ⟨first :: word, ?_, by rw [List.cons_append, built]⟩
            intro character member
            cases List.mem_cons.1 member with
            | inl isFirst => rwa [isFirst]
            | inr isOther => exact inside character isOther
          · exact ⟨[], by simp, isText⟩
        · rintro ⟨word, inside, built⟩
          cases word with
          | nil => exact Or.inr built
          | cons character word =>
              have isOthers : word ++ rest = others := (List.cons.inj built).2
              exact Or.inl
                ⟨word, fun other member => inside other (List.mem_cons_of_mem _ member), isOthers⟩
      · rw [if_neg holdsFirst, List.mem_singleton]
        constructor
        · intro isText
          exact ⟨[], by simp, isText⟩
        · rintro ⟨word, inside, built⟩
          cases word with
          | nil => exact built
          | cons character word =>
              have isFirst : character = first := (List.cons.inj built).1
              exact absurd (inside character List.mem_cons_self) (by rwa [isFirst])

/-- The matches of a pattern at the beginning of a text are its words there. -/
private theorem mem_rests_iff {pattern : Pattern} {text rest : List Char} :
    rest ∈ pattern.rests text ↔ ∃ word, pattern.Matches word ∧ word ++ rest = text := by
  induction pattern generalizing text rest with
  | nothing => simp [rests, Matches]
  | one holds =>
      cases text with
      | nil =>
          simp only [rests, List.not_mem_nil, Matches, false_iff]
          rintro ⟨word, ⟨character, rfl, -⟩, built⟩
          contradiction
      | cons first others =>
          by_cases holdsFirst : holds first = true
          · simp only [rests, if_pos holdsFirst, List.mem_singleton, Matches]
            constructor
            · intro isOthers
              exact ⟨[first], ⟨first, rfl, holdsFirst⟩, by rw [isOthers]; rfl⟩
            · rintro ⟨word, ⟨character, rfl, -⟩, built⟩
              exact (List.cons.inj built).2
          · simp only [rests, if_neg holdsFirst, List.not_mem_nil, Matches, false_iff]
            rintro ⟨word, ⟨character, rfl, holdsCharacter⟩, built⟩
            rw [(List.cons.inj built).1] at holdsCharacter
            exact holdsFirst holdsCharacter
  | many holds => exact mem_restsOfMany_iff
  | both first second firstIff secondIff =>
      simp only [rests, List.mem_flatMap, Matches]
      constructor
      · rintro ⟨middle, inFirst, inSecond⟩
        obtain ⟨front, frontMatches, frontBuilt⟩ := firstIff.1 inFirst
        obtain ⟨back, backMatches, backBuilt⟩ := secondIff.1 inSecond
        refine ⟨front ++ back, ⟨front, back, rfl, frontMatches, backMatches⟩, ?_⟩
        rw [List.append_assoc, backBuilt, frontBuilt]
      · rintro ⟨word, ⟨front, back, rfl, frontMatches, backMatches⟩, built⟩
        rw [List.append_assoc] at built
        exact ⟨back ++ rest, firstIff.2 ⟨front, frontMatches, built⟩,
          secondIff.2 ⟨back, backMatches, rfl⟩⟩
  | either first second firstIff secondIff =>
      simp only [rests, List.mem_append, firstIff, secondIff, Matches]
      constructor
      · rintro (⟨word, isWord, built⟩ | ⟨word, isWord, built⟩)
        · exact ⟨word, Or.inl isWord, built⟩
        · exact ⟨word, Or.inr isWord, built⟩
      · rintro ⟨word, inFirst | inSecond, built⟩
        · exact Or.inl ⟨word, inFirst, built⟩
        · exact Or.inr ⟨word, inSecond, built⟩

/-! ## The match that is taken -/

private theorem firstRest?_either (first second : Pattern) (text : List Char) :
    (either first second).firstRest? text =
      (first.firstRest? text).or (second.firstRest? text) :=
  List.head?_append

/-- Whether a pattern has a match at the beginning of every text. -/
def Total (pattern : Pattern) : Prop :=
  ∀ text, pattern.rests text ≠ []

/-- Where what follows always has a match, the first match of the front is not given
up. -/
private theorem firstRest?_both {second : Pattern} (total : second.Total) (first : Pattern)
    (text : List Char) :
    (both first second).firstRest? text = (first.firstRest? text).bind second.firstRest? := by
  unfold firstRest?
  rw [rests]
  cases first.rests text with
  | nil => rfl
  | cons rest others =>
      rw [List.flatMap_cons, List.head?_cons, Option.bind_some]
      cases found : second.rests rest with
      | nil => exact absurd found (total rest)
      | cons taken more => rfl

private theorem firstRest?_many (holds : Char → Bool) (text : List Char) :
    (many holds).firstRest? text = some (text.dropWhile holds) := by
  show (restsOfMany holds text).head? = _
  induction text with
  | nil => rfl
  | cons first others inductionHypothesis =>
      rw [restsOfMany]
      by_cases holdsFirst : holds first = true
      · rw [if_pos holdsFirst, List.head?_append, inductionHypothesis,
          List.dropWhile_cons_of_pos holdsFirst]
        rfl
      · rw [if_neg holdsFirst, List.dropWhile_cons_of_neg holdsFirst]
        rfl

private theorem firstRest?_optional (pattern : Pattern) (text : List Char) :
    (optional pattern).firstRest? text = some ((pattern.firstRest? text).getD text) := by
  rw [optional, firstRest?_either]
  show (pattern.firstRest? text).or (some text) = _
  cases pattern.firstRest? text with
  | none => rfl
  | some rest => rfl

private theorem total_of_firstRest? {pattern : Pattern}
    (found : ∀ text, ∃ rest, pattern.firstRest? text = some rest) :
    pattern.Total := by
  intro text nothing
  obtain ⟨rest, isFirst⟩ := found text
  rw [firstRest?, nothing] at isFirst
  contradiction

private theorem total_many (holds : Char → Bool) : (many holds).Total :=
  total_of_firstRest? fun text => ⟨_, firstRest?_many holds text⟩

private theorem total_optional (pattern : Pattern) : (optional pattern).Total :=
  total_of_firstRest? fun text => ⟨_, firstRest?_optional pattern text⟩

private theorem firstRest?_one_cons (holds : Char → Bool) (first : Char) (others : List Char) :
    (one holds).firstRest? (first :: others) = if holds first then some others else none := by
  show (if holds first = true then [others] else []).head? = _
  split
  · rfl
  · rfl

private theorem firstRest?_one_both (holds : Char → Bool) (second : Pattern) (text : List Char) :
    (both (one holds) second).firstRest? text =
      ((one holds).firstRest? text).bind second.firstRest? := by
  cases text with
  | nil => rfl
  | cons first others =>
      rw [firstRest?_one_cons]
      by_cases holdsFirst : holds first = true
      · simp [firstRest?, rests, holdsFirst]
      · simp [firstRest?, rests, holdsFirst]

/-! ## Signs and digits -/

/-- A sign that is written is taken, for what follows a sign does not begin with one. -/
private theorem rests_signed {pattern : Pattern}
    (unsigned : ∀ first others, isSignChar first = true → pattern.rests (first :: others) = [])
    (text : List Char) :
    (both sign pattern).rests text = pattern.rests (splitSign text).2 := by
  cases text with
  | nil =>
      show List.flatMap pattern.rests [[]] = _
      simp [splitSign]
  | cons first others =>
      cases isSign : isSignChar first with
      | false =>
          rw [splitSign_unsigned (beginsOutside_cons others isSign)]
          show List.flatMap pattern.rests ((if isSignChar first then [others] else []) ++ _) = _
          rw [isSign]
          simp [rests]
      | true =>
          have split : (splitSign (first :: others)).2 = others := by
            simp only [isSignChar, Bool.or_eq_true, beq_iff_eq] at isSign
            cases isSign with
            | inl isPlus => rw [isPlus]; rfl
            | inr isMinus => rw [isMinus]; rfl
          rw [split]
          show List.flatMap pattern.rests ((if isSignChar first then [others] else []) ++ _) = _
          rw [isSign]
          simp [rests, unsigned first others isSign]

private theorem firstRest?_digits (text : List Char) :
    digits.firstRest? text =
      match splitDigits text with
      | ([], _) => none
      | (_, rest) => some rest := by
  rw [digits, firstRest?_both (total_many _)]
  cases text with
  | nil => rfl
  | cons first others =>
      rw [firstRest?_one_cons, splitDigits]
      by_cases isDigit : first.isDigit = true
      · rw [if_pos isDigit, List.takeWhile_cons_of_pos isDigit, List.dropWhile_cons_of_pos isDigit]
        exact firstRest?_many _ _
      · rw [if_neg isDigit, List.takeWhile_cons_of_neg isDigit]
        rfl

private theorem rests_digits_of_sign {first : Char} (isSign : isSignChar first = true)
    (others : List Char) :
    digits.rests (first :: others) = [] := by
  have noDigit : first.isDigit = false := by
    cases isDigit : first.isDigit with
    | false => rfl
    | true =>
        rw [isSignChar_eq_false (Or.inl isDigit)] at isSign
        contradiction
  simp [digits, rests, noDigit]

private theorem firstRest?_exponent (text : List Char) :
    exponent.firstRest? text = (ExponentPart.scan? text).map Prod.snd := by
  cases text with
  | nil => rfl
  | cons marker rest =>
      rw [ExponentPart.scan?]
      by_cases isMarker : marker = 'e' ∨ marker = 'E'
      · have holds : (marker == 'e' || marker == 'E') = true := by simpa using isMarker
        have taken : exponent.firstRest? (marker :: rest) = (both sign digits).firstRest? rest := by
          simp [firstRest?, exponent, rests, holds]
        have found := firstRest?_digits (splitSign rest).2
        rw [taken, if_pos isMarker, firstRest?,
          rests_signed (fun _ others isSign => rests_digits_of_sign isSign others)]
        show digits.firstRest? (splitSign rest).2 = _
        rw [found]
        cases signed : splitSign rest with
        | mk minus unsigned =>
            dsimp only
            cases taken : splitDigits unsigned with
            | mk run remainder =>
                cases run with
                | nil => rfl
                | cons first others => rfl
      · have noMarker : (marker == 'e' || marker == 'E') = false := by simpa using isMarker
        rw [if_neg isMarker]
        simp [firstRest?, exponent, rests, noMarker]

/-! ## Words -/

private theorem rests_letters (word text : List Char) :
    (letters inEitherCase word).rests text =
      if (text.take word.length).map Char.toLower = word then [text.drop word.length] else [] := by
  induction word generalizing text with
  | nil => simp [letters, rests]
  | cons letter others inductionHypothesis =>
      cases text with
      | nil => simp [letters, rests]
      | cons first rest =>
          by_cases isLetter : first.toLower = letter
          · simp [letters, inEitherCase, rests, isLetter, inductionHypothesis]
          · simp [letters, inEitherCase, rests, isLetter]

private theorem rests_letters_append (isLetter : Char → Char → Bool) (front back text : List Char) :
    (letters isLetter (front ++ back)).rests text =
      ((letters isLetter front).rests text).flatMap (letters isLetter back).rests := by
  induction front generalizing text with
  | nil => simp [letters, rests]
  | cons letter others inductionHypothesis =>
      have inner : (letters isLetter (others ++ back)).rests =
          fun text =>
            ((letters isLetter others).rests text).flatMap (letters isLetter back).rests :=
        funext inductionHypothesis
      simp only [List.cons_append, letters, rests, inner, List.flatMap_assoc]

private theorem firstRest?_letters_append (front back text : List Char) :
    (letters inEitherCase (front ++ back)).firstRest? text =
      ((letters inEitherCase front).firstRest? text).bind
        (letters inEitherCase back).firstRest? := by
  unfold firstRest?
  rw [rests_letters_append, rests_letters front]
  split
  · simp
  · rfl

/-- The scanner tries one word after the other. -/
private theorem map_scanWord? (text : List Char) :
    (Magnitude.scanWord? text).map Prod.snd =
      Magnitude.words.findSome? fun word => (letters inEitherCase word).firstRest? text := by
  unfold Magnitude.scanWord?
  rw [List.map_findSome?]
  congr 1
  funext word
  show Option.map _ (if _ then _ else _) = _
  rw [firstRest?, rests_letters]
  split
  · rfl
  · rfl

/-- The pattern tries the shorter word first and then makes it longer, which comes to the
same as the longer word first. -/
private theorem firstRest?_words (text : List Char) :
    (words inEitherCase).firstRest? text = (Magnitude.scanWord? text).map Prod.snd := by
  have infinity := firstRest?_letters_append "inf".toList "inity".toList text
  have tried : (Magnitude.scanWord? text).map Prod.snd =
      ((letters inEitherCase "infinity".toList).firstRest? text).or
        (((letters inEitherCase "inf".toList).firstRest? text).or
          ((letters inEitherCase "nan".toList).firstRest? text)) := by
    rw [map_scanWord?]
    simp only [Magnitude.words, List.findSome?_cons, List.findSome?_nil]
    cases (letters inEitherCase "infinity".toList).firstRest? text with
    | some rest => rfl
    | none =>
        cases (letters inEitherCase "inf".toList).firstRest? text with
        | some rest => rfl
        | none =>
            cases (letters inEitherCase "nan".toList).firstRest? text with
            | some rest => rfl
            | none => rfl
  rw [tried, words, firstRest?_either, firstRest?_both (total_optional _)]
  change (letters inEitherCase "infinity".toList).firstRest? text = _ at infinity
  rw [infinity]
  cases (letters inEitherCase "inf".toList).firstRest? text with
  | none => rfl
  | some rest =>
      rw [Option.bind_some, Option.bind_some, firstRest?_optional]
      cases (letters inEitherCase "inity".toList).firstRest? rest with
      | none => rfl
      | some remainder => rfl

/-! ## Numerals -/

/-- What is left after a point and its fraction, where the text begins with a point. -/
def restAfterFraction : List Char → List Char
  | '.' :: afterPoint => (splitDigits afterPoint).2
  | rest => rest

private theorem restAfterFraction_eq_self {text : List Char}
    (noPoint : ∀ afterPoint, text ≠ '.' :: afterPoint) :
    restAfterFraction text = text := by
  unfold restAfterFraction
  split
  · rename_i afterPoint
    exact absurd rfl (noPoint afterPoint)
  · rfl

/-- A point that follows digits is taken with the digits behind it. -/
private theorem firstRest?_wholeDigits {text whole behind : List Char}
    (split : splitDigits text = (whole, behind)) (present : whole ≠ []) :
    wholeDigits.firstRest? text = some (restAfterFraction behind) := by
  have total : (both (optional point) (many Char.isDigit)).Total :=
    total_of_firstRest? fun rest =>
      ⟨_, by rw [firstRest?_both (total_many _), firstRest?_optional, Option.bind_some,
        firstRest?_many]⟩
  have stopped : behind.dropWhile Char.isDigit = behind := by
    have isBehind : text.dropWhile Char.isDigit = behind := congrArg Prod.snd split
    rw [← isBehind]
    exact dropWhile_eq_self (beginsOutside_dropWhile text)
  have taken : digits.firstRest? text = some behind := by
    rw [firstRest?_digits, split]
    cases whole with
    | nil => exact absurd rfl present
    | cons first others => rfl
  rw [wholeDigits, firstRest?_both total, taken, Option.bind_some,
    firstRest?_both (total_many _), firstRest?_optional, Option.bind_some, firstRest?_many]
  cases behind with
  | nil => rfl
  | cons first others =>
      rw [point, firstRest?_one_cons]
      by_cases isPoint : first = '.'
      · subst isPoint
        rfl
      · rw [if_neg (by simpa using isPoint), Option.getD_none, stopped,
          restAfterFraction_eq_self fun _ isCons => isPoint (List.cons.inj isCons).1]

private theorem firstRest?_pointDigits (afterPoint : List Char) :
    (both point digits).firstRest? ('.' :: afterPoint) = digits.firstRest? afterPoint := by
  rw [point, firstRest?_one_both, firstRest?_one_cons]
  rfl

private theorem firstRest?_pointDigits_eq_none {text : List Char}
    (noPoint : ∀ afterPoint, text ≠ '.' :: afterPoint) :
    (both point digits).firstRest? text = none := by
  rw [point, firstRest?_one_both]
  cases text with
  | nil => rfl
  | cons first others =>
      have isOther : first ≠ '.' := by
        intro isPoint
        exact noPoint others (by rw [isPoint])
      rw [firstRest?_one_cons, if_neg (by simpa using isOther)]
      rfl

/-- What completes digits is taken after them. -/
private theorem firstRest?_optional_exponent (whole : List Char) (point : Bool)
    (fraction rest : List Char) :
    (optional exponent).firstRest? rest =
      some (Magnitude.withExponent whole point fraction rest).2 := by
  rw [firstRest?_optional, firstRest?_exponent, Magnitude.withExponent]
  cases ExponentPart.scan? rest with
  | none => rfl
  | some found => rfl

private theorem firstRest?_words_point (afterPoint : List Char) :
    (words inEitherCase).firstRest? ('.' :: afterPoint) = none := by
  rw [firstRest?_words]
  simp [Magnitude.scanWord?, Magnitude.words]

private theorem firstRest?_wholeDigits_eq_none {text : List Char}
    (noDigits : splitDigits text = ([], text)) :
    wholeDigits.firstRest? text = none := by
  have nothing : digits.rests text = [] := by
    apply List.head?_eq_none_iff.1
    show digits.firstRest? text = none
    rw [firstRest?_digits, noDigits]
  rw [wholeDigits, firstRest?, rests, nothing]
  rfl

private theorem firstRest?_magnitude (text : List Char) :
    (either decimal (words inEitherCase)).firstRest? text =
      (Magnitude.scan? text).map Prod.snd := by
  rw [firstRest?_either, decimal, firstRest?_both (total_optional _), firstRest?_either]
  cases split : splitDigits text with
  | mk whole behind =>
      by_cases isPoint : ∃ afterPoint, behind = '.' :: afterPoint
      · obtain ⟨afterPoint, rfl⟩ := isPoint
        by_cases present : whole = []
        · -- Without digits in front of the point there are some behind it, or there is nothing.
          subst present
          obtain rfl : '.' :: afterPoint = text := splitDigits_append_of_eq split
          rw [firstRest?_wholeDigits_eq_none split, Option.none_or, firstRest?_pointDigits,
            firstRest?_digits, firstRest?_words_point, Option.or_none]
          cases fractionSplit : splitDigits afterPoint with
          | mk fraction remainder =>
              cases fraction with
              | nil => simp [Magnitude.scan?, split, fractionSplit]
              | cons first others =>
                  rw [Magnitude.scan?_of_point split (Or.inr (by simp [fractionSplit])),
                    fractionSplit]
                  exact firstRest?_optional_exponent _ _ _ _
        · rw [firstRest?_wholeDigits split present, restAfterFraction, Option.some_or,
            Option.bind_some, Magnitude.scan?_of_point split (Or.inl present),
            firstRest?_optional_exponent whole true (splitDigits afterPoint).1]
          rfl
      · have noPoint : ∀ afterPoint, behind ≠ '.' :: afterPoint :=
          fun afterPoint isCons => isPoint ⟨afterPoint, isCons⟩
        by_cases present : whole = []
        · subst present
          obtain rfl : behind = text := splitDigits_append_of_eq split
          rw [firstRest?_wholeDigits_eq_none split, firstRest?_pointDigits_eq_none noPoint,
            firstRest?_words, Magnitude.scan?_of_no_digits split noPoint]
          rfl
        · rw [firstRest?_wholeDigits split present, restAfterFraction_eq_self noPoint,
            Option.some_or, Option.bind_some, firstRest?_optional_exponent whole false [],
            Magnitude.scan?_of_whole split present noPoint]
          rfl

private theorem rests_magnitude_of_sign {first : Char} (isSign : isSignChar first = true)
    (others : List Char) :
    (either decimal (words inEitherCase)).rests (first :: others) = [] := by
  have nothing := rests_digits_of_sign isSign others
  simp only [isSignChar, Bool.or_eq_true, beq_iff_eq] at isSign
  cases isSign with
  | inl isPlus =>
      subst isPlus
      simp [rests, decimal, wholeDigits, words, point, rests_letters, nothing]
  | inr isMinus =>
      subst isMinus
      simp [rests, decimal, wholeDigits, words, point, rests_letters, nothing]

/-- The match of a numeral that is taken is the numeral that the scanner takes. -/
private theorem firstRest?_numeral (text : List Char) :
    numeral.firstRest? text = (Numeral.scan? text).map Prod.snd := by
  rw [numeral, firstRest?,
    rests_signed fun _ others isSign => rests_magnitude_of_sign isSign others]
  show (either decimal (words inEitherCase)).firstRest? (splitSign text).2 = _
  rw [firstRest?_magnitude, Numeral.scan?]
  dsimp only
  cases Magnitude.scan? (splitSign text).2 with
  | none => rfl
  | some found => rfl

/-! ## Words of the pattern and numerals of the grammar -/

private theorem exists_sign {word : List Char} (matches_sign : sign.Matches word) :
    ∃ found : Option Char, word = found.toList ∧
      ∀ written, found = some written → written = '+' ∨ written = '-' := by
  cases matches_sign with
  | inl isOne =>
      obtain ⟨character, rfl, isSign⟩ := isOne
      refine ⟨some character, rfl, ?_⟩
      intro written isWritten
      obtain rfl := Option.some.inj isWritten
      simpa [isSignChar] using isSign
  | inr isNothing => exact ⟨none, isNothing, by simp⟩

private theorem matches_digits_iff {word : List Char} :
    digits.Matches word ↔ word ≠ [] ∧ ∀ digit ∈ word, digit.isDigit = true := by
  constructor
  · rintro ⟨front, back, rfl, ⟨first, rfl, isDigit⟩, areDigits⟩
    refine ⟨by simp, ?_⟩
    intro digit member
    cases List.mem_cons.1 member with
    | inl isFirst => rwa [isFirst]
    | inr isOther => exact areDigits digit isOther
  · rintro ⟨nonempty, areDigits⟩
    cases word with
    | nil => exact absurd rfl nonempty
    | cons first others =>
        exact ⟨[first], others, rfl, ⟨first, rfl, areDigits first List.mem_cons_self⟩,
          fun digit member => areDigits digit (List.mem_cons_of_mem _ member)⟩

private theorem exists_exponent {word : List Char}
    (matches_exponent : (optional exponent).Matches word) :
    ∃ found : Option ExponentPart, word = (found.map ExponentPart.text).getD [] ∧
      ∀ part, found = some part → part.WellFormed := by
  cases matches_exponent with
  | inl isExponent =>
      obtain ⟨front, back, rfl, ⟨marker, rfl, isMarker⟩, signed, written, rfl, isSign, areDigits⟩ :=
        isExponent
      obtain ⟨sign, rfl, signFormed⟩ := exists_sign isSign
      obtain ⟨nonempty, inside⟩ := matches_digits_iff.1 areDigits
      refine ⟨some ⟨marker, sign, written⟩, rfl, ?_⟩
      intro part isPart
      obtain rfl := Option.some.inj isPart
      exact ⟨by simpa using isMarker, signFormed, nonempty, inside⟩
  | inr isNothing => exact ⟨none, isNothing, by simp⟩

theorem exists_decimal {word : List Char} (matches_decimal : decimal.Matches word) :
    ∃ magnitude : Magnitude, magnitude.WellFormed ∧ magnitude.text = word := by
  obtain ⟨front, back, rfl, isFront, isBack⟩ := matches_decimal
  obtain ⟨exponent, rfl, exponentFormed⟩ := exists_exponent isBack
  cases isFront with
  | inl isWhole =>
      obtain ⟨whole, behind, rfl, isDigits, pointed, fraction, rfl, isPoint, areDigits⟩ := isWhole
      obtain ⟨nonempty, inside⟩ := matches_digits_iff.1 isDigits
      have allDigits : ∀ digit ∈ whole ++ fraction, digit.isDigit = true := by
        intro digit member
        cases List.mem_append.1 member with
        | inl inWhole => exact inside digit inWhole
        | inr inFraction => exact areDigits digit inFraction
      cases isPoint with
      | inl isOne =>
          obtain ⟨character, rfl, isDot⟩ := isOne
          obtain rfl : character = '.' := by simpa using isDot
          refine ⟨.digits whole true fraction exponent,
            ⟨allDigits, Or.inl nonempty, by simp, exponentFormed⟩, ?_⟩
          simp [Magnitude.text]
      | inr isNothing =>
          -- Without a point all digits are digits of the whole part.
          have isNil : pointed = [] := isNothing
          subst isNil
          refine ⟨.digits (whole ++ fraction) false [] exponent,
            ⟨by simpa using allDigits, Or.inl (by simp [nonempty]), by simp, exponentFormed⟩, ?_⟩
          simp [Magnitude.text]
  | inr isFraction =>
      obtain ⟨pointed, fraction, rfl, ⟨character, rfl, isDot⟩, isDigits⟩ := isFraction
      obtain rfl : character = '.' := by simpa using isDot
      obtain ⟨nonempty, inside⟩ := matches_digits_iff.1 isDigits
      refine ⟨.digits [] true fraction exponent,
        ⟨by simpa using inside, Or.inr ⟨rfl, nonempty⟩, by simp, exponentFormed⟩, ?_⟩
      simp [Magnitude.text]

private theorem map_toLower_of_matches_letters {lowered word : List Char}
    (matches_letters : (letters inEitherCase lowered).Matches word) :
    word.map Char.toLower = lowered := by
  induction lowered generalizing word with
  | nil => rw [show word = [] from matches_letters, List.map_nil]
  | cons letter others inductionHypothesis =>
      obtain ⟨front, back, rfl, ⟨character, rfl, isLetter⟩, isBack⟩ := matches_letters
      have isLowered : character.toLower = letter := eq_of_beq isLetter
      rw [List.singleton_append, List.map_cons, isLowered, inductionHypothesis isBack]

private theorem exists_word {word : List Char} (matches_words : (words inEitherCase).Matches word) :
    ∃ magnitude : Magnitude, magnitude.WellFormed ∧ magnitude.text = word := by
  refine ⟨.word word, ?_, rfl⟩
  show word.map Char.toLower ∈ Magnitude.words
  cases matches_words with
  | inl isInf =>
      obtain ⟨front, back, rfl, isFront, isBack⟩ := isInf
      rw [List.map_append, map_toLower_of_matches_letters isFront]
      cases isBack with
      | inl isInity =>
          rw [map_toLower_of_matches_letters isInity]
          decide
      | inr isNothing =>
          rw [show back = [] from isNothing]
          decide
  | inr isNan =>
      rw [map_toLower_of_matches_letters isNan]
      decide

/-- The words of the pattern are the numerals of the grammar, as they are written. -/
theorem matches_numeral_iff {word : List Char} :
    numeral.Matches word ↔ ∃ found : Numeral, found.WellFormed ∧ found.text = word := by
  constructor
  · rintro ⟨front, back, rfl, isSign, isMagnitude⟩
    obtain ⟨sign, rfl, signFormed⟩ := exists_sign isSign
    have written : ∃ magnitude : Magnitude, magnitude.WellFormed ∧ magnitude.text = back := by
      cases isMagnitude with
      | inl isDecimal => exact exists_decimal isDecimal
      | inr isWord => exact exists_word isWord
    obtain ⟨magnitude, magnitudeFormed, rfl⟩ := written
    exact ⟨⟨sign, magnitude⟩, ⟨signFormed, magnitudeFormed⟩, rfl⟩
  · rintro ⟨found, wellFormed, rfl⟩
    have scanned := Numeral.scan?_text_append wellFormed (beginsOutside_nil (α := Char))
    have taken : numeral.firstRest? found.text = some [] := by
      rw [firstRest?_numeral, ← List.append_nil found.text, scanned]
      rfl
    obtain ⟨word, isWord, built⟩ := mem_rests_iff.1 (List.mem_of_head? taken)
    rw [List.append_nil] at built
    rwa [← built]

/-! ## Characters read through a map -/

/-- A pattern that reads every character through a map. -/
def through (map : Char → Char) : Pattern → Pattern
  | .nothing => .nothing
  | .one holds => .one fun character => holds (map character)
  | .many holds => .many fun character => holds (map character)
  | .both first second => .both (first.through map) (second.through map)
  | .either first second => .either (first.through map) (second.through map)

/-- Its words are those that the map takes to words of the pattern. -/
theorem matches_through_iff {map : Char → Char} {pattern : Pattern} {word : List Char} :
    (pattern.through map).Matches word ↔ pattern.Matches (word.map map) := by
  induction pattern generalizing word with
  | nothing => exact List.map_eq_nil_iff.symm
  | one holds =>
      simp only [through, Matches, List.map_eq_singleton_iff]
      constructor
      · rintro ⟨character, isWord, isHeld⟩
        exact ⟨map character, ⟨character, isWord, rfl⟩, isHeld⟩
      · rintro ⟨_, ⟨character, isWord, rfl⟩, isHeld⟩
        exact ⟨character, isWord, isHeld⟩
  | many holds => simp only [through, Matches, List.forall_mem_map]
  | both first second firstIff secondIff =>
      simp only [through, Matches, firstIff, secondIff]
      constructor
      · rintro ⟨front, back, rfl, inFirst, inSecond⟩
        exact ⟨front.map map, back.map map, List.map_append, inFirst, inSecond⟩
      · rintro ⟨_, _, built, inFirst, inSecond⟩
        obtain ⟨front, back, rfl, rfl, rfl⟩ := List.map_eq_append_iff.1 built
        exact ⟨front, back, rfl, inFirst, inSecond⟩
  | either first second firstIff secondIff =>
      simp only [through, Matches, firstIff, secondIff]

/-! ## The longest match -/

/-- Whether a word is the longest one of a pattern that a text begins with. -/
structure IsLongestMatch (pattern : Pattern) (word text : List Char) : Prop where
  isWord : pattern.Matches word
  begins : word <+: text
  longest : ∀ other, pattern.Matches other → other <+: text → other.length ≤ word.length

theorem isLongestMatch_of_isLongestIn {found : Numeral} {text : List Char}
    (isLongest : found.IsLongestIn text) :
    numeral.IsLongestMatch found.text text where
  isWord := matches_numeral_iff.2 ⟨found, isLongest.wellFormed, rfl⟩
  begins := isLongest.begins
  longest := by
    intro other isOther begins
    obtain ⟨otherFound, otherFormed, rfl⟩ := matches_numeral_iff.1 isOther
    exact isLongest.longest otherFound otherFormed begins

/-- Of the numerals that a text begins with, the first that is tried is the longest. -/
theorem firstRest?_numeral_eq_some_iff {text rest : List Char} :
    numeral.firstRest? text = some rest ↔
      ∃ word, word ++ rest = text ∧ numeral.IsLongestMatch word text := by
  rw [firstRest?_numeral, Option.map_eq_some_iff]
  constructor
  · rintro ⟨⟨found, behind⟩, scanned, rfl⟩
    obtain ⟨built, isLongest⟩ := Numeral.scan?_eq_some_iff.1 scanned
    exact ⟨found.text, built, isLongestMatch_of_isLongestIn isLongest⟩
  · rintro ⟨word, built, isWord, begins, longest⟩
    obtain ⟨found, wellFormed, rfl⟩ := matches_numeral_iff.1 isWord
    refine ⟨(found, rest), Numeral.scan?_eq_some_iff.2 ⟨built, wellFormed, begins, ?_⟩, rfl⟩
    intro other otherFormed otherBegins
    exact longest other.text (matches_numeral_iff.2 ⟨other, otherFormed, rfl⟩) otherBegins

/-- An exponent without digits is not taken, although an exponent was tried. -/
example : numeral.firstRest? "1.e+ ".toList = some "e+ ".toList := by decide

example : numeral.firstRest? "-InfinityX".toList = some ['X'] := by decide

end Pattern

end ConstantCatalog
