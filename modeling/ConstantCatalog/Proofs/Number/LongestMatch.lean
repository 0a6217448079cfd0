import ConstantCatalog.Proofs.Number.Numeral

/-!
Contract: the scanner of numerals takes the longest numeral that a text begins with.

Whatever numeral stands at the beginning of a text, the scanner takes that numeral or a
longer one: the parts are taken in their order, each as far as it goes. So where no
character of a numeral follows it is that numeral, and where nothing is taken no numeral
begins the text.

Owns: `TakesAtLeast`, `Numeral.scan?_eq_some_iff`, `Numeral.scan?_eq_none_iff`,
`Numeral.scan?_text_append`, and `Numeral.read?_eq_some_iff`.

Does not own: what follows a numeral in a literal.
-/

namespace ConstantCatalog

/-- Whether what was found goes at least to the end of the part in front of `rest`: it is
that part, or it leaves less than `rest`. -/
def TakesAtLeast {β : Type} (found : Option (β × List Char)) (part : β) (rest : List Char) : Prop :=
  ∃ taken remainder, found = some (taken, remainder) ∧
    (remainder.length < rest.length ∨ (taken = part ∧ remainder = rest))

/-! ## Digits and exponents -/

/-- Digits in front of a text are taken with the digits that the text begins with. -/
private theorem splitDigits_digits_append {digits : List Char}
    (areDigits : ∀ digit ∈ digits, digit.isDigit = true) (rest : List Char) :
    splitDigits (digits ++ rest) =
      (digits ++ (splitDigits rest).1, (splitDigits rest).2) := by
  unfold splitDigits
  rw [List.takeWhile_append_of_pos areDigits, List.dropWhile_append_of_pos areDigits]

private theorem length_splitDigits_le (text : List Char) :
    (splitDigits text).2.length ≤ text.length := by
  have whole := congrArg List.length (splitDigits_append text)
  rw [List.length_append] at whole
  omega

/-- Either digits are taken off a text, or the text stays as it is. -/
private theorem splitDigits_shorter_or_nil (text : List Char) :
    (splitDigits text).2.length < text.length ∨ splitDigits text = ([], text) := by
  have whole := splitDigits_append text
  cases split : splitDigits text with
  | mk digits rest =>
      rw [split] at whole
      cases digits with
      | nil => exact Or.inr (by rw [← whole]; rfl)
      | cons first others =>
          rw [← whole, List.length_append]
          exact Or.inl (by simp)

theorem ExponentPart.takesAtLeast_scan? {part : ExponentPart} (wellFormed : part.WellFormed)
    (rest : List Char) :
    TakesAtLeast (ExponentPart.scan? (part.text ++ rest)) part rest := by
  obtain ⟨marker, sign, digits⟩ := part
  obtain ⟨isMarker, isSign, nonempty, areDigits⟩ := wellFormed
  dsimp only at isMarker isSign nonempty areDigits
  cases digits with
  | nil => exact absurd rfl nonempty
  | cons first others =>
      have unsigned : BeginsOutside isSignChar (first :: others ++ rest) :=
        beginsOutside_sign_of_isDigit _ (areDigits first List.mem_cons_self)
      have signSplit := splitSign_toList_append isSign unsigned
      have digitSplit := splitDigits_digits_append areDigits rest
      refine ⟨⟨marker, sign, first :: others ++ (splitDigits rest).1⟩, (splitDigits rest).2,
        ?_, ?_⟩
      · rw [ExponentPart.text, List.cons_append, List.append_assoc, ExponentPart.scan?,
          if_pos isMarker]
        simp only [signSplit, digitSplit]
        rfl
      · rcases splitDigits_shorter_or_nil rest with shorter | none
        · exact Or.inl shorter
        · exact Or.inr (by simp [none])

namespace Magnitude

/-! ## Digits with a point and an exponent -/

/-- Digits are completed by an exponent that the text begins with, or by nothing. -/
private theorem withExponent_shorter_or_none (whole : List Char) (point : Bool)
    (fraction rest : List Char) :
    (withExponent whole point fraction rest).2.length < rest.length ∨
      withExponent whole point fraction rest = (.digits whole point fraction none, rest) := by
  unfold withExponent
  cases scanned : ExponentPart.scan? rest with
  | none => exact Or.inr rfl
  | some found =>
      obtain ⟨part, remainder⟩ := found
      have taken := congrArg List.length (ExponentPart.text_append_of_scan? scanned)
      rw [List.length_append, ExponentPart.text, List.length_cons] at taken
      exact Or.inl (by dsimp only; omega)

private theorem length_withExponent_le (whole : List Char) (point : Bool)
    (fraction rest : List Char) :
    (withExponent whole point fraction rest).2.length ≤ rest.length := by
  rcases withExponent_shorter_or_none whole point fraction rest with shorter | same
  · exact Nat.le_of_lt shorter
  · exact Nat.le_of_eq (by rw [same])

/-- The digits of a text that an exponent begins are none. -/
private theorem splitDigits_exponent_append {part : ExponentPart} (wellFormed : part.WellFormed)
    (rest : List Char) :
    splitDigits (part.text ++ rest) = ([], part.text ++ rest) := by
  have split : splitDigits ([] ++ (part.text ++ rest)) = ([], part.text ++ rest) :=
    splitDigits_run (by simp) (ExponentPart.beginsOutside_text wellFormed rest)
  exact split

/-- The digits in front of an exponent, or of what follows if there is no exponent, are
completed by it. More digits may stand there, which go to the whole part or to the
fraction. -/
private theorem takesAtLeast_withExponent {exponent : Option ExponentPart}
    (wellFormed : ∀ part, exponent = some part → part.WellFormed) (point : Bool)
    (wholeWith fractionWith : List Char → List Char) (rest : List Char) :
    let (more, behind) := splitDigits ((exponent.map ExponentPart.text).getD [] ++ rest)
    TakesAtLeast
      (some (withExponent (wholeWith more) point (fractionWith more) behind))
      (.digits (wholeWith []) point (fractionWith []) exponent) rest := by
  cases exponent with
  | some part =>
      have partFormed := wellFormed part rfl
      obtain ⟨taken, remainder, scanned, least⟩ :=
        ExponentPart.takesAtLeast_scan? partFormed rest
      rw [Option.map_some, Option.getD_some, splitDigits_exponent_append partFormed]
      refine ⟨.digits (wholeWith []) point (fractionWith []) (some taken), remainder, ?_, ?_⟩
      · rw [withExponent, scanned]
      · rcases least with shorter | ⟨rfl, rfl⟩
        · exact Or.inl shorter
        · exact Or.inr ⟨rfl, rfl⟩
  | none =>
      rw [Option.map_none, Option.getD_none, List.nil_append]
      rcases splitDigits_shorter_or_nil rest with shorter | same
      · exact ⟨_, _, rfl,
          Or.inl (Nat.lt_of_le_of_lt (length_withExponent_le _ _ _ _) shorter)⟩
      · rw [same]
        rcases withExponent_shorter_or_none (wholeWith []) point (fractionWith []) rest with
          shorter | complete
        · exact ⟨_, _, rfl, Or.inl shorter⟩
        · exact ⟨_, _, congrArg some complete, Or.inr ⟨rfl, rfl⟩⟩

/-- An exponent does not begin with a point, so a point behind the digits in front of it
belongs to what follows. -/
private theorem eq_none_of_point {exponent : Option ExponentPart}
    (wellFormed : ∀ part, exponent = some part → part.WellFormed) {rest afterPoint : List Char}
    (pointFollows :
      (splitDigits ((exponent.map ExponentPart.text).getD [] ++ rest)).2 =
        '.' :: afterPoint) :
    exponent = none := by
  cases exponent with
  | none => rfl
  | some part =>
      have partFormed := wellFormed part rfl
      rw [Option.map_some, Option.getD_some, splitDigits_exponent_append partFormed]
        at pointFollows
      have isPoint : part.marker = '.' := (List.cons.inj pointFollows).1
      rcases partFormed.1 with marker | marker
      · rw [marker] at isPoint
        exact absurd isPoint (by decide)
      · rw [marker] at isPoint
        exact absurd isPoint (by decide)

/-- What is taken of a point with digits on either side of it. -/
theorem scan?_of_point {text whole afterPoint : List Char}
    (split : splitDigits text = (whole, '.' :: afterPoint))
    (present : whole ≠ [] ∨ (splitDigits afterPoint).1 ≠ []) :
    scan? text =
      some (withExponent whole true (splitDigits afterPoint).1 (splitDigits afterPoint).2) := by
  unfold scan?
  rw [split]
  cases whole with
  | cons first others => rfl
  | nil =>
      cases fractionSplit : splitDigits afterPoint with
      | mk fraction remainder =>
          cases fraction with
          | nil => simp [fractionSplit] at present
          | cons first others => simp only [fractionSplit]

/-- What is taken of digits that no point follows. -/
theorem scan?_of_whole {text whole rest : List Char} (split : splitDigits text = (whole, rest))
    (present : whole ≠ []) (noPoint : ∀ afterPoint, rest ≠ '.' :: afterPoint) :
    scan? text = some (withExponent whole false [] rest) := by
  unfold scan?
  rw [split]
  split
  · simp_all
  · simp_all
  · simp_all
  · rename_i isSplit
    obtain ⟨rfl, rfl⟩ := Prod.mk.inj isSplit
    rfl

/-- Without digits and a point a word is looked for. -/
theorem scan?_of_no_digits {text : List Char} (noDigits : splitDigits text = ([], text))
    (noPoint : ∀ afterPoint, text ≠ '.' :: afterPoint) :
    scan? text = scanWord? text := by
  unfold scan?
  rw [noDigits]
  cases text with
  | nil => rfl
  | cons first others =>
      split
      · rename_i afterPoint isPoint
        exact absurd (Prod.mk.inj isPoint).2 (noPoint afterPoint)
      · rfl
      · rename_i present isPair
        exact absurd (Prod.mk.inj isPair).1.symm (by simpa using present)
      · rename_i present _ isPair
        exact absurd (Prod.mk.inj isPair).1.symm (by simpa using present)

private theorem takesAtLeast_scan?_digits {whole fraction : List Char} {point : Bool}
    {exponent : Option ExponentPart}
    (wellFormed : (Magnitude.digits whole point fraction exponent).WellFormed) (rest : List Char) :
    TakesAtLeast (scan? ((Magnitude.digits whole point fraction exponent).text ++ rest))
      (.digits whole point fraction exponent) rest := by
  obtain ⟨areDigits, nonempty, pointed, exponentFormed⟩ := wellFormed
  have wholeDigits : ∀ digit ∈ whole, digit.isDigit = true :=
    fun digit member => areDigits digit (List.mem_append_left _ member)
  have fractionDigits : ∀ digit ∈ fraction, digit.isDigit = true :=
    fun digit member => areDigits digit (List.mem_append_right _ member)
  cases point with
  | true =>
      have completed :=
        takesAtLeast_withExponent exponentFormed true (fun _ => whole) (fraction ++ ·) rest
      rw [List.append_nil] at completed
      have built : (digits whole true fraction exponent).text ++ rest =
          whole ++ '.' :: (fraction ++ ((exponent.map ExponentPart.text).getD [] ++ rest)) := by
        simp [text]
      rw [built]
      generalize (exponent.map ExponentPart.text).getD [] ++ rest = tail at completed ⊢
      have wholeSplit : splitDigits (whole ++ '.' :: (fraction ++ tail)) =
          (whole, '.' :: (fraction ++ tail)) :=
        splitDigits_run wholeDigits (beginsOutside_cons _ (by decide))
      have fractionSplit := splitDigits_digits_append fractionDigits tail
      have present : whole ≠ [] ∨ (splitDigits (fraction ++ tail)).1 ≠ [] := by
        rw [fractionSplit]
        rcases nonempty with wholePresent | ⟨-, fractionPresent⟩
        · exact Or.inl wholePresent
        · exact Or.inr (List.append_ne_nil_of_left_ne_nil fractionPresent _)
      rw [scan?_of_point wholeSplit present, fractionSplit]
      exact completed
  | false =>
      obtain rfl := pointed rfl
      have completed :=
        takesAtLeast_withExponent exponentFormed false (whole ++ ·) (fun _ => []) rest
      rw [List.append_nil] at completed
      have noExponent : ∀ afterPoint,
          (splitDigits ((exponent.map ExponentPart.text).getD [] ++ rest)).2 =
              '.' :: afterPoint →
            exponent = none :=
        fun _ pointFollows => eq_none_of_point exponentFormed pointFollows
      have built : (digits whole false [] exponent).text ++ rest =
          whole ++ ((exponent.map ExponentPart.text).getD [] ++ rest) := by
        simp [text]
      rw [built]
      generalize tailEq : (exponent.map ExponentPart.text).getD [] ++ rest = tail
        at completed noExponent ⊢
      have wholeSplit := splitDigits_digits_append wholeDigits tail
      have present : whole ++ (splitDigits tail).1 ≠ [] := by
        have wholePresent : whole ≠ [] := by simpa using nonempty
        exact List.append_ne_nil_of_left_ne_nil wholePresent _
      -- A point that follows the digits is taken as well, and what follows it.
      by_cases isPoint : ∃ afterPoint, (splitDigits tail).2 = '.' :: afterPoint
      · obtain ⟨afterPoint, pointFollows⟩ := isPoint
        obtain rfl := noExponent afterPoint pointFollows
        obtain rfl : rest = tail := tailEq
        have behindDigits := length_splitDigits_le rest
        have behindFraction := length_splitDigits_le afterPoint
        rw [pointFollows] at wholeSplit behindDigits
        rw [List.length_cons] at behindDigits
        rw [scan?_of_point wholeSplit (Or.inl present)]
        refine ⟨_, _, rfl, Or.inl ?_⟩
        calc
          _ ≤ (splitDigits afterPoint).2.length := length_withExponent_le _ _ _ _
          _ < rest.length := by omega
      · have noPoint : ∀ afterPoint, (splitDigits tail).2 ≠ '.' :: afterPoint :=
          fun afterPoint pointFollows => isPoint ⟨afterPoint, pointFollows⟩
        rw [scan?_of_whole wholeSplit present noPoint]
        exact completed

/-! ## Words -/

private theorem takesAtLeast_scanWord? {letters : List Char}
    (wellFormed : (Magnitude.word letters).WellFormed) (rest : List Char) :
    TakesAtLeast (scanWord? (letters ++ rest)) (.word letters) rest := by
  have isWord : letters.map Char.toLower ∈ words := wellFormed
  by_cases infinity : letters.map Char.toLower = "infinity".toList
  · -- The longest word is looked for first.
    have sameLength : "infinity".toList.length = letters.length := by
      rw [← infinity, List.length_map]
    refine ⟨.word letters, rest, ?_, Or.inr ⟨rfl, rfl⟩⟩
    unfold scanWord? words
    rw [List.findSome?_cons]
    simp only [sameLength, List.take_left, List.drop_left, infinity, if_true]
  · -- The other words have the same length, and none is shorter.
    have lengths : ∀ word ∈ words, word ≠ "infinity".toList → word.length = 3 := by decide
    have atLeast : ∀ word ∈ words, 3 ≤ word.length := by decide
    have isThree : letters.length = 3 := by
      rw [← lengths _ isWord infinity, List.length_map]
    have found : (scanWord? (letters ++ rest)).isSome = true := by
      unfold scanWord?
      rw [List.findSome?_isSome_iff]
      exact ⟨letters.map Char.toLower, isWord, by simp⟩
    obtain ⟨⟨taken, remainder⟩, scanned⟩ := Option.isSome_iff_exists.1 found
    refine ⟨taken, remainder, scanned, ?_⟩
    unfold scanWord? at scanned
    obtain ⟨word, member, isTaken⟩ := List.exists_of_findSome?_eq_some scanned
    dsimp only at isTaken
    split at isTaken
    · rename_i spelled
      obtain ⟨rfl, rfl⟩ := Prod.mk.inj (Option.some.inj isTaken)
      have least := atLeast word member
      have within := congrArg List.length spelled
      rw [List.length_map, List.length_take, List.length_append] at within
      by_cases longer : 3 < word.length
      · rw [List.length_drop, List.length_append]
        exact Or.inl (by omega)
      · have sameLength : word.length = letters.length := by omega
        rw [sameLength, List.take_left, List.drop_left]
        exact Or.inr ⟨rfl, rfl⟩
    · contradiction

theorem takesAtLeast_scan? {magnitude : Magnitude} (wellFormed : magnitude.WellFormed)
    (rest : List Char) :
    TakesAtLeast (scan? (magnitude.text ++ rest)) magnitude rest := by
  cases magnitude with
  | digits whole point fraction exponent => exact takesAtLeast_scan?_digits wellFormed rest
  | word letters =>
      have alphabetic := isAlpha_of_mem_word wellFormed
      have found := takesAtLeast_scanWord? wellFormed rest
      cases letters with
      | nil => simp [WellFormed, words] at wellFormed
      | cons letter others =>
          have isLetter := alphabetic letter List.mem_cons_self
          rw [text, List.cons_append, scan?_of_isAlpha isLetter]
          exact found

end Magnitude

namespace Numeral

/-! ## Numerals -/

/-- Of a text that a numeral begins, that numeral is taken or a longer one. -/
theorem takesAtLeast_scan? {numeral : Numeral} (wellFormed : numeral.WellFormed)
    (rest : List Char) :
    TakesAtLeast (scan? (numeral.text ++ rest)) numeral rest := by
  obtain ⟨sign, magnitude⟩ := numeral
  obtain ⟨isSign, magnitudeFormed⟩ := wellFormed
  have signSplit := splitSign_toList_append isSign
    (Magnitude.beginsOutside_sign magnitudeFormed rest)
  obtain ⟨taken, remainder, scanned, least⟩ :=
    Magnitude.takesAtLeast_scan? magnitudeFormed rest
  dsimp only at signSplit scanned
  refine ⟨⟨sign, taken⟩, remainder, ?_, ?_⟩
  · rw [text, List.append_assoc, scan?, signSplit]
    simp only [scanned, Option.map_some]
  · rcases least with shorter | ⟨rfl, rfl⟩
    · exact Or.inl shorter
    · exact Or.inr ⟨rfl, rfl⟩

/-- A numeral is taken off as a whole where no character of a numeral follows it. -/
theorem scan?_text_append {numeral : Numeral} (wellFormed : numeral.WellFormed) {rest : List Char}
    (apart : BeginsOutside isNumeralChar rest) :
    scan? (numeral.text ++ rest) = some (numeral, rest) := by
  obtain ⟨taken, remainder, scanned, least⟩ := takesAtLeast_scan? wellFormed rest
  rcases least with shorter | ⟨rfl, rfl⟩
  · -- A longer numeral would have the first character of what follows.
    have built := text_append_of_scan? scanned
    have lengths := congrArg List.length built
    rw [List.length_append, List.length_append] at lengths
    have longer : numeral.text.length < taken.text.length := by omega
    cases rest with
    | nil => simp at shorter
    | cons first others =>
        have inTaken : first ∈ taken.text := by
          have place := congrArg (fun text => text[numeral.text.length]?) built
          rw [List.getElem?_append_left longer, List.getElem?_append_right (Nat.le_refl _),
            Nat.sub_self, List.getElem?_cons_zero] at place
          exact List.mem_of_getElem? place
        have outside := apart first rfl
        rw [isNumeralChar_of_mem_text (wellFormed_of_scan? scanned) first inTaken] at outside
        contradiction
  · exact scanned

/-- A text is read as a numeral exactly when it is the text of one. -/
theorem read?_eq_some_iff {text : List Char} {numeral : Numeral} :
    read? text = some numeral ↔ numeral.WellFormed ∧ numeral.text = text := by
  constructor
  · intro isRead
    unfold read? at isRead
    split at isRead
    · rename_i found scanned
      rw [← Option.some.inj isRead]
      refine ⟨wellFormed_of_scan? scanned, ?_⟩
      have whole := text_append_of_scan? scanned
      rwa [List.append_nil] at whole
    · simp at isRead
  · rintro ⟨wellFormed, rfl⟩
    have scanned := scan?_text_append wellFormed (beginsOutside_nil (α := Char))
    rw [List.append_nil] at scanned
    rw [read?, scanned]

/-- Whether a numeral is the longest one that a text begins with. -/
structure IsLongestIn (numeral : Numeral) (text : List Char) : Prop where
  wellFormed : numeral.WellFormed
  begins : numeral.text <+: text
  longest :
    ∀ other : Numeral, other.WellFormed → other.text <+: text →
      other.text.length ≤ numeral.text.length

theorem isLongestIn_of_scan? {text rest : List Char} {numeral : Numeral}
    (scanned : scan? text = some (numeral, rest)) :
    numeral.IsLongestIn text where
  wellFormed := wellFormed_of_scan? scanned
  begins := ⟨rest, text_append_of_scan? scanned⟩
  longest := by
    rintro other otherFormed ⟨otherRest, built⟩
    obtain ⟨taken, remainder, otherScanned, least⟩ :=
      takesAtLeast_scan? otherFormed otherRest
    rw [built, scanned] at otherScanned
    obtain ⟨rfl, rfl⟩ := Prod.mk.inj (Option.some.inj otherScanned)
    have notLess : rest.length ≤ otherRest.length := by
      rcases least with shorter | ⟨-, rfl⟩
      · exact Nat.le_of_lt shorter
      · exact Nat.le_refl _
    have taken := congrArg List.length (text_append_of_scan? scanned)
    have given := congrArg List.length built
    rw [List.length_append] at taken given
    omega

/-- The scanner takes off the longest numeral that a text begins with. -/
theorem scan?_eq_some_iff {text rest : List Char} {numeral : Numeral} :
    scan? text = some (numeral, rest) ↔
      numeral.text ++ rest = text ∧ numeral.IsLongestIn text := by
  constructor
  · intro scanned
    exact ⟨text_append_of_scan? scanned, isLongestIn_of_scan? scanned⟩
  · rintro ⟨built, isLongest⟩
    obtain ⟨taken, remainder, scanned, least⟩ := takesAtLeast_scan? isLongest.wellFormed rest
    rw [built] at scanned
    rcases least with shorter | ⟨rfl, rfl⟩
    · have takenLongest := isLongestIn_of_scan? scanned
      have atMost := isLongest.longest taken takenLongest.wellFormed takenLongest.begins
      have lengths := congrArg List.length ((text_append_of_scan? scanned).trans built.symm)
      rw [List.length_append, List.length_append] at lengths
      omega
    · exact scanned

/-- Nothing is taken off a text exactly when no numeral begins it. -/
theorem scan?_eq_none_iff {text : List Char} :
    scan? text = none ↔ ∀ numeral : Numeral, numeral.WellFormed → ¬numeral.text <+: text := by
  constructor
  · rintro nothing numeral wellFormed ⟨rest, rfl⟩
    obtain ⟨taken, remainder, scanned, -⟩ := takesAtLeast_scan? wellFormed rest
    rw [nothing] at scanned
    contradiction
  · intro noNumeral
    rw [Option.eq_none_iff_forall_ne_some]
    rintro ⟨numeral, rest⟩ scanned
    exact noNumeral numeral (wellFormed_of_scan? scanned) ⟨rest, text_append_of_scan? scanned⟩

end Numeral

end ConstantCatalog
