import ConstantCatalog.Constant.Declaration
import ConstantCatalog.Proofs.Text.Blank

/-!
Contract: the header of a declaration as words and as a place in its line.

A line is a declaration when its words begin with `const`, a keyword, a name and an
equals sign. The value is cut off elsewhere: behind the first equals sign of the line,
word or not. The two agree where keyword and name have no equals sign in them.

Owns: `HasHeader`, its agreement with words and with `ConstantLine.ofText`, and what
stands behind the first equals sign.

Does not own: the reading of values.
-/

namespace ConstantCatalog

/-- The header of a declaration: `const`, a keyword and a name before an equals sign
that is a word of its own. `opening` is what stands before that equals sign, `after`
what stands behind it. -/
structure HasHeader (text opening keyword name after : List Char) : Prop where
  text_eq : text = opening ++ '=' :: after
  opening_words : blankSeparatedWords opening = ["const".toList, keyword, name]
  opening_ends : ∃ front blank, opening = front ++ [blank] ∧ isBlank blank = true
  after_begins : BeginsOutside (fun character => !isBlank character) after

/-! ## Words -/

/-- A word that stands behind a gap: where a blank must come first, one does. -/
private theorem gap_ne_nil {gap word rest : List Char}
    (begins : BeginsOutside (fun character => !isBlank character) (gap ++ word ++ rest))
    (isWord : IsWord word) :
    gap ≠ [] := by
  intro empty
  subst empty
  cases word with
  | nil => exact isWord.1 rfl
  | cons first others =>
      have solid := isWord.2 first List.mem_cons_self
      have blank := begins first rfl
      simp [solid] at blank

theorem HasHeader.words {text opening keyword name after : List Char}
    (header : HasHeader text opening keyword name after) :
    blankSeparatedWords text =
      "const".toList :: keyword :: name :: ['='] :: blankSeparatedWords after := by
  obtain ⟨rfl, openingWords, ⟨front, blank, rfl, isBlank⟩, afterBegins⟩ := header
  have equalsWord : IsWord ['='] := by decide
  have lastBlank : AllBlank [blank] := by simpa [AllBlank] using isBlank
  have behind : blankSeparatedWords ('=' :: after) = ['='] :: blankSeparatedWords after := by
    cases after with
    | nil => exact blankSeparatedWords_word equalsWord
    | cons first rest =>
        have firstBlank : ConstantCatalog.isBlank first = true := by
          simpa using afterBegins first rfl
        have divided := blankSeparatedWords_append_cons firstBlank ['='] rest
        have trailing := blankSeparatedWords_append_cons firstBlank [] rest
        rw [blankSeparatedWords_word equalsWord] at divided
        exact divided.trans (congrArg (['='] :: ·) trailing.symm)
  rw [blankSeparatedWords_append_blanks lastBlank] at openingWords
  rw [List.append_assoc, List.singleton_append, blankSeparatedWords_append_cons isBlank,
    openingWords, behind]
  rfl

/-- Words that begin like a declaration stand in the text as its header. -/
theorem exists_header {text keyword name : List Char} {others : List (List Char)}
    (words : blankSeparatedWords text =
      "const".toList :: keyword :: name :: ['='] :: others) :
    ∃ opening after, HasHeader text opening keyword name after ∧
      blankSeparatedWords after = others := by
  obtain ⟨lead, afterConst, leadBlank, constWord, constBegins, rfl, keywordFirst⟩ :=
    exists_first_word words
  obtain ⟨gapBeforeKeyword, afterKeyword, keywordGapBlank, keywordWord, keywordBegins, rfl,
    nameFirst⟩ := exists_first_word keywordFirst
  obtain ⟨gapBeforeName, afterName, nameGapBlank, nameWord, nameBegins, rfl, equalsFirst⟩ :=
    exists_first_word nameFirst
  obtain ⟨gapBeforeEquals, after, equalsGapBlank, equalsWord, afterBegins, rfl, afterWords⟩ :=
    exists_first_word equalsFirst
  have keywordGap := gap_ne_nil constBegins keywordWord
  have nameGap := gap_ne_nil keywordBegins nameWord
  have equalsGap := gap_ne_nil nameBegins equalsWord
  refine ⟨lead ++ "const".toList ++ gapBeforeKeyword ++ keyword ++ gapBeforeName ++ name ++
    gapBeforeEquals, after, ⟨?_, ?_, ?_, afterBegins⟩, afterWords⟩
  · simp only [List.append_assoc, List.cons_append, List.nil_append]
  · rw [blankSeparatedWords_append_blanks equalsGapBlank,
      blankSeparatedWords_gap nameGapBlank nameGap,
      blankSeparatedWords_gap keywordGapBlank keywordGap,
      blankSeparatedWords_blanks_append leadBlank, blankSeparatedWords_word constWord,
      blankSeparatedWords_word keywordWord, blankSeparatedWords_word nameWord]
    rfl
  · exact Gap.exists_last ⟨⟨gapBeforeEquals, equalsGapBlank⟩, equalsGap⟩ _

/-! ## The first equals sign -/

theorem afterEquals_append {before : List Char} (noEquals : '=' ∉ before) (after : List Char) :
    afterEquals (before ++ '=' :: after) = after := by
  have passed : ∀ character ∈ before, (character != '=') = true := by
    intro character member
    have different : character ≠ '=' := fun equal => noEquals (equal ▸ member)
    simp [different]
  unfold afterEquals
  rw [List.dropWhile_append_of_pos passed, List.dropWhile_cons_of_neg (by simp)]
  rfl

private theorem afterEquals_eq_nil {text : List Char} (noEquals : '=' ∉ text) :
    afterEquals text = [] := by
  have passed : ∀ character ∈ text, (character != '=') = true := by
    intro character member
    have different : character ≠ '=' := fun equal => noEquals (equal ▸ member)
    simp [different]
  have passedAll : text.dropWhile (· != '=') = [] := by
    rw [← List.append_nil text, List.dropWhile_append_of_pos passed]
    rfl
  rw [afterEquals, passedAll]
  rfl

theorem AllBlank.no_equals {blanks : List Char} (blank : AllBlank blanks) :
    '=' ∉ blanks := by
  intro member
  have isOne := blank '=' member
  contradiction

/-- It does not matter whether a line is trimmed before its value is cut off. -/
private theorem trimBlanks_afterEquals_trimBlanks (text : List Char) :
    trimBlanks (afterEquals (trimBlanks text)) = trimBlanks (afterEquals text) := by
  obtain ⟨lead, trail, leadBlank, trailBlank, built⟩ := exists_padding text
  by_cases present : '=' ∈ trimBlanks text
  · obtain ⟨before, after, split, noEquals⟩ := List.eq_append_cons_of_mem present
    have outer : text = (lead ++ before) ++ '=' :: (after ++ trail) := by
      rw [built, split]
      simp
    have outerNoEquals : '=' ∉ lead ++ before := by
      intro member
      rcases List.mem_append.1 member with inLead | inBefore
      · exact leadBlank.no_equals inLead
      · exact noEquals inBefore
    rw [split, afterEquals_append noEquals, outer, afterEquals_append outerNoEquals,
      trimBlanks_append_blanks trailBlank]
  · have absent : '=' ∉ text := by
      rw [built]
      intro member
      rcases List.mem_append.1 member with inFront | inTrail
      · rcases List.mem_append.1 inFront with inLead | inside
        · exact leadBlank.no_equals inLead
        · exact present inside
      · exact trailBlank.no_equals inTrail
    rw [afterEquals_eq_nil present, afterEquals_eq_nil absent]

/-- What stands before the equals sign of a header, blank by blank and word by word. -/
theorem HasHeader.exists_opening_parts {text opening keyword name after : List Char}
    (header : HasHeader text opening keyword name after) :
    ∃ lead keywordGap nameGap gap,
      AllBlank lead ∧ AllBlank keywordGap ∧ AllBlank nameGap ∧ AllBlank gap ∧ IsWord name ∧
        opening = lead ++ "const".toList ++ keywordGap ++ keyword ++ nameGap ++ name ++ gap := by
  obtain ⟨lead, afterConst, leadBlank, -, -, constSplit, keywordFirst⟩ :=
    exists_first_word header.opening_words
  obtain ⟨keywordGap, afterKeyword, keywordGapBlank, -, -, keywordSplit, nameFirst⟩ :=
    exists_first_word keywordFirst
  obtain ⟨nameGap, gap, nameGapBlank, nameWord, -, nameSplit, wordless⟩ :=
    exists_first_word nameFirst
  refine ⟨lead, keywordGap, nameGap, gap, leadBlank, keywordGapBlank, nameGapBlank,
    allBlank_of_no_words wordless, nameWord, ?_⟩
  rw [constSplit, keywordSplit, nameSplit]
  simp only [List.append_assoc]

/-- With no equals sign in keyword and name, the value is what stands behind the
header. -/
theorem HasHeader.afterEquals_eq {text opening keyword name after : List Char}
    (header : HasHeader text opening keyword name after) (plainKeyword : '=' ∉ keyword)
    (plainName : '=' ∉ name) :
    afterEquals text = after := by
  obtain ⟨lead, keywordGap, nameGap, gap, leadBlank, keywordGapBlank, nameGapBlank, gapBlank, -,
    parts⟩ := header.exists_opening_parts
  have plain : '=' ∉ opening := by
    rw [parts]
    simp only [List.mem_append, not_or]
    exact ⟨⟨⟨⟨⟨⟨leadBlank.no_equals, by decide⟩, keywordGapBlank.no_equals⟩, plainKeyword⟩,
      nameGapBlank.no_equals⟩, plainName⟩, gapBlank.no_equals⟩
  rw [header.text_eq]
  exact afterEquals_append plain after

/-- With an equals sign in the name, the value begins inside the name and has the
header's own equals sign in it. The line and the value end alike. -/
theorem HasHeader.value_of_name {text opening keyword after stem tail : List Char}
    (header : HasHeader text opening keyword (stem ++ '=' :: tail) after)
    (plainKeyword : '=' ∉ keyword) (plainStem : '=' ∉ stem) :
    ∃ before front kept, trimBlanks text = before ++ '=' :: kept ∧
      trimBlanks (afterEquals text) = front ++ '=' :: kept ∧ front.head? = tail.head? := by
  obtain ⟨lead, keywordGap, nameGap, gap, leadBlank, keywordGapBlank, nameGapBlank, gapBlank,
    nameWord, parts⟩ := header.exists_opening_parts
  obtain ⟨kept, trail, trailBlank, keptEnds, afterSplit⟩ := exists_trailing_blanks after
  have solid : isBlank '=' = false := by decide
  have plain : '=' ∉ lead ++ "const".toList ++ keywordGap ++ keyword ++ nameGap ++ stem := by
    simp only [List.mem_append, not_or]
    exact ⟨⟨⟨⟨⟨leadBlank.no_equals, by decide⟩, keywordGapBlank.no_equals⟩, plainKeyword⟩,
      nameGapBlank.no_equals⟩, plainStem⟩
  have valueText : afterEquals text = tail ++ gap ++ '=' :: kept ++ trail := by
    have layout : text =
        (lead ++ "const".toList ++ keywordGap ++ keyword ++ nameGap ++ stem) ++
          '=' :: (tail ++ gap ++ '=' :: kept ++ trail) := by
      rw [header.text_eq, parts, afterSplit]
      simp only [List.append_assoc, List.cons_append]
    rw [layout, afterEquals_append plain]
  have lineTrimmed : trimBlanks text =
      ("const".toList ++ keywordGap ++ keyword ++ nameGap ++ (stem ++ '=' :: tail) ++ gap) ++
        '=' :: kept := by
    have layout : text =
        lead ++ (("const".toList ++ keywordGap ++ keyword ++ nameGap ++
          (stem ++ '=' :: tail) ++ gap) ++ '=' :: kept) ++ trail := by
      rw [header.text_eq, parts, afterSplit]
      simp only [List.append_assoc, List.cons_append]
    rw [layout]
    exact trimBlanks_padded leadBlank trailBlank
      (blankFreeEnds_append_cons solid (beginsOutside_cons _ (by decide)) keptEnds)
  cases tail with
  | nil =>
      refine ⟨_, [], kept, lineTrimmed, ?_, rfl⟩
      rw [valueText]
      exact trimBlanks_padded gapBlank trailBlank
        (blankFreeEnds_append_cons solid beginsOutside_nil keptEnds)
  | cons first others =>
      refine ⟨_, first :: others ++ gap, kept, lineTrimmed, ?_, rfl⟩
      have firstSolid : isBlank first = false := nameWord.2 first (by simp)
      rw [valueText]
      exact trimBlanks_padded allBlank_nil trailBlank
        (blankFreeEnds_append_cons solid (beginsOutside_cons _ firstSolid) keptEnds)

/-- So an equals sign in the name puts one into the value. -/
theorem HasHeader.equals_mem_value {text opening keyword name after : List Char}
    (header : HasHeader text opening keyword name after) (plainKeyword : '=' ∉ keyword)
    (equals : '=' ∈ name) :
    '=' ∈ trimBlanks (afterEquals text) := by
  obtain ⟨stem, tail, rfl, plainStem⟩ := List.eq_append_cons_of_mem equals
  obtain ⟨before, front, kept, -, valueTrimmed, -⟩ :=
    header.value_of_name plainKeyword plainStem
  rw [valueTrimmed]
  exact List.mem_append_right front List.mem_cons_self

/-! ## Lines -/

/-- A text whose first word is `const` is neither blank nor a comment. -/
private theorem not_silent_of_words {text : List Char} {others : List (List Char)}
    (words : blankSeparatedWords text = "const".toList :: others) :
    ((trimBlanks text).isEmpty || ['/', '/'].isPrefixOf (trimBlanks text)) = false := by
  rw [← blankSeparatedWords_trimBlanks] at words
  obtain ⟨lead, after, leadBlank, -, -, built, -⟩ := exists_first_word words
  have ends := blankFreeEnds_trimBlanks text
  rw [built] at ends ⊢
  cases lead with
  | nil => rfl
  | cons first rest =>
      have solid := ends.1 first rfl
      rw [leadBlank first List.mem_cons_self] at solid
      contradiction

/-- A line with a header is a declaration; its value is cut off behind its first
equals sign. -/
theorem ofText_of_hasHeader {text opening keyword name after : List Char}
    (header : HasHeader text opening keyword name after) :
    ConstantLine.ofText text =
      .declaration keyword name (trimBlanks (afterEquals text)) := by
  have words := header.words
  have speaks := not_silent_of_words words
  rw [← blankSeparatedWords_trimBlanks] at words
  unfold ConstantLine.ofText
  simp only [speaks, Bool.false_eq_true, if_false, words, BEq.rfl, Bool.and_self, if_true,
    trimBlanks_afterEquals_trimBlanks]

/-- Only lines with a header are declarations. -/
theorem exists_header_of_ofText {text keyword name value : List Char}
    (declares : ConstantLine.ofText text = .declaration keyword name value) :
    ∃ opening after, HasHeader text opening keyword name after ∧
      value = trimBlanks (afterEquals text) := by
  unfold ConstantLine.ofText at declares
  dsimp only at declares
  split at declares
  · contradiction
  · split at declares
    · rename_i first second third fourth others words
      split at declares
      · rename_i shaped
        rw [Bool.and_eq_true] at shaped
        obtain ⟨isConst, isEquals⟩ := shaped
        obtain ⟨rfl, rfl, rfl⟩ := ConstantLine.declaration.inj declares
        rw [eq_of_beq isConst, eq_of_beq isEquals, blankSeparatedWords_trimBlanks] at words
        obtain ⟨opening, after, header, -⟩ := exists_header words
        exact ⟨opening, after, header, trimBlanks_afterEquals_trimBlanks text⟩
      · contradiction
    · contradiction

end ConstantCatalog
