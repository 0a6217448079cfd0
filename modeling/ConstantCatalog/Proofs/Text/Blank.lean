import ConstantCatalog.Proofs.Text.Pieces
import ConstantCatalog.Proofs.Text.Run
import ConstantCatalog.Text.Blank

/-!
Contract: padding, trimming and words, each recovered from the others.

A text is its trimmed form between two runs of blanks, and its words do not change
when it is trimmed. The first word of a text stands after leading blanks and before a
blank or the end; with that a list of words says where in the text each of them is.

Owns: `AllBlank`, `Blanks`, `Gap`, `IsWord`, `BlankFreeEnds`, and the laws of
`trimBlanks` and `blankSeparatedWords`.

Does not own: what words mean in a declaration.
-/

namespace ConstantCatalog

/-- A text of spaces and tabs alone. -/
def AllBlank (text : List Char) : Prop :=
  ∀ character ∈ text, isBlank character = true

/-- Spaces and tabs, possibly none. -/
structure Blanks where
  text : List Char
  blank : AllBlank text

/-- At least one space or tab. -/
structure Gap extends Blanks where
  nonempty : text ≠ []

/-- A text that is not empty and has no blank in it. -/
def IsWord (text : List Char) : Prop :=
  text ≠ [] ∧ ∀ character ∈ text, isBlank character = false

instance (text : List Char) : Decidable (IsWord text) :=
  decidable_of_iff ((!text.isEmpty && text.all (!isBlank ·)) = true) (by simp [IsWord])

/-- A text that neither begins nor ends with a blank. -/
def BlankFreeEnds (text : List Char) : Prop :=
  BeginsOutside isBlank text ∧ BeginsOutside isBlank text.reverse

/-! ## Trimming -/

theorem allBlank_nil : AllBlank [] := by
  simp [AllBlank]

/-- A text that ends in a gap ends in a blank. -/
theorem Gap.exists_last (gap : Gap) (before : List Char) :
    ∃ front blank, before ++ gap.text = front ++ [blank] ∧ isBlank blank = true := by
  refine ⟨before ++ gap.text.dropLast, gap.text.getLast gap.nonempty, ?_,
    gap.blank _ (List.getLast_mem gap.nonempty)⟩
  rw [List.append_assoc, List.dropLast_concat_getLast]

theorem Gap.beginsOutside_append (gap : Gap) (behind : List Char) :
    BeginsOutside (fun character => !isBlank character) (gap.text ++ behind) := by
  obtain ⟨⟨text, blank⟩, nonempty⟩ := gap
  cases text with
  | nil => exact absurd rfl nonempty
  | cons first rest =>
      apply beginsOutside_cons
      rw [blank first List.mem_cons_self]
      rfl

theorem AllBlank.reverse {text : List Char} (blank : AllBlank text) :
    AllBlank text.reverse := by
  intro character member
  exact blank character (List.mem_reverse.1 member)

theorem blankFreeEnds_of_solid {text : List Char}
    (solid : ∀ character ∈ text, isBlank character = false) :
    BlankFreeEnds text := by
  constructor
  · intro character first
    exact solid character (List.mem_of_head? first)
  · intro character last
    exact solid character (List.mem_reverse.1 (List.mem_of_head? last))

theorem IsWord.blankFreeEnds {text : List Char} (word : IsWord text) :
    BlankFreeEnds text :=
  blankFreeEnds_of_solid word.2

/-- A text has blank-free ends if what stands before and behind one of its solid
characters has none at the outer ends. -/
theorem blankFreeEnds_append_cons {front kept : List Char} {solid : Char}
    (isSolid : isBlank solid = false) (frontBegins : BeginsOutside isBlank front)
    (keptEnds : BeginsOutside isBlank kept.reverse) :
    BlankFreeEnds (front ++ solid :: kept) := by
  constructor
  · exact beginsOutside_append frontBegins (beginsOutside_cons kept isSolid)
  · rw [List.reverse_append, List.reverse_cons, List.append_assoc]
    exact beginsOutside_append keptEnds (beginsOutside_cons front.reverse isSolid)

theorem blankFreeEnds_enclosed {first last : Char} (firstSolid : isBlank first = false)
    (lastSolid : isBlank last = false) (inner : List Char) :
    BlankFreeEnds (first :: (inner ++ [last])) := by
  have begins : BeginsOutside isBlank (first :: inner) := beginsOutside_cons inner firstSolid
  have ends : BeginsOutside isBlank ([] : List Char).reverse := beginsOutside_nil
  exact blankFreeEnds_append_cons lastSolid begins ends

theorem exists_trailing_blanks (text : List Char) :
    ∃ kept trail, AllBlank trail ∧ BeginsOutside isBlank kept.reverse ∧
      text = kept ++ trail := by
  refine ⟨(text.reverse.dropWhile isBlank).reverse, (text.reverse.takeWhile isBlank).reverse,
    fun _ member => holds_of_mem_takeWhile (List.mem_reverse.1 member), ?_, ?_⟩
  · rw [List.reverse_reverse]
    exact beginsOutside_dropWhile text.reverse
  · rw [← List.reverse_append, List.takeWhile_append_dropWhile, List.reverse_reverse]

/-- A text with blank-free ends is what trimming leaves, whatever blanks surround
it. -/
theorem trimBlanks_padded {lead core trail : List Char} (leadBlank : AllBlank lead)
    (trailBlank : AllBlank trail) (ends : BlankFreeEnds core) :
    trimBlanks (lead ++ core ++ trail) = core := by
  unfold trimBlanks
  rw [List.append_assoc, List.dropWhile_append_of_pos leadBlank]
  cases core with
  | nil =>
      have nothing : trail.dropWhile isBlank = [] := by
        rw [← List.append_nil trail, List.dropWhile_append_of_pos trailBlank]
        rfl
      rw [List.nil_append, nothing]
      rfl
  | cons first rest =>
      have firstOutside : isBlank first = false := ends.1 first rfl
      rw [List.cons_append, List.dropWhile_cons_of_neg (by simp [firstOutside]),
        ← List.cons_append, List.reverse_append,
        List.dropWhile_append_of_pos trailBlank.reverse, dropWhile_eq_self ends.2,
        List.reverse_reverse]

theorem trimBlanks_eq_self {text : List Char} (ends : BlankFreeEnds text) :
    trimBlanks text = text := by
  simpa using trimBlanks_padded allBlank_nil allBlank_nil ends

/-- Every text is its trimmed form with blanks around it. -/
theorem exists_padding (text : List Char) :
    ∃ lead trail, AllBlank lead ∧ AllBlank trail ∧
      text = lead ++ trimBlanks text ++ trail := by
  refine ⟨text.takeWhile isBlank,
    ((text.dropWhile isBlank).reverse.takeWhile isBlank).reverse,
    fun _ member => holds_of_mem_takeWhile member,
    fun _ member => holds_of_mem_takeWhile (List.mem_reverse.1 member), ?_⟩
  unfold trimBlanks
  rw [List.append_assoc, ← List.reverse_append, List.takeWhile_append_dropWhile,
    List.reverse_reverse, List.takeWhile_append_dropWhile]

theorem blankFreeEnds_trimBlanks (text : List Char) :
    BlankFreeEnds (trimBlanks text) := by
  unfold trimBlanks
  constructor
  · -- The first character that is kept was the first one before the end was trimmed.
    intro character first
    have inside : character ∈ (text.dropWhile isBlank).head? := by
      have split := List.takeWhile_append_dropWhile
        (p := isBlank) (l := (text.dropWhile isBlank).reverse)
      have whole := congrArg List.reverse split
      rw [List.reverse_append, List.reverse_reverse] at whole
      rw [← whole, List.head?_append, first]
      rfl
    exact beginsOutside_dropWhile text character inside
  · rw [List.reverse_reverse]
    exact beginsOutside_dropWhile _

theorem trimBlanks_eq_nil {text : List Char} (blank : AllBlank text) :
    trimBlanks text = [] := by
  have trimmed : trimBlanks (text ++ [] ++ []) = [] :=
    trimBlanks_padded blank allBlank_nil ⟨beginsOutside_nil, beginsOutside_nil⟩
  simpa using trimmed

/-- Blanks at the end of a text do not change its trimmed form. -/
theorem trimBlanks_append_blanks {trail : List Char} (trailBlank : AllBlank trail)
    (text : List Char) :
    trimBlanks (text ++ trail) = trimBlanks text := by
  obtain ⟨lead, tail, leadBlank, endBlank, built⟩ := exists_padding text
  have both : AllBlank (tail ++ trail) := by
    intro character member
    rcases List.mem_append.1 member with inEnd | inTrail
    · exact endBlank character inEnd
    · exact trailBlank character inTrail
  conv => lhs; rw [built, List.append_assoc]
  exact trimBlanks_padded leadBlank both (blankFreeEnds_trimBlanks text)

/-! ## Words -/

/-- The words of a text are those before a blank and those after it. -/
theorem blankSeparatedWords_append_cons {blank : Char} (separates : isBlank blank = true)
    (before after : List Char) :
    blankSeparatedWords (before ++ blank :: after) =
      blankSeparatedWords before ++ blankSeparatedWords after := by
  unfold blankSeparatedWords
  rw [pieces_append_cons separates, List.filter_append]

theorem blankSeparatedWords_blanks_append {blanks : List Char} (blank : AllBlank blanks)
    (text : List Char) :
    blankSeparatedWords (blanks ++ text) = blankSeparatedWords text := by
  induction blanks with
  | nil => rfl
  | cons first rest inductionHypothesis =>
      have divided := blankSeparatedWords_append_cons
        (blank first List.mem_cons_self) [] (rest ++ text)
      rw [List.cons_append]
      refine divided.trans ?_
      exact inductionHypothesis fun other member =>
        blank other (List.mem_cons_of_mem _ member)

/-- A gap of at least one blank separates words. -/
theorem blankSeparatedWords_gap {gap : List Char} (blank : AllBlank gap) (nonempty : gap ≠ [])
    (before after : List Char) :
    blankSeparatedWords (before ++ gap ++ after) =
      blankSeparatedWords before ++ blankSeparatedWords after := by
  cases gap with
  | nil => exact absurd rfl nonempty
  | cons first rest =>
      rw [List.append_assoc, List.cons_append,
        blankSeparatedWords_append_cons (blank first List.mem_cons_self),
        blankSeparatedWords_blanks_append fun other member =>
          blank other (List.mem_cons_of_mem _ member)]

theorem blankSeparatedWords_append_blanks {blanks : List Char} (blank : AllBlank blanks)
    (text : List Char) :
    blankSeparatedWords (text ++ blanks) = blankSeparatedWords text := by
  cases blanks with
  | nil => rw [List.append_nil]
  | cons first rest =>
      have divided := blankSeparatedWords_gap blank (by simp) text []
      simpa [blankSeparatedWords] using divided

theorem blankSeparatedWords_word {word : List Char} (isWord : IsWord word) :
    blankSeparatedWords word = [word] := by
  unfold blankSeparatedWords
  rw [pieces_eq_singleton isWord.2]
  simp [isWord.1]

/-- Trimming changes no word. -/
theorem blankSeparatedWords_trimBlanks (text : List Char) :
    blankSeparatedWords (trimBlanks text) = blankSeparatedWords text := by
  obtain ⟨lead, trail, leadBlank, trailBlank, built⟩ := exists_padding text
  conv => rhs; rw [built]
  rw [blankSeparatedWords_append_blanks trailBlank,
    blankSeparatedWords_blanks_append leadBlank]

/-- The first word of a text stands behind blanks, and a blank or the end of the text
stands behind it. The other words are those of what is left. -/
theorem exists_first_word {text word : List Char} {others : List (List Char)}
    (words : blankSeparatedWords text = word :: others) :
    ∃ lead after, AllBlank lead ∧ IsWord word ∧
      BeginsOutside (fun character => !isBlank character) after ∧
      text = lead ++ word ++ after ∧ blankSeparatedWords after = others := by
  have parts : text.takeWhile isBlank ++ text.dropWhile isBlank = text :=
    List.takeWhile_append_dropWhile
  have leadBlank : AllBlank (text.takeWhile isBlank) :=
    fun _ member => holds_of_mem_takeWhile member
  rw [← parts, blankSeparatedWords_blanks_append leadBlank] at words
  have outside : BeginsOutside isBlank (text.dropWhile isBlank) :=
    beginsOutside_dropWhile text
  -- What follows the leading blanks is cut at its first blank, if it has one.
  rcases plain_or_divided isBlank (text.dropWhile isBlank) with plain |
    ⟨before, separator, after, plain, separates, built⟩
  · have nonempty : text.dropWhile isBlank ≠ [] := by
      intro empty
      rw [empty] at words
      exact absurd words (by simp [blankSeparatedWords])
    rw [blankSeparatedWords_word ⟨nonempty, plain⟩] at words
    obtain ⟨wordEq, othersEq⟩ := List.cons.inj words
    refine ⟨_, [], leadBlank, wordEq ▸ ⟨nonempty, plain⟩, beginsOutside_nil, ?_, othersEq⟩
    rw [← wordEq, List.append_nil, parts]
  · have nonempty : before ≠ [] := by
      intro empty
      subst empty
      have stopped := outside separator (by rw [built]; rfl)
      simp [separates] at stopped
    rw [built, blankSeparatedWords_append_cons separates,
      blankSeparatedWords_word ⟨nonempty, plain⟩] at words
    obtain ⟨wordEq, othersEq⟩ := List.cons.inj words
    refine ⟨_, separator :: after, leadBlank, wordEq ▸ ⟨nonempty, plain⟩,
      beginsOutside_cons _ (by simp [separates]), ?_, ?_⟩
    · rw [← wordEq, List.append_assoc, ← built, parts]
    · rw [← othersEq]
      exact blankSeparatedWords_append_cons separates [] after

/-- A text that begins with something else than a blank has a word. -/
private theorem blankSeparatedWords_ne_nil {first : Char} (solid : isBlank first = false)
    (rest : List Char) :
    blankSeparatedWords (first :: rest) ≠ [] := by
  unfold blankSeparatedWords
  rw [pieces_cons]
  unfold addToPieces
  rw [if_neg (by simp [solid])]
  split
  · simp
  · simp

theorem allBlank_of_no_words {text : List Char} (wordless : blankSeparatedWords text = []) :
    AllBlank text := by
  induction text with
  | nil => exact allBlank_nil
  | cons first rest inductionHypothesis =>
      cases blank : isBlank first with
      | false => exact absurd wordless (blankSeparatedWords_ne_nil blank rest)
      | true =>
          have divided := blankSeparatedWords_append_cons blank [] rest
          rw [List.nil_append, wordless] at divided
          have restBlank := inductionHypothesis divided.symm
          intro character member
          rcases List.mem_cons.1 member with rfl | inside
          · exact blank
          · exact restBlank character inside

end ConstantCatalog
