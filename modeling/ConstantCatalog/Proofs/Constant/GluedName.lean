import ConstantCatalog.Proofs.Constant.Reading

/-!
Contract: the equals sign of a header and the equals sign that the value is cut off at.

The header of a declaration is judged by its words, and its value is what stands behind
the first equals sign of the line. The two are the same equals sign unless the name has
one in it. Then the value begins inside the name, and only a text can be such a value:
its opening quote stands in the name behind the equals sign, its closing quote at the
end of the line.

Owns: `DeclaresGluedText`, and what accepted lines and lines with an equals sign in
their third word come to.

Does not own: the grammars of values.
-/

namespace ConstantCatalog

/-- A declaration of a text that begins inside the name: behind the first equals sign of
the name stands a quote, and another one ends the line. -/
def DeclaresGluedText (line : List Char) : Prop :=
  ∃ keyword stem tail others,
    blankSeparatedWords line =
      "const".toList :: keyword :: (stem ++ '=' :: '\x22' :: tail) :: ['='] :: others ∧
    (keyword = "string".toList ∨ keyword = "key".toList) ∧
    '=' ∉ stem ∧
    (trimBlanks line).getLast? = some '\x22'

private theorem getLast?_append_equals (front kept : List Char) :
    (front ++ '=' :: kept).getLast? = ('=' :: kept).getLast? := by
  rw [List.getLast?_append, List.getLast?_cons]
  rfl

/-- A text with an equals sign in it is a string literal exactly when it begins and ends
with a quote. -/
private theorem unquoted?_append_equals (front kept : List Char) :
    (unquoted? (front ++ '=' :: kept)).isSome = true ↔
      front.head? = some '\x22' ∧ ('=' :: kept).getLast? = some '\x22' := by
  cases front with
  | nil => simp [unquoted?]
  | cons first others =>
      by_cases quote : first = '\x22'
      · subst quote
        rw [List.cons_append, unquoted?, getLast?_append_equals]
        by_cases closed : ('=' :: kept).getLast? = some '\x22'
        · simp [closed]
        · simp [closed]
      · have unopened : unquoted? (first :: (others ++ '=' :: kept)) = none := by
          unfold unquoted?
          split
          · rename_i opened
            exact absurd (List.cons.inj opened).1 quote
          · rfl
        rw [List.cons_append, unopened]
        simp [quote]

/-- With an equals sign in its name, a declaration is one of a glued text exactly when its
kind is one of texts and its value is quoted. -/
private theorem declaresGluedText_iff {line opening keyword name after : List Char}
    {kind : ConstantKind} (header : HasHeader line opening keyword name after) (equals : '=' ∈ name)
    (known : ConstantKind.ofKeyword? (String.ofList keyword) = some kind) :
    DeclaresGluedText line ↔
      kind.isText = true ∧ (unquoted? (trimBlanks (afterEquals line))).isSome = true := by
  obtain ⟨stem, tail, rfl, plainStem⟩ := List.eq_append_cons_of_mem equals
  obtain ⟨before, front, kept, lineTrimmed, valueTrimmed, sameHead⟩ :=
    header.value_of_name (no_equals_of_ofKeyword? known) plainStem
  have words := header.words
  have lastLine : (trimBlanks line).getLast? = ('=' :: kept).getLast? := by
    rw [lineTrimmed, getLast?_append_equals]
  rw [valueTrimmed, unquoted?_append_equals, sameHead, ← lastLine,
    isText_iff_of_ofKeyword? known]
  constructor
  · rintro ⟨otherKeyword, otherStem, otherTail, others, otherWords, isText, plainOther, last⟩
    rw [words] at otherWords
    obtain ⟨-, afterConst⟩ := List.cons.inj otherWords
    obtain ⟨rfl, afterKeyword⟩ := List.cons.inj afterConst
    obtain ⟨sameName, -⟩ := List.cons.inj afterKeyword
    have sameTail : tail = '\x22' :: otherTail := by
      have behind := congrArg afterEquals sameName
      rwa [afterEquals_append plainStem, afterEquals_append plainOther] at behind
    exact ⟨isText, by rw [sameTail]; rfl, last⟩
  · rintro ⟨isText, quoted, last⟩
    obtain ⟨rest, rfl⟩ := List.head?_eq_some_iff.1 quoted
    exact ⟨keyword, stem, rest, _, words, isText, plainStem, last⟩

/-- Where the name has an equals sign in it, a value is read exactly from a glued
text. -/
private theorem readValue_of_glued_name {line opening keyword name after : List Char}
    {kind : ConstantKind} (header : HasHeader line opening keyword name after) (equals : '=' ∈ name)
    (known : ConstantKind.ofKeyword? (String.ofList keyword) = some kind) :
    (DeclaresGluedText line →
      ∃ found, readValue kind (trimBlanks (afterEquals line)) = .ok (some found)) ∧
    (¬DeclaresGluedText line →
      readValue kind (trimBlanks (afterEquals line)) = .ok none) := by
  have glued := declaresGluedText_iff header equals known
  have inValue := header.equals_mem_value (no_equals_of_ofKeyword? known) equals
  constructor
  · intro isGlued
    obtain ⟨isText, isQuoted⟩ := glued.1 isGlued
    obtain ⟨build, reads⟩ := exists_readValue_of_isText isText
    obtain ⟨content, unquoted⟩ := Option.isSome_iff_exists.1 isQuoted
    exact ⟨build content, by rw [reads, unquoted]; rfl⟩
  · intro notGlued
    cases isText : kind.isText with
    | false => exact readValue_eq_none_of_equals inValue isText
    | true =>
        obtain ⟨build, reads⟩ := exists_readValue_of_isText isText
        have unquoted : unquoted? (trimBlanks (afterEquals line)) = none := by
          rw [← Option.not_isSome_iff_eq_none]
          exact fun isQuoted => notGlued (glued.2 ⟨isText, isQuoted⟩)
        rw [reads, unquoted]
        rfl

private theorem accepted_of_declaresGluedText {line : String}
    (glued : DeclaresGluedText line.toList) :
    ∃ key constant sizes, constantFormat.readLine line = .accepted key constant sizes [] := by
  have isGlued := glued
  obtain ⟨keyword, stem, tail, others, words, isText, -, -⟩ := isGlued
  obtain ⟨opening, after, header, -⟩ := exists_header words
  have known : ∃ kind, ConstantKind.ofKeyword? (String.ofList keyword) = some kind := by
    rcases isText with rfl | rfl
    · exact ⟨.string, rfl⟩
    · exact ⟨.key, rfl⟩
  obtain ⟨kind, isKind⟩ := known
  have equals : '=' ∈ stem ++ '=' :: '\x22' :: tail := by simp
  obtain ⟨found, isRead⟩ := (readValue_of_glued_name header equals isKind).1 glued
  refine ⟨_, _, _, (readConstantLine_eq_iff (by simp)).2
    ⟨opening, keyword, _, after, header, readDeclaration_eq_accepted_iff.2
      ⟨not_reserved_of_equals equals, kind, found, isKind, isRead, rfl, rfl, rfl, rfl⟩⟩⟩

private theorem skips_of_not_declaresGluedText {line : String} {first second third : List Char}
    {others : List (List Char)}
    (words : blankSeparatedWords line.toList = first :: second :: third :: others)
    (equals : '=' ∈ third) (notGlued : ¬DeclaresGluedText line.toList) :
    constantFormat.Skips line := by
  apply Classical.byContradiction
  intro speaks
  have notSkipped : ∀ events, readConstantLine line ≠ .skipped events :=
    fun events skipped => speaks ⟨events, skipped⟩
  obtain ⟨opening, keyword, name, after, header⟩ := exists_header_of_readConstantLine notSkipped
  have sameName : name = third := by
    rw [header.words] at words
    exact (List.cons.inj (List.cons.inj (List.cons.inj words).2).2).1
  subst sameName
  -- Whatever else the line is read as, its value has been read or refused before.
  cases reading : readConstantLine line with
  | skipped events => exact notSkipped events reading
  | unconvertible fault =>
      rw [readConstantLine_of_hasHeader header] at reading
      obtain ⟨-, kind, known, refused⟩ := readDeclaration_eq_unconvertible_iff.1 reading
      rw [(readValue_of_glued_name header equals known).2 notGlued] at refused
      contradiction
  | accepted key constant sizes events =>
      rw [readConstantLine_of_hasHeader header] at reading
      obtain ⟨-, kind, found, known, isRead, -⟩ := readDeclaration_eq_accepted_iff.1 reading
      rw [(readValue_of_glued_name header equals known).2 notGlued] at isRead
      simp at isRead

/-- Every accepted line names its constant by its third word, and its value is the one
read behind its first equals sign; with no equals sign in the name that is the fourth
word. A line with an equals sign in its third word is passed over, unless it declares a
glued text. -/
theorem accepted_constant_stands_in_line :
    (∀ (arena : Arena) (line key : String) (constant : Constant),
      constantFormat.outcome arena line = .ok (some (key, constant)) →
        ∃ opening keyword name after kind,
          HasHeader line.toList opening keyword name after ∧
          blankSeparatedWords line.toList =
            "const".toList :: keyword :: name :: ['='] :: blankSeparatedWords after ∧
          key = String.ofList name ∧ constant.name = String.ofList name ∧
          ConstantKind.ofKeyword? (String.ofList keyword) = some kind ∧
          (admitValue arena kind (String.ofList (trimBlanks (afterEquals line.toList)))).2 =
            .ok (some constant.value) ∧
          ('=' ∉ name → afterEquals line.toList = after)) ∧
    (∀ (arena : Arena) (line : String) (first second third : List Char)
        (others : List (List Char)),
      blankSeparatedWords line.toList = first :: second :: third :: others →
        '=' ∈ third →
        (constantFormat.outcome arena line = .ok none ↔ ¬DeclaresGluedText line.toList)) ∧
    (∀ (arena : Arena) (line : String),
      arena.limit = none → DeclaresGluedText line.toList →
        ∃ key constant, constantFormat.outcome arena line = .ok (some (key, constant))) := by
  refine ⟨?_, ?_, ?_⟩
  · intro arena line key constant admitted
    obtain ⟨sizes, events, accepted, granted⟩ :=
      constantFormat.readLine_of_outcome_eq_some admitted
    obtain ⟨opening, keyword, name, after, header, declared⟩ :=
      (readConstantLine_eq_iff (by simp)).1 accepted
    obtain ⟨-, kind, found, known, isRead, rfl, rfl, rfl, -⟩ :=
      readDeclaration_eq_accepted_iff.1 declared
    refine ⟨opening, keyword, name, after, kind, header, header.words, rfl, rfl, known, ?_, ?_⟩
    · exact admitValue_snd_of_granted isRead (Arena.chargeAll_granted_of_append granted)
    · exact header.afterEquals_eq (no_equals_of_ofKeyword? known)
  · intro arena line first second third others words equals
    rw [constantFormat.outcome_eq_none_iff]
    constructor
    · rintro ⟨events, skipped⟩ glued
      obtain ⟨key, constant, sizes, accepted⟩ := accepted_of_declaresGluedText glued
      rw [skipped] at accepted
      contradiction
    · exact skips_of_not_declaresGluedText words equals
  · intro arena line unlimited glued
    obtain ⟨key, constant, sizes, accepted⟩ := accepted_of_declaresGluedText glued
    exact ⟨key, constant, constantFormat.outcome_unlimited unlimited accepted⟩

/-- A text that begins inside its name is accepted. -/
theorem glued_text_accepted :
    blankSeparatedWords "const string A=\x22x = \x22y\x22".toList =
        ["const".toList, "string".toList, "A=\x22x".toList, "=".toList, "\x22y\x22".toList] ∧
      constantFormat.outcome (.ofLimit none) "const string A=\x22x = \x22y\x22" =
        .ok (some ("A=\x22x", ⟨"A=\x22x", .string "x = \x22y"⟩)) ∧
      '=' ∈ "A=\x22x".toList := by
  refine ⟨by decide, rfl, by decide⟩

end ConstantCatalog
