import ConstantCatalog.Constant.StringLiteral

/-!
Contract: string literals, by the ways in which a text can be written between quotes.

A character other than a backslash can be written as itself. Behind a backslash three
letters stand for a line feed, a tab and a carriage return, and every other character for
itself. Whatever stands between quotes is some text written in such ways, one character
after the other, but for a backslash that may be left over at the end. That text, with the
backslash that is left over, is what decoding gives.

Owns: `WritesChar`, `WritesText`, `Decodes`, the decoding by positions, what runs of
backslashes decode to, and the literals that can be unquoted.

Does not own: which ways of writing declarations use, or which texts are keys.
-/

namespace ConstantCatalog

/-! ## Written characters -/

/-- The letters that stand for another character behind a backslash, each with that
character. -/
def escapeLetters : List (Char × Char) :=
  [('n', '\n'), ('t', '\t'), ('r', '\r')]

/-- The ways to write a character between quotes. -/
inductive WritesChar : Char → List Char → Prop where
  | itself {character : Char} (plain : character ≠ '\\') :
      WritesChar character [character]
  | letter {letter character : Char} (listed : (letter, character) ∈ escapeLetters) :
      WritesChar character ['\\', letter]
  | escaped {character : Char} (free : character ∉ escapeLetters.map Prod.fst) :
      WritesChar character ['\\', character]

/-- The ways to write a text between quotes: its characters one after the other, each in
any of the ways to write it. -/
inductive WritesText : List Char → List Char → Prop where
  | nil : WritesText [] []
  | cons {character : Char} {written rest body : List Char} (first : WritesChar character written)
      (others : WritesText rest body) :
      WritesText (character :: rest) (written ++ body)

private theorem escapedChar_of_listed {letter character : Char}
    (listed : (letter, character) ∈ escapeLetters) :
    escapedChar letter = character := by
  simp only [escapeLetters, List.mem_cons, List.not_mem_nil, or_false, Prod.mk.injEq] at listed
  rcases listed with ⟨rfl, rfl⟩ | ⟨rfl, rfl⟩ | ⟨rfl, rfl⟩ <;> rfl

private theorem escapedChar_of_free {character : Char}
    (free : character ∉ escapeLetters.map Prod.fst) :
    escapedChar character = character := by
  unfold escapedChar
  split
  · exact absurd (by decide) free
  · exact absurd (by decide) free
  · exact absurd (by decide) free
  · rfl

/-- A backslash and a character behind it are always a way to write what they stand for. -/
private theorem writesChar_escapedChar (character : Char) :
    WritesChar (escapedChar character) ['\\', character] := by
  by_cases free : character ∈ escapeLetters.map Prod.fst
  · obtain ⟨⟨letter, meant⟩, listed, rfl⟩ := List.mem_map.1 free
    rw [escapedChar_of_listed listed]
    exact .letter listed
  · rw [escapedChar_of_free free]
    exact .escaped free

/-! ## Decoding -/

/-- A character stands for itself unless it is a backslash with something behind it. -/
private theorem decodeEscapes_cons {character : Char} {rest : List Char}
    (unescaped : character = '\\' → rest = []) :
    decodeEscapes (character :: rest) = character :: decodeEscapes rest := by
  rw [decodeEscapes]
  intro following others isBackslash behind
  rw [unescaped isBackslash] at behind
  contradiction

/-- Decoding takes back a written character, whatever follows it. -/
theorem WritesChar.decodeEscapes_append {character : Char} {written : List Char}
    (writes : WritesChar character written) (rest : List Char) :
    decodeEscapes (written ++ rest) = character :: decodeEscapes rest := by
  cases writes with
  | itself plain => exact decodeEscapes_cons (absurd · plain)
  | @letter letter _ listed =>
      change escapedChar letter :: decodeEscapes rest = _
      rw [escapedChar_of_listed listed]
  | escaped free =>
      change escapedChar character :: decodeEscapes rest = _
      rw [escapedChar_of_free free]

/-- Decoding takes back a written text, whatever follows it. -/
theorem WritesText.decodeEscapes_append {text body : List Char} (writes : WritesText text body)
    (rest : List Char) :
    decodeEscapes (body ++ rest) = text ++ decodeEscapes rest := by
  induction writes with
  | nil => rfl
  | cons first others inductionHypothesis =>
      rw [List.append_assoc, first.decodeEscapes_append, inductionHypothesis, List.cons_append]

theorem WritesText.decodeEscapes_eq {text body : List Char} (writes : WritesText text body) :
    decodeEscapes body = text := by
  have decoded := writes.decodeEscapes_append []
  rwa [List.append_nil, decodeEscapes, List.append_nil] at decoded

/-- What a body decodes to from left to right: the text that is written in it, and behind
that the backslash that may be left over at the end. -/
def Decodes (body text : List Char) : Prop :=
  ∃ written content leftOver, WritesText content written ∧
    (leftOver = [] ∨ leftOver = ['\\']) ∧
    body = written ++ leftOver ∧ text = content ++ leftOver

/-- Every body is written in one way or another, up to a backslash that is left over. -/
private theorem decodes_decodeEscapes (body : List Char) :
    Decodes body (decodeEscapes body) := by
  induction body using decodeEscapes.induct with
  | case1 => exact ⟨[], [], [], .nil, Or.inl rfl, rfl, rfl⟩
  | case2 character rest inductionHypothesis =>
      obtain ⟨written, content, leftOver, writes, isLeft, built, decoded⟩ := inductionHypothesis
      refine ⟨['\\', character] ++ written, escapedChar character :: content, leftOver,
        .cons (writesChar_escapedChar character) writes, isLeft, ?_, ?_⟩
      · rw [built]
        rfl
      · rw [decodeEscapes, decoded, List.cons_append]
  | case3 character rest notEscape inductionHypothesis =>
      by_cases isBackslash : character = '\\'
      · subst isBackslash
        cases rest with
        | nil => exact ⟨[], [], ['\\'], .nil, Or.inr rfl, rfl, rfl⟩
        | cons following others => exact absurd rfl (notEscape following others rfl)
      · obtain ⟨written, content, leftOver, writes, isLeft, built, decoded⟩ :=
          inductionHypothesis
        refine ⟨[character] ++ written, character :: content, leftOver,
          .cons (.itself isBackslash) writes, isLeft, ?_, ?_⟩
        · rw [built]
          rfl
        · rw [decodeEscapes_cons (absurd · isBackslash), decoded, List.cons_append]

/-- A body decodes to one text, which the function of that purpose finds. -/
private theorem decodes_iff {body text : List Char} :
    Decodes body text ↔ decodeEscapes body = text := by
  constructor
  · rintro ⟨written, content, leftOver, writes, isLeft, rfl, rfl⟩
    rw [writes.decodeEscapes_append]
    rcases isLeft with rfl | rfl <;> rfl
  · rintro rfl
    exact decodes_decodeEscapes body

/-! ## Runs of backslashes -/

/-- Two backslashes write one. -/
private theorem writesText_backslashes (count : Nat) :
    WritesText (List.replicate count '\\') (List.replicate (2 * count) '\\') := by
  induction count with
  | zero => exact .nil
  | succ count inductionHypothesis =>
      have double : 2 * (count + 1) = 2 * count + 1 + 1 := by omega
      rw [double, List.replicate_succ, List.replicate_succ, List.replicate_succ]
      exact .cons (.escaped (by decide)) inductionHypothesis

/-- A run of backslashes is halved. If it is even it does not touch what follows. -/
private theorem decodeEscapes_even_run (count : Nat) (rest : List Char) :
    decodeEscapes (List.replicate (2 * count) '\\' ++ rest) =
      List.replicate count '\\' ++ decodeEscapes rest :=
  (writesText_backslashes count).decodeEscapes_append rest

/-- An odd run takes the character behind it with it. -/
theorem decodeEscapes_odd_run (count : Nat) (character : Char) (rest : List Char) :
    decodeEscapes (List.replicate (2 * count + 1) '\\' ++ character :: rest) =
      List.replicate count '\\' ++ escapedChar character :: decodeEscapes rest := by
  rw [List.replicate_succ', List.append_assoc, decodeEscapes_even_run]
  rfl

/-- At the end of a text the last backslash of an odd run is kept. -/
theorem decodeEscapes_odd_end (count : Nat) :
    decodeEscapes (List.replicate (2 * count + 1) '\\') =
      List.replicate (count + 1) '\\' := by
  rw [List.replicate_succ', decodeEscapes_even_run, List.replicate_succ']
  rfl

/-! ## Decoding by positions -/

/-- How far a decoding has come: the place of the next character, and what has been
decoded. -/
structure EscapeScan where
  place : Nat
  decoded : List Char

namespace EscapeScan

def start : EscapeScan := ⟨0, []⟩

/-- Takes the character at the place, if there is one. A backslash that is not the last
character is passed by, and what is meant by the character behind it is taken instead. -/
def step (content : List Char) (scan : EscapeScan) : Option EscapeScan :=
  match content[scan.place]?, content[scan.place + 1]? with
  | none, _ => none
  | some '\\', some following =>
      some ⟨scan.place + 2, scan.decoded ++ [escapedChar following]⟩
  | some character, _ => some ⟨scan.place + 1, scan.decoded ++ [character]⟩

/-- What is decoded already, and what is still to be decoded. -/
def whole (content : List Char) (scan : EscapeScan) : List Char :=
  scan.decoded ++ decodeEscapes (content.drop scan.place)

/-- One step goes on in the content and leaves the whole as it is. -/
private theorem step_spec {content : List Char} {scan next : EscapeScan}
    (steps : scan.step content = some next) :
    scan.place < content.length ∧ scan.place < next.place ∧
      next.whole content = scan.whole content := by
  unfold step at steps
  split at steps
  · contradiction
  · rename_i following here behind
    obtain rfl := Option.some.inj steps
    obtain ⟨within, isHere⟩ := List.getElem?_eq_some_iff.1 here
    obtain ⟨alsoWithin, isBehind⟩ := List.getElem?_eq_some_iff.1 behind
    refine ⟨within, by dsimp only; omega, ?_⟩
    rw [whole, whole, List.drop_eq_getElem_cons within, List.drop_eq_getElem_cons alsoWithin,
      isHere, isBehind, decodeEscapes, List.append_assoc, List.singleton_append]
  · rename_i character here alone
    obtain rfl := Option.some.inj steps
    obtain ⟨within, isHere⟩ := List.getElem?_eq_some_iff.1 here
    have unescaped : character = '\\' → content.drop (scan.place + 1) = [] := by
      intro isBackslash
      apply List.drop_eq_nil_of_le
      rw [← List.getElem?_eq_none_iff, Option.eq_none_iff_forall_ne_some]
      exact fun following behind => alone following behind isBackslash
    refine ⟨within, by dsimp only; omega, ?_⟩
    rw [whole, whole, List.drop_eq_getElem_cons within, isHere, decodeEscapes_cons unescaped,
      List.append_assoc, List.singleton_append]

/-- Decodes from the place on, as long as there is a character. -/
def run (content : List Char) (scan : EscapeScan) : List Char :=
  match _steps : scan.step content with
  | none => scan.decoded
  | some next => run content next
termination_by content.length - scan.place
decreasing_by
  have forward := step_spec ‹_›
  omega

/-- Decoding stops at the end of the content. -/
private theorem step_eq_none_iff {content : List Char} {scan : EscapeScan} :
    scan.step content = none ↔ content.length ≤ scan.place := by
  rw [← List.getElem?_eq_none_iff]
  unfold step
  split
  · simp_all
  · simp_all
  · simp_all

/-- Decoding by positions comes to the whole that it started from. -/
private theorem run_eq_whole (content : List Char) (scan : EscapeScan) :
    scan.run content = scan.whole content := by
  induction scan using run.induct content with
  | case1 scan stops =>
      rw [run]
      split
      · have ended := List.drop_eq_nil_of_le (step_eq_none_iff.1 stops)
        rw [whole, ended, decodeEscapes, List.append_nil]
      · simp_all
  | case2 scan next steps inductionHypothesis =>
      rw [run]
      split
      · simp_all
      · rename_i found isFound
        obtain rfl := Option.some.inj (steps.symm.trans isFound)
        rw [inductionHypothesis]
        exact (step_spec steps).2.2

end EscapeScan

/-! ## Literals -/

theorem unquoted?_eq_some_iff {text content : List Char} :
    unquoted? text = some content ↔
      ∃ inner, text = '\x22' :: (inner ++ ['\x22']) ∧ decodeEscapes inner = content := by
  constructor
  · intro isContent
    unfold unquoted? at isContent
    split at isContent
    · rename_i rest
      split at isContent
      · rename_i closed
        obtain ⟨inner, rfl⟩ := List.getLast?_eq_some_iff.1 closed
        rw [List.dropLast_concat] at isContent
        exact ⟨inner, rfl, Option.some.inj isContent⟩
      · contradiction
    · contradiction
  · rintro ⟨inner, rfl, rfl⟩
    have closed : (inner ++ ['\x22']).getLast? = some '\x22' := List.getLast?_concat
    rw [unquoted?, if_pos closed, List.dropLast_concat]

/-- A text of two characters or more that begins and ends with one of its two ends is what
stands between them, enclosed. -/
private theorem exists_enclosed_iff {text : List Char} {mark : Char} :
    (∃ inner, text = mark :: (inner ++ [mark])) ↔
      2 ≤ text.length ∧ text.head? = some mark ∧ text.getLast? = some mark := by
  constructor
  · rintro ⟨inner, rfl⟩
    refine ⟨by simp, rfl, ?_⟩
    rw [← List.cons_append]
    exact List.getLast?_concat
  · rintro ⟨long, opens, closes⟩
    cases text with
    | nil => contradiction
    | cons first rest =>
        obtain rfl : first = mark := Option.some.inj opens
        have present : rest ≠ [] := by
          rintro rfl
          simp at long
        rw [List.getLast?_cons_of_ne_nil present] at closes
        obtain ⟨inner, rfl⟩ := List.getLast?_eq_some_iff.1 closes
        exact ⟨inner, rfl⟩

/-- Unquoting takes back every way of writing a text between quotes. It succeeds on the
texts that begin with a quote and end with another, and what it gives is the decoding of
what stands between the two, which decoding by positions comes to as well. -/
theorem unquoting_takes_back_writing :
    (∀ text body, WritesText text body →
      unquoted? ('\x22' :: (body ++ ['\x22'])) = some text) ∧
    (∀ literal, (unquoted? literal).isSome = true ↔
      2 ≤ literal.length ∧ literal.head? = some '\x22' ∧ literal.getLast? = some '\x22') ∧
    (∀ literal text, unquoted? literal = some text ↔
      ∃ body, literal = '\x22' :: (body ++ ['\x22']) ∧ Decodes body text) ∧
    (∀ body, EscapeScan.run body .start = decodeEscapes body) := by
  refine ⟨?_, ?_, ?_, ?_⟩
  · intro text body writes
    exact unquoted?_eq_some_iff.2 ⟨body, rfl, writes.decodeEscapes_eq⟩
  · intro literal
    rw [← exists_enclosed_iff, Option.isSome_iff_exists]
    simp only [unquoted?_eq_some_iff]
    constructor
    · rintro ⟨text, body, built, -⟩
      exact ⟨body, built⟩
    · rintro ⟨body, built⟩
      exact ⟨decodeEscapes body, body, built, rfl⟩
  · intro literal text
    simp only [unquoted?_eq_some_iff, decodes_iff]
  · intro body
    rw [EscapeScan.run_eq_whole]
    rfl

/-- A backslash, a line feed, a bare quote and the letter of the line feed are taken back. -/
theorem mixed_writing_taken_back :
    WritesText ['\\', '\n', '\x22', 'n'] ['\\', '\\', '\\', 'n', '\x22', 'n'] ∧
      unquoted? ['\x22', '\\', '\\', '\\', 'n', '\x22', 'n', '\x22'] =
        some ['\\', '\n', '\x22', 'n'] := by
  have writes : WritesText ['\\', '\n', '\x22', 'n'] ['\\', '\\', '\\', 'n', '\x22', 'n'] :=
    .cons (.escaped (by decide)) (.cons (.letter (by decide))
      (.cons (.itself (by decide)) (.cons (.itself (by decide)) .nil)))
  exact ⟨writes, unquoting_takes_back_writing.1 _ _ writes⟩

end ConstantCatalog
