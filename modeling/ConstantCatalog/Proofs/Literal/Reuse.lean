import ConstantCatalog.Literal.Grammar
import ConstantCatalog.Proofs.Literal.Token

/-!
Contract: a literal parser that is used for one text after another.

The parser keeps its lexer, and the lexer keeps what it was given last and how far it
has read: all of the text after a success, less than that after a fault. A new text
replaces both, so what the parser makes of it does not depend on what it read before.

Owns: `Lexer` with its single steps, `Lexer.parse`, and the agreement with
`components`.

Does not own: the grammar of literals.
-/

namespace ConstantCatalog.Literal

private theorem numbersOf_append (first second : List PlacedToken) :
    numbersOf (first ++ second) = numbersOf first ++ numbersOf second :=
  List.filterMap_append

/-- What a lexer keeps: what it has not read of the text it was given last, and the
position of that in the text. -/
structure Lexer where
  unread : List Char
  position : Nat
deriving DecidableEq, Repr

/-- What a lexer comes to next. -/
inductive Item where
  | token (placed : PlacedToken)
  | ending (ending : Ending)
deriving DecidableEq, Repr

namespace Lexer

/-- A lexer that is given a text to read, whatever it was reading. -/
def given (lexer : Lexer) (text : List Char) : Lexer :=
  { lexer with unread := text, position := 0 }

/-- The next item, and the lexer after it. An illegal character stays unread. -/
def next (lexer : Lexer) : Item × Lexer :=
  let position := lexer.position + (lexer.unread.takeWhile isBlank).length
  match lexer.unread.dropWhile isBlank with
  | [] => (.ending .complete, ⟨[], position⟩)
  | character :: rest =>
      match nextToken? (character :: rest) with
      | none => (.ending (.illegal character position), ⟨character :: rest, position⟩)
      | some (token, remainder) =>
          (.token ⟨token, position⟩, ⟨remainder, position + token.text.length⟩)

theorem length_lt_of_next {lexer after : Lexer} {placed : PlacedToken}
    (found : lexer.next = (.token placed, after)) :
    after.unread.length < lexer.unread.length := by
  have shorter := List.Sublist.length_le (List.dropWhile_sublist isBlank (l := lexer.unread))
  unfold next at found
  split at found
  · simp at found
  · rename_i character rest unread
    split at found
    · simp at found
    · rename_i token remainder scanned
      simp only [Prod.mk.injEq, Item.token.injEq] at found
      obtain ⟨-, rfl⟩ := found
      have taken := length_lt_of_nextToken? scanned
      rw [← unread] at taken
      exact Nat.lt_of_lt_of_le taken shorter

/-- Reads items one at a time as long as each may follow the ones before it. -/
def parseFrom (lexer : Lexer) (stage : Stage)
    (found : List Number) : Except Fault (List Number) × Lexer :=
  match _next : lexer.next with
  | (.ending (.illegal character position), after) =>
      (.error (.illegalCharacter character position), after)
  | (.ending .complete, after) =>
      (if stage = .finished then .ok found else .error .unexpectedEnd, after)
  | (.token placed, after) =>
      match stage.next? placed.token with
      | none => (.error (.unexpectedToken placed), after)
      | some following => after.parseFrom following (found ++ numbersOf [placed])
termination_by lexer.unread.length
decreasing_by exact length_lt_of_next ‹_›

/-- Parses a text with a lexer that may have read any texts before. -/
def parse (lexer : Lexer) (text : List Char) : Except Fault (List Number) × Lexer :=
  (lexer.given text).parseFrom .start []

/-! ## Agreement with the tokens of the whole text -/

/-- The tokens of a text are the items that a lexer comes to one after the other. -/
theorem tokensFrom_eq_next (lexer : Lexer) :
    tokensFrom lexer.position lexer.unread =
      match lexer.next with
      | (.ending ending, _) => ([], ending)
      | (.token placed, after) =>
          (placed :: (tokensFrom after.position after.unread).1,
            (tokensFrom after.position after.unread).2) := by
  rw [tokensFrom_blanks]
  have outside : BeginsOutside isBlank (lexer.unread.dropWhile isBlank) :=
    beginsOutside_dropWhile lexer.unread
  unfold next
  cases unread : lexer.unread.dropWhile isBlank with
  | nil => rw [tokensFrom]
  | cons character rest =>
      have solid : isBlank character = false := outside character (by rw [unread]; rfl)
      rw [tokensFrom, if_neg (by simp [solid])]
      cases scanned : nextToken? (character :: rest) with
      | none => simp [scanned]
      | some taken => simp [scanned]

/-- One step of a parse, decided by the next item. -/
private theorem parseFrom_eq_next (lexer : Lexer) (stage : Stage) (found : List Number) :
    lexer.parseFrom stage found =
      match lexer.next with
      | (.ending (.illegal character position), after) =>
          (.error (.illegalCharacter character position), after)
      | (.ending .complete, after) =>
          (if stage = .finished then .ok found else .error .unexpectedEnd, after)
      | (.token placed, after) =>
          match stage.next? placed.token with
          | none => (.error (.unexpectedToken placed), after)
          | some following => after.parseFrom following (found ++ numbersOf [placed]) := by
  rw [parseFrom]
  split
  · rename_i isNext
    rw [isNext]
  · rename_i isNext
    rw [isNext]
  · rename_i isNext
    rw [isNext]

/-- Reading items one at a time comes to the first fault of all of them, or to the
numbers among them. -/
private theorem parseFrom_fst (lexer : Lexer) (stage : Stage) (found : List Number) :
    (lexer.parseFrom stage found).1 =
      match firstFault? stage (tokensFrom lexer.position lexer.unread).1
          (tokensFrom lexer.position lexer.unread).2 with
      | none => .ok (found ++ numbersOf (tokensFrom lexer.position lexer.unread).1)
      | some fault => .error fault := by
  induction lexer, stage, found using parseFrom.induct with
  | case1 lexer stage found character position after isNext =>
      rw [parseFrom_eq_next, tokensFrom_eq_next, isNext]
      rfl
  | case2 lexer stage found after isNext =>
      rw [parseFrom_eq_next, tokensFrom_eq_next, isNext]
      by_cases finished : stage = .finished
      · simp [firstFault?, finished, numbersOf]
      · simp [firstFault?, finished]
  | case3 lexer stage found placed after isNext refused =>
      rw [parseFrom_eq_next, tokensFrom_eq_next, isNext]
      simp [firstFault?, refused]
  | case4 lexer stage found placed after isNext following follows inductionHypothesis =>
      rw [parseFrom_eq_next, tokensFrom_eq_next, isNext]
      simp only [firstFault?, follows, inductionHypothesis]
      split
      · rw [List.append_assoc, ← numbersOf_append, List.singleton_append]
      · rfl

/-- What a parser makes of a text does not depend on what it read before. -/
theorem parse_fst (lexer : Lexer) (text : List Char) :
    (lexer.parse text).1 = components text := by
  unfold parse components tokensOf
  rw [parseFrom_fst]
  rfl

end Lexer

end ConstantCatalog.Literal
