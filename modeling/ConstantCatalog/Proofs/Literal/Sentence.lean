import ConstantCatalog.Literal.Grammar
import Mathlib.Data.List.Basic

/-!
Contract: which sequences of tokens are literals, and where others go wrong.

A literal is an opening bracket, numbers with commas between them, and a closing bracket.
Tokens begin a literal when further tokens make one of them. The stages of the grammar
are what tokens that begin a literal come to, so the first fault is at the first item
that cannot follow the tokens before it.

Owns: `literalTokens`, `IsLiteral`, `BeginsLiteral`, `IsFirstFault`, and their agreement
with `firstFault?`.

Does not own: the texts of tokens.
-/

namespace ConstantCatalog.Literal

/-! ## Literals as sequences of tokens -/

/-- What comes after the first number of a literal. -/
def furtherTokens (others : List Numeral) : List Token :=
  others.flatMap (fun numeral => [.comma, .number numeral]) ++ [.closing]

/-- The tokens of a literal with one or more numbers. -/
def literalTokens (first : Numeral) (others : List Numeral) : List Token :=
  .opening :: .number first :: furtherTokens others

def IsLiteral (tokens : List Token) : Prop :=
  ∃ first others, tokens = literalTokens first others

/-- Whether tokens are the first tokens of some literal, or all of them. -/
def BeginsLiteral (tokens : List Token) : Prop :=
  ∃ others, IsLiteral (tokens ++ others)

theorem furtherTokens_cons (numeral : Numeral) (others : List Numeral) :
    furtherTokens (numeral :: others) = .comma :: .number numeral :: furtherTokens others :=
  rfl

/-! ## Stages -/

namespace Stage

/-- What tokens come to from a stage, if each may follow the ones before it. -/
def after? (stage : Stage) (tokens : List Token) : Option Stage :=
  tokens.foldlM next? stage

private theorem after?_nil (stage : Stage) : stage.after? [] = some stage := rfl

theorem after?_cons (stage : Stage) (token : Token) (others : List Token) :
    stage.after? (token :: others) = (stage.next? token).bind (·.after? others) := rfl

private theorem after?_append (stage : Stage) (first second : List Token) :
    stage.after? (first ++ second) = (stage.after? first).bind (·.after? second) :=
  List.foldlM_append

private theorem after?_finished_iff {tokens : List Token} :
    Stage.finished.after? tokens = some .finished ↔ tokens = [] := by
  cases tokens with
  | nil => simp [after?_nil]
  | cons token others => simp [after?_cons, next?]

/-- The two stages between the brackets take turns, so what they lead to is found
together. -/
private theorem after?_separator_iff_and_component_iff (tokens : List Token) :
    (Stage.separator.after? tokens = some .finished ↔
        ∃ others, tokens = furtherTokens others) ∧
      (Stage.component.after? tokens = some .finished ↔
        ∃ first others, tokens = .number first :: furtherTokens others) := by
  induction tokens with
  | nil =>
      constructor
      · simp [after?_nil, furtherTokens]
      · simp [after?_nil]
  | cons token rest inductionHypothesis =>
      obtain ⟨separator, component⟩ := inductionHypothesis
      constructor
      · constructor
        · intro reached
          cases token with
          | comma =>
              obtain ⟨first, others, rfl⟩ := component.1 reached
              exact ⟨first :: others, rfl⟩
          | closing =>
              obtain rfl := after?_finished_iff.1 reached
              exact ⟨[], rfl⟩
          | number numeral => contradiction
          | opening => contradiction
        · rintro ⟨others, isFurther⟩
          cases others with
          | nil =>
              obtain ⟨rfl, rfl⟩ := List.cons.inj isFurther
              rfl
          | cons numeral others =>
              rw [furtherTokens_cons] at isFurther
              obtain ⟨rfl, rfl⟩ := List.cons.inj isFurther
              exact component.2 ⟨numeral, others, rfl⟩
      · constructor
        · intro reached
          cases token with
          | number numeral =>
              obtain ⟨others, rfl⟩ := separator.1 reached
              exact ⟨numeral, others, rfl⟩
          | opening => contradiction
          | closing => contradiction
          | comma => contradiction
        · rintro ⟨first, others, isNumber⟩
          obtain ⟨rfl, rfl⟩ := List.cons.inj isNumber
          exact separator.2 ⟨others, rfl⟩

/-- From the start the end is reached by the literals alone. -/
theorem after?_start_iff {tokens : List Token} :
    Stage.start.after? tokens = some .finished ↔ IsLiteral tokens := by
  constructor
  · intro reached
    cases tokens with
    | nil => simp [after?_nil] at reached
    | cons token rest =>
        cases token with
        | opening =>
            obtain ⟨first, others, rfl⟩ :=
              (after?_separator_iff_and_component_iff rest).2.1 reached
            exact ⟨first, others, rfl⟩
        | number numeral => contradiction
        | closing => contradiction
        | comma => contradiction
  · rintro ⟨first, others, rfl⟩
    exact (after?_separator_iff_and_component_iff _).2.2 ⟨first, others, rfl⟩

/-- No stage is a dead end. -/
private theorem exists_after?_eq_finished (stage : Stage) :
    ∃ others, stage.after? others = some .finished := by
  let anyNumeral : Numeral := ⟨none, .digits ['0'] false [] none⟩
  cases stage with
  | start => exact ⟨[.opening, .number anyNumeral, .closing], rfl⟩
  | component => exact ⟨[.number anyNumeral, .closing], rfl⟩
  | separator => exact ⟨[.closing], rfl⟩
  | finished => exact ⟨[], rfl⟩

end Stage

/-- Tokens begin a literal exactly when they come to a stage. -/
private theorem beginsLiteral_iff {tokens : List Token} :
    BeginsLiteral tokens ↔ ∃ reached, Stage.start.after? tokens = some reached := by
  constructor
  · rintro ⟨others, isLiteral⟩
    have finished := Stage.after?_start_iff.2 isLiteral
    rw [Stage.after?_append, Option.bind_eq_some_iff] at finished
    obtain ⟨reached, isReached, -⟩ := finished
    exact ⟨reached, isReached⟩
  · rintro ⟨reached, isReached⟩
    obtain ⟨others, finished⟩ := reached.exists_after?_eq_finished
    refine ⟨others, Stage.after?_start_iff.1 ?_⟩
    rw [Stage.after?_append, isReached, Option.bind_some, finished]

instance (tokens : List Token) : Decidable (IsLiteral tokens) :=
  decidable_of_iff _ Stage.after?_start_iff

instance (tokens : List Token) : Decidable (BeginsLiteral tokens) :=
  decidable_of_iff ((Stage.start.after? tokens).isSome = true)
    (Option.isSome_iff_exists.trans beginsLiteral_iff.symm)

/-- Brackets need a number between them. -/
example :
    BeginsLiteral [.opening] ∧ ¬IsLiteral [.opening, .closing] ∧
      ¬BeginsLiteral [.opening, .closing] := by
  decide

/-! ## The first fault -/

/-- Whether a fault is at the first of some tokens and their ending that cannot follow
the tokens before it. -/
inductive IsFirstFault (tokens : List PlacedToken) (ending : Ending) : Fault → Prop where
  | unexpectedToken {before after : List PlacedToken} {found : PlacedToken}
      (split : tokens = before ++ found :: after)
      (begun : BeginsLiteral (before.map PlacedToken.token))
      (refused : ¬BeginsLiteral (before.map PlacedToken.token ++ [found.token])) :
      IsFirstFault tokens ending (.unexpectedToken found)
  | illegalCharacter {character : Char} {position : Nat}
      (isEnding : ending = .illegal character position)
      (begun : BeginsLiteral (tokens.map PlacedToken.token)) :
      IsFirstFault tokens ending (.illegalCharacter character position)
  | unexpectedEnd (isEnding : ending = .complete)
      (begun : BeginsLiteral (tokens.map PlacedToken.token))
      (unfinished : ¬IsLiteral (tokens.map PlacedToken.token)) :
      IsFirstFault tokens ending .unexpectedEnd

/-- Tokens that come to a stage leave the fault to what follows them. -/
private theorem firstFault?_append {stage reached : Stage} {before : List PlacedToken}
    (isReached : stage.after? (before.map PlacedToken.token) = some reached)
    (others : List PlacedToken) (ending : Ending) :
    firstFault? stage (before ++ others) ending = firstFault? reached others ending := by
  induction before generalizing stage with
  | nil =>
      obtain rfl : stage = reached := Option.some.inj isReached
      rfl
  | cons placed rest inductionHypothesis =>
      rw [List.map_cons, Stage.after?_cons, Option.bind_eq_some_iff] at isReached
      obtain ⟨following, follows, isReached⟩ := isReached
      rw [List.cons_append, firstFault?, follows]
      exact inductionHypothesis isReached

private theorem firstFault?_of_after? {tokens : List PlacedToken} {reached : Stage}
    (isReached : Stage.start.after? (tokens.map PlacedToken.token) = some reached)
    (ending : Ending) :
    firstFault? .start tokens ending = firstFault? reached [] ending := by
  have ended := firstFault?_append isReached [] ending
  rwa [List.append_nil] at ended

/-- Tokens that come to no stage have a first one that may not follow. -/
private theorem exists_refused_of_after?_eq_none {stage : Stage} {tokens : List PlacedToken}
    (stuck : stage.after? (tokens.map PlacedToken.token) = none) :
    ∃ before found after reached,
      tokens = before ++ found :: after ∧
        stage.after? (before.map PlacedToken.token) = some reached ∧
        reached.next? found.token = none := by
  induction tokens generalizing stage with
  | nil => simp [Stage.after?_nil] at stuck
  | cons placed rest inductionHypothesis =>
      rw [List.map_cons, Stage.after?_cons] at stuck
      cases follows : stage.next? placed.token with
      | none => exact ⟨[], placed, rest, stage, rfl, rfl, follows⟩
      | some following =>
          rw [follows, Option.bind_some] at stuck
          obtain ⟨before, found, after, reached, rfl, isReached, refused⟩ :=
            inductionHypothesis stuck
          refine ⟨placed :: before, found, after, reached, rfl, ?_, refused⟩
          rw [List.map_cons, Stage.after?_cons, follows, Option.bind_some, isReached]

private theorem beginsLiteral_snoc_iff {before : List Token} {reached : Stage}
    (isReached : Stage.start.after? before = some reached) (token : Token) :
    BeginsLiteral (before ++ [token]) ↔ reached.next? token ≠ none := by
  rw [beginsLiteral_iff, Stage.after?_append, isReached, Option.bind_some, Stage.after?_cons,
    Option.ne_none_iff_exists']
  constructor
  · rintro ⟨last, isLast⟩
    obtain ⟨following, follows, -⟩ := Option.bind_eq_some_iff.1 isLast
    exact ⟨following, follows⟩
  · rintro ⟨following, follows⟩
    exact ⟨following, by rw [follows]; rfl⟩

/-- The fault that is found is at the first item that cannot follow those before it. -/
theorem firstFault?_eq_some_iff {tokens : List PlacedToken} {ending : Ending} {fault : Fault} :
    firstFault? .start tokens ending = some fault ↔ IsFirstFault tokens ending fault := by
  constructor
  · intro isFault
    cases isReached : Stage.start.after? (tokens.map PlacedToken.token) with
    | none =>
        obtain ⟨before, found, after, reached, split, begun, refused⟩ :=
          exists_refused_of_after?_eq_none isReached
        rw [split, firstFault?_append begun, firstFault?, refused] at isFault
        obtain rfl := Option.some.inj isFault
        exact .unexpectedToken split (beginsLiteral_iff.2 ⟨reached, begun⟩)
          (fun begins => (beginsLiteral_snoc_iff begun found.token).1 begins refused)
    | some reached =>
        have begun := beginsLiteral_iff.2 ⟨reached, isReached⟩
        rw [firstFault?_of_after? isReached] at isFault
        cases ending with
        | illegal character position =>
            obtain rfl := Option.some.inj isFault
            exact .illegalCharacter rfl begun
        | complete =>
            rw [firstFault?] at isFault
            split at isFault
            · contradiction
            · rename_i unfinished
              obtain rfl := Option.some.inj isFault
              refine .unexpectedEnd rfl begun fun isLiteral => unfinished ?_
              rw [Stage.after?_start_iff.2 isLiteral] at isReached
              exact (Option.some.inj isReached).symm
  · rintro (⟨split, begun, refused⟩ | ⟨isEnding, begun⟩ | ⟨isEnding, begun, unfinished⟩)
    · obtain ⟨reached, isReached⟩ := beginsLiteral_iff.1 begun
      rw [beginsLiteral_snoc_iff isReached, not_not] at refused
      rw [split, firstFault?_append isReached, firstFault?, refused]
    · obtain ⟨reached, isReached⟩ := beginsLiteral_iff.1 begun
      rw [firstFault?_of_after? isReached, isEnding, firstFault?]
    · obtain ⟨reached, isReached⟩ := beginsLiteral_iff.1 begun
      have notFinished : reached ≠ .finished := by
        rintro rfl
        exact unfinished (Stage.after?_start_iff.1 isReached)
      rw [firstFault?_of_after? isReached, isEnding, firstFault?, if_neg notFinished]

/-- No fault is found exactly when the tokens are all of the text and a literal. -/
theorem firstFault?_eq_none_iff {tokens : List PlacedToken} {ending : Ending} :
    firstFault? .start tokens ending = none ↔
      ending = .complete ∧ IsLiteral (tokens.map PlacedToken.token) := by
  constructor
  · intro faultless
    have notFault : ∀ fault, ¬IsFirstFault tokens ending fault := by
      intro fault isFault
      rw [firstFault?_eq_some_iff.2 isFault] at faultless
      contradiction
    cases isReached : Stage.start.after? (tokens.map PlacedToken.token) with
    | none =>
        obtain ⟨before, found, after, reached, split, begun, refused⟩ :=
          exists_refused_of_after?_eq_none isReached
        rw [split, firstFault?_append begun, firstFault?, refused] at faultless
        contradiction
    | some reached =>
        have begun := beginsLiteral_iff.2 ⟨reached, isReached⟩
        cases ending with
        | illegal character position =>
            exact absurd (.illegalCharacter rfl begun) (notFault _)
        | complete =>
            by_contra unfinished
            exact notFault _ (.unexpectedEnd rfl begun fun isLiteral =>
              unfinished ⟨rfl, isLiteral⟩)
  · rintro ⟨rfl, isLiteral⟩
    rw [firstFault?_of_after? (Stage.after?_start_iff.2 isLiteral), firstFault?, if_pos rfl]

end ConstantCatalog.Literal
