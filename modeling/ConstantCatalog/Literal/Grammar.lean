import ConstantCatalog.Literal.Token

/-!
Contract: the grammar of vector and rotation literals.

A literal is an opening bracket, numbers separated by commas, at least one, and a
closing bracket. Tokens are checked from left to right, each against what may follow
the tokens before it. The first thing that may not follow is the fault: a token, an
illegal character, or the end of the text.

Owns: `Fault` with its messages, `tokenize` and `components`.

Does not own: how many components a declaration wants.
-/

namespace ConstantCatalog.Literal

/-- Why a text is no literal. -/
inductive Fault where
  | illegalCharacter (character : Char) (position : Nat)
  | unexpectedToken (found : PlacedToken)
  | unexpectedEnd
deriving DecidableEq, Repr

def Fault.message : Fault → String
  | .illegalCharacter character position =>
      "Illegal character '" ++ String.ofList [character] ++ s!"' at position {position}"
  | .unexpectedToken found =>
      "Syntax error at '" ++ found.token.shown ++ s!"' (position {found.position})"
  | .unexpectedEnd => "Syntax error at end of input"

/-- What a literal has come to, and with it what may follow. -/
inductive Stage where
  | start
  | component
  | separator
  | finished
deriving DecidableEq, Repr

def Stage.next? : Stage → Token → Option Stage
  | .start, .opening => some .component
  | .component, .number _ => some .separator
  | .separator, .comma => some .component
  | .separator, .closing => some .finished
  | _, _ => none

/-- The first fault of tokens that follow a stage. -/
def firstFault? (stage : Stage) : List PlacedToken → Ending → Option Fault
  | [], .illegal character position => some (.illegalCharacter character position)
  | [], .complete => if stage = .finished then none else some .unexpectedEnd
  | found :: others, ending =>
      match stage.next? found.token with
      | some next => firstFault? next others ending
      | none => some (.unexpectedToken found)

/-- The numbers among tokens, in single precision. -/
def numbersOf (tokens : List PlacedToken) : List Number :=
  tokens.filterMap fun placed =>
    match placed.token with
    | .number numeral => some numeral.toSingle
    | _ => none

/-- The tokens of a text that consists of tokens alone. -/
def tokenize (text : List Char) : Except Fault (List PlacedToken) :=
  match tokensOf text with
  | (tokens, .complete) => .ok tokens
  | (_, .illegal character position) => .error (.illegalCharacter character position)

def components (text : List Char) : Except Fault (List Number) :=
  let (tokens, ending) := tokensOf text
  match firstFault? .start tokens ending with
  | none => .ok (numbersOf tokens)
  | some fault => .error fault

end ConstantCatalog.Literal
