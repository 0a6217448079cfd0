import ConstantCatalog.Number.Numeral
import ConstantCatalog.Number.Printing
import ConstantCatalog.Text.Blank

/-!
Contract: the tokens of vector and rotation literals.

A text is taken apart from left to right. Blanks separate and are dropped; angle
brackets and commas are tokens of their own; anywhere else the longest numeral is
taken. Where no token starts the text ends in an illegal character.

Owns: `Token`, positions, how a run of tokens ends, and `tokensOf`.

Does not own: which sequences of tokens are literals.
-/

namespace ConstantCatalog.Literal

inductive Token where
  | number (numeral : Numeral)
  | opening
  | closing
  | comma
deriving DecidableEq, Repr

def Token.text : Token → List Char
  | .number numeral => numeral.text
  | .opening => ['<']
  | .closing => ['>']
  | .comma => [',']

/-- A token as messages show it: a number by its stored value. -/
def Token.shown : Token → String
  | .number numeral => numeral.toSingle.shortestText
  | token => String.ofList token.text

/-- A token and the count of characters before it. -/
structure PlacedToken where
  token : Token
  position : Nat
deriving DecidableEq, Repr

/-- What stands after the tokens of a text: nothing but blanks, or a character with
which no token starts. -/
inductive Ending where
  | complete
  | illegal (character : Char) (position : Nat)
deriving DecidableEq, Repr

/-- The token that a text begins with, and the text after it. -/
def nextToken? : List Char → Option (Token × List Char)
  | '<' :: rest => some (.opening, rest)
  | '>' :: rest => some (.closing, rest)
  | ',' :: rest => some (.comma, rest)
  | text => (Numeral.scan? text).map fun (numeral, rest) => (.number numeral, rest)

/-- A token takes at least one character off the text. -/
theorem length_lt_of_nextToken? {text rest : List Char} {token : Token}
    (next : nextToken? text = some (token, rest)) :
    rest.length < text.length := by
  unfold nextToken? at next
  split at next
  case h_4 =>
    obtain ⟨⟨numeral, remainder⟩, scanned, built⟩ := Option.map_eq_some_iff.1 next
    simp only [Prod.mk.injEq] at built
    exact built.2 ▸ Numeral.length_lt_of_scan? scanned
  all_goals
    simp only [Option.some.injEq, Prod.mk.injEq] at next
    simp [next.2]

/-- The tokens of a text whose first character has the given position. -/
def tokensFrom (position : Nat) (text : List Char) : List PlacedToken × Ending :=
  match text with
  | [] => ([], .complete)
  | character :: rest =>
      if isBlank character then tokensFrom (position + 1) rest
      else
        match _next : nextToken? (character :: rest) with
        | none => ([], .illegal character position)
        | some (token, remainder) =>
            let (tokens, ending) :=
              tokensFrom (position + token.text.length) remainder
            (⟨token, position⟩ :: tokens, ending)
termination_by text.length
decreasing_by
  · exact Nat.lt_succ_self rest.length
  · exact length_lt_of_nextToken? ‹_›

/-- The tokens of a text, and how they end. -/
def tokensOf (text : List Char) : List PlacedToken × Ending :=
  tokensFrom 0 text

end ConstantCatalog.Literal
