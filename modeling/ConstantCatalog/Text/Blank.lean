import ConstantCatalog.Text.Pieces

/-!
Contract: blanks, the spaces and tabs that declarations are written with.

No other white space counts: a line that holds a no-break space is not blank.

Owns: `isBlank`, trimming, and the words between runs of blanks.

Does not own: line breaks.
-/

namespace ConstantCatalog

/-- A space or a tab. -/
def isBlank (character : Char) : Bool :=
  character == ' ' || character == '\t'

/-- A text without the blanks at its two ends. -/
def trimBlanks (text : List Char) : List Char :=
  ((text.dropWhile isBlank).reverse.dropWhile isBlank).reverse

/-- The words of a text: what lies between runs of blanks, nothing empty. -/
def blankSeparatedWords (text : List Char) : List (List Char) :=
  (pieces isBlank text).filter (!·.isEmpty)

end ConstantCatalog
