import ConstantCatalog.Number.Printing
import ConstantCatalog.Publication.GlobalValue

/-!
Contract: how reports show the values of constants and of globals.

Owns: the text of components, of a global, and of a constant.

Does not own: the layout of reports.
-/

namespace ConstantCatalog.CommandLine

/-- Components in angle brackets, each with at most six significant digits. -/
def componentsText (components : List Number) : String :=
  "<" ++ String.intercalate ", " (components.map (Number.generalText 6)) ++ ">"

/-- A global: numbers with at most nine significant digits, texts quoted. -/
def globalText : GlobalValue → String
  | .number value => value.generalText 9
  | .string text | .uuid text => quoted text
  | .vector value fourth => componentsText (GlobalValue.vector value fourth).components
  | .quaternion value => componentsText value.components
  | .nil => "nil"

/-- A constant: floats by their shortest text, texts quoted. What is recorded without
content is shown as having none. -/
def constantText : ConstantValue → String
  | .integer value => toString value
  | .float value => value.shortestText
  | .string text | .key text => quoted text
  | .vector value => componentsText value.components
  | .quaternion value => componentsText value.components
  | .null | .list | .error => "None"

end ConstantCatalog.CommandLine
