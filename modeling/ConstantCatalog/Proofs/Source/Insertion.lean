import ConstantCatalog.Proofs.Source.Lines
import Mathlib.Data.List.Basic

/-!
Contract: sources that other lines are put into.

Whole lines are put in anywhere, and the others stay as they are and in their order. The
lines that can be read of a source that has grown so have grown by those of the new ones
that can be read.

Owns: `Inserts`, `DeclarationSource.GrowsBy`, and the growth of lines.

Does not own: what the new lines declare.
-/

namespace ConstantCatalog

variable {α β : Type}

/-- Whether a sequence has grown from another by new elements, put in anywhere. -/
inductive Inserts (IsNew : α → Prop) : List α → List α → Prop where
  | nil : Inserts IsNew [] []
  | keep {original grown : List α} (element : α) (others : Inserts IsNew original grown) :
      Inserts IsNew (element :: original) (element :: grown)
  | insert {original grown : List α} {element : α} (isNew : IsNew element)
      (others : Inserts IsNew original grown) :
      Inserts IsNew original (element :: grown)

namespace Inserts

variable {IsNew : α → Prop}

theorem refl (elements : List α) : Inserts IsNew elements elements := by
  induction elements with
  | nil => exact .nil
  | cons element rest inductionHypothesis => exact .keep element inductionHypothesis

/-- New elements can be put in front of what has grown. -/
private theorem prepend {original grown block : List α} (areNew : ∀ element ∈ block, IsNew element)
    (others : Inserts IsNew original grown) :
    Inserts IsNew original (block ++ grown) := by
  induction block with
  | nil => exact others
  | cons element rest inductionHypothesis =>
      exact .insert (areNew element List.mem_cons_self)
        (inductionHypothesis fun other member => areNew other (List.mem_cons_of_mem _ member))

theorem append {original grown originalAfter grownAfter : List α}
    (before : Inserts IsNew original grown) (after : Inserts IsNew originalAfter grownAfter) :
    Inserts IsNew (original ++ originalAfter) (grown ++ grownAfter) := by
  induction before with
  | nil => exact after
  | keep element others inductionHypothesis => exact .keep element inductionHypothesis
  | insert isNew others inductionHypothesis => exact .insert isNew inductionHypothesis

/-- What comes of the elements grows with them. -/
theorem flatMap {IsNewItem : β → Prop} {parts : β → List α}
    (areNew : ∀ item, IsNewItem item → ∀ element ∈ parts item, IsNew element)
    {original grown : List β} (inserts : Inserts IsNewItem original grown) :
    Inserts IsNew (original.flatMap parts) (grown.flatMap parts) := by
  induction inserts with
  | nil => exact .nil
  | keep item others inductionHypothesis =>
      rw [List.flatMap_cons, List.flatMap_cons]
      exact (refl _).append inductionHypothesis
  | insert isNew others inductionHypothesis =>
      rw [List.flatMap_cons]
      exact inductionHypothesis.prepend (areNew _ isNew)

end Inserts

/-! ## Sources -/

namespace DeclarationSource

/-- Whether a source has grown from another of its form by whole lines of a kind, put in
anywhere. Lines of bytes that encode no text are of every kind. -/
inductive GrowsBy (IsNew : String → Prop) : DeclarationSource → DeclarationSource → Prop where
  | text {original grown : String}
      (inserts : Inserts IsNew (textLines original) (textLines grown)) :
      GrowsBy IsNew (.text original) (.text grown)
  | bytes {original grown : ByteArray}
      (inserts :
        Inserts (fun line => ∀ text, decodeUtf8? line = some text → IsNew text)
          (byteLines original) (byteLines grown)) :
      GrowsBy IsNew (.bytes original) (.bytes grown)

/-- The lines that can be read grow with a source. -/
theorem GrowsBy.inserts_lines {IsNew : String → Prop} {original grown : DeclarationSource}
    (grows : original.GrowsBy IsNew grown) :
    Inserts IsNew original.lines grown.lines := by
  cases grows with
  | text inserts => exact inserts
  | bytes inserts =>
      rw [lines, lines, List.filterMap_eq_flatMap_toList, List.filterMap_eq_flatMap_toList]
      apply inserts.flatMap
      intro line areNew text member
      exact areNew text (Option.mem_toList.1 member)

/-- A text grows by the terminated lines that are written into it, and by the empty lines
inside their ends. -/
theorem growsBy_terminatedText {IsNew : String → Prop} {rows grown : List (String × LineEnd)}
    (inserts :
      Inserts (fun row => ∀ line ∈ textLines row.1 ++ row.2.inner, IsNew line) rows grown)
    (last : String) :
    (text (terminatedText rows ++ last)).GrowsBy IsNew (text (terminatedText grown ++ last)) := by
  refine .text ?_
  rw [textLines_terminatedText, textLines_terminatedText]
  exact (inserts.flatMap fun _ areNew => areNew).append (.refl _)

end DeclarationSource

end ConstantCatalog
