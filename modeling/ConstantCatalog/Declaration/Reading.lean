import ConstantCatalog.Constant.Scalar
import ConstantCatalog.Diagnostics.Event

/-!
Contract: what a single line of a declaration source amounts to, before any storage
is charged for it.

Owns: `LineReading`, `DeclarationFormat` and `LoadFault`.

Does not own: the grammars of the two formats, or the charging of an arena.
-/

namespace ConstantCatalog

/-- What a line amounts to: nothing, a value that is recognised but cannot be
converted, or an entry. An entry says under which name it goes into the table and
with which sizes its copies are charged, in the order of copying. -/
inductive LineReading (α : Type) where
  | skipped (events : List Event)
  | unconvertible (fault : ConversionFault)
  | accepted (name : String) (entry : α) (sizes : List Nat) (events : List Event)
deriving Repr

/-- A declaration format: how it reads a line, and the event that reports a loaded
source by its number of names and its bytes. -/
structure DeclarationFormat (α : Type) where
  readLine : String → LineReading α
  loadedEvent : Nat → Int → Event

/-- Why the loading of a source stops. -/
inductive LoadFault where
  | exhausted (cause : ArenaExhausted)
  | unconvertible (fault : ConversionFault)
deriving DecidableEq, Repr

def LoadFault.message : LoadFault → String
  | .exhausted cause => cause.message
  | .unconvertible fault => fault.message

end ConstantCatalog
