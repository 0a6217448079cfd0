import ConstantCatalog.Constant.Declaration
import ConstantCatalog.Declaration.Loading
import ConstantCatalog.Overlay.Declaration

/-!
Contract: the stores that hold what was loaded last.

A store replaces its content as a whole. A source is loaded into an arena of its own,
and only when that has succeeded is the former arena released and the former table
dropped; a load that fails leaves the store as it was.

Owns: `Store`, loading into it, and closing it.

Does not own: where sources come from.
-/

namespace ConstantCatalog

variable {α : Type}

/-- A table and the arena that its content was charged to. -/
structure Store (α : Type) where
  arena : Arena
  table : OrderedTable α

abbrev ConstantStore := Store Constant

abbrev TypeStore := Store DeclaredType

/-- What came of loading a source into a store: the store after it, the arena that
was replaced, as it was released, the events, and the number of names now held. -/
structure StoreLoad (α : Type) where
  store : Store α
  replaced : Option Arena
  events : List Event
  outcome : Except LoadFault Nat

namespace Store

/-- A store that holds nothing, with a limit for every arena it loads into. -/
def ofLimit (limit : Option Int) : Store α := ⟨.ofLimit limit, .empty⟩

instance : Inhabited (Store α) := ⟨ofLimit none⟩

def size (store : Store α) : Nat := store.table.size

def get? (store : Store α) (name : String) : Option α :=
  store.table.get? name

/-- Replaces the content by that of a source. -/
def load (format : DeclarationFormat α) (store : Store α)
    (source : DeclarationSource) : StoreLoad α :=
  match format.load (.ofLimit store.arena.limit) source with
  | (loading, none) =>
      let count := loading.table.size
      { store := ⟨loading.arena, loading.table⟩
        replaced := some store.arena.release
        events := loading.events.toList ++ [format.loadedEvent count loading.arena.used]
        outcome := .ok count }
  | (loading, some fault) =>
      { store := store
        replaced := none
        events := loading.events.toList
        outcome := .error fault }

def close (store : Store α) : Store α :=
  ⟨store.arena.release, .empty⟩

end Store

end ConstantCatalog
