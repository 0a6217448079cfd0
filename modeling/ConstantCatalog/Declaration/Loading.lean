import ConstantCatalog.Declaration.Reading
import ConstantCatalog.OrderedTable
import ConstantCatalog.Source.Lines

/-!
Contract: the loading of a declaration source into a table and an arena.

Lines are taken in order. An entry is charged to the arena before it is inserted; a
name that comes again keeps its place and takes the new entry, and both are charged.
The first fault ends the loading.

Owns: the admission of one line and the loading of all lines.

Does not own: what becomes of a loaded table.
-/

namespace ConstantCatalog

variable {α : Type}

/-- What came of one line: the arena after it, its events, and the entry that it
adds, if it adds one. -/
structure Admission (α : Type) where
  arena : Arena
  events : List Event
  outcome : Except LoadFault (Option (String × α))

/-- Reads a line and charges its entry. A charge that fails leaves what was charged
before it. -/
def DeclarationFormat.admit (format : DeclarationFormat α) (arena : Arena)
    (line : String) : Admission α :=
  match format.readLine line with
  | .skipped events => ⟨arena, events, .ok none⟩
  | .unconvertible fault => ⟨arena, [], .error (.unconvertible fault)⟩
  | .accepted name entry sizes events =>
      match arena.chargeAll sizes with
      | (charged, none) => ⟨charged, events, .ok (some (name, entry))⟩
      | (charged, some cause) => ⟨charged, events, .error (.exhausted cause)⟩

/-- How far a loading has come: the arena, the table, and the events so far. -/
structure Loading (α : Type) where
  arena : Arena
  table : OrderedTable α
  events : Array Event

namespace Loading

def start (arena : Arena) (events : List Event) : Loading α :=
  ⟨arena, .empty, events.toArray⟩

def advance (loading : Loading α) (admission : Admission α) : Loading α :=
  { arena := admission.arena
    table :=
      match admission.outcome with
      | .ok (some (name, entry)) => loading.table.insert name entry
      | _ => loading.table
    events := loading.events ++ admission.events }

end Loading

/-- Loads lines one after the other, up to the first fault. -/
def DeclarationFormat.loadLines (format : DeclarationFormat α)
    (loading : Loading α) : List String → Loading α × Option LoadFault
  | [] => (loading, none)
  | line :: lines =>
      let admission := format.admit loading.arena line
      match admission.outcome with
      | .ok _ => format.loadLines (loading.advance admission) lines
      | .error fault => (loading.advance admission, some fault)

/-- Loads a source into an arena and a new table. -/
def DeclarationFormat.load (format : DeclarationFormat α) (arena : Arena)
    (source : DeclarationSource) : Loading α × Option LoadFault :=
  format.loadLines (.start arena source.lineEvents) source.lines

end ConstantCatalog
