/-!
Contract: the account of the storage behind one parsed source.

Whatever is copied in is charged in bytes and counted as a block. Nothing is given
back singly: a release gives back all at once. A limit makes a charge that would
exceed it fail, and a failed charge changes nothing.

A text is charged with its length in UTF-8. It is made of Unicode scalar values: lone
surrogates, which would be charged with three bytes each, are no characters of a text here.

Owns: `Arena`, the sizes that copies are charged with, and `ArenaExhausted`.

Does not own: the copied data, which its tables hold.
-/

namespace ConstantCatalog

/-- A charge that the limit of an arena does not allow. -/
structure ArenaExhausted where
  limit : Int
  used : Int
  requested : Int
deriving DecidableEq, Repr

def ArenaExhausted.message (exhausted : ArenaExhausted) : String :=
  s!"arena limit of {exhausted.limit} bytes exceeded " ++
  s!"({exhausted.used} used, {exhausted.requested} requested)"

/-- The bytes and blocks charged since the last release, and the limit on the
bytes, if there is one. -/
structure Arena where
  limit : Option Int
  used : Int
  blocks : Nat
deriving DecidableEq, Repr

def componentSize : Nat := 4

namespace Arena

def ofLimit (limit : Option Int) : Arena := ⟨limit, 0, 0⟩

def exceedsWith (arena : Arena) (size : Int) : Bool :=
  match arena.limit with
  | none => false
  | some limit => decide (limit < arena.used + size)

def charge (arena : Arena) (size : Int) : Except ArenaExhausted Arena :=
  if arena.exceedsWith size then
    .error ⟨arena.limit.getD 0, arena.used, size⟩
  else
    .ok { arena with used := arena.used + size, blocks := arena.blocks + 1 }

/-- Charges blocks one after the other, up to the first that fails. What was
charged before it stays charged. -/
def chargeAll (arena : Arena) : List Nat → Arena × Option ArenaExhausted
  | [] => (arena, none)
  | size :: sizes =>
      match arena.charge size with
      | .ok charged => charged.chargeAll sizes
      | .error exhausted => (arena, some exhausted)

def chargeText (arena : Arena) (text : String) : Except ArenaExhausted Arena :=
  arena.charge text.utf8ByteSize

def chargeComponents (arena : Arena) (count : Nat) : Except ArenaExhausted Arena :=
  arena.charge (componentSize * count : Nat)

def release (arena : Arena) : Arena := ofLimit arena.limit

end Arena

end ConstantCatalog
