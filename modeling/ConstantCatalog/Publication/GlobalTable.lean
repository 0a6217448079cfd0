import ConstantCatalog.Number.Rounding
import ConstantCatalog.OrderedTable
import ConstantCatalog.Publication.GlobalValue

/-!
Contract: the part of the machine that globals are published into: a stack of values
and a table of globals.

A value is pushed first; setting a global then takes it off the stack and binds it.

Owns: `GlobalTable`, pushing, setting and binding, and the faults of each.

Does not own: which globals are published.
-/

namespace ConstantCatalog

inductive MachineFault where
  /-- A global is to be set, but nothing has been pushed. -/
  | emptyStack
  /-- An integer is beyond the largest number of the machine. -/
  | integerTooLarge
deriving DecidableEq, Repr

def MachineFault.message : MachineFault → String
  | .emptyStack => "set_global with an empty stack"
  | .integerTooLarge => "int too large to convert to float"

/-- The globals in order of first binding, and the stack with its top first. -/
structure GlobalTable where
  globals : OrderedTable GlobalValue
  stack : List GlobalValue

namespace GlobalTable

def empty : GlobalTable := ⟨.empty, []⟩

instance : Inhabited GlobalTable := ⟨empty⟩

def depth (table : GlobalTable) : Nat := table.stack.length

def size (table : GlobalTable) : Nat := table.globals.size

def get? (table : GlobalTable) (name : String) : Option GlobalValue :=
  table.globals.get? name

def push (table : GlobalTable) (value : GlobalValue) : GlobalTable :=
  { table with stack := value :: table.stack }

/-- Puts an integer on the stack as the nearest number. -/
def pushInteger (table : GlobalTable) (value : Int) : Except MachineFault GlobalTable :=
  match Number.ofInt? value with
  | some number => .ok (table.push (.number number))
  | none => .error .integerTooLarge

/-- Takes the top of the stack and binds it to a name. -/
def setGlobal (table : GlobalTable) (name : String) : Except MachineFault GlobalTable :=
  match table.stack with
  | [] => .error .emptyStack
  | value :: rest => .ok ⟨table.globals.insert name value, rest⟩

/-- Binds a value to a name and leaves the stack alone. -/
def bind (table : GlobalTable) (name : String) (value : GlobalValue) : GlobalTable :=
  { table with globals := table.globals.insert name value }

/-- Binding is pushing the value and setting the global. -/
theorem setGlobal_push (table : GlobalTable) (name : String) (value : GlobalValue) :
    (table.push value).setGlobal name = .ok (table.bind name value) := rfl

end GlobalTable

end ConstantCatalog
