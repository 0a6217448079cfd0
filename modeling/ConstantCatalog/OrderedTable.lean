/-!
Contract: tables from names to values that remember the order of first insertion.

Replacing a value leaves its name where it is; a new name goes to the end. No name
occurs twice, which is part of the type.

Owns: `OrderedTable`, lookup, insertion, and the laws that tie them together.

Does not own: any meaning of the values.
-/

namespace ConstantCatalog

variable {α : Type}

/-- The value that the first entry of a name holds. -/
def lookupEntry (name : String) : List (String × α) → Option α
  | [] => none
  | (other, value) :: rest => if other = name then some value else lookupEntry name rest

/-- Replaces the value of a name, or appends the name with its value. -/
def insertEntry (name : String) (value : α) : List (String × α) → List (String × α)
  | [] => [(name, value)]
  | (other, old) :: rest =>
      if other = name then (other, value) :: rest
      else (other, old) :: insertEntry name value rest

private theorem map_fst_insertEntry (name : String) (value : α) (entries : List (String × α)) :
    (insertEntry name value entries).map Prod.fst =
      if name ∈ entries.map Prod.fst then entries.map Prod.fst
      else entries.map Prod.fst ++ [name] := by
  induction entries with
  | nil => simp [insertEntry]
  | cons entry rest inductionHypothesis =>
      obtain ⟨other, old⟩ := entry
      by_cases same : other = name
      · simp [insertEntry, same]
      · simp only [insertEntry, if_neg same, List.map_cons, inductionHypothesis,
          List.mem_cons, Ne.symm same, false_or]
        split <;> rfl

private theorem nodup_insertEntry (name : String) (value : α) {entries : List (String × α)}
    (distinct : (entries.map Prod.fst).Nodup) :
    ((insertEntry name value entries).map Prod.fst).Nodup := by
  rw [map_fst_insertEntry]
  split
  · exact distinct
  · rename_i absent
    refine List.nodup_append.2 ⟨distinct, by simp, ?_⟩
    intro left leftMember right rightMember equal
    simp only [List.mem_singleton] at rightMember
    exact absent (rightMember ▸ equal ▸ leftMember)

private theorem lookupEntry_insertEntry (name other : String) (value : α)
    (entries : List (String × α)) :
    lookupEntry other (insertEntry name value entries) =
      if name = other then some value else lookupEntry other entries := by
  induction entries with
  | nil => simp [insertEntry, lookupEntry]
  | cons entry rest inductionHypothesis =>
      obtain ⟨first, old⟩ := entry
      by_cases same : first = name
      · subst same
        by_cases asked : first = other
        · simp [insertEntry, lookupEntry, asked]
        · simp [insertEntry, lookupEntry, asked]
      · by_cases asked : first = other
        · subst asked
          have apart : name ≠ first := fun equal => same equal.symm
          simp [insertEntry, lookupEntry, same, apart]
        · simp [insertEntry, lookupEntry, same, asked, inductionHypothesis]

/-- A table of named values in the order in which the names first came. -/
structure OrderedTable (α : Type) where
  entries : List (String × α)
  names_nodup : (entries.map Prod.fst).Nodup

namespace OrderedTable

def empty : OrderedTable α := ⟨[], List.nodup_nil⟩

instance : Inhabited (OrderedTable α) := ⟨empty⟩

def names (table : OrderedTable α) : List String :=
  table.entries.map Prod.fst

def size (table : OrderedTable α) : Nat :=
  table.entries.length

def get? (table : OrderedTable α) (name : String) : Option α :=
  lookupEntry name table.entries

def contains (table : OrderedTable α) (name : String) : Bool :=
  (table.get? name).isSome

/-- Holds a value under a name from now on. -/
def insert (table : OrderedTable α) (name : String) (value : α) : OrderedTable α :=
  ⟨insertEntry name value table.entries, nodup_insertEntry name value table.names_nodup⟩

@[simp] theorem get?_empty (name : String) :
    (empty : OrderedTable α).get? name = none := rfl

/-- Insertion changes what is held under its own name and nothing else. -/
theorem get?_insert (table : OrderedTable α) (name other : String) (value : α) :
    (table.insert name value).get? other =
      if name = other then some value else table.get? other :=
  lookupEntry_insertEntry name other value table.entries

/-- Insertion keeps the order of the names; a new one comes last. -/
theorem names_insert (table : OrderedTable α) (name : String) (value : α) :
    (table.insert name value).names =
      if name ∈ table.names then table.names else table.names ++ [name] :=
  map_fst_insertEntry name value table.entries

end OrderedTable

end ConstantCatalog
