import ConstantCatalog.OrderedTable
import Mathlib.Data.List.Induction

/-!
Contract: what a run of insertions leaves in a table.

A table is determined by the order of its names and by what it holds under each. After
a run of insertions the names stand in the order of their first occurrence and each
holds the value that was inserted last.

Owns: `OrderedTable.insertAll`, its names and values, and its law of composition.

Does not own: where the insertions come from.
-/

namespace ConstantCatalog

variable {α : Type}

/-! ## First occurrences -/

private theorem eraseDups_concat (names : List String) (name : String) :
    (names ++ [name]).eraseDups =
      if name ∈ names then names.eraseDups else names.eraseDups ++ [name] := by
  rw [List.eraseDups_append]
  by_cases present : name ∈ names
  · simp [List.removeAll, present]
  · simp [List.removeAll, present, List.eraseDups_cons]

private theorem eraseDups_of_nodup {names : List String} (distinct : names.Nodup) :
    names.eraseDups = names := by
  induction names using List.reverseRecOn with
  | nil => rfl
  | append_singleton rest name inductionHypothesis =>
      obtain ⟨restDistinct, _, apart⟩ := List.nodup_append.1 distinct
      have absent : name ∉ rest := fun member => apart name member name (by simp) rfl
      rw [eraseDups_concat, if_neg absent, inductionHypothesis restDistinct]

/-- Leaving out repetitions early makes no difference to what is left in the end. -/
private theorem eraseDups_append_eraseDups (first second : List String) :
    (first ++ second.eraseDups).eraseDups = (first ++ second).eraseDups := by
  induction second using List.reverseRecOn with
  | nil => rfl
  | append_singleton rest name inductionHypothesis =>
      rw [eraseDups_concat, ← List.append_assoc, eraseDups_concat,
        ← inductionHypothesis]
      by_cases present : name ∈ rest
      · rw [if_pos present, if_pos (List.mem_append_right _ present)]
      · rw [if_neg present, ← List.append_assoc, eraseDups_concat]
        simp [List.mem_eraseDups]

/-! ## Entries -/

theorem lookupEntry_eq_none {name : String} {entries : List (String × α)}
    (absent : name ∉ entries.map Prod.fst) :
    lookupEntry name entries = none := by
  induction entries with
  | nil => rfl
  | cons entry rest inductionHypothesis =>
      simp only [List.map_cons, List.mem_cons, not_or] at absent
      rw [lookupEntry, if_neg (Ne.symm absent.1), inductionHypothesis absent.2]

private theorem mem_insertEntry {name key : String} {value held : α} {entries : List (String × α)}
    (member : (key, held) ∈ insertEntry name value entries) :
    (key, held) ∈ entries ∨ (key, held) = (name, value) := by
  induction entries with
  | nil => exact Or.inr (List.mem_singleton.1 member)
  | cons entry rest inductionHypothesis =>
      obtain ⟨other, old⟩ := entry
      rw [insertEntry] at member
      split at member
      · rename_i same
        rcases List.mem_cons.1 member with isEntry | inRest
        · exact Or.inr (by rw [isEntry, same])
        · exact Or.inl (List.mem_cons_of_mem _ inRest)
      · rcases List.mem_cons.1 member with isEntry | inRest
        · exact Or.inl (by rw [isEntry]; exact List.mem_cons_self)
        · rcases inductionHypothesis inRest with before | isNew
          · exact Or.inl (List.mem_cons_of_mem _ before)
          · exact Or.inr isNew

theorem lookupEntry_of_mem {name : String} {value : α} {entries : List (String × α)}
    (distinct : (entries.map Prod.fst).Nodup) (member : (name, value) ∈ entries) :
    lookupEntry name entries = some value := by
  induction entries with
  | nil => contradiction
  | cons entry rest inductionHypothesis =>
      obtain ⟨other, held⟩ := entry
      obtain ⟨absent, restDistinct⟩ := List.nodup_cons.1 distinct
      rw [lookupEntry]
      rcases List.mem_cons.1 member with isEntry | inRest
      · obtain ⟨rfl, rfl⟩ := Prod.mk.inj isEntry
        exact if_pos rfl
      · have present : name ∈ rest.map Prod.fst := List.mem_map_of_mem inRest
        have apart : other ≠ name := fun same => absent (same ▸ present)
        rw [if_neg apart, inductionHypothesis restDistinct inRest]

theorem mem_of_lookupEntry {name : String} {value : α} {entries : List (String × α)}
    (held : lookupEntry name entries = some value) :
    (name, value) ∈ entries := by
  induction entries with
  | nil => contradiction
  | cons entry rest inductionHypothesis =>
      obtain ⟨other, found⟩ := entry
      rw [lookupEntry] at held
      by_cases same : other = name
      · rw [if_pos same] at held
        rw [same, Option.some.inj held]
        exact List.mem_cons_self
      · rw [if_neg same] at held
        exact List.mem_cons_of_mem _ (inductionHypothesis held)

/-- Entries with distinct names are determined by the order of the names and what
stands under each. -/
private theorem entries_ext {left right : List (String × α)}
    (names : left.map Prod.fst = right.map Prod.fst) (distinct : (left.map Prod.fst).Nodup)
    (values : ∀ name, lookupEntry name left = lookupEntry name right) :
    left = right := by
  induction left generalizing right with
  | nil => exact (List.map_eq_nil_iff.1 names.symm).symm
  | cons entry rest inductionHypothesis =>
      cases right with
      | nil => simp at names
      | cons other others =>
          obtain ⟨name, value⟩ := entry
          obtain ⟨otherName, otherValue⟩ := other
          simp only [List.map_cons, List.cons.injEq] at names distinct
          obtain ⟨rfl, restNames⟩ := names
          obtain ⟨absent, restDistinct⟩ := List.nodup_cons.1 distinct
          have same := values name
          simp only [lookupEntry, if_true, Option.some.injEq] at same
          subst same
          rw [inductionHypothesis restNames restDistinct]
          intro asked
          by_cases isName : name = asked
          · subst isName
            rw [lookupEntry_eq_none absent, lookupEntry_eq_none (restNames ▸ absent)]
          · have outer := values asked
            simpa only [lookupEntry, if_neg isName] using outer

/-- An entry at the end counts where no entry before it has its name. -/
theorem lookupEntry_concat (name other : String) (value : α) (entries : List (String × α)) :
    lookupEntry name (entries ++ [(other, value)]) =
      (lookupEntry name entries).or (if other = name then some value else none) := by
  induction entries with
  | nil => rfl
  | cons first rest inductionHypothesis =>
      simp only [List.cons_append, lookupEntry, inductionHypothesis]
      split <;> rfl

/-- Where names are distinct it does not matter from which end a name is sought. -/
theorem lookupEntry_reverse {entries : List (String × α)} (distinct : (entries.map Prod.fst).Nodup)
    (name : String) :
    lookupEntry name entries.reverse = lookupEntry name entries := by
  induction entries with
  | nil => rfl
  | cons entry rest inductionHypothesis =>
      obtain ⟨other, value⟩ := entry
      obtain ⟨absent, restDistinct⟩ := List.nodup_cons.1 distinct
      rw [List.reverse_cons, lookupEntry_concat, inductionHypothesis restDistinct, lookupEntry]
      by_cases isName : other = name
      · subst isName
        simp [lookupEntry_eq_none absent]
      · simp [isName]

/-- Under a name stands what the first item of that name is taken for. -/
theorem lookupEntry_map {β : Type} (key : β → String) (value : β → α) (name : String)
    (items : List β) :
    lookupEntry name (items.map fun item => (key item, value item)) =
      (items.find? (key · == name)).map value := by
  induction items with
  | nil => rfl
  | cons item rest inductionHypothesis =>
      rw [List.map_cons, lookupEntry, List.find?_cons, inductionHypothesis]
      cases isName : key item == name with
      | true => rw [if_pos (eq_of_beq isName), Option.map_some]
      | false => rw [if_neg (ne_of_beq_false isName)]

namespace OrderedTable

/-- Two tables with the same names in the same order and the same values are one. -/
private theorem ext_names {left right : OrderedTable α} (names : left.names = right.names)
    (values : ∀ name, left.get? name = right.get? name) :
    left = right := by
  obtain ⟨leftEntries, leftDistinct⟩ := left
  obtain ⟨rightEntries, rightDistinct⟩ := right
  have same : leftEntries = rightEntries := entries_ext names leftDistinct values
  subst same
  rfl

/-- The names of a table are those that it has a value under. -/
theorem mem_names_iff {table : OrderedTable α} {name : String} :
    name ∈ table.names ↔ ∃ value, table.get? name = some value := by
  constructor
  · intro member
    obtain ⟨⟨key, value⟩, inEntries, rfl⟩ := List.mem_map.1 member
    exact ⟨value, lookupEntry_of_mem table.names_nodup inEntries⟩
  · intro ⟨value, held⟩
    exact List.mem_map_of_mem (mem_of_lookupEntry held)

/-- A table holds after an insertion what it held before it and what was inserted. -/
theorem mem_insert {table : OrderedTable α} {name key : String} {value held : α}
    (member : (key, held) ∈ (table.insert name value).entries) :
    (key, held) ∈ table.entries ∨ (key, held) = (name, value) :=
  mem_insertEntry member

/-- Inserts entries one after the other. -/
def insertAll (table : OrderedTable α) (entries : List (String × α)) : OrderedTable α :=
  entries.foldl (fun grown entry => grown.insert entry.1 entry.2) table

@[simp] theorem insertAll_nil (table : OrderedTable α) :
    table.insertAll [] = table := rfl

@[simp] theorem insertAll_cons (table : OrderedTable α) (entry : String × α)
    (entries : List (String × α)) :
    table.insertAll (entry :: entries) =
      (table.insert entry.1 entry.2).insertAll entries := rfl

theorem insertAll_append (table : OrderedTable α) (first second : List (String × α)) :
    table.insertAll (first ++ second) = (table.insertAll first).insertAll second :=
  List.foldl_append

private theorem eraseDups_names (table : OrderedTable α) :
    table.names.eraseDups = table.names :=
  eraseDups_of_nodup table.names_nodup

/-- Names stand in the order of their first occurrence. -/
theorem names_insertAll (table : OrderedTable α) (entries : List (String × α)) :
    (table.insertAll entries).names =
      (table.names ++ entries.map Prod.fst).eraseDups := by
  induction entries using List.reverseRecOn with
  | nil =>
      rw [insertAll_nil, List.map_nil, List.append_nil, eraseDups_names]
  | append_singleton rest entry inductionHypothesis =>
      rw [insertAll_append, insertAll_cons, insertAll_nil, names_insert,
        inductionHypothesis, List.map_append, ← List.append_assoc, List.map_singleton,
        eraseDups_concat]
      have present :
          entry.1 ∈ (table.names ++ rest.map Prod.fst).eraseDups ↔
            entry.1 ∈ table.names ++ rest.map Prod.fst :=
        List.mem_eraseDups
      simp only [present]

/-- The value that was inserted last is held; what was held before remains where
nothing was inserted. -/
theorem get?_insertAll (table : OrderedTable α) (entries : List (String × α)) (name : String) :
    (table.insertAll entries).get? name =
      (lookupEntry name entries.reverse).or (table.get? name) := by
  induction entries using List.reverseRecOn with
  | nil => rfl
  | append_singleton rest entry inductionHypothesis =>
      rw [insertAll_append, insertAll_cons, insertAll_nil, get?_insert,
        inductionHypothesis, List.reverse_append]
      simp only [List.reverse_cons, List.reverse_nil, List.nil_append, List.cons_append,
        lookupEntry]
      split <;> rfl

/-- Where the inserted names are distinct, the new ones follow the old ones in their own
order. -/
theorem names_insertAll_of_nodup (table : OrderedTable α) {entries : List (String × α)}
    (distinct : (entries.map Prod.fst).Nodup) :
    (table.insertAll entries).names =
      table.names ++ (entries.map Prod.fst).filter (! table.names.contains ·) := by
  have newDistinct : ((entries.map Prod.fst).filter (! table.names.contains ·)).Nodup :=
    distinct.filter _
  rw [names_insertAll, List.eraseDups_append, eraseDups_names]
  congr 1
  exact eraseDups_of_nodup newDistinct

/-- Inserting the same entries again changes nothing. -/
theorem insertAll_insertAll_self (table : OrderedTable α) (entries : List (String × α)) :
    (table.insertAll entries).insertAll entries = table.insertAll entries := by
  apply ext_names
  · have settled : (entries.map Prod.fst).removeAll (table.insertAll entries).names = [] := by
      apply List.filter_eq_nil_iff.2
      intro name member
      simp [names_insertAll, List.mem_eraseDups, member]
    rw [names_insertAll, List.eraseDups_append, settled, eraseDups_names]
    exact List.append_nil _
  · intro name
    rw [get?_insertAll, get?_insertAll]
    cases lookupEntry name entries.reverse with
    | none => rfl
    | some value => rfl

/-- Inserting what a run of insertions would leave is inserting the run itself. -/
theorem insertAll_entries_insertAll (table : OrderedTable α) (entries : List (String × α)) :
    table.insertAll (empty.insertAll entries).entries = table.insertAll entries := by
  apply ext_names
  · rw [names_insertAll, names_insertAll]
    have inner := names_insertAll (α := α) empty entries
    change (empty.insertAll entries).entries.map Prod.fst = _ at inner
    rw [inner]
    exact eraseDups_append_eraseDups table.names (entries.map Prod.fst)
  · intro name
    rw [get?_insertAll, get?_insertAll,
      lookupEntry_reverse (empty.insertAll entries).names_nodup]
    have inner := get?_insertAll (α := α) empty entries name
    change lookupEntry name (empty.insertAll entries).entries = _ at inner
    rw [inner, get?_empty, Option.or_none]

end OrderedTable

end ConstantCatalog
