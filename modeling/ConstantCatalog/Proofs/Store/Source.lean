import ConstantCatalog.Proofs.Overlay.Grammar
import ConstantCatalog.Proofs.Store.History

/-!
Contract: stores that were filled from one source.

Whatever the limit, such a store holds under a name what the last line of the source that
declares the name gives it, and nothing under the other names. A source of types is filled
in without a fault if nothing limits it.

Owns: `Store.ofSource`, and what a store holds by the lines of its source.

Does not own: what lines declare, and stores that are filled again.
-/

namespace ConstantCatalog

variable {α : Type}

/-! ## Lines that declare a name -/

namespace DeclarationFormat

variable (format : DeclarationFormat α)

/-- What the last of some lines that declares a name gives it. -/
def lastUnder? (name : String) (lines : List String) : Option α :=
  lookupEntry name (entriesOf (format.additions lines)).reverse

/-- A line counts where no line behind it declares its name. -/
theorem lastUnder?_cons (name line : String) (lines : List String) :
    format.lastUnder? name (line :: lines) =
      (format.lastUnder? name lines).or ((format.addition? line).bind fun addition =>
        if addition.name = name then some addition.entry else none) := by
  unfold lastUnder?
  cases added : format.addition? line with
  | none =>
      rw [additions, List.filterMap_cons_none added]
      exact (Option.or_none ..).symm
  | some addition =>
      rw [additions, List.filterMap_cons_some added, entriesOf, List.map_cons,
        List.reverse_cons, lookupEntry_concat]
      rfl

/-- Whether a line declares a name. -/
def DeclaresName (line name : String) : Prop :=
  ∃ addition, format.addition? line = some addition ∧ addition.name = name

private theorem declaresName_iff {line name : String} :
    format.DeclaresName line name ↔
      ∃ entry sizes events, format.readLine line = .accepted name entry sizes events := by
  unfold DeclaresName addition?
  cases format.readLine line with
  | skipped events => simp [LineReading.addition?]
  | unconvertible fault => simp [LineReading.addition?]
  | accepted key entry sizes events => simp [LineReading.addition?]

/-- A line that does not declare a name has no part in what stands under it. -/
theorem lastUnder?_cons_of_other {name line : String} (other : ¬format.DeclaresName line name)
    (lines : List String) :
    format.lastUnder? name (line :: lines) = format.lastUnder? name lines := by
  rw [lastUnder?_cons]
  cases added : format.addition? line with
  | none => exact Option.or_none ..
  | some addition =>
      have isOther : addition.name ≠ name := fun same => other ⟨addition, added, same⟩
      rw [Option.bind_some, if_neg isOther]
      exact Option.or_none ..

theorem lastUnder?_eq_none {name : String} {lines : List String}
    (undeclared : ∀ line ∈ lines, ¬format.DeclaresName line name) :
    format.lastUnder? name lines = none := by
  induction lines with
  | nil => rfl
  | cons line rest inductionHypothesis =>
      rw [format.lastUnder?_cons_of_other (undeclared line List.mem_cons_self)]
      exact inductionHypothesis fun other member =>
        undeclared other (List.mem_cons_of_mem _ member)

end DeclarationFormat

/-- A line of types declares the name that it gives a type. -/
theorem declaresName_typeFormat_iff {line name : String} :
    typeFormat.DeclaresName line name ↔ ∃ declared, DeclaresType line name declared := by
  rw [DeclarationFormat.declaresName_iff]
  constructor
  · rintro ⟨declared, sizes, events, accepted⟩
    exact ⟨declared, declaresType_of_accepted accepted⟩
  · rintro ⟨declared, beforeColon, afterColon, shape, rfl, -⟩
    obtain ⟨events, accepted, -⟩ := readTypeLine_of_isTypeDeclaration shape
    exact ⟨_, _, events, accepted⟩

/-! ## Stores of sources -/

namespace Store

/-- The store that a source loads into. -/
def ofSource (format : DeclarationFormat α) (limit : Option Int)
    (source : DeclarationSource) : Except LoadFault (Store α) :=
  let loaded := (Store.ofLimit limit).load format source
  loaded.outcome.map fun _ => loaded.store

theorem ofSource_of_isOk {format : DeclarationFormat α} {limit : Option Int}
    {source : DeclarationSource} (isOk : ((ofLimit limit).load format source).outcome.isOk = true) :
    ofSource format limit source = .ok ((ofLimit limit).load format source).store := by
  unfold ofSource
  cases outcome : ((ofLimit limit).load format source).outcome with
  | error fault =>
      rw [outcome] at isOk
      contradiction
  | ok count => simp only [outcome, Except.map]

/-- A store that a source was loaded into holds it. -/
theorem holds_of_ofSource {format : DeclarationFormat α} {limit : Option Int}
    {source : DeclarationSource} {store : Store α}
    (loaded : ofSource format limit source = .ok store) :
    StoreKeeper.Holds format limit store (some source) := by
  unfold ofSource at loaded
  dsimp only at loaded
  cases outcome : ((Store.ofLimit limit).load format source).outcome with
  | error fault =>
      rw [outcome] at loaded
      contradiction
  | ok count =>
      rw [outcome] at loaded
      exact ⟨(Except.ok.inj loaded).symm, count, outcome⟩

/-- A store that a source was loaded into is what the load has come to. -/
private theorem exists_loading_of_ofSource {format : DeclarationFormat α} {limit : Option Int}
    {source : DeclarationSource} {store : Store α}
    (loaded : ofSource format limit source = .ok store) :
    ∃ loading,
      format.load (.ofLimit limit) source = (loading, none) ∧
        store = ⟨loading.arena, loading.table⟩ := by
  unfold ofSource load at loaded
  have isLimit : (Store.ofLimit limit : Store α).arena.limit = limit := rfl
  rw [isLimit] at loaded
  cases reached : format.load (.ofLimit limit) source with
  | mk loading fault =>
      rw [reached] at loaded
      cases fault with
      | some cause => contradiction
      | none => exact ⟨loading, rfl, (Except.ok.inj loaded).symm⟩

/-- Whatever the limit, the table of a store has what the source adds. -/
theorem table_of_ofSource {format : DeclarationFormat α} {limit : Option Int}
    {source : DeclarationSource} {store : Store α}
    (loaded : ofSource format limit source = .ok store) :
    store.table =
      .insertAll .empty (DeclarationFormat.entriesOf (format.additions source.lines)) := by
  obtain ⟨loading, reached, rfl⟩ := exists_loading_of_ofSource loaded
  have ended : (format.load (.ofLimit limit) source).2 = none := by rw [reached]
  have table := format.table_loadLines ended
  change (format.load (.ofLimit limit) source).1.table = _ at table
  rw [reached] at table
  exact table

/-- What a store holds comes of a line of its source. -/
theorem origin_of_ofSource {format : DeclarationFormat α} {limit : Option Int}
    {source : DeclarationSource} {store : Store α}
    (loaded : ofSource format limit source = .ok store) {name : String} {entry : α}
    (held : store.get? name = some entry) :
    ∃ line ∈ source.lines, ∃ sizes events,
      format.readLine line = .accepted name entry sizes events := by
  obtain ⟨loading, reached, rfl⟩ := exists_loading_of_ofSource loaded
  have inLoading : (name, entry) ∈
      (format.load (.ofLimit limit) source).1.table.entries := by
    rw [reached]
    exact mem_of_lookupEntry held
  exact format.origin_of_mem_load inLoading

/-- Under a name stands what the last line that declares it gives it. -/
theorem get?_of_ofSource {format : DeclarationFormat α} {limit : Option Int}
    {source : DeclarationSource} {store : Store α}
    (loaded : ofSource format limit source = .ok store) (name : String) :
    store.get? name = format.lastUnder? name source.lines := by
  rw [get?, table_of_ofSource loaded, OrderedTable.get?_insertAll, OrderedTable.get?_empty,
    Option.or_none]
  rfl

/-- Without a limit every source of types can be loaded. -/
theorem exists_ofSource_typeFormat (source : DeclarationSource) :
    ∃ types, ofSource typeFormat none source = .ok types := by
  have ended : (typeFormat.load (.ofLimit none) source).2 = none :=
    (typeFormat.loadLines_unlimited_eq_none_iff rfl).2
      fun line _ fault => readTypeLine_ne_unconvertible line fault
  unfold ofSource load
  dsimp only
  rw [show (ofLimit none : TypeStore).arena.limit = none from rfl]
  cases reached : typeFormat.load (.ofLimit none) source with
  | mk loading fault =>
      rw [reached] at ended
      obtain rfl : fault = none := ended
      exact ⟨_, rfl⟩

end Store

end ConstantCatalog
