import ConstantCatalog.Proofs.OrderedTable
import ConstantCatalog.Proofs.Publication.Machine
import Mathlib.Data.List.Basic

/-!
Contract: the state that a publication leaves.

Every name that can be copied is bound to what it resolves to, in the order of the store;
every other global, and the stack, stay as they were. Each of the other names is reported
once, and not touched. To publish again changes nothing.

Owns: the published and the skipped names of a catalog, `PublicationEffect`, and its proof
where all integers are within the numbers.

Does not own: which catalogs have integers within the numbers.
-/

namespace ConstantCatalog

namespace Catalog

/-- The names that can be copied, in the order of the store. -/
def publishedNames (catalog : Catalog) : List String :=
  catalog.constants.table.names.filter catalog.fits

/-- The names that are too long to be copied, in the order of the store. -/
def skippedNames (catalog : Catalog) : List String :=
  catalog.constants.table.names.filter (! catalog.fits ·)

/-- The published names with what they resolve to. -/
def bindings (catalog : Catalog) : List (String × GlobalValue) :=
  catalog.publishedNames.filterMap fun name =>
    (catalog.resolve name).1.map fun value => (name, value)

end Catalog

/-- What a publication leaves of a machine, and what it says and does on the way. -/
structure PublicationEffect (catalog : Catalog) (table : GlobalTable)
    (run : MachineRun) : Prop where
  stack : run.table.stack = table.stack
  bound :
    ∀ name ∈ catalog.publishedNames, ∃ value,
      (catalog.resolve name).1 = some value ∧ run.table.get? name = some value
  kept :
    ∀ name, name ∉ catalog.publishedNames → run.table.get? name = table.get? name
  /-- Names that were bound before keep their places. -/
  order :
    run.table.globals.names =
      table.globals.names ++
        catalog.publishedNames.filter (! table.globals.names.contains ·)
  count : run.count = catalog.publishedNames.length
  /-- Each name that is too long causes one warning. -/
  warnings :
    run.events.toList.filter (·.severity == .warning) =
      catalog.skippedNames.map fun name => .globalSkipped name (catalog.refusal name)
  /-- Each name that is bound causes two calls, and the others none. -/
  calls :
    run.calls = catalog.bindings.flatMap fun (name, value) =>
      [value.pushCall, .setGlobal name]
  /-- Publishing again changes nothing. -/
  again :
    ∃ second, catalog.publishByCalls run.table = .ok second ∧
      second.table = run.table ∧ second.count = run.count

/-- Every call pushes what a published name resolves to, or sets such a name. -/
theorem PublicationEffect.exists_name_of_mem_calls {catalog : Catalog} {table : GlobalTable}
    {run : MachineRun} (effect : PublicationEffect catalog table run) {call : MachineCall}
    (isCall : call ∈ run.calls) :
    ∃ name ∈ catalog.publishedNames, ∃ value, (catalog.resolve name).1 = some value ∧
      (call = value.pushCall ∨ call = .setGlobal name) := by
  rw [effect.calls] at isCall
  obtain ⟨⟨key, value⟩, bound, isOne⟩ := List.mem_flatMap.1 isCall
  obtain ⟨name, published, resolved⟩ := List.mem_filterMap.1 bound
  obtain ⟨found, isFound, isBinding⟩ := Option.map_eq_some_iff.1 resolved
  obtain ⟨rfl, rfl⟩ := Prod.mk.inj isBinding
  refine ⟨name, published, found, isFound, ?_⟩
  simpa using isOne

/-- Only published names are set. -/
theorem PublicationEffect.mem_publishedNames_of_setGlobal {catalog : Catalog} {table : GlobalTable}
    {run : MachineRun} (effect : PublicationEffect catalog table run) {name : String}
    (isSet : .setGlobal name ∈ run.calls) :
    name ∈ catalog.publishedNames := by
  obtain ⟨key, published, value, -, isPush | isKey⟩ := effect.exists_name_of_mem_calls isSet
  · exact absurd isPush.symm (value.pushCall_ne_setGlobal name)
  · rw [MachineCall.setGlobal.inj isKey]
    exact published

namespace Catalog

variable (catalog : Catalog)

/-! ## Entries -/

/-- What is bound of the given entries. -/
def bindingsOf (entries : List (String × Constant)) : List (String × GlobalValue) :=
  (entries.filter fun entry => catalog.fits entry.1).map fun entry =>
    (entry.1, (catalog.resolveConstant entry.2).1)

/-- What is reported of one entry. -/
def eventsOf (entry : String × Constant) : List Event :=
  (catalog.resolveConstant entry.2).2 ++
    if catalog.fits entry.1 then [] else [.globalSkipped entry.1 (catalog.refusal entry.1)]

private theorem bindingsOf_cons_of_fits {name : String} (fits : catalog.fits name = true)
    (constant : Constant) (rest : List (String × Constant)) :
    catalog.bindingsOf ((name, constant) :: rest) =
      (name, (catalog.resolveConstant constant).1) :: catalog.bindingsOf rest := by
  simp [bindingsOf, fits]

private theorem bindingsOf_cons_of_not_fits {name : String} (tooLong : catalog.fits name = false)
    (constant : Constant) (rest : List (String × Constant)) :
    catalog.bindingsOf ((name, constant) :: rest) = catalog.bindingsOf rest := by
  simp [bindingsOf, tooLong]

private theorem map_fst_bindingsOf (entries : List (String × Constant)) :
    (catalog.bindingsOf entries).map Prod.fst =
      (entries.map Prod.fst).filter catalog.fits := by
  rw [bindingsOf, List.map_map, List.filter_map]
  rfl

private theorem lookupEntry_bindingsOf (name : String) (entries : List (String × Constant)) :
    lookupEntry name (catalog.bindingsOf entries) =
      if catalog.fits name then
        (lookupEntry name entries).map fun constant => (catalog.resolveConstant constant).1
      else none := by
  induction entries with
  | nil => simp [bindingsOf, lookupEntry]
  | cons entry rest inductionHypothesis =>
      obtain ⟨other, constant⟩ := entry
      cases fits : catalog.fits other with
      | true =>
          rw [catalog.bindingsOf_cons_of_fits fits, lookupEntry, lookupEntry,
            inductionHypothesis]
          by_cases isName : other = name
          · subst isName
            simp [fits]
          · simp [isName]
      | false =>
          rw [catalog.bindingsOf_cons_of_not_fits fits, inductionHypothesis, lookupEntry]
          by_cases isName : other = name
          · subst isName
            simp [fits]
          · simp [isName]

private theorem flatMap_callsFor (entries : List (String × Constant)) :
    (entries.flatMap fun (name, constant) => catalog.callsFor name constant) =
      (catalog.bindingsOf entries).flatMap fun (name, value) =>
        [value.pushCall, .setGlobal name] := by
  induction entries with
  | nil => rfl
  | cons entry rest inductionHypothesis =>
      obtain ⟨name, constant⟩ := entry
      rw [List.flatMap_cons, inductionHypothesis]
      cases fits : catalog.fits name with
      | true => simp [callsFor, fits, catalog.bindingsOf_cons_of_fits fits]
      | false => simp [callsFor, fits, catalog.bindingsOf_cons_of_not_fits fits]

/-- No warning comes of resolving a constant. -/
private theorem filter_warning_resolveConstant (constant : Constant) :
    (catalog.resolveConstant constant).2.filter (·.severity == .warning) = [] := by
  unfold resolveConstant
  dsimp only
  split
  · rfl
  · split
    · rfl
    · rfl

private theorem filter_warning_eventsOf (entries : List (String × Constant)) :
    (entries.flatMap catalog.eventsOf).filter (·.severity == .warning) =
      ((entries.map Prod.fst).filter (! catalog.fits ·)).map fun name =>
        .globalSkipped name (catalog.refusal name) := by
  induction entries with
  | nil => rfl
  | cons entry rest inductionHypothesis =>
      rw [List.flatMap_cons, List.filter_append, inductionHypothesis, eventsOf,
        List.filter_append, filter_warning_resolveConstant]
      cases fits : catalog.fits entry.1 with
      | true => simp [fits]
      | false => simp [fits, Event.severity]

/-! ## Publication -/

private theorem publishOne_of_fits (publication : Publication) {name : String}
    (fits : catalog.fits name = true) (constant : Constant) :
    publication.publishOne catalog name constant =
      { count := publication.count + 1
        table := publication.table.bind name (catalog.resolveConstant constant).1
        events := publication.events ++ catalog.eventsOf (name, constant) } := by
  obtain ⟨charged, granted⟩ := chargeText_of_fits fits
  simp [Publication.publishOne, granted, eventsOf, fits]

private theorem publishOne_of_not_fits (publication : Publication) {name : String}
    (tooLong : catalog.fits name = false) (constant : Constant) :
    publication.publishOne catalog name constant =
      { publication with
        events := publication.events ++ catalog.eventsOf (name, constant) } := by
  have refused := chargeText_of_not_fits tooLong
  simp [Publication.publishOne, refused, eventsOf, tooLong]

private theorem foldl_publishOne (publication : Publication) (entries : List (String × Constant)) :
    entries.foldl
        (fun reached (name, constant) => reached.publishOne catalog name constant)
        publication =
      { count := publication.count + (catalog.bindingsOf entries).length
        table :=
          ⟨publication.table.globals.insertAll (catalog.bindingsOf entries),
            publication.table.stack⟩
        events := publication.events ++ entries.flatMap catalog.eventsOf } := by
  induction entries generalizing publication with
  | nil => simp [bindingsOf]
  | cons entry rest inductionHypothesis =>
      obtain ⟨name, constant⟩ := entry
      rw [List.foldl_cons, inductionHypothesis]
      dsimp only
      cases fits : catalog.fits name with
      | true =>
          rw [catalog.publishOne_of_fits publication fits,
            catalog.bindingsOf_cons_of_fits fits]
          simp [GlobalTable.bind, Nat.add_assoc, Nat.add_comm, ← Array.toList_inj]
      | false =>
          rw [catalog.publishOne_of_not_fits publication fits,
            catalog.bindingsOf_cons_of_not_fits fits]
          simp [← Array.toList_inj]

/-- What publication leaves. -/
theorem publish_eq (table : GlobalTable) :
    catalog.publish table =
      { count := (catalog.bindingsOf catalog.constants.table.entries).length
        table :=
          ⟨table.globals.insertAll (catalog.bindingsOf catalog.constants.table.entries),
            table.stack⟩
        events := (catalog.constants.table.entries.flatMap catalog.eventsOf).toArray } := by
  refine (catalog.foldl_publishOne ⟨0, table, #[]⟩ _).trans ?_
  simp

/-! ## The store as a whole -/

theorem resolve_fst (name : String) :
    (catalog.resolve name).1 =
      (catalog.constants.get? name).map fun constant =>
        (catalog.resolveConstant constant).1 := by
  unfold resolve
  cases catalog.constants.get? name with
  | none => rfl
  | some constant => rfl

private theorem map_fst_bindingsOf_entries :
    (catalog.bindingsOf catalog.constants.table.entries).map Prod.fst =
      catalog.publishedNames :=
  catalog.map_fst_bindingsOf _

private theorem nodup_publishedNames : catalog.publishedNames.Nodup :=
  catalog.constants.table.names_nodup.filter _

theorem mem_publishedNames {name : String} :
    name ∈ catalog.publishedNames ↔
      name ∈ catalog.constants.table.names ∧ catalog.fits name = true :=
  List.mem_filter

theorem exists_resolve_of_mem_names {name : String}
    (member : name ∈ catalog.constants.table.names) :
    ∃ value, (catalog.resolve name).1 = some value := by
  obtain ⟨⟨key, constant⟩, inEntries, rfl⟩ := List.mem_map.1 member
  have held : catalog.constants.get? key = some constant :=
    lookupEntry_of_mem catalog.constants.table.names_nodup inEntries
  rw [resolve_fst, held]
  exact ⟨_, rfl⟩

theorem resolve_eq_none {name : String} (absent : name ∉ catalog.constants.table.names) :
    (catalog.resolve name).1 = none := by
  have nothing : catalog.constants.get? name = none := lookupEntry_eq_none absent
  rw [resolve_fst, nothing]
  rfl

/-- The published names with what they resolve to are the bindings of the entries. -/
private theorem bindings_eq :
    catalog.bindings = catalog.bindingsOf catalog.constants.table.entries := by
  rw [bindings, publishedNames, OrderedTable.names, List.filter_map, List.filterMap_map,
    bindingsOf]
  apply List.filterMap_eq_map_iff_forall_eq_some.2
  intro entry member
  have held : catalog.constants.get? entry.1 = some entry.2 :=
    lookupEntry_of_mem catalog.constants.table.names_nodup (List.mem_filter.1 member).1
  rw [Function.comp_apply, resolve_fst, held]
  rfl

/-- What stands under a name after publication. -/
theorem get?_publish (table : GlobalTable) (name : String) :
    (catalog.publish table).table.get? name =
      if name ∈ catalog.publishedNames then (catalog.resolve name).1 else table.get? name := by
  have distinct :
      ((catalog.bindingsOf catalog.constants.table.entries).map Prod.fst).Nodup := by
    rw [map_fst_bindingsOf_entries]
    exact catalog.nodup_publishedNames
  have bound : (catalog.publish table).table.get? name =
      (if catalog.fits name then (catalog.resolve name).1 else none).or (table.get? name) := by
    rw [publish_eq, GlobalTable.get?, OrderedTable.get?_insertAll, lookupEntry_reverse distinct,
      lookupEntry_bindingsOf, resolve_fst]
    rfl
  rw [bound]
  by_cases published : name ∈ catalog.publishedNames
  · obtain ⟨present, fits⟩ := catalog.mem_publishedNames.1 published
    obtain ⟨value, resolved⟩ := catalog.exists_resolve_of_mem_names present
    rw [if_pos published, if_pos fits, resolved]
    rfl
  · rw [if_neg published]
    cases fits : catalog.fits name with
    | false => rfl
    | true =>
        have absent : name ∉ catalog.constants.table.names :=
          fun present => published (catalog.mem_publishedNames.2 ⟨present, fits⟩)
        rw [if_pos rfl, catalog.resolve_eq_none absent]
        rfl

theorem names_publish (table : GlobalTable) :
    (catalog.publish table).table.globals.names =
      table.globals.names ++
        catalog.publishedNames.filter (! table.globals.names.contains ·) := by
  have names := catalog.map_fst_bindingsOf_entries
  have distinct :
      ((catalog.bindingsOf catalog.constants.table.entries).map Prod.fst).Nodup := by
    rw [names]
    exact catalog.nodup_publishedNames
  rw [publish_eq, ← names]
  exact table.globals.names_insertAll_of_nodup distinct

private theorem count_publish (table : GlobalTable) :
    (catalog.publish table).count = catalog.publishedNames.length := by
  rw [publish_eq, ← map_fst_bindingsOf_entries, List.length_map]

private theorem warnings_publish (table : GlobalTable) :
    (catalog.publish table).events.toList.filter (·.severity == .warning) =
      catalog.skippedNames.map fun name => .globalSkipped name (catalog.refusal name) := by
  rw [publish_eq]
  exact catalog.filter_warning_eventsOf _

/-- To publish again changes nothing. -/
private theorem table_publish_publish (table : GlobalTable) :
    (catalog.publish (catalog.publish table).table).table = (catalog.publish table).table := by
  simp only [publish_eq, OrderedTable.insertAll_insertAll_self]

/-- Where all integers are within the numbers, publication by calls succeeds with just the
effect that it should have. -/
theorem publicationEffect_of_within
    (within : ∀ entry ∈ catalog.constants.table.entries,
      entry.2.value.isWithinNumbers = true) (table : GlobalTable) :
    ∃ run, catalog.publishByCalls table = .ok run ∧
      run.toPublication = catalog.publish table ∧ PublicationEffect catalog table run := by
  refine ⟨_, catalog.publishByCalls_of_within table within, rfl, ?_⟩
  exact
    { stack := by
        dsimp only
        rw [publish_eq]
      bound := by
        intro name published
        obtain ⟨present, -⟩ := catalog.mem_publishedNames.1 published
        obtain ⟨value, resolved⟩ := catalog.exists_resolve_of_mem_names present
        refine ⟨value, resolved, ?_⟩
        rw [get?_publish, if_pos published, resolved]
      kept := by
        intro name other
        rw [get?_publish, if_neg other]
      order := catalog.names_publish table
      count := catalog.count_publish table
      warnings := catalog.warnings_publish table
      calls := by
        rw [bindings_eq]
        exact catalog.flatMap_callsFor _
      again := by
        refine ⟨_, catalog.publishByCalls_of_within _ within,
          catalog.table_publish_publish table, ?_⟩
        dsimp only
        rw [count_publish, count_publish] }

end Catalog

end ConstantCatalog
