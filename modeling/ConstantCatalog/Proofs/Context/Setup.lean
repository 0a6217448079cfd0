import ConstantCatalog.Context
import ConstantCatalog.Proofs.Publication.Loaded

/-!
Contract: the setting up of a catalog, step by step.

Two new stores are made, both texts are read, and then each is loaded. Any of the four
steps can fail, and any can be cut short from outside. Stores that are only half built
after a fault that was to be expected are closed; after any other they are left as they
are. A setup that comes to its end was not cut short, and it has built what
`Catalog.load` says.

Owns: `CatalogKeeper`, `CatalogKeeper.setUp` with its interruptions, and its agreement
with `Catalog.load`.

Does not own: where a catalog is installed.
-/

namespace ConstantCatalog

variable {σ α : Type}

/-- The outcome of two steps in a row, apart from the events on the way. -/
theorem Reported.outcome_andThen {ε β γ : Type} (first : Reported ε β) (second : β → Reported ε γ) :
    (first.andThen second).outcome = first.outcome.bind fun value => (second value).outcome := by
  unfold Reported.andThen
  cases first.outcome with
  | error fault => rfl
  | ok value => rfl

/-! ## Faults and interruptions -/

/-- Why a setup does not come to its end. -/
inductive InstallFault where
  | context (fault : ContextFault)
  /-- It was cut short by something that is no fault of its own. -/
  | interrupted
deriving DecidableEq, Repr

/-- Whether stores that are half built are closed after a fault. -/
def InstallFault.isAnticipated : InstallFault → Bool
  | .context fault => fault.isAnticipated
  | .interrupted => false

/-- The steps at which a setup would be cut short if it came to them. A load that is cut
short leaves its parser in some state and some arena partly filled. -/
structure Interruptions where
  readingConstants : Bool := false
  readingTypes : Bool := false
  loadingConstants : Option (Literal.Lexer × Arena) := none
  loadingTypes : Option (Unit × Arena) := none

def Interruptions.none : Interruptions := {}

/-- The text of a source, unless the reading is cut short. -/
def readText (files : FileView) (budget : Int) (embedded : EmbeddedSource)
    (path : Option SourcePath) (cut : Bool) : Except InstallFault String :=
  if cut then .error .interrupted
  else (readSource files budget embedded path).outcome.mapError fun fault =>
    .context (.source fault)

/-- The text of the type declarations, where the dialect has any. -/
def readTypesText (files : FileView) (settings : Settings)
    (cut : Bool) : Except InstallFault (Option String) :=
  match settings.dialect with
  | .lsl => .ok none
  | .slua =>
      (readText files settings.sourceBudget .types settings.typesPath cut).map some

/-! ## Stores -/

namespace StoreKeeper

/-- Loads a text, unless the load is cut short. The store then keeps what it had. -/
def loadText (reader : LineReader σ α) (keeper : StoreKeeper σ α)
    (text : String) : Option (σ × Arena) → StoreKeeper σ α × Option InstallFault
  | some (parser, charged) =>
      ({ keeper with
         parser := parser
         later := keeper.later ++ [charged] },
        some .interrupted)
  | none =>
      match keeper.load reader (.text text) with
      | (after, .ok _) => (after, none)
      | (after, .error fault) => (after, some (.context (.load fault)))

/-- Whether a store holds nothing and none of the arenas made for it is charged. -/
structure IsReleased (keeper : StoreKeeper σ α) : Prop where
  empty : keeper.store.table = .empty
  uncharged : ∀ arena ∈ keeper.arenas, arena.used = 0 ∧ arena.blocks = 0

variable {reader : LineReader σ α} {format : DeclarationFormat α}

/-- A load that comes to its end was not cut short. -/
private theorem loadText_of_success {keeper after : StoreKeeper σ α} {text : String}
    {cut : Option (σ × Arena)} (loaded : keeper.loadText reader text cut = (after, none)) :
    keeper.loadText reader text none = (after, none) := by
  cases cut with
  | none => exact loaded
  | some cause => simp [loadText] at loaded

private theorem exists_load_of_loadText {keeper after : StoreKeeper σ α} {text : String}
    {cut : Option (σ × Arena)} (loaded : keeper.loadText reader text cut = (after, none)) :
    ∃ count, keeper.load reader (.text text) = (after, .ok count) := by
  have uncut := loadText_of_success loaded
  rw [loadText] at uncut
  split at uncut
  · rename_i isLoad
    obtain ⟨rfl, -⟩ := Prod.mk.inj uncut
    exact ⟨_, isLoad⟩
  · simp at uncut

private theorem isReleased_close_new (limit : Option Int) (parser : σ) :
    (new limit parser : StoreKeeper σ α).close.IsReleased where
  empty := rfl
  uncharged := by
    intro arena member
    obtain rfl := List.mem_singleton.1 member
    exact ⟨rfl, rfl⟩

/-- Closing a store after its first load leaves nothing charged: the arena that it was
made with was released by the load. -/
private theorem isReleased_close_of_loadText {limit : Option Int} {parser : σ}
    {after : StoreKeeper σ α} {text : String} {cut : Option (σ × Arena)}
    (loaded : (new limit parser).loadText reader text cut = (after, none)) :
    after.close.IsReleased where
  empty := rfl
  uncharged := by
    obtain ⟨count, isLoad⟩ := exists_load_of_loadText loaded
    obtain ⟨_, failed, -⟩ | ⟨-, earlier, later⟩ := load_cases isLoad
    · contradiction
    · have made : after.close.arenas =
          [Arena.release (.ofLimit limit), after.store.arena.release] := by
        rw [arenas, close, earlier, later]
        rfl
      intro arena member
      rw [made] at member
      rcases List.mem_cons.1 member with rfl | own
      · exact ⟨rfl, rfl⟩
      · obtain rfl := List.mem_singleton.1 own
        exact ⟨rfl, rfl⟩

/-- The first load of a store is that of `loadStore`. -/
private theorem loadText_new (steady : ∀ state, reader.formatIn state = format) (limit : Option Int)
    (parser : σ) (text : String) :
    match (loadStore format limit text).outcome with
    | .ok store => ∃ after : StoreKeeper σ α,
        (new limit parser).loadText reader text none = (after, none) ∧ after.store = store
    | .error cause => ∃ after : StoreKeeper σ α,
        (new limit parser).loadText reader text none = (after, some (.context cause)) := by
  obtain ⟨sameStore, sameOutcome⟩ :=
    load_eq_store_load steady (new limit parser) (.text text)
  change _ = ((Store.ofLimit limit).load format (.text text)).store at sameStore
  change _ = ((Store.ofLimit limit).load format (.text text)).outcome at sameOutcome
  rw [loadStore, ← sameOutcome, ← sameStore, loadText]
  cases loaded : (new limit parser).load reader (.text text) with
  | mk after outcome =>
      cases outcome with
      | ok count => exact ⟨after, rfl, rfl⟩
      | error fault => exact ⟨after, rfl⟩

end StoreKeeper

/-! ## Catalogs -/

/-- A catalog in use or being built: both stores with their parsers and arenas. -/
structure CatalogKeeper where
  constants : StoreKeeper Literal.Lexer Constant
  types : StoreKeeper Unit DeclaredType
  vectorWidth : VectorWidth
  nameLimit : Option Int

namespace CatalogKeeper

def new (settings : Settings) : CatalogKeeper where
  constants := .new settings.arenaLimit ⟨[], 0⟩
  types := .new settings.arenaLimit ()
  vectorWidth := settings.vectorWidth
  nameLimit := settings.nameLimit

def catalog (keeper : CatalogKeeper) : Catalog :=
  ⟨keeper.constants.store, keeper.types.store, keeper.vectorWidth, keeper.nameLimit⟩

def close (keeper : CatalogKeeper) : CatalogKeeper :=
  { keeper with
    constants := keeper.constants.close
    types := keeper.types.close }

/-- What a setup leaves of the stores that it did not finish. -/
def afterFault (keeper : CatalogKeeper) (fault : InstallFault) : CatalogKeeper :=
  if fault.isAnticipated then keeper.close else keeper

structure IsReleased (keeper : CatalogKeeper) : Prop where
  constants : keeper.constants.IsReleased
  types : keeper.types.IsReleased

/-- Loads both texts, the constants first. -/
def loadTexts (keeper : CatalogKeeper) (constantsText : String) (typesText : Option String)
    (interruptions : Interruptions) : CatalogKeeper × Option InstallFault :=
  match keeper.constants.loadText constantReader constantsText
      interruptions.loadingConstants with
  | (constants, some fault) => ({ keeper with constants := constants }, some fault)
  | (constants, none) =>
      match typesText with
      | none => ({ keeper with constants := constants }, none)
      | some text =>
          let (types, fault) :=
            keeper.types.loadText typeReader text interruptions.loadingTypes
          ({ keeper with
             constants := constants
             types := types },
            fault)

/-- Builds a catalog from new stores. Both texts are read before either is loaded. -/
def setUp (files : FileView) (settings : Settings)
    (interruptions : Interruptions) : CatalogKeeper × Option InstallFault :=
  match readText files settings.sourceBudget .constants settings.constantsPath
      interruptions.readingConstants with
  | .error fault => (new settings, some fault)
  | .ok constantsText =>
      match readTypesText files settings interruptions.readingTypes with
      | .error fault => (new settings, some fault)
      | .ok typesText => (new settings).loadTexts constantsText typesText interruptions

/-! ## Setups that come to their end -/

theorem readText_of_success {files : FileView} {budget : Int} {embedded : EmbeddedSource}
    {path : Option SourcePath} {cut : Bool} {text : String}
    (isRead : readText files budget embedded path cut = .ok text) :
    readText files budget embedded path false = .ok text := by
  cases cut with
  | false => exact isRead
  | true => contradiction

private theorem readTypesText_of_success {files : FileView} {settings : Settings} {cut : Bool}
    {text : Option String} (isRead : readTypesText files settings cut = .ok text) :
    readTypesText files settings false = .ok text := by
  cases cut with
  | false => exact isRead
  | true =>
      unfold readTypesText at isRead ⊢
      cases dialect : settings.dialect with
      | lsl =>
          rw [dialect] at isRead
          exact isRead
      | slua =>
          rw [dialect] at isRead
          contradiction

/-- What two loads that come to their end have built. -/
private theorem loadTexts_cases {keeper built : CatalogKeeper} {constantsText : String}
    {typesText : Option String} {interruptions : Interruptions}
    (loaded : keeper.loadTexts constantsText typesText interruptions = (built, none)) :
    keeper.constants.loadText constantReader constantsText interruptions.loadingConstants =
        (built.constants, none) ∧
      ((typesText = none ∧ built.types = keeper.types) ∨
        ∃ text, typesText = some text ∧
          keeper.types.loadText typeReader text interruptions.loadingTypes =
            (built.types, none)) ∧
      built.vectorWidth = keeper.vectorWidth ∧ built.nameLimit = keeper.nameLimit := by
  unfold loadTexts at loaded
  split at loaded
  · simp at loaded
  · rename_i constants isLoad
    cases typesText with
    | none =>
        obtain ⟨rfl, -⟩ := Prod.mk.inj loaded
        exact ⟨isLoad, Or.inl ⟨rfl, rfl⟩, rfl, rfl⟩
    | some text =>
        obtain ⟨rfl, noFault⟩ := Prod.mk.inj loaded
        exact ⟨isLoad, Or.inr ⟨text, rfl, Prod.ext rfl noFault⟩, rfl, rfl⟩

private theorem setUp_cases {files : FileView} {settings : Settings} {interruptions : Interruptions}
    {built : CatalogKeeper} (isSetUp : setUp files settings interruptions = (built, none)) :
    ∃ constantsText typesText,
      readText files settings.sourceBudget .constants settings.constantsPath
          interruptions.readingConstants = .ok constantsText ∧
        readTypesText files settings interruptions.readingTypes = .ok typesText ∧
        (new settings).loadTexts constantsText typesText interruptions = (built, none) := by
  unfold setUp at isSetUp
  split at isSetUp
  · simp at isSetUp
  · rename_i constantsText constantsRead
    split at isSetUp
    · simp at isSetUp
    · rename_i typesText typesRead
      exact ⟨constantsText, typesText, constantsRead, typesRead, isSetUp⟩

private theorem loadTexts_of_success {keeper built : CatalogKeeper} {constantsText : String}
    {typesText : Option String} {interruptions : Interruptions}
    (loaded : keeper.loadTexts constantsText typesText interruptions = (built, none)) :
    keeper.loadTexts constantsText typesText .none = (built, none) := by
  obtain ⟨constants, types, width, limit⟩ := loadTexts_cases loaded
  have constantsUncut := StoreKeeper.loadText_of_success constants
  unfold loadTexts
  simp only [Interruptions.none, constantsUncut]
  rcases types with ⟨rfl, kept⟩ | ⟨text, rfl, types⟩
  · simp only [← kept, ← width, ← limit]
  · have typesUncut := StoreKeeper.loadText_of_success types
    simp only [typesUncut, ← width, ← limit]

/-- A setup that comes to its end was not cut short. -/
theorem setUp_of_success {files : FileView} {settings : Settings} {interruptions : Interruptions}
    {built : CatalogKeeper} (isSetUp : setUp files settings interruptions = (built, none)) :
    setUp files settings .none = (built, none) := by
  obtain ⟨constantsText, typesText, constantsRead, typesRead, loaded⟩ := setUp_cases isSetUp
  have constantsUncut := readText_of_success constantsRead
  have typesUncut := readTypesText_of_success typesRead
  unfold setUp
  simp only [Interruptions.none, constantsUncut, typesUncut]
  exact loadTexts_of_success loaded

/-- Closing a catalog that was set up leaves nothing charged. -/
theorem isReleased_close_of_setUp {files : FileView} {settings : Settings}
    {interruptions : Interruptions} {built : CatalogKeeper}
    (isSetUp : setUp files settings interruptions = (built, none)) :
    built.close.IsReleased := by
  obtain ⟨constantsText, typesText, -, -, loaded⟩ := setUp_cases isSetUp
  obtain ⟨constants, types, -, -⟩ := loadTexts_cases loaded
  refine ⟨StoreKeeper.isReleased_close_of_loadText constants, ?_⟩
  rcases types with ⟨-, kept⟩ | ⟨text, -, types⟩
  · change built.types.close.IsReleased
    rw [kept]
    exact StoreKeeper.isReleased_close_new _ _
  · exact StoreKeeper.isReleased_close_of_loadText types

/-- What a catalog holds after its setup can be published. -/
theorem isWithinNumbers_of_setUp {files : FileView} {settings : Settings}
    {interruptions : Interruptions} {built : CatalogKeeper}
    (isSetUp : setUp files settings interruptions = (built, none)) :
    ∀ entry ∈ built.catalog.constants.table.entries,
      entry.2.value.isWithinNumbers = true := by
  obtain ⟨constantsText, typesText, -, -, loaded⟩ := setUp_cases isSetUp
  obtain ⟨constants, -, -, -⟩ := loadTexts_cases loaded
  obtain ⟨count, isLoad⟩ := StoreKeeper.exists_load_of_loadText constants
  obtain ⟨sameStore, sameOutcome⟩ := StoreKeeper.load_eq_store_load formatIn_constantReader
    (new settings).constants (.text constantsText)
  rw [isLoad] at sameStore sameOutcome
  have holds : StoreKeeper.Holds constantFormat settings.arenaLimit built.constants.store
      (some (.text constantsText)) := ⟨sameStore, count, sameOutcome.symm⟩
  intro entry member
  exact (isLoadable_of_holds holds member).2.value.isWithinNumbers

/-! ## Agreement -/

/-- What came of a setup, as callers see it. -/
def outcomeOf : CatalogKeeper × Option InstallFault → Except InstallFault Catalog
  | (built, none) => .ok built.catalog
  | (_, some fault) => .error fault

private theorem outcomeOf_loadTexts_new (settings : Settings) (constantsText : String)
    (typesText : Option String) :
    outcomeOf ((new settings).loadTexts constantsText typesText .none) =
      ((loadStore constantFormat settings.arenaLimit constantsText).outcome.bind
        fun constants =>
          (Catalog.loadTypes settings.arenaLimit typesText).outcome.bind fun types =>
            .ok ⟨constants, types, settings.vectorWidth, settings.nameLimit⟩).mapError
        .context := by
  have constants := StoreKeeper.loadText_new formatIn_constantReader settings.arenaLimit
    ⟨[], 0⟩ constantsText
  unfold loadTexts
  cases constantsOutcome :
      (loadStore constantFormat settings.arenaLimit constantsText).outcome with
  | error cause =>
      rw [constantsOutcome] at constants
      obtain ⟨after, loaded⟩ := constants
      simp only [new, Interruptions.none, loaded]
      rfl
  | ok store =>
      rw [constantsOutcome] at constants
      obtain ⟨after, loaded, rfl⟩ := constants
      simp only [new, Interruptions.none, loaded]
      cases typesText with
      | none => rfl
      | some text =>
          have types := @StoreKeeper.loadText_new _ _ typeReader typeFormat (fun _ => rfl)
            settings.arenaLimit () text
          rw [Catalog.loadTypes]
          cases typesOutcome : (loadStore typeFormat settings.arenaLimit text).outcome with
          | error cause =>
              rw [typesOutcome] at types
              obtain ⟨reached, typesLoaded⟩ := types
              simp only [typesLoaded]
              rfl
          | ok store =>
              rw [typesOutcome] at types
              obtain ⟨reached, typesLoaded, rfl⟩ := types
              simp only [typesLoaded]
              rfl

private theorem readTypesText_eq (files : FileView) (settings : Settings) :
    readTypesText files settings false =
      (Catalog.readTypes files settings).outcome.mapError .context := by
  unfold readTypesText Catalog.readTypes
  cases settings.dialect with
  | lsl => rfl
  | slua =>
      simp only [readText, Reported.outcome_andThen, Reported.mapFault]
      cases (readSource files settings.sourceBudget .types settings.typesPath).outcome with
      | error fault => rfl
      | ok text => rfl

/-- A setup that nothing cuts short does what `Catalog.load` says. -/
theorem outcomeOf_setUp (files : FileView) (settings : Settings) :
    outcomeOf (setUp files settings .none) =
      (Catalog.load files settings).outcome.mapError .context := by
  unfold setUp Catalog.load
  simp only [Reported.outcome_andThen, Reported.mapFault]
  change outcomeOf (match readText files settings.sourceBudget .constants
    settings.constantsPath false with | .error _ => _ | .ok _ => _) = _
  unfold readText
  cases (readSource files settings.sourceBudget .constants settings.constantsPath).outcome with
  | error fault => rfl
  | ok constantsText =>
      change outcomeOf (match readTypesText files settings false with
        | .error _ => _ | .ok _ => _) = _
      rw [readTypesText_eq]
      cases (Catalog.readTypes files settings).outcome with
      | error fault => rfl
      | ok typesText =>
          exact outcomeOf_loadTexts_new settings constantsText typesText

end CatalogKeeper

end ConstantCatalog
