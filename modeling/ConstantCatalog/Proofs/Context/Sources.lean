import ConstantCatalog.Proofs.Context.History
import ConstantCatalog.Proofs.Declaration.Encoding
import ConstantCatalog.Proofs.Source.Reading
import ConstantCatalog.Proofs.Store.Source

/-!
Contract: contexts that are filled from files, by the bytes of the files.

A file is read as a whole or not at all, and its text declares what its bytes declare. So
a catalog is that of the sources as they are, or the fault of the first that cannot be
read. Both are read before either is loaded: if one of them cannot be read, its fault is
the outcome whatever the other declares, and nothing has been loaded.

Owns: `SourceReading`, `Catalog.ofSources`, `UsesSourcesWhole`, and its proof for contexts
in every state.

Does not own: the bounded reading of a single file.
-/

namespace ConstantCatalog

variable {α : Type}

/-! ## Readings -/

/-- What comes of reading a source: the declarations of the embedded text, the bytes of a
file, or the fault of a path or of a file. -/
inductive SourceReading (files : FileView) (budget : Nat) (embedded : EmbeddedSource) :
    Option SourcePath → Except SourceFault DeclarationSource → Prop where
  | embedded : SourceReading files budget embedded none (.ok (.text embedded.text))
  | opened {path : SourcePath} {content : ByteArray} {outcome : Except SourceFault String}
      (named : '\x00' ∉ path.text.toList) (opens : files path = .ok content)
      (reads : ReadsContent files.memoryBound budget path.text content outcome) :
      SourceReading files budget embedded (some path) (outcome.map fun _ => .bytes content)
  | unopened {path : SourcePath} {fault : FileFault} (named : '\x00' ∉ path.text.toList)
      (fails : files path = .error fault) :
      SourceReading files budget embedded (some path)
        (.error (.unavailable path.text (.unopened fault)))
  | unnamed {path : SourcePath} (null : '\x00' ∈ path.text.toList) :
      SourceReading files budget embedded (some path) (.error .nullInPath)

/-- The declarations of a text that was read: the bytes of a file, if it comes of one. -/
def sourceOf (path : Option SourcePath) (text : String) : DeclarationSource :=
  match path with
  | none => .text text
  | some _ => .bytes text.toUTF8

private theorem sourceReading_readSource (files : FileView) (budget : Nat)
    (embedded : EmbeddedSource) (path : Option SourcePath) :
    SourceReading files budget embedded path
      ((readSource files budget embedded path).outcome.map (sourceOf path)) := by
  cases path with
  | none => exact .embedded
  | some path =>
      by_cases null : '\x00' ∈ path.text.toList
      · rw [readSource, readFile, if_pos (List.contains_iff_mem.2 null)]
        exact .unnamed null
      · have proper : ¬path.text.toList.contains '\x00' = true :=
          fun contains => null (List.contains_iff_mem.1 contains)
        cases opens : files path with
        | error fault =>
            rw [readSource, readFile, if_neg proper, opens]
            exact .unopened null opens
        | ok content =>
            have reads := readsContent_readFile null opens budget
            have reading : SourceReading files budget embedded (some path)
                ((readFile files budget path).outcome.map fun _ => .bytes content) :=
              .opened null opens reads
            rw [readSource]
            cases outcome : (readFile files budget path).outcome with
            | error fault =>
                rw [outcome] at reading
                exact reading
            | ok text =>
                have encoded := encodes_of_readFile outcome
                rw [opens] at encoded
                rw [outcome, Except.ok.inj encoded] at reading
                exact reading

/-- A text declares the same whether it is taken as it is or as the bytes of its file. -/
private theorem DeclarationFormat.load_sourceOf (format : DeclarationFormat α) (arena : Arena)
    (path : Option SourcePath) (text : String) :
    format.load arena (sourceOf path text) = format.load arena (.text text) := by
  cases path with
  | none => rfl
  | some path => exact format.load_toUTF8 arena text

/-! ## Catalogs of sources -/

private theorem Store.ofSource_sourceOf (format : DeclarationFormat α) (limit : Option Int)
    (path : Option SourcePath) (text : String) :
    Store.ofSource format limit (sourceOf path text) =
      Store.ofSource format limit (.text text) := by
  unfold Store.ofSource Store.load
  rw [format.load_sourceOf]

namespace Catalog

/-- The catalog that sources load into, the constants first; without a source of types it
has no types. -/
def ofSources (settings : Settings) (constants : DeclarationSource)
    (types : Option DeclarationSource) : Except LoadFault Catalog :=
  (Store.ofSource constantFormat settings.arenaLimit constants).bind fun constants =>
    (types.elim (.ok (.ofLimit settings.arenaLimit))
      (Store.ofSource typeFormat settings.arenaLimit)).bind fun types =>
        .ok ⟨constants, types, settings.vectorWidth, settings.nameLimit⟩

/-- The catalog of sources as they were read. If one of them was not, nothing is loaded. -/
def ofReadings (settings : Settings) (constants : Except SourceFault DeclarationSource)
    (types : Except SourceFault (Option DeclarationSource)) : Except ContextFault Catalog :=
  (constants.mapError .source).bind fun constants =>
    (types.mapError .source).bind fun types =>
      (ofSources settings constants types).mapError .load

theorem ofSources_sourceOf (settings : Settings) (constantsPath typesPath : Option SourcePath)
    (constantsText : String) (typesText : Option String) :
    ofSources settings (sourceOf constantsPath constantsText)
        (typesText.map (sourceOf typesPath)) =
      ofSources settings (.text constantsText) (typesText.map .text) := by
  unfold ofSources
  rw [Store.ofSource_sourceOf]
  cases typesText with
  | none => rfl
  | some text =>
      simp only [Option.map_some, Option.elim_some]
      rw [Store.ofSource_sourceOf]

private theorem outcome_load_texts (settings : Settings) (constantsText : String)
    (typesText : Option String) :
    ((loadStore constantFormat settings.arenaLimit constantsText).outcome.bind fun constants =>
        (loadTypes settings.arenaLimit typesText).outcome.bind fun types =>
          .ok ⟨constants, types, settings.vectorWidth, settings.nameLimit⟩) =
      (ofSources settings (.text constantsText) (typesText.map .text)).mapError .load := by
  have constants : (loadStore constantFormat settings.arenaLimit constantsText).outcome =
      (Store.ofSource constantFormat settings.arenaLimit (.text constantsText)).mapError
        .load := rfl
  rw [constants, ofSources]
  cases Store.ofSource constantFormat settings.arenaLimit (.text constantsText) with
  | error fault => rfl
  | ok store =>
      cases typesText with
      | none => rfl
      | some text =>
          have types : (loadTypes settings.arenaLimit (some text)).outcome =
              (Store.ofSource typeFormat settings.arenaLimit (.text text)).mapError .load := rfl
          simp only [Except.mapError, Except.bind, types, Option.map_some, Option.elim_some]
          cases Store.ofSource typeFormat settings.arenaLimit (.text text) with
          | error fault => rfl
          | ok store => rfl

/-- What a load comes to: the catalog of its sources as they were read. -/
theorem outcome_load (files : FileView) (settings : Settings) :
    (load files settings).outcome =
      ofReadings settings
        ((readSource files settings.sourceBudget .constants settings.constantsPath).outcome.map
          (sourceOf settings.constantsPath))
        (match settings.dialect with
          | .lsl => .ok none
          | .slua =>
              ((readSource files settings.sourceBudget .types settings.typesPath).outcome.map
                (sourceOf settings.typesPath)).map some) := by
  simp only [load, Reported.outcome_andThen, Reported.mapFault]
  cases (readSource files settings.sourceBudget .constants settings.constantsPath).outcome with
  | error fault => rfl
  | ok constantsText =>
      unfold readTypes
      cases settings.dialect with
      | lsl =>
          refine (outcome_load_texts settings constantsText none).trans ?_
          rw [← ofSources_sourceOf settings settings.constantsPath none]
          rfl
      | slua =>
          simp only [Reported.outcome_andThen, Reported.mapFault]
          cases (readSource files settings.sourceBudget .types settings.typesPath).outcome with
          | error fault => rfl
          | ok typesText =>
              refine (outcome_load_texts settings constantsText (some typesText)).trans ?_
              rw [← ofSources_sourceOf settings settings.constantsPath settings.typesPath]
              rfl

private theorem ofSources_eq_ok {settings : Settings} {constants : DeclarationSource}
    {types : Option DeclarationSource} {catalog : Catalog}
    (loaded : ofSources settings constants types = .ok catalog) :
    Store.ofSource constantFormat settings.arenaLimit constants = .ok catalog.constants ∧
      types.elim (.ok (.ofLimit settings.arenaLimit))
          (Store.ofSource typeFormat settings.arenaLimit) = .ok catalog.types ∧
      catalog.vectorWidth = settings.vectorWidth ∧ catalog.nameLimit = settings.nameLimit := by
  unfold ofSources at loaded
  cases constantsLoaded : Store.ofSource constantFormat settings.arenaLimit constants with
  | error fault =>
      rw [constantsLoaded] at loaded
      contradiction
  | ok constantStore =>
      rw [constantsLoaded] at loaded
      cases typesLoaded : types.elim (.ok (.ofLimit settings.arenaLimit))
          (Store.ofSource typeFormat settings.arenaLimit) with
      | error fault =>
          rw [typesLoaded] at loaded
          contradiction
      | ok typeStore =>
          rw [typesLoaded] at loaded
          obtain rfl := Except.ok.inj loaded
          exact ⟨rfl, rfl, rfl, rfl⟩

private theorem ofReadings_eq_ok {settings : Settings}
    {constants : Except SourceFault DeclarationSource}
    {types : Except SourceFault (Option DeclarationSource)} {catalog : Catalog}
    (loaded : ofReadings settings constants types = .ok catalog) :
    ∃ constantsSource typesSource,
      constants = .ok constantsSource ∧ types = .ok typesSource ∧
        ofSources settings constantsSource typesSource = .ok catalog := by
  unfold ofReadings at loaded
  cases constants with
  | error fault => contradiction
  | ok constantsSource =>
      cases types with
      | error fault => contradiction
      | ok typesSource =>
          cases built : ofSources settings constantsSource typesSource with
          | error fault => simp [Except.mapError, Except.bind, built] at loaded
          | ok found =>
              simp only [Except.mapError, Except.bind, built] at loaded
              exact ⟨constantsSource, typesSource, rfl, rfl, by rw [built, Except.ok.inj loaded]⟩

/-- What a catalog that was loaded is made of. -/
structure IsLoadOf (catalog : Catalog) (files : FileView) (settings : Settings) : Prop where
  constants :
    ∃ text,
      (readSource files settings.sourceBudget .constants settings.constantsPath).outcome =
          .ok text ∧
        Store.ofSource constantFormat settings.arenaLimit (.text text) = .ok catalog.constants
  untyped : settings.dialect = .lsl → catalog.types = .ofLimit settings.arenaLimit
  types :
    settings.dialect = .slua →
      ∃ text,
        (readSource files settings.sourceBudget .types settings.typesPath).outcome = .ok text ∧
          Store.ofSource typeFormat settings.arenaLimit (.text text) = .ok catalog.types
  vectorWidth : catalog.vectorWidth = settings.vectorWidth
  nameLimit : catalog.nameLimit = settings.nameLimit

theorem isLoadOf {files : FileView} {settings : Settings} {catalog : Catalog}
    (loaded : (load files settings).outcome = .ok catalog) :
    catalog.IsLoadOf files settings := by
  have isText : ∀ {outcome : Except SourceFault String} {path : Option SourcePath}
      {source : DeclarationSource},
      outcome.map (sourceOf path) = .ok source →
        ∃ text, outcome = .ok text ∧ source = sourceOf path text := by
    intro outcome path source mapped
    cases outcome with
    | error fault => contradiction
    | ok text => exact ⟨text, rfl, (Except.ok.inj mapped).symm⟩
  rw [outcome_load] at loaded
  obtain ⟨constantsSource, typesSource, constantsRead, typesRead, built⟩ :=
    ofReadings_eq_ok loaded
  obtain ⟨constantsText, constantsOutcome, rfl⟩ := isText constantsRead
  obtain ⟨constantsLoaded, typesLoaded, width, limit⟩ := ofSources_eq_ok built
  rw [Store.ofSource_sourceOf] at constantsLoaded
  exact
    { constants := ⟨constantsText, constantsOutcome, constantsLoaded⟩
      untyped := by
        intro isLsl
        rw [isLsl] at typesRead
        obtain rfl := Except.ok.inj typesRead
        exact (Except.ok.inj typesLoaded).symm
      types := by
        intro isSlua
        rw [isSlua] at typesRead
        cases typesOutcome : (readSource files settings.sourceBudget .types
            settings.typesPath).outcome with
        | error fault =>
            rw [typesOutcome] at typesRead
            contradiction
        | ok typesText =>
            rw [typesOutcome] at typesRead
            obtain rfl := Except.ok.inj typesRead
            rw [Option.elim_some, Store.ofSource_sourceOf] at typesLoaded
            exact ⟨typesText, rfl, typesLoaded⟩
      vectorWidth := width
      nameLimit := limit }

end Catalog

/-! ## Setups -/

private theorem readSource_of_readText {files : FileView} {budget : Int} {embedded : EmbeddedSource}
    {path : Option SourcePath} {cut : Bool} {text : String}
    (hasText : readText files budget embedded path cut = .ok text) :
    (readSource files budget embedded path).outcome = .ok text := by
  have uncut := CatalogKeeper.readText_of_success hasText
  rw [readText, if_neg Bool.false_ne_true] at uncut
  cases outcome : (readSource files budget embedded path).outcome with
  | error fault =>
      rw [outcome] at uncut
      contradiction
  | ok found =>
      rw [outcome] at uncut
      rw [Except.ok.inj uncut]

/-- A setup that has come to its loads has read all that it reads. -/
private theorem exists_texts_of_setUp_ne_new {files : FileView} {settings : Settings}
    {interruptions : Interruptions}
    (begun : (CatalogKeeper.setUp files settings interruptions).1 ≠ .new settings) :
    (∃ text, (readSource files settings.sourceBudget .constants
        settings.constantsPath).outcome = .ok text) ∧
      (settings.dialect = .slua →
        ∃ text, (readSource files settings.sourceBudget .types
          settings.typesPath).outcome = .ok text) := by
  unfold CatalogKeeper.setUp at begun
  split at begun
  · exact absurd rfl begun
  · rename_i constantsText constantsRead
    refine ⟨⟨constantsText, readSource_of_readText constantsRead⟩, ?_⟩
    intro isSlua
    split at begun
    · exact absurd rfl begun
    · rename_i typesText typesRead
      rw [readTypesText, isSlua] at typesRead
      cases outcome : readText files settings.sourceBudget .types
          settings.typesPath interruptions.readingTypes with
      | error fault =>
          rw [outcome] at typesRead
          contradiction
      | ok text => exact ⟨text, readSource_of_readText outcome⟩

/-- How an installation uses its sources. -/
structure UsesSourcesWhole (keeper : ContextKeeper) (sources : CatalogSources)
    (settings : Settings) : Prop where
  /-- In the dialect without types, it comes to the catalog of the constants. -/
  lsl :
    settings.dialect = .lsl →
      ∃ constants,
        SourceReading sources.files settings.sourceBudget .constants settings.constantsPath
            constants ∧
          (keeper.install sources .none).2 =
            (Catalog.ofReadings settings constants (.ok none)).mapError .context
  /-- In the other dialect, it comes to the catalog of both. -/
  slua :
    settings.dialect = .slua →
      ∃ constants types,
        SourceReading sources.files settings.sourceBudget .constants settings.constantsPath
            constants ∧
          SourceReading sources.files settings.sourceBudget .types settings.typesPath types ∧
          (keeper.install sources .none).2 =
            (Catalog.ofReadings settings constants (types.map some)).mapError .context
  /-- Unless all is read that is to be read, both stores stay as they were made, wherever a
  load would have been cut short. -/
  readFirst :
    ∀ interruptions,
      (CatalogKeeper.setUp sources.files settings interruptions).1 ≠ .new settings →
        (∃ text, (readSource sources.files settings.sourceBudget .constants
            settings.constantsPath).outcome = .ok text) ∧
          (settings.dialect = .slua →
            ∃ text, (readSource sources.files settings.sourceBudget .types
              settings.typesPath).outcome = .ok text)

/-- Whatever state a context is in, it is filled from its sources as a whole or not at
all. -/
theorem sources_used_whole (keeper : ContextKeeper) (sources : CatalogSources) :
    UsesSourcesWhole keeper sources (keeper.settings.withSources sources) := by
  have agreement := (keeper.install_eq_installFrom sources).2
  have isLoad : (keeper.context.installFrom sources).outcome =
      (Catalog.load sources.files (keeper.settings.withSources sources)).outcome := rfl
  rw [isLoad, Catalog.outcome_load] at agreement
  generalize keeper.settings.withSources sources = settings at agreement ⊢
  exact
    { lsl := by
        intro isLsl
        rw [isLsl] at agreement
        exact ⟨_, sourceReading_readSource _ _ _ _, agreement⟩
      slua := by
        intro isSlua
        rw [isSlua] at agreement
        exact ⟨_, _, sourceReading_readSource _ _ _ _, sourceReading_readSource _ _ _ _,
          agreement⟩
      readFirst := fun _ => exists_texts_of_setUp_ne_new }

/-- The greatest index is a budget that settings can have, but no file can be read under
it: one byte more is no index, so the count is refused before a byte has come, though the
file is within the budget and encodes a text. -/
theorem greatest_index_refused :
    let settings : Settings :=
      { Settings.standard with
        dialect := .lsl
        sourceBudget := 9223372036854775807
        sourceBudget_pos := by decide }
    let files : FileView := { opened := fun _ => .ok "const integer A = 1\n".toUTF8 }
    "const integer A = 1\n".toUTF8.size ≤ settings.sourceBudget ∧
      (settings.sourceBudget : Int) < indexBound ∧
      ((ContextKeeper.new settings).install ⟨files, some (.ofText "a.txt"), none⟩ .none).2 =
        .error (.context (.source (.uncountable .beyondIndex))) := by
  intro settings files
  refine ⟨by decide, by decide, rfl⟩

end ConstantCatalog
