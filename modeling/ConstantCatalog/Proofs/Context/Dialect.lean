import ConstantCatalog.Proofs.Context.Sources

/-!
Contract: contexts of the dialect without types.

In the `lsl` dialect nothing that concerns types has a part in an installation: not where
their declarations are, not what the file holds or whether there is one, and not where
reading or loading it would be cut short. The catalog has no types, so every constant is
represented by its own kind, just as in the other dialect where an empty file declares
the types, and never as one of the kinds that only a declared type gives.

Owns: `SetupInput`, `AgreesButTypes`, `IsNative`, and what contexts of the dialect have in
common with each other and with those that have no types declared.

Does not own: the dialect with types that are declared.
-/

namespace ConstantCatalog

/-! ## Setups -/

/-- What a setup goes by. -/
structure SetupInput where
  files : FileView
  settings : Settings
  interruptions : Interruptions

def ContextKeeper.setupInput (keeper : ContextKeeper) (sources : CatalogSources)
    (interruptions : Interruptions) : SetupInput :=
  ⟨sources.files, keeper.settings.withSources sources, interruptions⟩

/-- Whether two setups look for their constants in the same place and find the same file
there, if it is a file. -/
structure SameConstants (first second : SetupInput) : Prop where
  path : first.settings.constantsPath = second.settings.constantsPath
  file :
    ∀ path, second.settings.constantsPath = some path → first.files path = second.files path

/-- Whether two setups agree on everything that does not concern types. The paths, the
files and the interruptions of the types can be any. -/
structure AgreesButTypes (first second : SetupInput) : Prop
    extends SameConstants first second where
  memoryBound : first.files.memoryBound = second.files.memoryBound
  dialect : first.settings.dialect = second.settings.dialect
  vectorWidth : first.settings.vectorWidth = second.settings.vectorWidth
  sourceBudget : first.settings.sourceBudget = second.settings.sourceBudget
  arenaLimit : first.settings.arenaLimit = second.settings.arenaLimit
  nameLimit : first.settings.nameLimit = second.settings.nameLimit
  reading : first.interruptions.readingConstants = second.interruptions.readingConstants
  loading : first.interruptions.loadingConstants = second.interruptions.loadingConstants

/-- Whether a setup has the constants and the width of another, and an empty file to
declare its types. -/
structure HasEmptyTypes (other untyped : SetupInput) : Prop
    extends SameConstants other untyped where
  dialect : untyped.settings.dialect = .slua
  vectorWidth : other.settings.vectorWidth = untyped.settings.vectorWidth
  types :
    ∃ path, untyped.settings.typesPath = some path ∧ untyped.files path = .ok ByteArray.empty

/-- Whether an empty file of types can be read where another setup reads its constants,
and the arenas have the same limit. -/
structure HasRoom (other untyped : SetupInput) : Prop where
  memoryBound : other.files.memoryBound = untyped.files.memoryBound
  sourceBudget : other.settings.sourceBudget = untyped.settings.sourceBudget
  arenaLimit : other.settings.arenaLimit = untyped.settings.arenaLimit
  countable : IsCountable untyped.files.memoryBound (untyped.settings.sourceBudget + 1)
  named : ∀ path, untyped.settings.typesPath = some path → '\x00' ∉ path.text.toList

private theorem SameConstants.readSource_eq {first second : SetupInput}
    (same : SameConstants first second)
    (sameBound : first.files.memoryBound = second.files.memoryBound)
    (sameBudget : first.settings.sourceBudget = second.settings.sourceBudget) :
    readSource first.files first.settings.sourceBudget .constants
        first.settings.constantsPath =
      readSource second.files second.settings.sourceBudget .constants
        second.settings.constantsPath := by
  rw [same.path, sameBudget]
  cases place : second.settings.constantsPath with
  | none => rfl
  | some path => rw [readSource, readSource, readFile, readFile, same.file path place, sameBound]

namespace CatalogKeeper

/-- In the dialect without types, a setup comes to the constants alone. -/
private theorem setUp_of_lsl {files : FileView} {settings : Settings}
    {interruptions : Interruptions} (isLsl : settings.dialect = .lsl) :
    setUp files settings interruptions =
      match readText files settings.sourceBudget .constants settings.constantsPath
          interruptions.readingConstants with
      | .error fault => (new settings, some fault)
      | .ok text => (new settings).loadTexts text none interruptions := by
  unfold setUp
  cases readText files settings.sourceBudget .constants settings.constantsPath
      interruptions.readingConstants with
  | error fault => rfl
  | ok text => rw [readTypesText, isLsl]

private theorem setUp_congr {first second : SetupInput} (isLsl : first.settings.dialect = .lsl)
    (agrees : AgreesButTypes first second) :
    setUp first.files first.settings first.interruptions =
      setUp second.files second.settings second.interruptions := by
  have sameNew : new first.settings = new second.settings := by
    rw [new, new, agrees.arenaLimit, agrees.vectorWidth, agrees.nameLimit]
  have sameText :
      readText first.files first.settings.sourceBudget .constants
          first.settings.constantsPath first.interruptions.readingConstants =
        readText second.files second.settings.sourceBudget .constants
          second.settings.constantsPath second.interruptions.readingConstants := by
    rw [readText, readText, agrees.reading,
      agrees.toSameConstants.readSource_eq agrees.memoryBound agrees.sourceBudget]
  rw [setUp_of_lsl isLsl, setUp_of_lsl (agrees.dialect ▸ isLsl), sameText]
  cases readText second.files second.settings.sourceBudget .constants
      second.settings.constantsPath second.interruptions.readingConstants with
  | error fault => rw [sameNew]
  | ok text =>
      dsimp only
      rw [loadTexts, loadTexts, sameNew, agrees.loading]

end CatalogKeeper

/-! ## Answers -/

/-- Answers are given from the catalog alone. -/
private theorem Context.answer_congr {first second : Context}
    (sameCatalog : first.catalog = second.catalog) (query : ContextQuery) :
    first.answer query = second.answer query := by
  obtain ⟨firstSettings, firstCatalog⟩ := first
  obtain ⟨secondSettings, secondCatalog⟩ := second
  obtain rfl : firstCatalog = secondCatalog := sameCatalog
  cases query <;> rfl

/-- What a setup makes of a context depends on nothing else. -/
private theorem ContextKeeper.install_eq_of_setUp {first second : ContextKeeper}
    {firstSources secondSources : CatalogSources} {firstCuts secondCuts : Interruptions}
    (sameSetup :
      CatalogKeeper.setUp firstSources.files (first.settings.withSources firstSources)
          firstCuts =
        CatalogKeeper.setUp secondSources.files (second.settings.withSources secondSources)
          secondCuts) :
    (first.install firstSources firstCuts).2 = (second.install secondSources secondCuts).2 ∧
      (first.install firstSources firstCuts).1.context.catalog =
        (second.install secondSources secondCuts).1.context.catalog := by
  unfold ContextKeeper.install
  rw [sameSetup]
  cases CatalogKeeper.setUp secondSources.files (second.settings.withSources secondSources)
      secondCuts with
  | mk built fault =>
      cases fault with
      | none => simp [ContextKeeper.context]
      | some cause => simp [ContextKeeper.context]

/-! ## Native catalogs -/

/-- The kinds that values have only by their declared types. -/
def GlobalKind.IsDeclared (kind : GlobalKind) : Prop :=
  kind = .uuid ∨ kind = .quaternion

/-- A catalog without types: every constant has the representation of its own kind, and
publishes as that. -/
structure Catalog.IsNative (catalog : Catalog) : Prop where
  types : catalog.types.table = .empty
  resolved :
    ∀ name constant, catalog.constants.get? name = some constant →
      ∃ value, constant.value.checkedNative catalog.vectorWidth = .ok value ∧
        catalog.resolve name = (some value, [])
  missing :
    ∀ name, catalog.constants.get? name = none → catalog.resolve name = (none, [])
  kinds :
    ∀ name value, (catalog.resolve name).1 = some value → ¬value.kind.IsDeclared
  published :
    ∀ machine, ∃ run,
      catalog.publishByCalls machine = .ok run ∧
        (∀ text, .pushUuid text ∉ run.calls) ∧
        (∀ x y z s, .pushQuaternion x y z s ∉ run.calls) ∧
        ∀ name ∈ catalog.publishedNames, ∃ value,
          run.table.get? name = some value ∧ (catalog.resolve name).1 = some value

namespace Catalog

/-- No value of its own kind has a kind that only a declared type gives. -/
private theorem not_isDeclared_native (width : VectorWidth) (value : ConstantValue) :
    ¬(value.native width).kind.IsDeclared := by
  cases value with
  | quaternion rotation =>
      cases width <;> simp [GlobalKind.IsDeclared, ConstantValue.native, Rotation.asVector,
        GlobalValue.kind]
  | _ => simp [GlobalKind.IsDeclared, ConstantValue.native, GlobalValue.kind]

private theorem resolve_of_untyped {catalog : Catalog} (untyped : catalog.types.table = .empty)
    (name : String) :
    catalog.resolve name =
      ((catalog.constants.get? name).map fun constant =>
        constant.value.native catalog.vectorWidth, []) := by
  have noType : ∀ key, catalog.types.get? key = none := by
    intro key
    rw [Store.get?, untyped]
    rfl
  unfold resolve
  cases catalog.constants.get? name with
  | none => rfl
  | some constant =>
      unfold resolveConstant
      simp only [noType]
      rfl

/-- A value is pushed by the call of its kind. -/
private theorem isDeclared_of_pushCall {value : GlobalValue} :
    (∀ text, value.pushCall = .pushUuid text → value.kind.IsDeclared) ∧
      ∀ x y z s, value.pushCall = .pushQuaternion x y z s → value.kind.IsDeclared := by
  cases value <;> simp [GlobalValue.pushCall, GlobalValue.kind, GlobalKind.IsDeclared]

private theorem isNative_of_untyped {catalog : Catalog} (untyped : catalog.types.table = .empty)
    (within : ∀ entry ∈ catalog.constants.table.entries,
      entry.2.value.isWithinNumbers = true) :
    catalog.IsNative := by
  have resolves := resolve_of_untyped untyped
  have kinds : ∀ name value, (catalog.resolve name).1 = some value →
      ¬value.kind.IsDeclared := by
    intro name value resolved
    rw [resolves] at resolved
    obtain ⟨constant, -, rfl⟩ := Option.map_eq_some_iff.1 resolved
    exact not_isDeclared_native catalog.vectorWidth constant.value
  exact
    { types := untyped
      resolved := by
        intro name constant held
        have member : (name, constant) ∈ catalog.constants.table.entries :=
          mem_of_lookupEntry held
        refine ⟨_, if_pos (within _ member), ?_⟩
        rw [resolves, held]
        rfl
      missing := by
        intro name absent
        rw [resolves, absent]
        rfl
      kinds := kinds
      published := by
        intro machine
        obtain ⟨run, published, -, effect⟩ :=
          catalog.publicationEffect_of_within within machine
        refine ⟨run, published, ?_, ?_, ?_⟩
        · intro text isCall
          obtain ⟨name, -, value, resolved, isPush | isSet⟩ :=
            effect.exists_name_of_mem_calls isCall
          · exact kinds name value resolved (isDeclared_of_pushCall.1 text isPush.symm)
          · contradiction
        · intro x y z s isCall
          obtain ⟨name, -, value, resolved, isPush | isSet⟩ :=
            effect.exists_name_of_mem_calls isCall
          · exact kinds name value resolved (isDeclared_of_pushCall.2 x y z s isPush.symm)
          · contradiction
        · intro name isPublished
          obtain ⟨value, resolved, bound⟩ := effect.bound name isPublished
          exact ⟨value, bound, resolved⟩ }

end Catalog

/-! ## Installations -/

/-- What has been installed was loaded, and can be published. -/
private theorem ContextKeeper.isLoadOf_of_install {keeper : ContextKeeper}
    {sources : CatalogSources} {interruptions : Interruptions} {catalog : Catalog}
    (installed : (keeper.install sources interruptions).2 = .ok catalog) :
    catalog.IsLoadOf sources.files (keeper.settings.withSources sources) ∧
      ∀ entry ∈ catalog.constants.table.entries, entry.2.value.isWithinNumbers = true := by
  cases isInstall : keeper.install sources interruptions with
  | mk after outcome =>
      rw [isInstall] at installed
      obtain rfl : outcome = .ok catalog := installed
      rcases install_cases isInstall with ⟨built, isSetUp, isBuilt, -⟩ | ⟨-, fault, failed, -⟩
      · obtain rfl := Except.ok.inj isBuilt
        have agreement := CatalogKeeper.outcomeOf_setUp sources.files
          (keeper.settings.withSources sources)
        rw [CatalogKeeper.setUp_of_success isSetUp] at agreement
        refine ⟨Catalog.isLoadOf ?_, CatalogKeeper.isWithinNumbers_of_setUp isSetUp⟩
        cases loaded : (Catalog.load sources.files
            (keeper.settings.withSources sources)).outcome with
        | error fault =>
            rw [loaded] at agreement
            contradiction
        | ok found =>
            rw [loaded] at agreement
            rw [Except.ok.inj agreement]
      · contradiction

/-- The constants of two catalogs are the same if both were loaded from the same file,
whatever the limits were. -/
private theorem Catalog.IsLoadOf.table_eq {first second : Catalog}
    {firstInput secondInput : SetupInput} (same : SameConstants firstInput secondInput)
    (isFirst : first.IsLoadOf firstInput.files firstInput.settings)
    (isSecond : second.IsLoadOf secondInput.files secondInput.settings) :
    first.constants.table = second.constants.table := by
  obtain ⟨firstText, firstRead, firstLoaded⟩ := isFirst.constants
  obtain ⟨secondText, secondRead, secondLoaded⟩ := isSecond.constants
  rw [same.path] at firstRead
  have sameText : firstText = secondText := text_eq_of_readSource same.file firstRead secondRead
  rw [Store.table_of_ofSource firstLoaded, Store.table_of_ofSource secondLoaded, sameText]

/-- No types are loaded from an empty text. -/
private theorem ofSource_types_empty (limit : Option Int) :
    Store.ofSource typeFormat limit (.text "") = .ok (.ofLimit limit) := rfl

/-- A catalog whose types come of an empty file has none. -/
private theorem Catalog.IsLoadOf.types_eq_empty {catalog : Catalog} {other untyped : SetupInput}
    (isEmpty : HasEmptyTypes other untyped)
    (isLoad : catalog.IsLoadOf untyped.files untyped.settings) :
    catalog.types.table = .empty := by
  obtain ⟨text, isRead, loaded⟩ := isLoad.types isEmpty.dialect
  obtain ⟨path, place, content⟩ := isEmpty.types
  rw [place] at isRead
  have encoded := encodes_of_readFile isRead
  rw [content] at encoded
  have noText : "" = text := String.toByteArray_inj.1 (Except.ok.inj encoded)
  rw [← noText, ofSource_types_empty] at loaded
  rw [← Except.ok.inj loaded]
  rfl

/-- Where an empty file can be read, a catalog without types can be installed with the
constants that were installed elsewhere. -/
private theorem ContextKeeper.exists_install_of_hasRoom {keeper : ContextKeeper}
    {sources : CatalogSources} {interruptions : Interruptions} {other : SetupInput}
    {catalog : Catalog} (isEmpty : HasEmptyTypes other (keeper.setupInput sources interruptions))
    (hasRoom : HasRoom other (keeper.setupInput sources interruptions))
    (isLoad : catalog.IsLoadOf other.files other.settings) :
    ∃ untyped, (keeper.install sources .none).2 = .ok untyped := by
  have agreement := (keeper.install_eq_installFrom sources).2
  change _ = (Catalog.load (keeper.setupInput sources interruptions).files
    (keeper.setupInput sources interruptions).settings).outcome.mapError _ at agreement
  generalize keeper.setupInput sources interruptions = input at agreement isEmpty hasRoom
  obtain ⟨text, constantsRead, loaded⟩ := isLoad.constants
  obtain ⟨path, place, content⟩ := isEmpty.types
  rw [isEmpty.toSameConstants.readSource_eq hasRoom.memoryBound hasRoom.sourceBudget]
    at constantsRead
  rw [hasRoom.arenaLimit] at loaded
  have noText : "".toUTF8 = ByteArray.empty := rfl
  have typesRead := (readsContent_readFile (hasRoom.named path place) content
    input.settings.sourceBudget).eq_ok hasRoom.countable (Nat.zero_le _) noText
  have built : Catalog.ofSources input.settings (sourceOf input.settings.constantsPath text)
      (some (sourceOf (some path) "")) =
        .ok ⟨catalog.constants, .ofLimit input.settings.arenaLimit, input.settings.vectorWidth,
          input.settings.nameLimit⟩ := by
    refine (Catalog.ofSources_sourceOf _ _ (some path) text (some "")).trans ?_
    rw [Catalog.ofSources, loaded, Option.map_some, Option.elim_some, ofSource_types_empty]
    rfl
  rw [Catalog.outcome_load, isEmpty.dialect, place, constantsRead] at agreement
  dsimp only [readSource] at agreement
  rw [typesRead] at agreement
  rw [agreement]
  simp only [Catalog.ofReadings, Except.map, Except.mapError, Except.bind, built]
  exact ⟨_, rfl⟩

/-! ## Independence -/

/-- What two installations in contexts of the dialect without types have in common. -/
structure IndependentOfTypes (first second : ContextKeeper)
    (firstSources secondSources : CatalogSources)
    (firstCuts secondCuts : Interruptions) : Prop where
  /-- They return the same, or fail for the same reason. -/
  outcome :
    (first.install firstSources firstCuts).2 = (second.install secondSources secondCuts).2
  /-- Afterwards every question has the same answer. -/
  answers :
    ∀ query,
      (first.install firstSources firstCuts).1.context.answer query =
        (second.install secondSources secondCuts).1.context.answer query
  /-- Every constant is represented by its own kind. -/
  native :
    ∀ catalog, (first.install firstSources firstCuts).2 = .ok catalog → catalog.IsNative
  /-- Every catalog of the other dialect with the same constants and an empty file of types
  represents each of them alike, and where there is room for one it can be installed. -/
  untyped :
    ∀ catalog, (first.install firstSources firstCuts).2 = .ok catalog →
      ∀ (other : ContextKeeper) (sources : CatalogSources) (cuts : Interruptions),
        HasEmptyTypes (first.setupInput firstSources firstCuts)
            (other.setupInput sources cuts) →
          (∀ untyped, (other.install sources cuts).2 = .ok untyped →
              ∀ name, untyped.resolve name = catalog.resolve name) ∧
            (HasRoom (first.setupInput firstSources firstCuts)
                (other.setupInput sources cuts) →
              ∃ untyped, (other.install sources .none).2 = .ok untyped)

/-- In the dialect without types, installations that agree on all else do not depend on
types, in whatever state the contexts are. -/
theorem types_have_no_part_in_lsl {first second : ContextKeeper}
    {firstSources secondSources : CatalogSources} {firstCuts secondCuts : Interruptions}
    (isLsl : first.settings.dialect = .lsl)
    (agrees :
      AgreesButTypes (first.setupInput firstSources firstCuts)
        (second.setupInput secondSources secondCuts)) :
    IndependentOfTypes first second firstSources secondSources firstCuts secondCuts := by
  have sameSetup := CatalogKeeper.setUp_congr isLsl agrees
  obtain ⟨sameOutcome, sameCatalog⟩ := ContextKeeper.install_eq_of_setUp sameSetup
  have withoutTypes : ∀ catalog, (first.install firstSources firstCuts).2 = .ok catalog →
      catalog.types.table = .empty := by
    intro catalog installed
    obtain ⟨isLoad, -⟩ := ContextKeeper.isLoadOf_of_install installed
    rw [isLoad.untyped isLsl]
    rfl
  exact
    { outcome := sameOutcome
      answers := Context.answer_congr sameCatalog
      native := by
        intro catalog installed
        obtain ⟨-, within⟩ := ContextKeeper.isLoadOf_of_install installed
        exact Catalog.isNative_of_untyped (withoutTypes catalog installed) within
      untyped := by
        intro catalog installed other sources cuts isEmpty
        obtain ⟨isLoad, -⟩ := ContextKeeper.isLoadOf_of_install installed
        constructor
        · intro untyped otherInstalled name
          obtain ⟨isOtherLoad, -⟩ := ContextKeeper.isLoadOf_of_install otherInstalled
          have sameTable := isLoad.table_eq isEmpty.toSameConstants isOtherLoad
          have sameWidth : catalog.vectorWidth = untyped.vectorWidth := by
            rw [isLoad.vectorWidth, isOtherLoad.vectorWidth]
            exact isEmpty.vectorWidth
          rw [Catalog.resolve_of_untyped (withoutTypes catalog installed),
            Catalog.resolve_of_untyped (isOtherLoad.types_eq_empty isEmpty), Store.get?,
            Store.get?, sameTable, sameWidth]
        · intro hasRoom
          exact ContextKeeper.exists_install_of_hasRoom isEmpty hasRoom isLoad }

/-- A declared uuid has no part in it, whether its file is missing or there, and though
reading it would be cut short. -/
theorem declared_uuid_has_no_part_in_lsl :
    let settings : Settings := { Settings.standard with dialect := .lsl }
    let declaring : Settings := { settings with typesPath := some (.ofText "types") }
    let alone : FileView :=
      { opened := fun path =>
          if path.text = "constants" then .ok "const string S = \"x\"\n".toUTF8
          else .error .missing }
    let beside : FileView :=
      { opened := fun path =>
          if path.text = "constants" then .ok "const string S = \"x\"\n".toUTF8
          else .ok "declare S: uuid\n".toUTF8 }
    let constantsPath : Option SourcePath := some (.ofText "constants")
    IndependentOfTypes (.new settings) (.new declaring)
        ⟨alone, constantsPath, none⟩ ⟨beside, constantsPath, none⟩
        .none { readingTypes := true } ∧
      ∃ catalog,
        ((ContextKeeper.new settings).install ⟨alone, constantsPath, none⟩ .none).2 =
            .ok catalog ∧
          catalog.resolve "S" = (some (.string "x"), []) := by
  intro settings declaring alone beside constantsPath
  refine ⟨types_have_no_part_in_lsl rfl ?_, ?_⟩
  · exact
      { path := rfl
        file := by
          intro path place
          obtain rfl := Option.some.inj place
          rfl
        memoryBound := rfl
        dialect := rfl
        vectorWidth := rfl
        sourceBudget := rfl
        arenaLimit := rfl
        nameLimit := rfl
        reading := rfl
        loading := rfl }
  · exact ⟨_, rfl, rfl⟩

end ConstantCatalog
