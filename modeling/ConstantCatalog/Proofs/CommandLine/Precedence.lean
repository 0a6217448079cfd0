import ConstantCatalog.Proofs.CommandLine.DumpTable
import ConstantCatalog.Proofs.Settings.Environment

/-!
Contract: where the settings of a run come from.

The variables of the process are checked first, whatever the options say, and before any
file is opened. After that each setting is the one that its option asks for, else the one
that its variable asks for, else the standard; and the run is that of a context with these
settings. Types are looked for in the dialect that has them alone. An option whose value was
dropped asks for nothing: a path is then taken from elsewhere, but a dialect or a size ends
the run.

Owns: `effectiveSettings`, `FollowsPrecedence`, and its proof for all arguments that are a
command line.

Does not own: which arguments are one.
-/

namespace ConstantCatalog

/-! ## Loading by what is read -/

private theorem readSource_congr {files other : FileView}
    (sameBound : other.memoryBound = files.memoryBound) {place : Option SourcePath}
    (agree : ∀ path, place = some path → other path = files path) (budget : Int)
    (embedded : EmbeddedSource) :
    readSource other budget embedded place = readSource files budget embedded place := by
  cases place with
  | none => rfl
  | some path => rw [readSource, readSource, readFile, readFile, agree path rfl, sameBound]

namespace Catalog

/-- A catalog depends on the files that its settings name, and on no others. -/
private theorem load_congr {files other : FileView}
    (sameBound : other.memoryBound = files.memoryBound) {settings : Settings}
    (agree : ∀ path ∈ settings.sourcePaths, other path = files path) :
    load other settings = load files settings := by
  have sameConstants :
      readSource other settings.sourceBudget .constants settings.constantsPath =
        readSource files settings.sourceBudget .constants settings.constantsPath := by
    apply readSource_congr sameBound
    intro path place
    exact agree path (Settings.mem_sourcePaths_iff.2 (Or.inl place))
  have sameTypes : readTypes other settings = readTypes files settings := by
    rw [readTypes, readTypes]
    cases dialect : settings.dialect with
    | lsl => rfl
    | slua =>
        dsimp only
        rw [readSource_congr sameBound]
        intro path place
        exact agree path (Settings.mem_sourcePaths_iff.2 (Or.inr ⟨dialect, place⟩))
  rw [load, load, sameConstants, sameTypes]

private theorem load_of_lsl {settings : Settings} (isLsl : settings.dialect = .lsl)
    (files : FileView) (typesPath : Option SourcePath) :
    load files { settings with typesPath := typesPath } = load files settings := by
  rw [load, load, readTypes, readTypes]
  dsimp only
  rw [isLsl]

end Catalog

namespace CommandLine

variable {α : Type}

/-! ## Settings of a run -/

/-- The value that an option has been given, if it has one. -/
def Choice.made? : Choice α → Option α
  | .unset => none
  | .dropped => none
  | .chosen value => some value

/-- The settings of a run: those that the options ask for, else those that the variables
ask for, else the standard. -/
def effectiveSettings (lookup : String → Option String) (options : GlobalOptions) : Settings :=
  { Settings.standard with
    constantsPath := options.constantsPath.or (SourcePath.askedFor? (lookup "SLUA_BUILTINS_FILE"))
    typesPath := options.typesPath.or (SourcePath.askedFor? (lookup "SLUA_DEFS_FILE"))
    dialect := (options.dialect.made?.or (Dialect.askedFor? (lookup "SLUA_DIALECT"))).getD .slua
    vectorWidth :=
      (options.vectorWidth.made?.or
        (VectorWidth.askedFor? (lookup "LUA_VECTOR_SIZE"))).getD .three }

/-- What comes of a command in a context with the given settings, where no option asks for
others. -/
def concludeUnder (files : FileView) (settings : Settings) (verbose : Bool)
    (command : Command) : Conclusion :=
  runInvocation files settings ⟨{ verbose := verbose }, command⟩

/-- The report that is made, if one is. -/
def Conclusion.report? : Conclusion → Option Report
  | .usage _ => none
  | .reported _ report => some report
  | .broken _ _ _ => none

/-- Whether an option that chooses a setting has lost its value. -/
def GlobalOptions.HasDropped (options : GlobalOptions) : Prop :=
  options.dialect = .dropped ∨ options.vectorWidth = .dropped

/-- How the settings of a command line come about. -/
structure FollowsPrecedence (lookup : String → Option String) (arguments : List String)
    (options : GlobalOptions) (command : Command) : Prop where
  /-- Variables that cannot be settings end the run in one line, whatever the options and
  the files are. -/
  misconfigured :
    Misconfigured (.ofLookup lookup) →
      ∃ report line,
        (∀ files,
          run files (.ofLookup lookup) arguments = .reported options.threshold report) ∧
        report.status = 1 ∧
        report.outputText = "" ∧
        report.errorText options.threshold = "Error: " ++ line ++ "\n" ∧
        IsField line.toList
  /-- Otherwise a run is that of a context with the effective settings. -/
  configured :
    ¬Misconfigured (.ofLookup lookup) → ¬options.HasDropped →
      ∀ files, run files (.ofLookup lookup) arguments =
        concludeUnder files (effectiveSettings lookup options) options.verbose command
  /-- An option without its value ends the run before any file is opened. -/
  dropped :
    ¬Misconfigured (.ofLookup lookup) → options.HasDropped →
      ∃ fault, (fault = .noDialect ∨ fault = .noVectorSize) ∧
        ∀ files, run files (.ofLookup lookup) arguments =
          .broken options.threshold [] (.settings fault)
  /-- No file is opened but the effective ones. -/
  opened :
    ∀ files other : FileView, other.memoryBound = files.memoryBound →
      (∀ path, (effectiveSettings lookup options).constantsPath = some path →
        other path = files path) →
      ((effectiveSettings lookup options).dialect = .slua →
        ∀ path, (effectiveSettings lookup options).typesPath = some path →
          other path = files path) →
      concludeUnder other (effectiveSettings lookup options) options.verbose command =
        concludeUnder files (effectiveSettings lookup options) options.verbose command
  /-- Without types, nothing depends on where they would be declared. -/
  untyped :
    (effectiveSettings lookup options).dialect = .lsl →
      ∀ files typesPath,
        concludeUnder files { effectiveSettings lookup options with typesPath := typesPath }
            options.verbose command =
          concludeUnder files (effectiveSettings lookup options) options.verbose command
  /-- Four variables count. -/
  fourVariables :
    ∀ other, (∀ name ∈ Environment.variableNames, other name = lookup name) →
      ∀ files, run files (.ofLookup other) arguments = run files (.ofLookup lookup) arguments

/-! ## From one layer to the next -/

private theorem Choice.valueOr_eq {choice : Choice α} (given : choice ≠ .dropped)
    (asked? : Option α) (standard : α) (fault : SettingsFault) :
    choice.valueOr (asked?.getD standard) fault =
      .ok ((choice.made?.or asked?).getD standard) := by
  cases choice with
  | unset => rfl
  | dropped => exact absurd rfl given
  | chosen value => rfl

/-- Options for the dialect and for the size take the place of variables, and options for
paths are put over them when a context is set up. -/
private theorem applyTo_askedFor {options : GlobalOptions} (given : ¬options.HasDropped)
    (lookup : String → Option String) :
    ∃ chosen,
      options.applyTo (Settings.askedFor (.ofLookup lookup)) = .ok chosen ∧
        chosen.withPaths options.constantsPath options.typesPath =
          effectiveSettings lookup options := by
  have dialect := Choice.valueOr_eq (fun dropped => given (Or.inl dropped))
    (Dialect.askedFor? (lookup "SLUA_DIALECT")) .slua .noDialect
  have width := Choice.valueOr_eq (fun dropped => given (Or.inr dropped))
    (VectorWidth.askedFor? (lookup "LUA_VECTOR_SIZE")) .three .noVectorSize
  refine ⟨{ Settings.askedFor (.ofLookup lookup) with
    dialect := (effectiveSettings lookup options).dialect
    vectorWidth := (effectiveSettings lookup options).vectorWidth }, ?_, rfl⟩
  rw [GlobalOptions.applyTo, Settings.askedFor, Environment.ofLookup]
  dsimp only
  rw [dialect, width]
  rfl

private theorem applyTo_of_hasDropped {options : GlobalOptions} (dropped : options.HasDropped)
    (settings : Settings) :
    ∃ fault, (fault = .noDialect ∨ fault = .noVectorSize) ∧
      options.applyTo settings = .error fault := by
  have width : options.dialect ≠ .dropped → options.vectorWidth = .dropped :=
    dropped.resolve_left
  rw [GlobalOptions.applyTo]
  cases dialect : options.dialect with
  | dropped => exact ⟨.noDialect, Or.inl rfl, rfl⟩
  | unset =>
      rw [width (by simp [dialect])]
      exact ⟨.noVectorSize, Or.inr rfl, rfl⟩
  | chosen value =>
      rw [width (by simp [dialect])]
      exact ⟨.noVectorSize, Or.inr rfl, rfl⟩

/-- Reports are made from the catalog alone. -/
private theorem commandReport_congr {first second : Context}
    (sameCatalog : first.catalog = second.catalog) (command : Command) :
    commandReport first command = commandReport second command := by
  obtain ⟨firstSettings, firstCatalog⟩ := first
  obtain ⟨secondSettings, secondCatalog⟩ := second
  obtain rfl : firstCatalog = secondCatalog := sameCatalog
  cases command with
  | lookup names => rfl
  | dump => rfl
  | stats => rfl

/-- A run is what loading comes to, with the same command and the same details. -/
private theorem runInvocation_congr {files other : FileView} {first second : Settings}
    {options others : GlobalOptions}
    (sameLoad :
      Catalog.load files (first.withPaths options.constantsPath options.typesPath) =
        Catalog.load other (second.withPaths others.constantsPath others.typesPath))
    (sameDetails : options.verbose = others.verbose) (command : Command) :
    runInvocation files first ⟨options, command⟩ =
      runInvocation other second ⟨others, command⟩ := by
  have sameThreshold : options.threshold = others.threshold := by
    rw [GlobalOptions.threshold, GlobalOptions.threshold, sameDetails]
  unfold runInvocation Context.install
  dsimp only [Context.ofSettings]
  rw [sameLoad, sameThreshold]
  cases (Catalog.load other
      (second.withPaths others.constantsPath others.typesPath)).outcome with
  | error fault => rfl
  | ok catalog =>
      have sameReport :=
        @commandReport_congr ⟨first, some catalog⟩ ⟨second, some catalog⟩ rfl command
      show Conclusion.reported _ { commandReport ⟨first, some catalog⟩ command with items := _ } = _
      rw [sameReport]
      rfl

/-- A run depends on the files that it opens, and on no others. -/
theorem run_congr {files other : FileView} (sameBound : other.memoryBound = files.memoryBound)
    {environment : Environment} {arguments : List String}
    (agree : ∀ path ∈ openedPaths environment arguments, other path = files path) :
    run other environment arguments = run files environment arguments := by
  unfold openedPaths at agree
  unfold run
  cases parsed : readArguments arguments with
  | error exit => rfl
  | ok invocation =>
      cases read : Settings.ofEnvironment environment with
      | error fault => rfl
      | ok settings =>
          dsimp only
          cases applied : invocation.options.applyTo settings with
          | error fault => rfl
          | ok chosen =>
              simp only [parsed, read, Except.bind, applied] at agree
              apply runInvocation_congr
              · exact Catalog.load_congr sameBound agree
              · rfl

private theorem run_of_misconfigured {lookup : String → Option String} {arguments : List String}
    {invocation : Invocation} (parsed : readArguments arguments = .ok invocation)
    (misconfigured : Misconfigured (.ofLookup lookup)) :
    ∃ report line,
      (∀ files,
        run files (.ofLookup lookup) arguments =
          .reported invocation.options.threshold report) ∧
      report.status = 1 ∧
      report.outputText = "" ∧
      report.errorText invocation.options.threshold = "Error: " ++ line ++ "\n" ∧
      IsField line.toList := by
  obtain ⟨fault, refused, isField⟩ := Settings.ofEnvironment_of_misconfigured misconfigured
  refine ⟨failureReport [] (SettingsFault.environment fault).message,
    (SettingsFault.environment fault).message, ?_, rfl, rfl, ?_, ?_⟩
  · intro files
    rw [run, parsed]
    dsimp only
    rw [refused]
  · simp [failureReport, Report.errorText, ReportItem.errorLine?, joinLines, String.join]
  · have front : IsField "Invalid builtins environment configuration: ".toList := by
      decide +kernel
    show IsField ("Invalid builtins environment configuration: " ++ fault.message).toList
    rw [String.toList_append]
    exact front.append isField

/-- Every command line follows the precedence of options, variables and standards. -/
theorem settings_follow_precedence {arguments : List String} {options : GlobalOptions}
    {command : Command} (parsed : readArguments arguments = .ok ⟨options, command⟩)
    (lookup : String → Option String) :
    FollowsPrecedence lookup arguments options command where
  misconfigured := run_of_misconfigured parsed
  configured := by
    intro configured given files
    have read := Settings.ofEnvironment_of_configured configured
    obtain ⟨chosen, applied, effective⟩ := applyTo_askedFor given lookup
    rw [run_of_arguments parsed read applied]
    apply runInvocation_congr
    · rw [effective]
      rfl
    · rfl
  dropped := by
    intro configured dropped
    have read := Settings.ofEnvironment_of_configured configured
    obtain ⟨fault, isFault, refused⟩ :=
      applyTo_of_hasDropped dropped (Settings.askedFor (.ofLookup lookup))
    refine ⟨fault, isFault, ?_⟩
    intro files
    rw [run, parsed]
    dsimp only
    rw [read]
    dsimp only
    rw [refused]
  opened := by
    intro files other sameBound constants types
    apply runInvocation_congr
    · apply Catalog.load_congr sameBound
      intro path isNamed
      cases Settings.mem_sourcePaths_iff.1 isNamed with
      | inl place => exact constants path place
      | inr place => exact types place.1 path place.2
    · rfl
  untyped := by
    intro isLsl files typesPath
    apply runInvocation_congr
    · exact Catalog.load_of_lsl isLsl files typesPath
    · rfl
  fourVariables := by
    intro other agree files
    have same : Environment.ofLookup other = .ofLookup lookup := by
      rw [Environment.ofLookup, Environment.ofLookup, agree _ (by simp [Environment.variableNames]),
        agree "SLUA_DEFS_FILE" (by simp [Environment.variableNames]),
        agree "SLUA_DIALECT" (by simp [Environment.variableNames]),
        agree "LUA_VECTOR_SIZE" (by simp [Environment.variableNames])]
    rw [same]

/-- An option for the dialect stands over its variable, a variable over the standard, and no
text is the path of the working directory. -/
theorem options_stand_over_variables :
    let lookup : String → Option String := fun name =>
      if name = "SLUA_DIALECT" then some "LSL"
      else if name = "LUA_VECTOR_SIZE" then some "4"
      else none
    ∀ files,
      run files (.ofLookup lookup) ["--builtins", "", "--dialect", "slua", "dump"] =
        concludeUnder files
          { Settings.standard with constantsPath := some (.ofText "."), vectorWidth := .four }
          false .dump := by
  intro lookup files
  have configured : ¬Misconfigured (.ofLookup lookup) := by
    rintro (⟨name, isName, -, notLsl, -⟩ | ⟨text, isText, -, -, notFour⟩)
    · obtain rfl : "LSL" = name := Option.some.inj isName
      exact notLsl (by decide +kernel)
    · obtain rfl : "4" = text := Option.some.inj isText
      exact notFour rfl
  have follows := @settings_follow_precedence
    ["--builtins", "", "--dialect", "slua", "dump"]
    { constantsPath := some (.ofText ""), dialect := .chosen .slua } .dump rfl lookup
  exact follows.configured configured (by simp [GlobalOptions.HasDropped]) files

/-- An option for the dialect that has lost its value ends a run that a context of either
dialect would have reported. -/
theorem dropped_dialect_ends_run :
    let files : FileView :=
      { opened := fun path =>
          if path.text = "a.txt" then .ok "const string K = \"x\"\n".toUTF8
          else .ok "".toUTF8 }
    let settings : Settings :=
      { Settings.standard with
        constantsPath := some (.ofText "a.txt")
        typesPath := some (.ofText "b.luau") }
    run files {} ["--dialect=--", "--builtins", "a.txt", "--defs", "b.luau", "lookup", "K"] =
        .broken .warning [] (.settings .noDialect) ∧
      ∀ dialect,
        (concludeUnder files { settings with dialect := dialect } false
            (.lookup ["K"])).report?.map (fun report => (report.status, report.outputText)) =
          some (0, "K: string 'x' (declared -, published as string 'x')\n") := by
  intro files settings
  refine ⟨rfl, ?_⟩
  intro dialect
  dsimp only [files, settings]
  cases dialect with
  | lsl => decide +kernel
  | slua => decide +kernel

end CommandLine

end ConstantCatalog
