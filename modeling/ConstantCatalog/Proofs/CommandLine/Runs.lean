import ConstantCatalog.Proofs.CommandLine.Reports

/-!
Contract: runs of the command line on one catalog.

The command that a run ends with has no part in what is installed, nor has the option that
asks for details; and the settings of a command line never limit names. So where an
installation succeeds, every command line that differs in no more than these two describes
the same constants, each shown in one line with the fields that it was made of.

Owns: `DescribedAlike`, and its proof for command lines whose installation succeeds.

Does not own: the arguments that give the options, or runs that end without a catalog.
-/

namespace ConstantCatalog

/-! ## Settings -/

private theorem SettingsDraft.nameLimit_check {draft : SettingsDraft} {settings : Settings}
    (checked : draft.check = .ok settings) :
    settings.nameLimit = draft.nameLimit := by
  unfold check at checked
  cases width : VectorWidth.ofInt draft.vectorSize with
  | error fault =>
      rw [width] at checked
      contradiction
  | ok found =>
      rw [width] at checked
      dsimp only at checked
      split at checked
      · rw [← Except.ok.inj checked]
      · contradiction

theorem SettingsDraft.nameLimit_ofEnvironment {environment : Environment} {draft : SettingsDraft}
    (drafted : ofEnvironment environment = .ok draft) :
    draft.nameLimit = none := by
  unfold ofEnvironment at drafted
  cases dialect : Dialect.ofVariable environment.dialect with
  | error fault =>
      rw [dialect] at drafted
      contradiction
  | ok found =>
      cases size : vectorSizeOfVariable environment.vectorSize with
      | error fault =>
          rw [dialect, size] at drafted
          contradiction
      | ok width =>
          rw [dialect, size] at drafted
          rw [← Except.ok.inj drafted]

/-- An environment does not limit names. -/
theorem Settings.nameLimit_ofEnvironment {environment : Environment} {settings : Settings}
    (read : ofEnvironment environment = .ok settings) :
    settings.nameLimit = none := by
  unfold ofEnvironment at read
  cases drafted : SettingsDraft.ofEnvironment environment with
  | error fault =>
      rw [drafted] at read
      contradiction
  | ok draft =>
      rw [drafted] at read
      cases checked : draft.check with
      | error fault =>
          simp only [Except.bind, checked] at read
          contradiction
      | ok found =>
          simp only [Except.bind, checked] at read
          rw [← Except.ok.inj read, SettingsDraft.nameLimit_check checked]
          exact SettingsDraft.nameLimit_ofEnvironment drafted

namespace CommandLine

/-- Nor do options. -/
theorem GlobalOptions.nameLimit_applyTo {options : GlobalOptions} {settings chosen : Settings}
    (applied : options.applyTo settings = .ok chosen) :
    chosen.nameLimit = settings.nameLimit := by
  unfold applyTo at applied
  cases dialect : options.dialect.valueOr settings.dialect .noDialect with
  | error fault =>
      rw [dialect] at applied
      contradiction
  | ok found =>
      cases size : options.vectorWidth.valueOr settings.vectorWidth .noVectorSize with
      | error fault =>
          rw [dialect, size] at applied
          contradiction
      | ok width =>
          rw [dialect, size] at applied
          rw [← Except.ok.inj applied]

/-! ## Rows of loaded catalogs -/

/-- What is shown of a constant whose name can be declared keeps its frame. -/
private theorem isFramed_shown (catalog : Catalog) {name : String} (isName : IsConstantName name)
    (constant : Constant) :
    (shown catalog name constant).IsFramed := by
  have solidKind : ∀ kind : ConstantKind, ' ' ∉ kind.name.toList := by
    intro kind
    cases kind <;> decide
  exact
    { name := by
        intro character member
        have solid := isName.solid character member
        simp_all [isFieldChar]
      solidName := fun blank => isName.solid ' ' blank List.mem_cons_self
      kind := isField_kindName _
      solidKind := solidKind _
      value := isField_constantText _
      declared := by
        have untyped : IsField "-".toList := by decide
        change IsField (((catalog.types.get? name).map DeclaredType.name).getD "-").toList
        cases catalog.types.get? name with
        | none => exact untyped
        | some declared => exact isField_typeName declared
      publishedKind := isField_globalKindName _
      publishedValue := isField_globalText _ }

theorem isFramed_of_isLoadOf {catalog : Catalog} {files : FileView} {settings : Settings}
    (isLoad : catalog.IsLoadOf files settings) :
    ∀ row ∈ shownConstants catalog, row.IsFramed := by
  intro row member
  obtain ⟨entry, inTable, rfl⟩ := List.mem_map.1 ((perm_shownConstants catalog).mem_iff.1 member)
  obtain ⟨text, -, loaded⟩ := isLoad.constants
  obtain ⟨named, isLoadable⟩ := isLoadable_of_holds (Store.holds_of_ofSource loaded) inTable
  have isName : IsConstantName entry.1 := by
    rw [named]
    exact isLoadable.name
  exact isFramed_shown catalog isName entry.2

/-! ## Runs -/

/-- Events before the items of a report have no part in its lines. -/
theorem Describes.after_events {rows : List ShownConstant} {typeCount : Nat} {command : Command}
    {report : Report} (describes : Describes rows typeCount command report) (events : List Event) :
    Describes rows typeCount command
      { report with items := events.map .event ++ report.items } := by
  have output : Report.outputLines { report with items := events.map .event ++ report.items } =
      report.outputLines := by
    rw [Report.outputLines, List.filterMap_append, filterMap_event fun _ => rfl]
    rfl
  have problems : Report.problemLines { report with items := events.map .event ++ report.items } =
      report.problemLines := by
    rw [Report.problemLines, List.filterMap_append, filterMap_event fun _ => rfl]
    rfl
  cases command with
  | lookup names =>
      exact ⟨output.trans describes.output, problems.trans describes.problems, describes.status⟩
  | dump =>
      exact ⟨output.trans describes.output, problems.trans describes.problems, describes.status⟩
  | stats =>
      obtain ⟨kinds, distinct, present, total, lines⟩ := describes.output
      exact
        { output := ⟨kinds, distinct, present, total, output.trans lines⟩
          problems := problems.trans describes.problems
          status := describes.status }

/-- Where all events are details, the error stream shows the problems alone. -/
private theorem Report.errorText_of_details {report : Report}
    (details : ∀ event, .event event ∈ report.items → event.IsDetail) :
    report.errorText .warning = joinLines report.problemLines := by
  have lines : report.items.filterMap (ReportItem.errorLine? .warning) = report.problemLines := by
    apply List.filterMap_congr
    intro item member
    cases item with
    | output line => rfl
    | problem line => rfl
    | event occurred =>
        have isDetail : occurred.severity.atLeast .warning = false := details occurred member
        rw [ReportItem.errorLine?, isDetail]
        rfl
  rw [errorText, lines]

/-- Whether all commands, with the same options but for details, describe the same
constants. -/
structure DescribedAlike (files : FileView) (environment : Environment) (options : GlobalOptions)
    (rows : List ShownConstant) (typeCount : Nat) : Prop where
  distinct : (rows.map ShownConstant.name).Nodup
  /-- A line of the dump is one line, with three fields. -/
  dumped :
    ∀ row ∈ rows,
      pieces (fun character => !isFieldChar character) row.dumpLine.toList =
        [row.name.toList, row.publishedKind.toList, row.publishedValue.toList]
  /-- A line of a lookup is one line, and begins with the name and the kind. -/
  lookedUp :
    ∀ row ∈ rows,
      IsField row.lookupLine.toList ∧
        ∃ others,
          pieces (· == ' ') row.lookupLine.toList =
            (row.name.toList ++ [':']) :: row.kind.toList :: others
  reported :
    ∀ {arguments verbose command},
      readArguments arguments = .ok ⟨{ options with verbose := verbose }, command⟩ →
        ∃ report,
          run files environment arguments =
              .reported (if verbose then .debug else .warning) report ∧
            Describes rows typeCount command report ∧
            report.errorText .warning = joinLines report.problemLines

/-- Where an installation succeeds, the commands describe the constants of its catalog. -/
theorem commands_describe_same_constants {files : FileView} {environment : Environment}
    {options : GlobalOptions} {settings chosen : Settings} {catalog : Catalog}
    (read : Settings.ofEnvironment environment = .ok settings)
    (applied : options.applyTo settings = .ok chosen)
    (installed :
      (Context.install files options.constantsPath options.typesPath
        (.ofSettings chosen)).outcome = .ok catalog) :
    DescribedAlike files environment options (shownConstants catalog) catalog.types.size := by
  have isLoad : catalog.IsLoadOf files
      (chosen.withPaths options.constantsPath options.typesPath) := Catalog.isLoadOf installed
  have framed := isFramed_of_isLoadOf isLoad
  have unlimited : catalog.nameLimit = none := by
    calc
      catalog.nameLimit = chosen.nameLimit := isLoad.nameLimit
      _ = settings.nameLimit := GlobalOptions.nameLimit_applyTo applied
      _ = none := Settings.nameLimit_ofEnvironment read
  have quiet : ∀ event ∈ (Context.install files options.constantsPath options.typesPath
      (.ofSettings chosen)).events, event.IsDetail :=
    Catalog.load_succeedsQuietly files _ catalog installed
  have holds : (Context.install files options.constantsPath options.typesPath
      (.ofSettings chosen)).context.catalog = some catalog := by
    change Except.toOption (Context.install files options.constantsPath options.typesPath
      (.ofSettings chosen)).outcome = some catalog
    rw [installed]
    rfl
  exact
    { distinct := nodup_shownConstants catalog
      dumped := fun row member => (framed row member).fields_dumpLine
      lookedUp := fun row member =>
        ⟨(framed row member).isField_lookupLine, (framed row member).exists_words_lookupLine⟩
      reported := by
        intro arguments verbose command parsed
        have sameApplied : GlobalOptions.applyTo { options with verbose := verbose } settings =
            .ok chosen := applied
        have ran : run files environment arguments =
            runInvocation files chosen ⟨{ options with verbose := verbose }, command⟩ := by
          rw [run, parsed]
          dsimp only
          rw [read]
          dsimp only
          rw [sameApplied]
        rw [ran, runInvocation]
        dsimp only
        rw [installed]
        refine ⟨_, rfl, (describes_commandReport holds unlimited command).after_events _, ?_⟩
        apply Report.errorText_of_details
        intro event member
        rcases List.mem_append.1 member with ofInstallation | ofCommand
        · obtain ⟨occurred, inEvents, same⟩ := List.mem_map.1 ofInstallation
          rw [← ReportItem.event.inj same]
          exact quiet occurred inEvents
        · exact isDetail_commandReport holds unlimited command event ofCommand }

/-- Two constants, one of which is declared as a uuid, are described alike, and there is a
command line that asks for them. -/
theorem declared_constants_described_alike :
    let files : FileView :=
      { opened := fun path =>
          if path.text = "constants" then
            .ok "const integer A = 1\nconst string K = \"x\"\n".toUTF8
          else .ok "declare K: uuid\n".toUTF8 }
    let options : GlobalOptions :=
      { constantsPath := some (.ofText "constants"), typesPath := some (.ofText "types") }
    (∃ rows,
      rows.length = 2 ∧
        (rows.find? (·.name == "K")).map ShownConstant.dumpLine = some "K\tuuid\t'x'" ∧
        DescribedAlike files {} options rows 1) ∧
      readArguments ["--builtins", "constants", "--defs", "types", "lookup", "A", "B"] =
        .ok ⟨options, .lookup ["A", "B"]⟩ := by
  intro files options
  have installed : ∃ catalog,
      (Context.install files options.constantsPath options.typesPath
          (.ofSettings .standard)).outcome = .ok catalog ∧
        catalog.constants.size = 2 ∧
        ((catalog.constants.get? "K").map (shown catalog "K")).map ShownConstant.dumpLine =
          some "K\tuuid\t'x'" ∧
        catalog.types.size = 1 := ⟨_, rfl, rfl, rfl, rfl⟩
  obtain ⟨catalog, isInstalled, count, line, typeCount⟩ := installed
  refine ⟨⟨shownConstants catalog, ?_, ?_, ?_⟩, rfl⟩
  · rw [length_shownConstants]
    exact count
  · rw [find?_shownConstants]
    exact line
  · rw [← typeCount]
    exact commands_describe_same_constants rfl rfl isInstalled

end CommandLine

end ConstantCatalog
