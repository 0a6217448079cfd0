import ConstantCatalog.Proofs.CommandLine.Runs
import Mathlib.Data.String.Basic

/-!
Contract: the output of a dump as a table.

The dump has one line for each constant, by name, with the name, the kind and the value
that the constant resolves to. No field has a tab or a line break of its own: names are
words of the constants file, and the texts of values are quoted. So the lines and the
fields are recovered by dividing the output at line feeds and at tabs.

Owns: `GlobalRow`, `IsTableOf`, `ShowsGlobalsOf`, and that the output of a dump is such
a table.

Does not own: the texts of values, which may be the same for values that differ.
-/

namespace ConstantCatalog.CommandLine

/-! ## Tables -/

/-- What a dump shows of one global. -/
structure GlobalRow where
  name : String
  kind : String
  value : String

namespace GlobalRow

def fields (row : GlobalRow) : List (List Char) :=
  [row.name.toList, row.kind.toList, row.value.toList]

/-- The fields of a row with tabs between them. -/
def line (row : GlobalRow) : List Char :=
  ['\t'].intercalate row.fields

/-- Whether no field has a tab or a line break in it. -/
def IsFramed (row : GlobalRow) : Prop :=
  ∀ field ∈ row.fields, IsField field

end GlobalRow

/-- Whether a text is the table of given rows, and can be divided into them: each row is
a line with exactly two tabs that ends in a line feed, and there are no other line
breaks. -/
structure IsTableOf (text : String) (rows : List GlobalRow) : Prop where
  written : text.toList = rows.flatMap fun row => row.line ++ ['\n']
  lines : pieces (· == '\n') text.toList = rows.map GlobalRow.line ++ [[]]
  fields : ∀ row ∈ rows, pieces (· == '\t') row.line = row.fields
  tabs : ∀ row ∈ rows, row.line.count '\t' = 2
  unbroken : '\r' ∉ text.toList

/-- Whether rows show what the constants of a catalog resolve to, one row for each
constant, in the order of the code points of their names. -/
structure ShowsGlobalsOf (catalog : Catalog) (rows : List GlobalRow) : Prop where
  ordered : (rows.map GlobalRow.name).Pairwise (· < ·)
  count : rows.length = catalog.constants.size
  complete :
    ∀ name, name ∈ rows.map GlobalRow.name ↔ (catalog.constants.get? name).isSome = true
  resolved :
    ∀ row ∈ rows, ∃ value,
      (catalog.resolve row.name).1 = some value ∧
        row.kind = value.kind.name ∧
        row.value = globalText value

/-! ## Framing -/

namespace GlobalRow.IsFramed

variable {row : GlobalRow}

/-- Two tabs are all that a line has besides its fields. -/
private theorem line_eq (row : GlobalRow) :
    row.line = row.name.toList ++ '\t' :: (row.kind.toList ++ '\t' :: row.value.toList) := by
  simp [line, fields]

private theorem pieces_line (framed : row.IsFramed) :
    pieces (· == '\t') row.line = row.fields := by
  apply pieces_intercalate (by decide) (by simp [fields])
  intro field member character inField
  have noTab := (isField_iff.1 (framed field member)).1
  apply beq_eq_false_iff_ne.2
  rintro rfl
  exact noTab inField

private theorem count_line (framed : row.IsFramed) : row.line.count '\t' = 2 := by
  have absent : ∀ field ∈ row.fields, field.count '\t' = 0 := by
    intro field member
    exact List.count_eq_zero.2 (isField_iff.1 (framed field member)).1
  have name := absent row.name.toList (by simp [fields])
  have kind := absent row.kind.toList (by simp [fields])
  have value := absent row.value.toList (by simp [fields])
  rw [line_eq, List.count_append, List.count_cons_self, List.count_append,
    List.count_cons_self, name, kind, value]

private theorem notMem_line (framed : row.IsFramed) {character : Char} (notTab : character ≠ '\t')
    (absent : ∀ field, IsField field → character ∉ field) :
    character ∉ row.line := by
  have name := absent _ (framed row.name.toList (by simp [fields]))
  have kind := absent _ (framed row.kind.toList (by simp [fields]))
  have value := absent _ (framed row.value.toList (by simp [fields]))
  rw [line_eq]
  simp [name, kind, value, notTab]

end GlobalRow.IsFramed

/-- The text of framed rows is divided into these rows. -/
private theorem isTableOf_of_framed {text : String} {rows : List GlobalRow}
    (written : text.toList = rows.flatMap fun row => row.line ++ ['\n'])
    (framed : ∀ row ∈ rows, row.IsFramed) :
    IsTableOf text rows where
  written := written
  lines := by
    have terminated : text.toList = (rows.map GlobalRow.line).flatMap (· ++ ['\n']) := by
      rw [written, List.flatMap_map]
    rw [terminated]
    apply pieces_terminated (by decide)
    intro line member character inLine
    obtain ⟨row, isRow, rfl⟩ := List.mem_map.1 member
    have noFeed := (framed row isRow).notMem_line (by decide)
      fun field isField => (isField_iff.1 isField).2.1
    apply beq_eq_false_iff_ne.2
    rintro rfl
    exact noFeed inLine
  fields := fun row member => (framed row member).pieces_line
  tabs := fun row member => (framed row member).count_line
  unbroken := by
    intro carriage
    rw [written] at carriage
    obtain ⟨row, isRow, inLine⟩ := List.mem_flatMap.1 carriage
    have noCarriage := (framed row isRow).notMem_line (by decide)
      fun field isField => (isField_iff.1 isField).2.2
    rcases List.mem_append.1 inLine with inside | isFeed
    · exact noCarriage inside
    · exact absurd (List.mem_singleton.1 isFeed) (by decide)

/-! ## Rows of a catalog -/

private theorem pairwise_sortedStrings (texts : List String) :
    (sortedStrings texts).Pairwise (· ≤ ·) := by
  have isOrder : ∀ left right : String, (!decide (right < left)) = true ↔ left ≤ right := by
    intro left right
    rw [Bool.not_eq_true', decide_eq_false_iff_not, not_lt]
  have transitive : ∀ first second third : String,
      (!decide (second < first)) = true → (!decide (third < second)) = true →
        (!decide (third < first)) = true := by
    simp only [isOrder]
    exact fun first second third => le_trans
  have total : ∀ first second : String,
      (!decide (second < first) || !decide (first < second)) = true := by
    simp only [Bool.or_eq_true, isOrder]
    exact le_total
  exact (List.pairwise_mergeSort transitive total texts).imp fun ordered => (isOrder _ _).1 ordered

namespace ShownConstant

def globalRow (shown : ShownConstant) : GlobalRow where
  name := shown.name
  kind := shown.publishedKind
  value := shown.publishedValue

private theorem IsFramed.globalRow {shown : ShownConstant} (framed : shown.IsFramed) :
    shown.globalRow.IsFramed := by
  intro field member
  have isOne : field = shown.name.toList ∨ field = shown.publishedKind.toList ∨
      field = shown.publishedValue.toList := by
    simpa [GlobalRow.fields, ShownConstant.globalRow] using member
  rcases isOne with rfl | rfl | rfl
  · exact framed.name
  · exact framed.publishedKind
  · exact framed.publishedValue

private theorem toList_dumpLine (shown : ShownConstant) :
    shown.dumpLine.toList = shown.globalRow.line := by
  have tab : "\t".toList = ['\t'] := rfl
  rw [GlobalRow.IsFramed.line_eq]
  simp [dumpLine, globalRow, tab]

end ShownConstant

section Rows

variable (catalog : Catalog)

private theorem names_shownConstants :
    (shownConstants catalog).map ShownConstant.name =
      sortedStrings catalog.constants.table.names := by
  have named : (sortedStrings catalog.constants.table.names).filterMap
        (fun name => (catalog.constants.get? name).map fun _ => name) =
      (sortedStrings catalog.constants.table.names).map id := by
    apply List.filterMap_eq_map_iff_forall_eq_some.2
    intro name member
    obtain ⟨constant, held⟩ :=
      OrderedTable.mem_names_iff.1 ((perm_sortedStrings _).mem_iff.1 member)
    rw [Store.get?, held]
    rfl
  rw [shownConstants, List.map_filterMap]
  simp only [Option.map_map]
  rwa [List.map_id] at named

/-- What is shown of the constants of a catalog is what they resolve to, by name. -/
private theorem showsGlobalsOf :
    ShowsGlobalsOf catalog ((shownConstants catalog).map ShownConstant.globalRow) := by
  have names : ((shownConstants catalog).map ShownConstant.globalRow).map GlobalRow.name =
      sortedStrings catalog.constants.table.names := by
    rw [List.map_map, ← names_shownConstants]
    rfl
  exact
    { ordered := by
        rw [names]
        have distinct : (sortedStrings catalog.constants.table.names).Nodup :=
          (perm_sortedStrings _).nodup_iff.2 catalog.constants.table.names_nodup
        exact ((pairwise_sortedStrings _).and distinct).imp fun both =>
          lt_of_le_of_ne both.1 both.2
      count := by
        rw [List.length_map, length_shownConstants]
      complete := by
        intro name
        rw [names, (perm_sortedStrings _).mem_iff, OrderedTable.mem_names_iff,
          Option.isSome_iff_exists]
        rfl
      resolved := by
        intro row member
        obtain ⟨shownRow, inRows, rfl⟩ := List.mem_map.1 member
        obtain ⟨name, -, made⟩ := List.mem_filterMap.1 inRows
        obtain ⟨constant, held, rfl⟩ := Option.map_eq_some_iff.1 made
        refine ⟨(catalog.resolveConstant constant).1, ?_, rfl, rfl⟩
        change (catalog.resolve name).1 = _
        rw [catalog.resolve_fst, held]
        rfl }

/-- A dump of framed rows has them as its table. -/
private theorem isTableOf_outputText {report : Report}
    (described : DescribesByDump (shownConstants catalog) report)
    (framed : ∀ row ∈ shownConstants catalog, row.IsFramed) :
    IsTableOf report.outputText ((shownConstants catalog).map ShownConstant.globalRow) := by
  have written : report.outputText.toList =
      ((shownConstants catalog).map ShownConstant.globalRow).flatMap
        fun row => row.line ++ ['\n'] := by
    have feed : "\n".toList = ['\n'] := rfl
    change (joinLines report.outputLines).toList = _
    rw [described.output, joinLines, String.toList_join, List.flatMap_map, List.flatMap_map,
      List.flatMap_map]
    simp only [String.toList_append, ShownConstant.toList_dumpLine, feed]
  apply isTableOf_of_framed written
  intro row member
  obtain ⟨shownRow, inRows, rfl⟩ := List.mem_map.1 member
  exact (framed shownRow inRows).globalRow

end Rows

/-! ## Dumps -/

/-- Where a catalog is installed without a limit on names, its dump describes it, and the
rows that it shows are framed. -/
private theorem dumped_of_install {files : FileView} {constantsPath typesPath : Option SourcePath}
    {context : Context} {catalog : Catalog} (unlimited : context.settings.nameLimit = none)
    (installed : (context.install files constantsPath typesPath).outcome = .ok catalog) :
    DescribesByDump (shownConstants catalog)
        (dumpReport (context.install files constantsPath typesPath).context) ∧
      ∀ row ∈ shownConstants catalog, row.IsFramed := by
  have isLoad : catalog.IsLoadOf files
      (context.settings.withPaths constantsPath typesPath) := Catalog.isLoadOf installed
  have holds : (context.install files constantsPath typesPath).context.catalog =
      some catalog := by
    change Except.toOption (context.install files constantsPath typesPath).outcome = some catalog
    rw [installed]
    rfl
  exact ⟨describesByDump holds (isLoad.nameLimit.trans unlimited), isFramed_of_isLoadOf isLoad⟩

theorem run_of_arguments {files : FileView} {environment : Environment} {arguments : List String}
    {invocation : Invocation} {settings chosen : Settings}
    (parsed : readArguments arguments = .ok invocation)
    (read : Settings.ofEnvironment environment = .ok settings)
    (applied : invocation.options.applyTo settings = .ok chosen) :
    run files environment arguments = runInvocation files chosen invocation := by
  rw [run, parsed]
  dsimp only
  rw [read]
  dsimp only
  rw [applied]

/-- Where a catalog is installed, the output of a dump is a table of what its constants
resolve to, which can be divided into its rows again. So it is for a context whose names
have no limit, and for every command line that asks for a dump. -/
theorem dump_is_table_of_resolved_constants :
    (∀ (files : FileView) (constantsPath typesPath : Option SourcePath) (context : Context)
        (catalog : Catalog),
      context.settings.nameLimit = none →
      (context.install files constantsPath typesPath).outcome = .ok catalog →
      ∃ rows,
        ShowsGlobalsOf catalog rows ∧
          IsTableOf (dumpReport (context.install files constantsPath typesPath).context).outputText
            rows) ∧
    (∀ (files : FileView) (environment : Environment) (arguments : List String)
        (options : GlobalOptions) (settings chosen : Settings) (catalog : Catalog),
      readArguments arguments = .ok ⟨options, .dump⟩ →
      Settings.ofEnvironment environment = .ok settings →
      options.applyTo settings = .ok chosen →
      (Context.install files options.constantsPath options.typesPath
        (.ofSettings chosen)).outcome = .ok catalog →
      ∃ report rows,
        run files environment arguments = .reported options.threshold report ∧
          report.status = 0 ∧
          ShowsGlobalsOf catalog rows ∧
          IsTableOf report.outputText rows) := by
  constructor
  · intro files constantsPath typesPath context catalog unlimited installed
    obtain ⟨described, framed⟩ := dumped_of_install unlimited installed
    exact ⟨_, showsGlobalsOf catalog, isTableOf_outputText catalog described framed⟩
  · intro files environment arguments options settings chosen catalog parsed read applied installed
    have unlimited : (Context.ofSettings chosen).settings.nameLimit = none :=
      (GlobalOptions.nameLimit_applyTo applied).trans (Settings.nameLimit_ofEnvironment read)
    obtain ⟨described, framed⟩ := dumped_of_install unlimited installed
    have ofCommand : Describes (shownConstants catalog) catalog.types.size .dump _ := described
    have reported : DescribesByDump (shownConstants catalog) _ :=
      ofCommand.after_events (Context.install files options.constantsPath options.typesPath
        (.ofSettings chosen)).events
    refine ⟨_, _, ?_, reported.status, showsGlobalsOf catalog,
      isTableOf_outputText catalog reported framed⟩
    rw [run_of_arguments parsed read applied, runInvocation]
    dsimp only
    rw [installed]
    rfl

/-- A text with a line feed and a tab of its own is dumped in one line. -/
theorem text_with_line_feed_dumped_in_one_line :
    let files : FileView :=
      { opened := fun path =>
          if path.text = "constants" then
            .ok "const string B = \"x\\n\\ty\"\nconst integer A = 1\n".toUTF8
          else .ok "declare B: uuid\n".toUTF8 }
    ∃ catalog report rows,
      (catalog.resolve "B").1 = some (.uuid "x\n\ty") ∧
        run files {} ["--builtins", "constants", "--defs", "types", "dump"] =
          .reported .warning report ∧
        rows.length = 2 ∧
        ⟨"B", "uuid", "'x\\n\\ty'"⟩ ∈ rows ∧
        ShowsGlobalsOf catalog rows ∧
        IsTableOf report.outputText rows := by
  intro files
  have installed : ∃ catalog,
      (Context.install files (some (.ofText "constants")) (some (.ofText "types"))
          (.ofSettings .standard)).outcome = .ok catalog ∧
        (catalog.resolve "B").1 = some (.uuid "x\n\ty") ∧
        catalog.constants.size = 2 := ⟨_, rfl, rfl, rfl⟩
  obtain ⟨catalog, isInstalled, resolved, size⟩ := installed
  obtain ⟨report, rows, ran, -, shows, isTable⟩ :=
    dump_is_table_of_resolved_constants.2 files {}
      ["--builtins", "constants", "--defs", "types", "dump"]
      { constantsPath := some (.ofText "constants"), typesPath := some (.ofText "types") }
      .standard .standard catalog rfl rfl rfl isInstalled
  refine ⟨catalog, report, rows, resolved, ran, shows.count.trans size, ?_, shows, isTable⟩
  have present : (catalog.constants.get? "B").isSome = true := by
    rw [catalog.resolve_fst] at resolved
    obtain ⟨constant, held, -⟩ := Option.map_eq_some_iff.1 resolved
    rw [held]
    rfl
  obtain ⟨⟨name, kind, value⟩, member, isName⟩ :=
    List.mem_map.1 ((shows.complete "B").2 present)
  obtain rfl : name = "B" := isName
  obtain ⟨shown, isShown, rfl, rfl⟩ := shows.resolved _ member
  obtain rfl : shown = .uuid "x\n\ty" := by
    rw [resolved] at isShown
    exact (Option.some.inj isShown).symm
  exact member

end ConstantCatalog.CommandLine
