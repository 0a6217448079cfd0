import ConstantCatalog.CommandLine.Program
import ConstantCatalog.Proofs.CommandLine.Framing
import ConstantCatalog.Proofs.Context.Sources
import ConstantCatalog.Proofs.Diagnostics.Events
import ConstantCatalog.Proofs.Text.Pieces
import Mathlib.Algebra.BigOperators.Group.List.Lemmas
import Mathlib.Algebra.GroupWithZero.Nat

/-!
Contract: reports of one catalog, compared with each other.

Publication into an empty machine binds every constant, since the settings of the command
line do not limit names, and resolving a name gives what the machine has under it. So the
commands describe the same constants: each has a line in the dump, is found by its name
with the values of that line, and is counted under the kind that it is found with.

Owns: `ShownConstant`, what each command says of shown constants, and that the commands of
one command line describe the same ones.

Does not own: the order of the dump, or which settings a command line leads to.
-/

namespace ConstantCatalog.CommandLine

/-! ## Lines -/

/-- What the commands show of a constant. -/
structure ShownConstant where
  name : String
  kind : String
  value : String
  declared : String
  publishedKind : String
  publishedValue : String

namespace ShownConstant

def lookupLine (shown : ShownConstant) : String :=
  shown.name ++ ": " ++ shown.kind ++ " " ++ shown.value ++
    " (declared " ++ shown.declared ++
    ", published as " ++ shown.publishedKind ++ " " ++ shown.publishedValue ++ ")"

def dumpLine (shown : ShownConstant) : String :=
  shown.name ++ "\t" ++ shown.publishedKind ++ "\t" ++ shown.publishedValue

/-- Whether no part of what is shown has fields or lines of its own, and the name and the
kind are words. -/
structure IsFramed (shown : ShownConstant) : Prop where
  name : IsField shown.name.toList
  solidName : ' ' ∉ shown.name.toList
  kind : IsField shown.kind.toList
  solidKind : ' ' ∉ shown.kind.toList
  value : IsField shown.value.toList
  declared : IsField shown.declared.toList
  publishedKind : IsField shown.publishedKind.toList
  publishedValue : IsField shown.publishedValue.toList

namespace IsFramed

variable {shown : ShownConstant}

/-- A line of a dump is one line, and its fields are the name, the kind and the value. -/
theorem fields_dumpLine (framed : shown.IsFramed) :
    pieces (fun character => !isFieldChar character) shown.dumpLine.toList =
      [shown.name.toList, shown.publishedKind.toList, shown.publishedValue.toList] := by
  have joined : shown.dumpLine.toList =
      ['\t'].intercalate
        [shown.name.toList, shown.publishedKind.toList, shown.publishedValue.toList] := by
    have tab : "\t".toList = ['\t'] := rfl
    simp only [dumpLine, String.toList_append, tab, List.intercalate_cons_cons,
      List.intercalate_singleton, List.append_assoc]
  have plain : ∀ group ∈
      [shown.name.toList, shown.publishedKind.toList, shown.publishedValue.toList],
      ∀ character ∈ group, (!isFieldChar character) = false := by
    intro group member character inGroup
    have isField : IsField group := by
      simp only [List.mem_cons, List.not_mem_nil, or_false] at member
      rcases member with rfl | rfl | rfl
      · exact framed.name
      · exact framed.publishedKind
      · exact framed.publishedValue
    rw [isField character inGroup]
    rfl
  rw [joined]
  exact pieces_intercalate (by decide) (by simp) plain

/-- A line of a lookup is one line. -/
theorem isField_lookupLine (framed : shown.IsFramed) : IsField shown.lookupLine.toList := by
  have colon : IsField ": ".toList := by decide
  have blank : IsField " ".toList := by decide
  have declared : IsField " (declared ".toList := by decide
  have published : IsField ", published as ".toList := by decide
  have closing : IsField ")".toList := by decide
  simp only [lookupLine, String.toList_append]
  have start := ((framed.name.append colon).append framed.kind).append blank
  have typed := ((start.append framed.value).append declared).append framed.declared
  have global := ((typed.append published).append framed.publishedKind).append blank
  exact (global.append framed.publishedValue).append closing

/-- A line of a lookup begins with the name and the kind. -/
theorem exists_words_lookupLine (framed : shown.IsFramed) :
    ∃ others,
      pieces (· == ' ') shown.lookupLine.toList =
        (shown.name.toList ++ [':']) :: shown.kind.toList :: others := by
  have nameWord : ∀ character ∈ shown.name.toList ++ [':'], (character == ' ') = false := by
    intro character member
    apply beq_eq_false_iff_ne.2
    rintro rfl
    rcases List.mem_append.1 member with inName | isColon
    · exact framed.solidName inName
    · exact absurd (List.mem_singleton.1 isColon) (by decide)
  have kindWord : ∀ character ∈ shown.kind.toList, (character == ' ') = false := by
    intro character member
    apply beq_eq_false_iff_ne.2
    rintro rfl
    exact framed.solidKind member
  have parts : ∃ rest, shown.lookupLine.toList =
      (shown.name.toList ++ [':']) ++ ' ' :: (shown.kind.toList ++ ' ' :: rest) := by
    have colon : ": ".toList = [':', ' '] := rfl
    have blank : " ".toList = [' '] := rfl
    simp only [lookupLine, String.toList_append, colon, blank, List.append_assoc,
      List.cons_append, List.nil_append]
    exact ⟨_, rfl⟩
  have divided : ∀ before after : List Char,
      pieces (· == ' ') (before ++ ' ' :: after) =
        pieces (· == ' ') before ++ pieces (· == ' ') after :=
    fun before after => pieces_append_cons (by decide) before after
  obtain ⟨rest, built⟩ := parts
  refine ⟨pieces (· == ' ') rest, ?_⟩
  rw [built, divided, divided, pieces_eq_singleton nameWord, pieces_eq_singleton kindWord]
  rfl

end IsFramed

end ShownConstant

def ReportItem.problemLine? : ReportItem → Option String
  | .problem line => some line
  | _ => none

namespace Report

/-- The lines of the output, in order. -/
def outputLines (report : Report) : List String :=
  report.items.filterMap ReportItem.outputLine?

/-- The lines on what went wrong, in order. -/
def problemLines (report : Report) : List String :=
  report.items.filterMap ReportItem.problemLine?

end Report

/-! ## Descriptions -/

/-- A dump shows each constant in a line. -/
structure DescribesByDump (rows : List ShownConstant) (report : Report) : Prop where
  output : report.outputLines = rows.map ShownConstant.dumpLine
  problems : report.problemLines = []
  status : report.status = 0

/-- A lookup shows the constants of the given names, in the order in which they are given,
and names those that are missing. -/
structure DescribesByLookup (rows : List ShownConstant) (names : List String)
    (report : Report) : Prop where
  output :
    report.outputLines =
      names.filterMap fun name =>
        (rows.find? (·.name == name)).map ShownConstant.lookupLine
  problems :
    report.problemLines =
      (names.filter fun name => (rows.find? (·.name == name)).isNone).map (· ++ ": not found")
  status :
    report.status = if names.all fun name => (rows.find? (·.name == name)).isSome then 0 else 1

/-- Statistics count the constants, and those of each kind that there is. -/
structure DescribesByStats (rows : List ShownConstant) (typeCount : Nat)
    (report : Report) : Prop where
  output :
    ∃ kinds : List String,
      kinds.Nodup ∧
        (∀ kind, kind ∈ kinds ↔ 0 < rows.countP (·.kind == kind)) ∧
        (kinds.map fun kind => rows.countP (·.kind == kind)).sum = rows.length ∧
        report.outputLines =
          [s!"constants: {rows.length}"] ++
            (kinds.map fun kind => "  " ++ kind ++ s!": {rows.countP (·.kind == kind)}") ++
            [s!"type declarations: {typeCount}"]
  problems : report.problemLines = []
  status : report.status = 0

/-- Whether the report of a command describes given constants and so many types. -/
def Describes (rows : List ShownConstant) (typeCount : Nat) : Command → Report → Prop
  | .lookup names, report => DescribesByLookup rows names report
  | .dump, report => DescribesByDump rows report
  | .stats, report => DescribesByStats rows typeCount report

/-! ## Rows -/

/-- What is shown of a constant of a catalog. -/
def shown (catalog : Catalog) (name : String) (constant : Constant) : ShownConstant where
  name := name
  kind := constant.kind.name
  value := constantText constant.value
  declared := ((catalog.types.get? name).map DeclaredType.name).getD "-"
  publishedKind := (catalog.resolveConstant constant).1.kind.name
  publishedValue := globalText (catalog.resolveConstant constant).1

/-- What is shown of all constants of a catalog, by name. -/
def shownConstants (catalog : Catalog) : List ShownConstant :=
  (sortedStrings catalog.constants.table.names).filterMap fun name =>
    (catalog.constants.get? name).map (shown catalog name)

theorem perm_sortedStrings (texts : List String) : (sortedStrings texts).Perm texts :=
  List.mergeSort_perm _ _

section Rows

variable (catalog : Catalog)

theorem perm_shownConstants :
    (shownConstants catalog).Perm
      (catalog.constants.table.entries.map fun entry => shown catalog entry.1 entry.2) := by
  refine ((perm_sortedStrings _).filterMap _).trans (List.Perm.of_eq ?_)
  rw [OrderedTable.names, List.filterMap_map]
  apply List.filterMap_eq_map_iff_forall_eq_some.2
  intro entry member
  have held : catalog.constants.get? entry.1 = some entry.2 :=
    lookupEntry_of_mem catalog.constants.table.names_nodup member
  rw [Function.comp_apply, held]
  rfl

theorem nodup_shownConstants :
    ((shownConstants catalog).map ShownConstant.name).Nodup := by
  have names := (perm_shownConstants catalog).map ShownConstant.name
  rw [List.map_map] at names
  exact names.nodup_iff.2 catalog.constants.table.names_nodup

theorem length_shownConstants :
    (shownConstants catalog).length = catalog.constants.size := by
  rw [(perm_shownConstants catalog).length_eq, List.length_map]
  rfl

/-- Of rows that are made from keys, the first with a name is made from it. -/
private theorem find?_filterMap {row? : String → Option ShownConstant}
    (named : ∀ key row, row? key = some row → row.name = key) {keys : List String} {name : String}
    (complete : name ∉ keys → row? name = none) :
    (keys.filterMap row?).find? (·.name == name) = row? name := by
  induction keys with
  | nil => exact (complete (by simp)).symm
  | cons key rest inductionHypothesis =>
      cases made : row? key with
      | none =>
          rw [List.filterMap_cons_none made]
          apply inductionHypothesis
          intro absent
          by_cases same : name = key
          · rw [same, made]
          · exact complete (by simp [same, absent])
      | some row =>
          rw [List.filterMap_cons_some made, List.find?_cons, named key row made]
          by_cases same : key = name
          · rw [same, beq_self_eq_true, ← same, made]
          · rw [beq_eq_false_iff_ne.2 same]
            apply inductionHypothesis
            intro absent
            exact complete (by simp [Ne.symm same, absent])

/-- A constant is shown under its name, and no other is. -/
theorem find?_shownConstants (name : String) :
    (shownConstants catalog).find? (·.name == name) =
      (catalog.constants.get? name).map (shown catalog name) := by
  apply find?_filterMap
  · intro key row made
    obtain ⟨constant, -, rfl⟩ := Option.map_eq_some_iff.1 made
    rfl
  · intro absent
    have missing : catalog.constants.get? name = none := by
      apply lookupEntry_eq_none
      intro present
      exact absent ((perm_sortedStrings _).mem_iff.2 present)
    rw [missing]
    rfl

end Rows

/-! ## Reports -/

/-- Events have no part in the lines of a report. -/
theorem filterMap_event {line? : ReportItem → Option String}
    (silent : ∀ event, line? (.event event) = none) (events : List Event) :
    (events.map ReportItem.event).filterMap line? = [] := by
  rw [List.filterMap_map, List.filterMap_eq_nil_iff]
  intro event member
  exact silent event

/-- A report of events and of lines for the output has those lines, and no problems. -/
private theorem Report.lines_of_items {report : Report} {events : List Event} {lines : List String}
    (items : report.items = events.map .event ++ lines.map .output) :
    report.outputLines = lines ∧ report.problemLines = [] := by
  constructor
  · rw [outputLines, items, List.filterMap_append, filterMap_event fun _ => rfl,
      List.nil_append, List.filterMap_map]
    exact List.filterMap_some
  · rw [problemLines, items, List.filterMap_append, filterMap_event fun _ => rfl,
      List.nil_append, List.filterMap_map, List.filterMap_eq_nil_iff]
    exact fun line member => rfl

/-- All events of such a report are among the given ones. -/
private theorem Report.mem_of_items {report : Report} {events : List Event} {lines : List String}
    (items : report.items = events.map .event ++ lines.map .output) {event : Event}
    (member : .event event ∈ report.items) :
    event ∈ events := by
  rw [items] at member
  rcases List.mem_append.1 member with isEvent | isOutput
  · obtain ⟨occurred, inEvents, same⟩ := List.mem_map.1 isEvent
    rw [← ReportItem.event.inj same]
    exact inEvents
  · obtain ⟨line, -, same⟩ := List.mem_map.1 isOutput
    contradiction

section Reports

variable {context : Context} {catalog : Catalog}

/-- What is said of a name that is looked up, apart from events. -/
def answerItem (rows : List ShownConstant) (name : String) : ReportItem :=
  match rows.find? (·.name == name) with
  | some row => .output row.lookupLine
  | none => .problem (name ++ ": not found")

private theorem lookupName_eq (holds : context.catalog = some catalog) (name : String) :
    lookupName context name =
      ((catalog.resolve name).2.map ReportItem.event ++
          [answerItem (shownConstants catalog) name],
        ((shownConstants catalog).find? (·.name == name)).isSome) := by
  have isConstant : context.lookupConstant name = catalog.constants.get? name := by
    rw [Context.lookupConstant, holds]
    rfl
  have isType : context.lookupType name = catalog.types.get? name := by
    rw [Context.lookupType, holds]
    rfl
  have isResolve : context.resolve name = catalog.resolve name := by
    rw [Context.resolve, holds]
  rw [answerItem, find?_shownConstants, lookupName, isResolve, isConstant, isType]
  cases found : catalog.constants.get? name with
  | none =>
      have resolved : catalog.resolve name = (none, []) := by rw [Catalog.resolve, found]
      rw [resolved]
      rfl
  | some constant =>
      have resolved : catalog.resolve name =
          (some (catalog.resolveConstant constant).1, (catalog.resolveConstant constant).2) := by
        rw [Catalog.resolve, found]
      rw [resolved]
      rfl

/-- The lines of a lookup are those of its answers. -/
private theorem filterMap_lookupReport (holds : context.catalog = some catalog)
    (names : List String) {line? : ReportItem → Option String}
    (silent : ∀ event, line? (.event event) = none) :
    (lookupReport context names).items.filterMap line? =
      names.filterMap fun name => line? (answerItem (shownConstants catalog) name) := by
  have single : ∀ item, [item].filterMap line? = (line? item).toList := by
    intro item
    rw [List.filterMap_cons]
    cases line? item <;> rfl
  rw [lookupReport, List.flatMap_map, List.filterMap_flatMap, List.filterMap_eq_flatMap_toList]
  apply List.flatMap_congr
  intro name member
  rw [lookupName_eq holds, List.filterMap_append, filterMap_event silent, List.nil_append,
    single]

private theorem describesByLookup (holds : context.catalog = some catalog) (names : List String) :
    DescribesByLookup (shownConstants catalog) names (lookupReport context names) where
  output := by
    rw [Report.outputLines, filterMap_lookupReport holds names fun _ => rfl]
    apply List.filterMap_congr
    intro name member
    rw [answerItem]
    cases (shownConstants catalog).find? (·.name == name) with
    | none => rfl
    | some row => rfl
  problems := by
    rw [Report.problemLines, filterMap_lookupReport holds names fun _ => rfl]
    induction names with
    | nil => rfl
    | cons name rest inductionHypothesis =>
        rw [List.filterMap_cons, inductionHypothesis, List.filter_cons, answerItem]
        cases (shownConstants catalog).find? (·.name == name) with
        | none => rfl
        | some row => rfl
  status := by
    rw [lookupReport]
    simp only [List.all_map, Function.comp_def, lookupName_eq holds]

/-- What the machine has after publication is what is shown. -/
private theorem items_dumpReport (holds : context.catalog = some catalog)
    (unlimited : catalog.nameLimit = none) :
    (dumpReport context).items =
      (catalog.publish .empty).events.toList.map ReportItem.event ++
        ((shownConstants catalog).map ShownConstant.dumpLine).map .output := by
  have fits : ∀ name, catalog.fits name = true := by
    intro name
    rw [Catalog.fits, unlimited]
  have published : catalog.publishedNames = catalog.constants.table.names := by
    rw [Catalog.publishedNames, List.filter_eq_self]
    exact fun name member => fits name
  have names : (catalog.publish .empty).table.globals.names =
      catalog.constants.table.names := by
    rw [catalog.names_publish, published]
    exact List.filter_eq_self.2 fun name member => rfl
  have bound : ∀ name ∈ catalog.constants.table.names,
      (catalog.publish .empty).table.get? name = (catalog.resolve name).1 := by
    intro name member
    rw [catalog.get?_publish, published, if_pos member]
  have isPublication : context.publish .empty = catalog.publish .empty := by
    rw [Context.publish, holds]
  rw [dumpReport, isPublication]
  dsimp only
  rw [names, shownConstants, List.map_filterMap, List.map_filterMap]
  congr 1
  apply List.filterMap_congr
  intro name member
  have present := (perm_sortedStrings _).mem_iff.1 member
  rw [bound name present, catalog.resolve_fst, Option.map_map, Option.map_map, Option.map_map]
  rfl

theorem describesByDump (holds : context.catalog = some catalog)
    (unlimited : catalog.nameLimit = none) :
    DescribesByDump (shownConstants catalog) (dumpReport context) := by
  obtain ⟨output, problems⟩ := Report.lines_of_items (items_dumpReport holds unlimited)
  exact ⟨output, problems, rfl⟩

/-- Kinds that differ, and that all rows are of, count each row once. -/
private theorem sum_countP {kinds : List String} {rows : List ShownConstant}
    (distinct : kinds.Nodup) (present : ∀ kind, kind ∈ kinds ↔ 0 < rows.countP (·.kind == kind)) :
    (kinds.map fun kind => rows.countP (·.kind == kind)).sum = rows.length := by
  have asCount : ∀ kind, rows.countP (·.kind == kind) =
      (rows.map ShownConstant.kind).count kind := by
    intro kind
    rw [List.count, List.countP_map]
    rfl
  have once : kinds.Perm (rows.map ShownConstant.kind).dedup := by
    apply (List.perm_ext_iff_of_nodup distinct (List.nodup_dedup _)).2
    intro kind
    rw [present, List.mem_dedup, asCount, List.count_pos_iff]
  calc
    (kinds.map fun kind => rows.countP (·.kind == kind)).sum
      = (kinds.map fun kind => (rows.map ShownConstant.kind).count kind).sum := by
        simp only [asCount]
    _ = ((rows.map ShownConstant.kind).dedup.map fun kind =>
          (rows.map ShownConstant.kind).count kind).sum := (once.map _).sum_eq
    _ = (rows.map ShownConstant.kind).length := List.sum_map_count_dedup_eq_length _
    _ = rows.length := List.length_map _

private theorem kindName_inj {first second : ConstantKind} (same : first.name = second.name) :
    first = second := by
  cases first <;> cases second <;> first | rfl | exact absurd same (by decide)

/-- The rows that show a kind are those of the constants of the kind. -/
private theorem countP_shownConstants (catalog : Catalog) (kind : ConstantKind) :
    (shownConstants catalog).countP (·.kind == kind.name) = countOfKind catalog kind := by
  rw [(perm_shownConstants catalog).countP_eq, List.countP_map, countOfKind]
  apply List.countP_congr
  intro entry member
  change (entry.2.kind.name == kind.name) = true ↔ (entry.2.kind == kind) = true
  rw [beq_iff_eq, beq_iff_eq]
  exact ⟨kindName_inj, congrArg ConstantKind.name⟩

private theorem mem_presentKinds (catalog : Catalog) (kind : ConstantKind) :
    kind ∈ presentKinds catalog ↔ 0 < countOfKind catalog kind := by
  have isKind : kind ∈ ConstantKind.all := by cases kind <;> decide
  rw [presentKinds, (List.mergeSort_perm _ _).mem_iff, List.mem_filter, decide_eq_true_iff]
  exact and_iff_right isKind

private theorem nodup_presentKinds (catalog : Catalog) : (presentKinds catalog).Nodup := by
  have distinct : ConstantKind.all.Nodup := by decide
  exact (List.mergeSort_perm _ _).nodup_iff.2 (distinct.filter _)

private theorem items_statsReport (holds : context.catalog = some catalog) :
    (statsReport context).items =
      [].map ReportItem.event ++
        ([s!"constants: {(shownConstants catalog).length}"] ++
          (((presentKinds catalog).map ConstantKind.name).map fun kind =>
            "  " ++ kind ++ s!": {(shownConstants catalog).countP (·.kind == kind)}") ++
          [s!"type declarations: {catalog.types.size}"]).map .output := by
  rw [statsReport, holds, length_shownConstants, List.map_map]
  simp only [List.map_append, List.map_map, Function.comp_def, countP_shownConstants]
  rfl

private theorem describesByStats (holds : context.catalog = some catalog) :
    DescribesByStats (shownConstants catalog) catalog.types.size (statsReport context) := by
  have distinct : ((presentKinds catalog).map ConstantKind.name).Nodup :=
    (nodup_presentKinds catalog).map fun _ _ => kindName_inj
  have present : ∀ kind, kind ∈ (presentKinds catalog).map ConstantKind.name ↔
      0 < (shownConstants catalog).countP (·.kind == kind) := by
    intro kind
    constructor
    · intro member
      obtain ⟨ofName, isPresent, rfl⟩ := List.mem_map.1 member
      rw [countP_shownConstants]
      exact (mem_presentKinds catalog ofName).1 isPresent
    · intro counted
      obtain ⟨row, member, isKind⟩ := List.countP_pos_iff.1 counted
      obtain ⟨entry, -, rfl⟩ := List.mem_map.1 ((perm_shownConstants catalog).mem_iff.1 member)
      obtain rfl : entry.2.kind.name = kind := beq_iff_eq.1 isKind
      rw [countP_shownConstants] at counted
      exact List.mem_map_of_mem ((mem_presentKinds catalog entry.2.kind).2 counted)
  obtain ⟨output, problems⟩ := Report.lines_of_items (items_statsReport holds)
  exact
    { output := ⟨_, distinct, present, sum_countP distinct present, output⟩
      problems := problems
      status := by rw [statsReport, holds] }

/-- Whatever the command, its report describes the constants of the catalog. -/
theorem describes_commandReport (holds : context.catalog = some catalog)
    (unlimited : catalog.nameLimit = none) (command : Command) :
    Describes (shownConstants catalog) catalog.types.size command
      (commandReport context command) := by
  cases command with
  | lookup names => exact describesByLookup holds names
  | dump => exact describesByDump holds unlimited
  | stats => exact describesByStats holds

/-- A report of a command has no events but details. -/
theorem isDetail_commandReport (holds : context.catalog = some catalog)
    (unlimited : catalog.nameLimit = none) (command : Command) :
    ∀ event, .event event ∈ (commandReport context command).items → event.IsDetail := by
  intro event member
  cases command with
  | lookup names =>
      obtain ⟨answer, isAnswer, inAnswer⟩ := List.mem_flatMap.1 member
      obtain ⟨name, -, rfl⟩ := List.mem_map.1 isAnswer
      rw [lookupName_eq holds] at inAnswer
      rcases List.mem_append.1 inAnswer with isEvent | isAnswerItem
      · obtain ⟨resolved, inEvents, same⟩ := List.mem_map.1 isEvent
        rw [← ReportItem.event.inj same]
        exact catalog.isDetail_resolve name resolved inEvents
      · have same := List.mem_singleton.1 isAnswerItem
        unfold answerItem at same
        split at same <;> contradiction
  | dump =>
      have published := Report.mem_of_items (items_dumpReport holds unlimited) member
      exact catalog.isDetail_publish unlimited .empty event published
  | stats =>
      have noEvent := Report.mem_of_items (items_statsReport holds) member
      contradiction

end Reports

end ConstantCatalog.CommandLine
