import ConstantCatalog.CommandLine.Arguments
import ConstantCatalog.CommandLine.Display
import ConstantCatalog.Context

/-!
Contract: what the commands say about a context.

Owns: `Report` with its two texts, and the reports of the three commands.

Does not own: how the context came to be.
-/

namespace ConstantCatalog.CommandLine

/-- A piece of a report: a line for either stream, or an event, which the error stream
shows if it is grave enough. -/
inductive ReportItem where
  | output (line : String)
  | problem (line : String)
  | event (occurred : Event)
deriving DecidableEq, Repr

/-- What a command says, in order, and its exit status. -/
structure Report where
  items : List ReportItem
  status : Nat
deriving DecidableEq, Repr

def ReportItem.outputLine? : ReportItem → Option String
  | .output line => some line
  | _ => none

/-- The line that an item puts on the error stream, where events from a threshold on
are shown. -/
def ReportItem.errorLine? (threshold : Severity) : ReportItem → Option String
  | .output _ => none
  | .problem line => some line
  | .event occurred =>
      if occurred.severity.atLeast threshold then some occurred.line else none

def joinLines (lines : List String) : String :=
  String.join (lines.map (· ++ "\n"))

def Report.outputText (report : Report) : String :=
  joinLines (report.items.filterMap ReportItem.outputLine?)

def Report.errorText (threshold : Severity) (report : Report) : String :=
  joinLines (report.items.filterMap (ReportItem.errorLine? threshold))

def ReportItem.event? : ReportItem → Option Event
  | .event occurred => some occurred
  | _ => none

/-- The events of a report in order, however grave. -/
def Report.events (report : Report) : List Event :=
  report.items.filterMap ReportItem.event?

/-- The line that shows a constant: its own kind and value, its declared type, and what
it is published as. -/
def lookupLine (name : String) (constant : Constant) (declared : Option DeclaredType)
    (published : GlobalValue) : String :=
  name ++ ": " ++ constant.kind.name ++ " " ++ constantText constant.value ++
    " (declared " ++ (declared.map DeclaredType.name).getD "-" ++
    ", published as " ++ published.kind.name ++ " " ++ globalText published ++ ")"

/-- What the lookup of one name says, and whether there is such a constant. -/
def lookupName (context : Context) (name : String) : List ReportItem × Bool :=
  let (published?, events) := context.resolve name
  match context.lookupConstant name, published? with
  | some constant, some published =>
      (events.map .event ++
        [.output (lookupLine name constant (context.lookupType name) published)], true)
  | _, _ => (events.map .event ++ [.problem (name ++ ": not found")], false)

/-- Shows each named constant. The status tells whether one of them was missing. -/
def lookupReport (context : Context) (names : List String) : Report :=
  let answers := names.map (lookupName context)
  { items := answers.flatMap (·.1)
    status := if answers.all (·.2) then 0 else 1 }

def sortedStrings (texts : List String) : List String :=
  texts.mergeSort fun left right => !decide (right < left)

/-- The line that shows a global: name, kind and value between tabs. -/
def dumpLine (name : String) (value : GlobalValue) : String :=
  name ++ "\t" ++ value.kind.name ++ "\t" ++ globalText value

/-- Publishes every constant into an empty machine and shows its globals by name. -/
def dumpReport (context : Context) : Report :=
  let publication := context.publish .empty
  let shown := (sortedStrings publication.table.globals.names).filterMap fun name =>
    (publication.table.get? name).map fun value => ReportItem.output (dumpLine name value)
  { items := publication.events.toList.map .event ++ shown
    status := 0 }

def countOfKind (catalog : Catalog) (kind : ConstantKind) : Nat :=
  catalog.constants.table.entries.countP fun (_, constant) => constant.kind == kind

def presentKinds (catalog : Catalog) : List ConstantKind :=
  (ConstantKind.all.filter fun kind => decide (0 < countOfKind catalog kind)).mergeSort
    fun left right => !decide (right.name < left.name)

/-- Counts the constants, those of each kind, and the type declarations. -/
def statsReport (context : Context) : Report :=
  match context.catalog with
  | none =>
      { items := [.problem "Error: builtins are not initialized"]
        status := 1 }
  | some catalog =>
      let kindLines := (presentKinds catalog).map fun kind =>
        ReportItem.output ("  " ++ kind.name ++ s!": {countOfKind catalog kind}")
      { items :=
          [.output s!"constants: {catalog.constants.size}"] ++ kindLines ++
            [.output s!"type declarations: {catalog.types.size}"]
        status := 0 }

def commandReport (context : Context) : Command → Report
  | .lookup names => lookupReport context names
  | .dump => dumpReport context
  | .stats => statsReport context

end ConstantCatalog.CommandLine
