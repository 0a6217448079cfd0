import ConstantCatalog.CommandLine.Inspection
import ConstantCatalog.Settings.Environment

/-!
Contract: the whole run of the command line: arguments, settings, a context, and the
report of one command.

The settings come from the environment first, which must be valid as a whole, and from
the options second, which may leave out a value that they ask for. Where the catalog
cannot be loaded for one of the library's own faults, the fault is reported; other faults
end the run without a report.

Owns: `Conclusion`, `run`, and the files that a run opens.

Does not own: the streams and the process.
-/

namespace ConstantCatalog.CommandLine

variable {α : Type}

/-- How a run ends. -/
inductive Conclusion where
  | usage (exit : UsageExit)
  | reported (threshold : Severity) (report : Report)
  /-- A fault that no report is made of, after the events before it. -/
  | broken (threshold : Severity) (events : List Event) (fault : SetupFault)

/-- The value that is chosen, or a default where the option has not been given. A
dropped value is a fault. -/
def Choice.valueOr (choice : Choice α) (default : α)
    (fault : SettingsFault) : Except SettingsFault α :=
  match choice with
  | .unset => .ok default
  | .dropped => .error fault
  | .chosen value => .ok value

def GlobalOptions.applyTo (options : GlobalOptions)
    (settings : Settings) : Except SettingsFault Settings := do
  let dialect ← options.dialect.valueOr settings.dialect .noDialect
  let vectorWidth ← options.vectorWidth.valueOr settings.vectorWidth .noVectorSize
  pure { settings with dialect := dialect, vectorWidth := vectorWidth }

def GlobalOptions.threshold (options : GlobalOptions) : Severity :=
  if options.verbose then .debug else .warning

def failureReport (events : List Event) (message : String) : Report where
  items := events.map .event ++ [.problem ("Error: " ++ message)]
  status := 1

/-- Runs a command in a context with the given settings. -/
def runInvocation (files : FileView) (settings : Settings) (invocation : Invocation) : Conclusion :=
  let options := invocation.options
  let installed :=
    Context.install files options.constantsPath options.typesPath (.ofSettings settings)
  match installed.outcome with
  | .ok _ =>
      let report := commandReport installed.context invocation.command
      .reported options.threshold
        { report with items := installed.events.map .event ++ report.items }
  | .error fault =>
      if fault.isAnticipated then
        .reported options.threshold (failureReport installed.events fault.message)
      else .broken options.threshold installed.events (.context fault)

def run (files : FileView) (environment : Environment) (arguments : List String) : Conclusion :=
  match readArguments arguments with
  | .error exit => .usage exit
  | .ok invocation =>
      match Settings.ofEnvironment environment with
      | .error fault =>
          .reported invocation.options.threshold (failureReport [] fault.message)
      | .ok settings =>
          match invocation.options.applyTo settings with
          | .error fault =>
              .broken invocation.options.threshold [] (.settings fault)
          | .ok chosen => runInvocation files chosen invocation

/-- The files that a run opens, in this order. A run that has no settings opens none. -/
def openedPaths (environment : Environment) (arguments : List String) : List SourcePath :=
  match readArguments arguments with
  | .error _ => []
  | .ok invocation =>
      let options := invocation.options
      match (Settings.ofEnvironment environment).bind options.applyTo with
      | .error _ => []
      | .ok chosen => (chosen.withPaths options.constantsPath options.typesPath).sourcePaths

end ConstantCatalog.CommandLine
