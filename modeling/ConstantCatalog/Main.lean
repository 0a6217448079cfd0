import ConstantCatalog.CommandLine.Program

/-!
Contract: the command line as a process: its arguments, its environment variables, the
files that its run opens, and the two streams.

Owns: all input and output of the program.

Does not own: anything that a run decides.
-/

namespace ConstantCatalog.CommandLine

/-- Whether a code that the system reports is the given one, under either sign. -/
def isErrorCode (reported expected : UInt32) : Bool :=
  reported == expected || reported + expected == 0

/-- What the system reports about a file that cannot be opened. -/
def faultOfError : IO.Error → FileFault
  | .noFileOrDirectory _ _ _ => .missing
  | .permissionDenied _ _ _ => .permissionDenied
  | .inappropriateType _ code _ =>
      if isErrorCode code 21 then .isDirectory else .notDirectory
  | .invalidArgument _ code details =>
      if isErrorCode code 36 then .nameTooLong else .other details
  | error => .other (toString error)

def openFile (path : SourcePath) : IO (Except FileFault ByteArray) := do
  try
    let content ← IO.FS.readBinFile path.text
    pure (.ok content)
  catch error => pure (.error (faultOfError error))

/-- Opens files one after the other, up to the first that cannot be opened. -/
def openFiles : List SourcePath → IO (List (SourcePath × Except FileFault ByteArray))
  | [] => pure []
  | path :: others => do
      let answer ← openFile path
      match answer with
      | .error _ => pure [(path, answer)]
      | .ok _ =>
          let rest ← openFiles others
          pure ((path, answer) :: rest)

def viewOfOpened (opened : List (SourcePath × Except FileFault ByteArray)) : FileView where
  opened path := (opened.lookup path).getD (.error .missing)

def processEnvironment : IO Environment := do
  let values ← Environment.variableNames.mapM fun name => do
    let value ← IO.getEnv name
    pure (name, value)
  pure (.ofLookup fun name => (values.lookup name).join)

def usageText : String :=
  "usage: [--builtins FILE] [--defs FILE] [--dialect lsl|slua] [--vector-size 3|4] [-v]\n" ++
  "       lookup NAME... | dump | stats\n"

/-- Runs the command line and shows what came of it. -/
def execute (arguments : List String) : IO UInt32 := do
  let environment ← processEnvironment
  let opened ← openFiles (openedPaths environment arguments)
  match run (viewOfOpened opened) environment arguments with
  | .usage .help =>
      IO.print usageText
      pure 0
  | .usage .misuse =>
      IO.eprint usageText
      pure 2
  | .reported threshold report =>
      IO.eprint (report.errorText threshold)
      IO.print report.outputText
      pure (UInt32.ofNat report.status)
  | .broken threshold events fault =>
      IO.eprint (joinLines (events.filterMap fun occurred =>
        ReportItem.errorLine? threshold (.event occurred)))
      IO.eprintln fault.message
      pure 1

end ConstantCatalog.CommandLine

def main (arguments : List String) : IO UInt32 :=
  ConstantCatalog.CommandLine.execute arguments
