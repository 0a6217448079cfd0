import ConstantCatalog.Settings.Basic
import ConstantCatalog.Text.Digit

/-!
Contract: the arguments of the command line.

Options come before the command and apply to all of them. A long option may be cut
short as long as only one option begins that way, and its value may follow an equals
sign; short options may be run together, with or without an equals sign after the
first. An argument that begins with a hyphen is an
option, unless it is a lone hyphen, looks like a negative number or contains a space
without naming an option. Two hyphens end the options; as a value after an equals sign
they are dropped, which leaves the option without a value. A request for help is
answered when it is reached, a misuse likewise, so that the first of them decides.

These are the rules of the platform's option reader in releases before 3.11.9 and 3.12.3.
Those and later ones keep two hyphens after an equals sign as the value, which is a misuse
for a dialect or a size.

Owns: the options and commands, the classification of arguments, and `readArguments`.

Does not own: what the commands do, or any text of help or misuse.
-/

namespace ConstantCatalog.CommandLine

inductive Flag where
  | help
  | constantsFile
  | typesFile
  | dialect
  | vectorSize
  | verbose
deriving DecidableEq, Repr

def Flag.takesValue : Flag → Bool
  | .constantsFile | .typesFile | .dialect | .vectorSize => true
  | .help | .verbose => false

abbrev Spellings := List (List Char × Flag)

def globalSpellings : Spellings :=
  [("-h".toList, .help), ("--help".toList, .help),
   ("--builtins".toList, .constantsFile), ("--defs".toList, .typesFile),
   ("--dialect".toList, .dialect), ("--vector-size".toList, .vectorSize),
   ("-v".toList, .verbose), ("--verbose".toList, .verbose)]

def commandSpellings : Spellings :=
  [("-h".toList, .help), ("--help".toList, .help)]

/-- What follows the spelling of an option in the same argument. -/
inductive Attached where
  | nothing
  | value (text : List Char)
  | tail (characters : List Char)
deriving DecidableEq, Repr

/-- An option as an argument gives it; `long` tells whether two hyphens begin it. -/
structure FlagUse where
  flag : Flag
  long : Bool
  attached : Attached
deriving DecidableEq, Repr

/-- What an argument is by its own text. -/
inductive ArgumentClass where
  | plain
  | flag (found : FlagUse)
  | unknownFlag
  | ambiguous
deriving DecidableEq, Repr

/-- The part of an argument before its first equals sign, and the part after it. -/
def splitAtEquals (argument : List Char) : List Char × Option (List Char) :=
  match argument.dropWhile (· != '=') with
  | [] => (argument, none)
  | _ :: value => (argument.takeWhile (· != '='), some value)

def isLong (argument : List Char) : Bool :=
  ['-', '-'].isPrefixOf argument

/-- What an argument may be short for. -/
def candidates (spellings : Spellings) (argument : List Char) : List FlagUse :=
  if isLong argument then
    let (start, value) := splitAtEquals argument
    let attached := (value.map Attached.value).getD .nothing
    (spellings.filter fun (spelling, _) => start.isPrefixOf spelling).map
      fun (_, flag) => ⟨flag, true, attached⟩
  else
    (spellings.filter fun (spelling, _) => spelling == argument.take 2).map
      fun (_, flag) => ⟨flag, false, .tail (argument.drop 2)⟩

def isDigitRun (text : List Char) : Bool :=
  !text.isEmpty && text.all fun character => (digitValue? character).isSome

def withoutFinalNewline (text : List Char) : List Char :=
  if text.getLast? = some '\n' then text.dropLast else text

/-- Whether an argument looks like a negative number: a hyphen before digits, or
before digits, a point and digits, where those before the point may be missing. -/
def looksNegative : List Char → Bool
  | '-' :: text =>
      let number := withoutFinalNewline text
      let whole := number.takeWhile (· != '.')
      match number.dropWhile (· != '.') with
      | [] => isDigitRun whole
      | _ :: fraction => (whole.isEmpty || isDigitRun whole) && isDigitRun fraction
  | _ => false

/-- What an argument is that names no option in full. -/
def classifyInexact (spellings : Spellings) (argument : List Char) : ArgumentClass :=
  match candidates spellings argument with
  | [found] => .flag found
  | _ :: _ :: _ => .ambiguous
  | [] =>
      if looksNegative argument || argument.contains ' ' then .plain
      else .unknownFlag

def classify (spellings : Spellings) (argument : List Char) : ArgumentClass :=
  if argument.head? != some '-' then .plain
  else
    match spellings.lookup argument with
    | some flag => .flag ⟨flag, isLong argument, .nothing⟩
    | none =>
        if argument == ['-'] then .plain
        else
          match splitAtEquals argument with
          | (spelling, some value) =>
              match spellings.lookup spelling with
              | some flag => .flag ⟨flag, isLong spelling, .value value⟩
              | none => classifyInexact spellings argument
          | (_, none) => classifyInexact spellings argument

/-- Why the arguments start no command. -/
inductive UsageExit where
  | help
  | misuse
deriving DecidableEq, Repr

def UsageExit.status : UsageExit → Nat
  | .help => 0
  | .misuse => 2

/-- What is known of a setting from the command line. -/
inductive Choice (α : Type) where
  | unset
  /-- The option has been given, but its value was dropped. -/
  | dropped
  | chosen (value : α)
deriving DecidableEq, Repr

/-- What the options before the command have set. A path whose value was dropped is as
good as not given. -/
structure GlobalOptions where
  constantsPath : Option SourcePath := none
  typesPath : Option SourcePath := none
  dialect : Choice Dialect := .unset
  vectorWidth : Choice VectorWidth := .unset
  verbose : Bool := false
deriving DecidableEq, Repr

inductive Command where
  | lookup (names : List String)
  | dump
  | stats
deriving DecidableEq, Repr

structure Invocation where
  options : GlobalOptions
  command : Command
deriving DecidableEq, Repr

def optionsEnd : String := "--"

/-- Sets an option to no value, in place of one that it may have had. Releases of the
option reader from 3.11.9 and 3.12.3 on have no such case. -/
def GlobalOptions.drop (options : GlobalOptions) (flag : Flag) : GlobalOptions :=
  match flag with
  | .constantsFile => { options with constantsPath := none }
  | .typesFile => { options with typesPath := none }
  | .dialect => { options with dialect := .dropped }
  | .vectorSize => { options with vectorWidth := .dropped }
  | .help | .verbose => options

/-- Sets an option that takes a value. Values that the option does not admit are a
misuse. -/
def GlobalOptions.set (options : GlobalOptions) (flag : Flag)
    (value : String) : Except UsageExit GlobalOptions :=
  match flag with
  | .constantsFile => .ok { options with constantsPath := some (.ofText value) }
  | .typesFile => .ok { options with typesPath := some (.ofText value) }
  | .dialect =>
      match Dialect.ofName? value with
      | some dialect => .ok { options with dialect := .chosen dialect }
      | none => .error .misuse
  | .vectorSize =>
      match (readSettingInteger value).toOption.bind VectorWidth.ofInt? with
      | some width => .ok { options with vectorWidth := .chosen width }
      | none => .error .misuse
  | .help | .verbose => .error .misuse

/-- Sets an option to the value after its equals sign. -/
def GlobalOptions.setAttached (options : GlobalOptions) (flag : Flag)
    (value : String) : Except UsageExit GlobalOptions :=
  if value = optionsEnd then .ok (options.drop flag) else options.set flag value

/-- Carries out options that take no value, in order. -/
def GlobalOptions.raise (options : GlobalOptions) : List Flag → Except UsageExit GlobalOptions
  | [] => .ok options
  | .help :: _ => .error .help
  | .verbose :: rest => { options with verbose := true : GlobalOptions }.raise rest
  | _ :: _ => .error .misuse

/-- The short options that characters stand for, one each. A character that stands for
none is a misuse. -/
def clusteredFlags (spellings : Spellings) : List Char → Except UsageExit (List Flag)
  | [] => .ok []
  | character :: rest =>
      match spellings.lookup ['-', character] with
      | none => .error .misuse
      | some flag => (clusteredFlags spellings rest).map (flag :: ·)

/-- The options that an argument asks for whose first option takes no value. What is
attached to a short option must be more of them; to a long one nothing can be. -/
def requestedFlags (spellings : Spellings) (found : FlagUse) : Except UsageExit (List Flag) :=
  match found.attached with
  | .nothing => .ok [found.flag]
  | .value characters | .tail characters =>
      if found.long || characters.isEmpty then .error .misuse
      else (clusteredFlags spellings characters).map (found.flag :: ·)

def beforeOptionsEnd (arguments : List String) : List String :=
  arguments.takeWhile (· != optionsEnd)

/-- Reads the options after a command. There is none but the request for help, so all
that can come of them is an exit. -/
def readCommandFlags (unknown : Bool) : List String → Except UsageExit Unit
  | [] => if unknown then .error .misuse else .ok ()
  | argument :: rest =>
      match classify commandSpellings argument.toList with
      | .plain => readCommandFlags unknown rest
      | .unknownFlag => readCommandFlags true rest
      | .ambiguous => .error .misuse
      | .flag found =>
          match requestedFlags commandSpellings found with
          | .error exit => .error exit
          | .ok _ => .error .help

/-- The command of a name with the arguments after it. Of those the text that ends the
options is dropped once. -/
def readCommand (name : String) (arguments : List String) : Except UsageExit Command :=
  let positional := arguments.erase optionsEnd
  match name with
  | "lookup" => if positional.isEmpty then .error .misuse else .ok (.lookup positional)
  | "dump" => if arguments.isEmpty then .ok .dump else .error .misuse
  | "stats" => if arguments.isEmpty then .ok .stats else .error .misuse
  | _ => .error .misuse

def commandNames : List String := ["lookup", "dump", "stats"]

/-- Reads a command and what follows it. An option before the command that does not
exist is a misuse in the end, unless help is asked for after the command. -/
def readFromCommand (options : GlobalOptions) (unknown : Bool) (name : String)
    (arguments : List String) : Except UsageExit Invocation :=
  if !commandNames.contains name then .error .misuse
  else do
    readCommandFlags false (beforeOptionsEnd arguments)
    let command ← readCommand name arguments
    if unknown then .error .misuse else .ok ⟨options, command⟩

def isPlainArgument (argument : String) : Bool :=
  argument != optionsEnd &&
    decide (classify globalSpellings argument.toList = .plain)

/-- Reads the arguments from the options on. An option that waits for its value takes
the next argument. -/
def readFromOptions (options : GlobalOptions) (unknown : Bool)
    (waiting : Option Flag) : List String → Except UsageExit Invocation
  | [] => .error .misuse
  | argument :: rest =>
      match waiting with
      | some flag =>
          if isPlainArgument argument then
            match options.set flag argument with
            | .error exit => .error exit
            | .ok changed => readFromOptions changed unknown none rest
          else .error .misuse
      | none =>
          if argument = optionsEnd then .error .misuse
          else
            match classify globalSpellings argument.toList with
            | .plain => readFromCommand options unknown argument rest
            | .unknownFlag => readFromOptions options true none rest
            | .ambiguous => .error .misuse
            | .flag found =>
                if found.flag.takesValue then
                  match found.attached with
                  | .value text =>
                      match options.setAttached found.flag (String.ofList text) with
                      | .error exit => .error exit
                      | .ok changed => readFromOptions changed unknown none rest
                  | _ => readFromOptions options unknown (some found.flag) rest
                else
                  match requestedFlags globalSpellings found with
                  | .error exit => .error exit
                  | .ok flags =>
                      match options.raise flags with
                      | .error exit => .error exit
                      | .ok changed => readFromOptions changed unknown none rest

/-- Whether an argument could be more than one option. -/
def isAmbiguous (argument : String) : Bool :=
  decide (classify globalSpellings argument.toList = .ambiguous)

/-- Reads the arguments of the command line. One that could be more than one option is
a misuse wherever it stands before the end of the options. -/
def readArguments (arguments : List String) : Except UsageExit Invocation :=
  if (beforeOptionsEnd arguments).any isAmbiguous then .error .misuse
  else readFromOptions {} false none arguments

end ConstantCatalog.CommandLine
