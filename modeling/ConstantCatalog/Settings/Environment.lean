import ConstantCatalog.Settings.Basic
import ConstantCatalog.Text.LetterCase

/-!
Contract: settings from environment variables.

A variable that is not set, or that is set to nothing, leaves the default. The dialect
may be written in any letter case; the size of vectors is an integer as settings spell
them. Whatever is wrong is reported as a fault of the environment.

Owns: `Environment`, the names of its variables, and `Settings.ofEnvironment`.

Does not own: the access to the variables of a process.
-/

namespace ConstantCatalog

structure Environment where
  constantsFile : Option String := none
  typesFile : Option String := none
  dialect : Option String := none
  vectorSize : Option String := none
deriving DecidableEq, Repr, Inhabited

namespace Environment

def ofLookup (lookup : String → Option String) : Environment where
  constantsFile := lookup "SLUA_BUILTINS_FILE"
  typesFile := lookup "SLUA_DEFS_FILE"
  dialect := lookup "SLUA_DIALECT"
  vectorSize := lookup "LUA_VECTOR_SIZE"

def variableNames : List String :=
  ["SLUA_BUILTINS_FILE", "SLUA_DEFS_FILE", "SLUA_DIALECT", "LUA_VECTOR_SIZE"]

/-- The value of a variable that is set to something. -/
def given? (value : Option String) : Option String :=
  value.filter (!·.isEmpty)

end Environment

/-- The dialect that a variable asks for. -/
def Dialect.ofVariable (value : Option String) : Except SettingsFault Dialect :=
  match Environment.given? value with
  | none => .ok .slua
  | some name => Dialect.ofName (lowered name)

/-- The size of vectors that a variable asks for. -/
def vectorSizeOfVariable (value : Option String) : Except SettingsFault Int :=
  match Environment.given? value with
  | none => .ok 3
  | some text => (readSettingInteger text).mapError .integer

/-- The values that an environment gives to settings, before they are checked. -/
def SettingsDraft.ofEnvironment
    (environment : Environment) : Except SettingsFault SettingsDraft := do
  let dialect ← Dialect.ofVariable environment.dialect
  let vectorSize ← vectorSizeOfVariable environment.vectorSize
  pure
    { constantsPath := (Environment.given? environment.constantsFile).map .ofText
      typesPath := (Environment.given? environment.typesFile).map .ofText
      dialect := dialect
      vectorSize := vectorSize }

def Settings.ofEnvironment (environment : Environment) : Except SettingsFault Settings :=
  ((SettingsDraft.ofEnvironment environment).bind SettingsDraft.check).mapError
    .environment

end ConstantCatalog
