import ConstantCatalog.Number.IntegerText
import ConstantCatalog.Settings.Dialect
import ConstantCatalog.Source.Path

/-!
Contract: the settings of a context.

Owns: `Settings` with its defaults, the check that turns given values into settings,
and `SettingsFault` with its messages.

Does not own: the environment that settings are read from.
-/

namespace ConstantCatalog

/-- Why values are no settings. -/
inductive SettingsFault where
  | dialect (unknown : UnknownName)
  | vectorSize (size : Int)
  /-- A dialect is asked for, but none is named. -/
  | noDialect
  /-- A size of vectors is asked for, but none is given. -/
  | noVectorSize
  | budgetNotPositive
  | integer (fault : IntegerFault)
  /-- The values came from the environment. -/
  | environment (cause : SettingsFault)
deriving DecidableEq, Repr

def SettingsFault.message : SettingsFault → String
  | .dialect unknown => unknown.message
  | .vectorSize size => s!"vector_size must be 3 or 4, got {size}"
  | .noDialect => "[] is not a valid Dialect"
  | .noVectorSize => "vector_size must be 3 or 4, got []"
  | .budgetNotPositive => "max_source_bytes must be positive"
  | .integer fault => fault.message
  | .environment cause => "Invalid builtins environment configuration: " ++ cause.message

def Dialect.ofName (name : String) : Except SettingsFault Dialect :=
  (knownName "Dialect" name (Dialect.ofName? name)).mapError .dialect

def VectorWidth.ofInt (size : Int) : Except SettingsFault VectorWidth :=
  match VectorWidth.ofInt? size with
  | some width => .ok width
  | none => .error (.vectorSize size)

/-- The most bytes that a file may have unless set otherwise. -/
def defaultSourceBudget : Nat := 10 * 1024 * 1024

theorem defaultSourceBudget_pos : 0 < defaultSourceBudget :=
  Nat.lt_of_sub_ne_zero (by simp [defaultSourceBudget])

/-- The settings of a context. A path that is not given stands for the embedded
source; a limit that is not given does not limit. -/
structure Settings where
  constantsPath : Option SourcePath
  typesPath : Option SourcePath
  dialect : Dialect
  vectorWidth : VectorWidth
  sourceBudget : Nat
  arenaLimit : Option Int
  nameLimit : Option Int
  sourceBudget_pos : 0 < sourceBudget

def Settings.standard : Settings where
  constantsPath := none
  typesPath := none
  dialect := .slua
  vectorWidth := .three
  sourceBudget := defaultSourceBudget
  arenaLimit := none
  nameLimit := none
  sourceBudget_pos := defaultSourceBudget_pos

instance : Inhabited Settings := ⟨Settings.standard⟩

/-- Values for settings before they are checked. -/
structure SettingsDraft where
  constantsPath : Option SourcePath := none
  typesPath : Option SourcePath := none
  dialect : Dialect := .slua
  vectorSize : Int := 3
  sourceBudget : Int := defaultSourceBudget
  arenaLimit : Option Int := none
  nameLimit : Option Int := none

/-- Checks the size of vectors first and the budget second. -/
def SettingsDraft.check (draft : SettingsDraft) : Except SettingsFault Settings :=
  match VectorWidth.ofInt draft.vectorSize with
  | .error fault => .error fault
  | .ok width =>
      if positive : 0 < draft.sourceBudget.toNat then
        .ok
          { constantsPath := draft.constantsPath
            typesPath := draft.typesPath
            dialect := draft.dialect
            vectorWidth := width
            sourceBudget := draft.sourceBudget.toNat
            arenaLimit := draft.arenaLimit
            nameLimit := draft.nameLimit
            sourceBudget_pos := positive }
      else .error .budgetNotPositive

namespace Settings

/-- The settings with other paths, where such are given. -/
def withPaths (settings : Settings) (constantsPath typesPath : Option SourcePath) : Settings :=
  { settings with
    constantsPath := constantsPath.or settings.constantsPath
    typesPath := typesPath.or settings.typesPath }

/-- The files that settings name: that of the constants, and in the dialect that has them
that of the types. -/
def sourcePaths (settings : Settings) : List SourcePath :=
  match settings.dialect with
  | .lsl => settings.constantsPath.toList
  | .slua => settings.constantsPath.toList ++ settings.typesPath.toList

theorem mem_sourcePaths_iff {settings : Settings} {path : SourcePath} :
    path ∈ settings.sourcePaths ↔
      settings.constantsPath = some path ∨
        settings.dialect = .slua ∧ settings.typesPath = some path := by
  unfold sourcePaths
  cases settings.dialect with
  | lsl => simp
  | slua => simp

end Settings

/-- The path that a text names, if the text is not empty. -/
def SourcePath.ofText? (text : String) : Option SourcePath :=
  if text.isEmpty then none else some (.ofText text)

end ConstantCatalog
