import ConstantCatalog.Publication.Catalog
import ConstantCatalog.Settings.Basic
import ConstantCatalog.Source.Reading

/-!
Contract: the life of the catalog that one machine uses.

A context is empty or holds a catalog. Installing one empties it first, so a failure
leaves it empty; tearing it down releases what it held. Both sources are read before
either is loaded. Types are neither read nor loaded in the `lsl` dialect.

Owns: `Context`, `ContextFault`, `SetupFault`, installation, teardown, and the questions that an
empty context answers too.

Does not own: which context a thread uses.
-/

namespace ConstantCatalog

/-- Why no catalog can be installed. -/
inductive ContextFault where
  | source (fault : SourceFault)
  | load (fault : LoadFault)
deriving DecidableEq, Repr

def ContextFault.message : ContextFault → String
  | .source fault => fault.message
  | .load fault => fault.message

/-- Whether a fault is one of the library's own: a file that cannot be used, or an
arena without room. The others come from values that cannot be converted and from
paths or budgets that cannot be used at all. -/
def ContextFault.isAnticipated : ContextFault → Bool
  | .source (.unavailable _ _) => true
  | .load (.exhausted _) => true
  | _ => false

/-- Why no catalog can be set up: the settings are none, or no catalog can be installed
under them. -/
inductive SetupFault where
  | settings (fault : SettingsFault)
  | context (fault : ContextFault)
deriving DecidableEq, Repr

def SetupFault.message : SetupFault → String
  | .settings fault => fault.message
  | .context fault => fault.message

variable {α : Type}

def loadStore (format : DeclarationFormat α) (limit : Option Int)
    (text : String) : Reported ContextFault (Store α) :=
  let loaded := (Store.ofLimit limit).load format (.text text)
  ⟨loaded.events, (loaded.outcome.map fun _ => loaded.store).mapError .load⟩

namespace Catalog

/-- The text of the type declarations, where the dialect has any. -/
def readTypes (files : FileView) (settings : Settings) : Reported ContextFault (Option String) :=
  match settings.dialect with
  | .lsl => .done none
  | .slua =>
      ((readSource files settings.sourceBudget .types settings.typesPath).mapFault
        .source).andThen fun text => .done (some text)

/-- The store of the type declarations; an empty one if there are none. -/
def loadTypes (limit : Option Int) : Option String → Reported ContextFault TypeStore
  | none => .done (.ofLimit limit)
  | some text => loadStore typeFormat limit text

def load (files : FileView) (settings : Settings) : Reported ContextFault Catalog :=
  ((readSource files settings.sourceBudget .constants settings.constantsPath).mapFault
    .source).andThen fun constantsText =>
  (readTypes files settings).andThen fun typesText =>
  (loadStore constantFormat settings.arenaLimit constantsText).andThen fun constants =>
  (loadTypes settings.arenaLimit typesText).andThen fun types =>
  ⟨[.initialized settings.dialect constants.size types.size],
    .ok ⟨constants, types, settings.vectorWidth, settings.nameLimit⟩⟩

end Catalog

/-- The settings of a machine's constants, and the catalog while there is one. -/
structure Context where
  settings : Settings
  catalog : Option Catalog

structure Installation where
  context : Context
  events : List Event
  outcome : Except ContextFault Catalog

namespace Context

/-- The context of given settings before anything is installed. -/
def ofSettings (settings : Settings) : Context := ⟨settings, none⟩

instance : Inhabited Context := ⟨ofSettings .standard⟩

def isInitialized (context : Context) : Bool :=
  context.catalog.isSome

/-- Empties a context. The catalog that it held is given back closed. -/
def teardown (context : Context) : Context × Option Catalog :=
  ({ context with catalog := none }, context.catalog.map Catalog.close)

/-- Empties a context and loads a catalog into it. Paths that are given here take the
place of those in the settings, which stay as they are. -/
def install (files : FileView) (constantsPath typesPath : Option SourcePath)
    (context : Context) : Installation :=
  let loaded := Catalog.load files (context.settings.withPaths constantsPath typesPath)
  { context := { context with catalog := loaded.outcome.toOption }
    events := loaded.events
    outcome := loaded.outcome }

def lookupConstant (context : Context) (name : String) : Option Constant :=
  context.catalog.bind (·.constants.get? name)

def lookupType (context : Context) (name : String) : Option DeclaredType :=
  context.catalog.bind (·.types.get? name)

def resolve (context : Context) (name : String) : Option GlobalValue × List Event :=
  match context.catalog with
  | none => (none, [])
  | some catalog => catalog.resolve name

/-- Publishes every constant; an empty context publishes none. -/
def publish (context : Context) (table : GlobalTable) : Publication :=
  match context.catalog with
  | none => ⟨0, table, #[]⟩
  | some catalog => catalog.publish table

end Context

end ConstantCatalog
