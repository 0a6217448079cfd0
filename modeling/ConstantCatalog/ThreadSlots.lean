import ConstantCatalog.Context
import ConstantCatalog.Settings.Environment

/-!
Contract: one context for each thread.

A thread's context is empty, with default settings, until the thread installs a
catalog in it. No thread sees the context of another. The environment is read when a
catalog is installed without settings, and at no other time; an environment that is no
settings leaves the thread's context as it was.

Owns: `ThreadSlots` and the operations of a thread on its own context.

Does not own: the scheduling of threads.
-/

namespace ConstantCatalog

abbrev ThreadId := Nat

/-- The contexts that threads have come to use. -/
structure ThreadSlots where
  contexts : ThreadId → Option Context

/-- What came of installing a catalog in the context of a thread. -/
structure SlotInstallation where
  slots : ThreadSlots
  events : List Event
  outcome : Except SetupFault Catalog

namespace ThreadSlots

/-- The slots before any thread has used one. -/
def empty : ThreadSlots := ⟨fun _ => none⟩

instance : Inhabited ThreadSlots := ⟨empty⟩

def current (slots : ThreadSlots) (thread : ThreadId) : Context :=
  (slots.contexts thread).getD (.ofSettings .standard)

def withContext (slots : ThreadSlots) (thread : ThreadId) (context : Context) : ThreadSlots :=
  ⟨fun other => if other = thread then some context else slots.contexts other⟩

/-- The slots after a thread has asked for its context. -/
def touch (slots : ThreadSlots) (thread : ThreadId) : ThreadSlots :=
  slots.withContext thread (slots.current thread)

/-- The settings that a catalog is installed with: the given ones, or those that the
environment asks for. -/
def chosenSettings (environment : Environment) : Option Settings → Except SettingsFault Settings
  | some settings => .ok settings
  | none => Settings.ofEnvironment environment

/-- Installs a catalog in the context of a thread. The settings stay with the context
even if the installation fails. -/
def install (files : FileView) (environment : Environment)
    (constantsPath typesPath : Option SourcePath) (given : Option Settings) (slots : ThreadSlots)
    (thread : ThreadId) : SlotInstallation :=
  match chosenSettings environment given with
  | .error fault => ⟨slots, [], .error (.settings fault)⟩
  | .ok settings =>
      let installed :=
        Context.install files constantsPath typesPath
          { (slots.current thread) with settings := settings }
      { slots := slots.withContext thread installed.context
        events := installed.events
        outcome := installed.outcome.mapError .context }

def teardown (slots : ThreadSlots) (thread : ThreadId) : ThreadSlots :=
  match slots.contexts thread with
  | none => slots
  | some context => slots.withContext thread context.teardown.1

/-- A thread that has just been given a context has that one; others keep theirs. -/
theorem contexts_withContext (slots : ThreadSlots) (thread other : ThreadId) (context : Context) :
    (slots.withContext thread context).contexts other =
      if other = thread then some context else slots.contexts other := rfl

/-- Asking for a context does not change what it is. -/
theorem current_touch (slots : ThreadSlots) (thread other : ThreadId) :
    (slots.touch thread).current other = slots.current other := by
  unfold touch current
  rw [contexts_withContext]
  split
  · rename_i same
    simp [same]
  · rfl

end ThreadSlots

end ConstantCatalog
