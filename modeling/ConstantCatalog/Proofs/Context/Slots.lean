import ConstantCatalog.Proofs.Context.History
import ConstantCatalog.ThreadSlots

/-!
Contract: operations of threads, each on a context of its own.

A thread is given a context when it first needs one, at a place where no other context
was made, and keeps that place. What an operation does to the context of its thread, and
what it answers, depends on that context alone, and for an installation without settings
on the environment. It does nothing to the contexts of other threads.

Owns: `SlotKeeper` with the operations of threads, their steps and their histories, and
the effect of an operation.

Does not own: what threads are promised over whole runs.
-/

namespace ConstantCatalog

/-! ## Operations -/

/-- What a thread can do. -/
inductive ThreadOperation where
  | install (sources : CatalogSources) (given : Option Settings) (interruptions : Interruptions)
  | teardown
  | lookupConstant (name : String)
  | lookupType (name : String)
  | publish (machine : GlobalTable)
  | current

/-- Why an installation in the context of a thread does not come to its end. -/
inductive ThreadFault where
  | settings (fault : SettingsFault)
  | install (fault : InstallFault)
deriving DecidableEq, Repr

/-- The faults of an installation that nothing cuts short. -/
def ThreadFault.ofSetup : SetupFault → ThreadFault
  | .settings fault => .settings fault
  | .context fault => .install (.context fault)

inductive ThreadAnswer where
  | installed (outcome : Except ThreadFault Catalog)
  | tornDown
  | asked (answer : ContextAnswer)
  | context (place : Nat)

def ThreadOperation.isInstallation : ThreadOperation → Bool
  | .install _ _ _ => true
  | _ => false

def ThreadOperation.isTeardown : ThreadOperation → Bool
  | .teardown => true
  | _ => false

/-- Whether an operation ended in a fault. -/
def ThreadAnswer.isFault : ThreadAnswer → Bool
  | .installed (.error _) => true
  | .asked (.published (.error _)) => true
  | _ => false

/-- An answer apart from the place of a context, which only tells it from others. -/
def ThreadAnswer.withoutPlace : ThreadAnswer → ThreadAnswer
  | .context _ => .context 0
  | answer => answer

/-! ## Slots in use -/

/-- The environment, the contexts that were made, each at its place, how many these are,
and the place of each thread's context once it has one. -/
structure SlotKeeper where
  environment : Environment
  contexts : Nat → ContextKeeper
  made : Nat
  places : ThreadId → Option Nat

/-- What can happen while threads are at work. -/
inductive SlotStep where
  | setEnvironment (environment : Environment)
  | operate (thread : ThreadId) (operation : ThreadOperation)

/-- An operation of a thread with its answer. -/
structure SlotEvent where
  thread : ThreadId
  operation : ThreadOperation
  answer : ThreadAnswer

/-- Whether a step is one that a thread takes, or a change of the environment. -/
def SlotStep.concerns (thread : ThreadId) : SlotStep → Bool
  | .setEnvironment _ => true
  | .operate other _ => other == thread

/-- The answers that a thread was given. -/
def answersTo (thread : ThreadId) (history : List SlotEvent) : List ThreadAnswer :=
  (history.filter (·.thread == thread)).map (·.answer.withoutPlace)

/-- Empties a context, gives it settings, and installs a catalog under them. -/
def ContextKeeper.installUnder (context : ContextKeeper) (settings : Settings)
    (sources : CatalogSources)
    (interruptions : Interruptions) : ContextKeeper × Except InstallFault Catalog :=
  { context.teardown with settings := settings }.install sources interruptions

namespace SlotKeeper

def new (environment : Environment) : SlotKeeper where
  environment := environment
  contexts := fun _ => .new .standard
  made := 0
  places := fun _ => none

/-- The context of a thread; a new one with default settings if it has none yet. -/
def contextOf (keeper : SlotKeeper) (thread : ThreadId) : ContextKeeper :=
  match keeper.places thread with
  | none => .new .standard
  | some place => keeper.contexts place

def withContext (keeper : SlotKeeper) (place : Nat) (context : ContextKeeper) : SlotKeeper :=
  { keeper with contexts := Function.update keeper.contexts place context }

/-- The place of a thread's context, which is made if there is none. -/
def current (keeper : SlotKeeper) (thread : ThreadId) : SlotKeeper × Nat :=
  match keeper.places thread with
  | some place => (keeper, place)
  | none =>
      ({ keeper with
         contexts := Function.update keeper.contexts keeper.made (.new .standard)
         made := keeper.made + 1
         places := Function.update keeper.places thread (some keeper.made) },
        keeper.made)

/-- Asks the context of a thread. -/
def ask (keeper : SlotKeeper) (thread : ThreadId)
    (query : ContextQuery) : SlotKeeper × ThreadAnswer :=
  let (reached, place) := keeper.current thread
  (reached, .asked ((reached.contexts place).context.answer query))

/-- What an operation does. Settings are chosen before the context is touched. -/
def perform (keeper : SlotKeeper) (thread : ThreadId) : ThreadOperation → SlotKeeper × ThreadAnswer
  | .install sources given interruptions =>
      match ThreadSlots.chosenSettings keeper.environment given with
      | .error fault => (keeper, .installed (.error (.settings fault)))
      | .ok settings =>
          let (reached, place) := keeper.current thread
          let (after, outcome) :=
            (reached.contexts place).installUnder settings sources interruptions
          (reached.withContext place after, .installed (outcome.mapError .install))
  | .teardown =>
      match keeper.places thread with
      | none => (keeper, .tornDown)
      | some place => (keeper.withContext place (keeper.contexts place).teardown, .tornDown)
  | .lookupConstant name => keeper.ask thread (.lookupConstant name)
  | .lookupType name => keeper.ask thread (.lookupType name)
  | .publish machine => keeper.ask thread (.publish machine)
  | .current =>
      let (reached, place) := keeper.current thread
      (reached, .context place)

def advance (keeper : SlotKeeper)
    (history : List SlotEvent) : SlotStep → SlotKeeper × List SlotEvent
  | .setEnvironment environment => ({ keeper with environment := environment }, history)
  | .operate thread operation =>
      let (after, answer) := keeper.perform thread operation
      (after, ⟨thread, operation, answer⟩ :: history)

/-- Takes steps one after the other. The history has the latest event first. -/
def run (keeper : SlotKeeper) (steps : List SlotStep) : SlotKeeper × List SlotEvent :=
  steps.foldl (fun (reached, history) step => reached.advance history step) (keeper, [])

theorem run_concat (keeper : SlotKeeper) (steps : List SlotStep) (step : SlotStep) :
    keeper.run (steps ++ [step]) =
      (keeper.run steps).1.advance (keeper.run steps).2 step := by
  rw [run, List.foldl_append]
  rfl

/-- The slots as their contexts. -/
def slots (keeper : SlotKeeper) : ThreadSlots :=
  ⟨fun thread => (keeper.places thread).map fun place => (keeper.contexts place).context⟩

end SlotKeeper

/-- What an operation does to the context of its thread, and what it answers. -/
def ContextKeeper.operate (environment : Environment)
    (context : ContextKeeper) : ThreadOperation → ContextKeeper × ThreadAnswer
  | .install sources given interruptions =>
      match ThreadSlots.chosenSettings environment given with
      | .error fault => (context, .installed (.error (.settings fault)))
      | .ok settings =>
          let (after, outcome) := context.installUnder settings sources interruptions
          (after, .installed (outcome.mapError .install))
  | .teardown => (context.teardown, .tornDown)
  | .lookupConstant name => (context, .asked (context.context.answer (.lookupConstant name)))
  | .lookupType name => (context, .asked (context.context.answer (.lookupType name)))
  | .publish machine => (context, .asked (context.context.answer (.publish machine)))
  | .current => (context, .context 0)

namespace SlotKeeper

/-! ## Places -/

/-- What every step keeps: contexts have places of their own among those that were made,
and each was made with some settings and is what its history says. -/
structure IsSound (keeper : SlotKeeper) : Prop where
  within : ∀ thread place, keeper.places thread = some place → place < keeper.made
  apart :
    ∀ first second place,
      keeper.places first = some place → keeper.places second = some place → first = second
  kept :
    ∀ place, ∃ settings standing,
      ContextKeeper.IsKept settings (keeper.contexts place) standing

variable {keeper : SlotKeeper}

theorem isSound_new (environment : Environment) : (new environment).IsSound where
  within := by simp [new]
  apart := by simp [new]
  kept := fun _ => ⟨.standard, none, ContextKeeper.isKept_new .standard⟩

theorem contextOf_of_places {thread : ThreadId} {place : Nat}
    (isPlace : keeper.places thread = some place) :
    keeper.contextOf thread = keeper.contexts place := by
  rw [contextOf, isPlace]

theorem exists_isKept_contextOf (isSound : keeper.IsSound) (thread : ThreadId) :
    ∃ settings standing, ContextKeeper.IsKept settings (keeper.contextOf thread) standing := by
  unfold contextOf
  cases keeper.places thread with
  | none => exact ⟨.standard, none, ContextKeeper.isKept_new .standard⟩
  | some place => exact isSound.kept place

theorem current_of_places {thread : ThreadId} {place : Nat}
    (isPlace : keeper.places thread = some place) :
    keeper.current thread = (keeper, place) := by
  rw [current, isPlace]

/-- What asking for the place of a thread's context does. -/
private theorem current_cases (keeper : SlotKeeper) (thread : ThreadId) :
    (∃ place, keeper.places thread = some place ∧ keeper.current thread = (keeper, place)) ∨
    (keeper.places thread = none ∧
      keeper.current thread =
        ({ keeper with
           contexts := Function.update keeper.contexts keeper.made (.new .standard)
           made := keeper.made + 1
           places := Function.update keeper.places thread (some keeper.made) },
          keeper.made)) := by
  unfold current
  cases isPlace : keeper.places thread with
  | none => exact Or.inr ⟨rfl, rfl⟩
  | some place => exact Or.inl ⟨place, rfl, rfl⟩

private theorem places_current (keeper : SlotKeeper) (thread : ThreadId) :
    (keeper.current thread).1.places =
      Function.update keeper.places thread (some (keeper.current thread).2) := by
  rcases keeper.current_cases thread with ⟨place, isPlace, isCurrent⟩ | ⟨-, isCurrent⟩
  · rw [isCurrent, ← isPlace, Function.update_eq_self]
  · rw [isCurrent]

theorem isSound_current (isSound : keeper.IsSound) (thread : ThreadId) :
    (keeper.current thread).1.IsSound := by
  rcases keeper.current_cases thread with ⟨place, -, isCurrent⟩ | ⟨-, isCurrent⟩
  · rw [isCurrent]
    exact isSound
  · rw [isCurrent]
    -- A place after the step is the new one or one that was taken before.
    have origin : ∀ other place,
        Function.update keeper.places thread (some keeper.made) other = some place →
          (other = thread ∧ place = keeper.made) ∨
            (keeper.places other = some place ∧ place < keeper.made) := by
      intro other place isPlace
      by_cases same : other = thread
      · rw [same, Function.update_self] at isPlace
        exact Or.inl ⟨same, (Option.some.inj isPlace).symm⟩
      · rw [Function.update_of_ne same] at isPlace
        exact Or.inr ⟨isPlace, isSound.within other place isPlace⟩
    exact
      { within := by
          intro other place isPlace
          have placeOrigin := origin other place isPlace
          dsimp only
          omega
        apart := by
          intro first second place firstPlace secondPlace
          rcases origin first place firstPlace with ⟨rfl, isNew⟩ | ⟨firstOld, firstBelow⟩
          · rcases origin second place secondPlace with ⟨rfl, -⟩ | ⟨-, secondBelow⟩
            · rfl
            · omega
          · rcases origin second place secondPlace with ⟨rfl, isNew⟩ | ⟨secondOld, -⟩
            · omega
            · exact isSound.apart first second place firstOld secondOld
        kept := by
          intro place
          dsimp only
          by_cases isNew : place = keeper.made
          · rw [isNew, Function.update_self]
            exact ⟨.standard, none, ContextKeeper.isKept_new .standard⟩
          · rw [Function.update_of_ne isNew]
            exact isSound.kept place }

/-- Being given a context does not change what the contexts of threads are. -/
private theorem contextOf_current (isSound : keeper.IsSound) (thread other : ThreadId) :
    (keeper.current thread).1.contextOf other = keeper.contextOf other := by
  rcases keeper.current_cases thread with ⟨place, -, isCurrent⟩ | ⟨noPlace, isCurrent⟩
  · rw [isCurrent]
  · rw [isCurrent]
    unfold contextOf
    dsimp only
    by_cases same : other = thread
    · simp [same, noPlace]
    · rw [Function.update_of_ne same]
      cases isPlace : keeper.places other with
      | none => rfl
      | some place =>
          have taken := isSound.within other place isPlace
          exact Function.update_of_ne (Nat.ne_of_lt taken) _ _

/-- A thread keeps the place of its context. -/
theorem places_current_of_some {thread other : ThreadId} {place : Nat}
    (isPlace : keeper.places other = some place) :
    (keeper.current thread).1.places other = some place := by
  rcases keeper.current_cases thread with ⟨taken, -, isCurrent⟩ | ⟨noPlace, isCurrent⟩
  · rw [isCurrent]
    exact isPlace
  · have notSame : other ≠ thread := by
      rintro rfl
      rw [noPlace] at isPlace
      contradiction
    rw [isCurrent]
    dsimp only
    rw [Function.update_of_ne notSame, isPlace]

theorem places_current_self (keeper : SlotKeeper) (thread : ThreadId) :
    (keeper.current thread).1.places thread = some (keeper.current thread).2 := by
  rw [places_current, Function.update_self]

/-! ## Steps -/

/-- What an operation of a thread does to the contexts of all threads, if it makes a given
one of its own. -/
structure Changes (keeper after : SlotKeeper) (thread : ThreadId)
    (context : ContextKeeper) : Prop where
  isSound : after.IsSound
  environment : after.environment = keeper.environment
  own : after.contextOf thread = context
  others :
    ∀ other, other ≠ thread →
      after.places other = keeper.places other ∧ after.contextOf other = keeper.contextOf other

private theorem changes_self (isSound : keeper.IsSound) (thread : ThreadId) :
    Changes keeper keeper thread (keeper.contextOf thread) :=
  ⟨isSound, rfl, rfl, fun _ _ => ⟨rfl, rfl⟩⟩

theorem changes_current (isSound : keeper.IsSound) (thread : ThreadId) :
    Changes keeper (keeper.current thread).1 thread (keeper.contextOf thread) where
  isSound := isSound_current isSound thread
  environment := by
    rcases keeper.current_cases thread with ⟨place, -, isCurrent⟩ | ⟨-, isCurrent⟩
    · rw [isCurrent]
    · rw [isCurrent]
  own := contextOf_current isSound thread thread
  others := by
    intro other notSame
    refine ⟨?_, contextOf_current isSound thread other⟩
    rw [places_current, Function.update_of_ne notSame]

private theorem changes_withContext (isSound : keeper.IsSound) {thread : ThreadId} {place : Nat}
    (isPlace : keeper.places thread = some place) {context : ContextKeeper}
    (isKept : ∃ settings standing, ContextKeeper.IsKept settings context standing) :
    Changes keeper (keeper.withContext place context) thread context where
  isSound :=
    { within := isSound.within
      apart := isSound.apart
      kept := by
        intro other
        unfold withContext
        dsimp only
        by_cases same : other = place
        · rw [same, Function.update_self]
          exact isKept
        · rw [Function.update_of_ne same]
          exact isSound.kept other }
  environment := rfl
  own := by
    have samePlace : (keeper.withContext place context).places thread = some place := isPlace
    rw [contextOf_of_places samePlace]
    exact Function.update_self _ _ _
  others := by
    intro other notSame
    refine ⟨rfl, ?_⟩
    unfold contextOf withContext
    dsimp only
    cases otherPlace : keeper.places other with
    | none => rfl
    | some taken =>
        have apart : taken ≠ place := by
          rintro rfl
          exact notSame (isSound.apart other thread taken otherPlace isPlace)
        exact Function.update_of_ne apart _ _

theorem Changes.trans {reached after : SlotKeeper} {thread : ThreadId}
    {first second : ContextKeeper} (before : Changes keeper reached thread first)
    (behind : Changes reached after thread second) :
    Changes keeper after thread second where
  isSound := behind.isSound
  environment := behind.environment.trans before.environment
  own := behind.own
  others := by
    intro other notSame
    obtain ⟨placeBehind, contextBehind⟩ := behind.others other notSame
    obtain ⟨placeBefore, contextBefore⟩ := before.others other notSame
    exact ⟨placeBehind.trans placeBefore, contextBehind.trans contextBefore⟩

/-- A context that is given settings and installed in is what its history says. -/
private theorem isKept_installUnder {context : ContextKeeper}
    (isKept : ∃ settings standing, ContextKeeper.IsKept settings context standing)
    (settings : Settings) (sources : CatalogSources) (interruptions : Interruptions) :
    ∃ standing, ContextKeeper.IsKept settings
      (context.installUnder settings sources interruptions).1 standing := by
  obtain ⟨former, standing, isKept⟩ := isKept
  have emptied := isKept.teardown
  let configured : ContextKeeper := { context.teardown with settings := settings }
  have isConfigured : ContextKeeper.IsKept settings configured none :=
    ⟨rfl, emptied.current, emptied.retired⟩
  have installed :=
    @ContextKeeper.IsKept.perform _ _ [] isConfigured (.install sources interruptions)
  change ∃ standing, ContextKeeper.IsKept settings
    (configured.install sources interruptions).1 standing
  cases isInstall : configured.install sources interruptions with
  | mk after outcome =>
      cases outcome with
      | ok catalog =>
          rw [ContextKeeper.perform_installed isInstall] at installed
          exact ⟨_, installed⟩
      | error fault =>
          rw [ContextKeeper.perform_failed isInstall] at installed
          exact ⟨_, installed⟩

theorem perform_refused {thread : ThreadId} {given : Option Settings} {fault : SettingsFault}
    (refused : ThreadSlots.chosenSettings keeper.environment given = .error fault)
    (sources : CatalogSources) (interruptions : Interruptions) :
    keeper.perform thread (.install sources given interruptions) =
      (keeper, .installed (.error (.settings fault))) := by
  rw [perform, refused]

theorem perform_chosen {thread : ThreadId} {given : Option Settings} {settings : Settings}
    (chosen : ThreadSlots.chosenSettings keeper.environment given = .ok settings)
    (sources : CatalogSources) (interruptions : Interruptions) :
    keeper.perform thread (.install sources given interruptions) =
      let (reached, place) := keeper.current thread
      let installed := (reached.contexts place).installUnder settings sources interruptions
      (reached.withContext place installed.1,
        .installed (installed.2.mapError .install)) := by
  rw [perform, chosen]

theorem contexts_current (isSound : keeper.IsSound) (thread : ThreadId) :
    (keeper.current thread).1.contexts (keeper.current thread).2 =
      keeper.contextOf thread := by
  rw [← contextOf_of_places (keeper.places_current_self thread)]
  exact contextOf_current isSound thread thread

/-- Asking changes nothing, and the answer is that of the thread's context. -/
theorem ask_spec (isSound : keeper.IsSound) (thread : ThreadId) (query : ContextQuery) :
    Changes keeper (keeper.ask thread query).1 thread (keeper.contextOf thread) ∧
      (keeper.ask thread query).2 =
        .asked ((keeper.contextOf thread).context.answer query) := by
  unfold ask
  dsimp only
  rw [contexts_current isSound thread]
  exact ⟨changes_current isSound thread, rfl⟩

/-- An operation does to the context of its thread what it would do to that context on its
own, and nothing to the others. -/
theorem perform_spec (isSound : keeper.IsSound) (thread : ThreadId) (operation : ThreadOperation) :
    Changes keeper (keeper.perform thread operation).1 thread
        ((keeper.contextOf thread).operate keeper.environment operation).1 ∧
      (keeper.perform thread operation).2.withoutPlace =
        ((keeper.contextOf thread).operate keeper.environment operation).2 := by
  cases operation with
  | install sources given interruptions =>
      rw [ContextKeeper.operate]
      cases isChosen : ThreadSlots.chosenSettings keeper.environment given with
      | error fault =>
          rw [perform_refused isChosen]
          exact ⟨changes_self isSound thread, rfl⟩
      | ok settings =>
          have isKept := isKept_installUnder (exists_isKept_contextOf isSound thread) settings
            sources interruptions
          have replaced := changes_withContext (isSound_current isSound thread)
            (keeper.places_current_self thread) ⟨settings, isKept⟩
          rw [perform_chosen isChosen]
          dsimp only
          rw [contexts_current isSound thread]
          exact ⟨(changes_current isSound thread).trans replaced, rfl⟩
  | teardown =>
      rw [perform, ContextKeeper.operate]
      cases isPlace : keeper.places thread with
      | none =>
          have isNew : keeper.contextOf thread = .new .standard := by
            rw [contextOf, isPlace]
          have unchanged := changes_self isSound thread
          rw [isNew] at unchanged ⊢
          exact ⟨unchanged, rfl⟩
      | some place =>
          obtain ⟨settings, standing, isKept⟩ := exists_isKept_contextOf isSound thread
          dsimp only
          rw [← contextOf_of_places isPlace]
          exact ⟨changes_withContext isSound isPlace ⟨settings, none, isKept.teardown⟩, rfl⟩
  | lookupConstant name =>
      obtain ⟨changes, answered⟩ := ask_spec isSound thread (.lookupConstant name)
      exact ⟨changes, congrArg ThreadAnswer.withoutPlace answered⟩
  | lookupType name =>
      obtain ⟨changes, answered⟩ := ask_spec isSound thread (.lookupType name)
      exact ⟨changes, congrArg ThreadAnswer.withoutPlace answered⟩
  | publish machine =>
      obtain ⟨changes, answered⟩ := ask_spec isSound thread (.publish machine)
      exact ⟨changes, congrArg ThreadAnswer.withoutPlace answered⟩
  | current => exact ⟨changes_current isSound thread, rfl⟩

end SlotKeeper

end ConstantCatalog
