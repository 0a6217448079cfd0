import ConstantCatalog.Proofs.Context.Slots
import ConstantCatalog.Proofs.Settings.Environment

/-!
Contract: threads that install, ask and tear down, in any order and in any environment.

After any steps every context is at a place of its own and is what its history says. So
whatever other threads did, an operation does what it would do in a context of which only
its own thread knows, and a thread goes through its operations as if there were no other.

Owns: `ThreadContract` with its proof for all threads, steps and environments, and the
agreement with `ThreadSlots`.

Does not own: what an operation does to a context.
-/

namespace ConstantCatalog

/-- How threads are served that were at work through given steps, beginning in a given
environment with no context made. -/
structure ThreadContract (environment : Environment) (steps : List SlotStep) (reached : SlotKeeper)
    (history : List SlotEvent) : Prop where
  /-- An environment that cannot be settings is refused where they are to be read from it,
  with a fault of the environment, and everything stays as it is. -/
  refused :
    Misconfigured reached.environment →
      ∃ cause,
        Settings.ofEnvironment reached.environment = .error (.environment cause) ∧
          ∀ thread sources interruptions,
            reached.perform thread (.install sources none interruptions) =
              (reached, .installed (.error (.settings (.environment cause))))
  /-- Any other installation does what it would do in a new context with the settings that
  are given, or else with those that the environment asks for. They stay with the context
  even if it fails, and is empty then. -/
  installed :
    ∀ thread sources given interruptions settings after answer,
      given = some settings ∨
        given = none ∧ ¬Misconfigured reached.environment ∧
          settings = .askedFor reached.environment →
      reached.perform thread (.install sources given interruptions) = (after, answer) →
      ∃ fresh outcome,
        (ContextKeeper.new settings).install sources interruptions = (fresh, outcome) ∧
          answer = .installed (outcome.mapError .install) ∧
          (after.contextOf thread).settings = settings ∧
          (after.contextOf thread).current = fresh.current ∧
          (after.contextOf thread).context = fresh.context ∧
          ∀ fault, outcome = .error fault →
            (after.contextOf thread).context = .ofSettings settings
  /-- Every other operation ends without a fault and is the same in every environment. A
  teardown empties the context and leaves its settings; the others leave it as it is. -/
  quiet :
    ∀ thread operation after answer,
      operation.isInstallation = false →
      reached.perform thread operation = (after, answer) →
      answer.isFault = false ∧
        (∀ other : Environment,
          { reached with environment := other }.perform thread operation =
            ({ after with environment := other }, answer)) ∧
        after.contextOf thread =
          (if operation.isTeardown then (reached.contextOf thread).teardown
            else reached.contextOf thread) ∧
        (operation.isTeardown = true →
          (after.contextOf thread).context =
            .ofSettings (reached.contextOf thread).settings)
  /-- From when it is first asked for, a thread's context has one place, whatever any thread
  does after that, and no other thread is ever given that place. -/
  placed :
    ∀ thread, ∃ place,
      (reached.perform thread .current).2 = .context place ∧
        ∀ further,
          let after := ((reached.perform thread .current).1.run further).1
          (after.perform thread .current).2 = .context place ∧
            ∀ other, other ≠ thread → (after.perform other .current).2 ≠ .context place
  /-- No operation does anything to the context of another thread. -/
  apart :
    ∀ thread operation other, other ≠ thread →
      (reached.perform thread operation).1.places other = reached.places other ∧
        (reached.perform thread operation).1.contextOf other = reached.contextOf other
  /-- A thread has the context and the answers that it has if no other thread does
  anything. -/
  isolated :
    ∀ thread,
      let alone := (SlotKeeper.new environment).run (steps.filter (·.concerns thread))
      reached.contextOf thread = alone.1.contextOf thread ∧
        answersTo thread history = answersTo thread alone.2
  /-- Without interruptions, slots in use do what `ThreadSlots` says. -/
  refines :
    ∀ thread,
      (∀ sources given,
        let asked := reached.slots.install sources.files reached.environment
          sources.constantsPath sources.typesPath given thread
        (reached.perform thread (.install sources given .none)).1.slots = asked.slots ∧
          (reached.perform thread (.install sources given .none)).2 =
            .installed (asked.outcome.mapError .ofSetup)) ∧
        (reached.perform thread .teardown).1.slots = reached.slots.teardown thread ∧
        (reached.perform thread .current).1.slots = reached.slots.touch thread ∧
        ∀ query,
          (reached.ask thread query).1.slots = reached.slots.touch thread ∧
            (reached.ask thread query).2 =
              .asked ((reached.slots.current thread).answer query)

/-- Settings that are given are chosen, and otherwise those that the environment asks
for. -/
private theorem ThreadSlots.chosenSettings_eq_ok {environment : Environment}
    {given : Option Settings} {settings : Settings}
    (chosen :
      given = some settings ∨
        given = none ∧ ¬Misconfigured environment ∧ settings = .askedFor environment) :
    chosenSettings environment given = .ok settings := by
  rcases chosen with rfl | ⟨rfl, configured, rfl⟩
  · rfl
  · exact Settings.ofEnvironment_of_configured configured

namespace SlotKeeper

variable {keeper : SlotKeeper}

/-! ## Runs -/

private theorem advance_operate (keeper : SlotKeeper) (history : List SlotEvent) (thread : ThreadId)
    (operation : ThreadOperation) :
    keeper.advance history (.operate thread operation) =
      ((keeper.perform thread operation).1,
        ⟨thread, operation, (keeper.perform thread operation).2⟩ :: history) := rfl

private theorem isSound_advance (isSound : keeper.IsSound) (history : List SlotEvent)
    (step : SlotStep) :
    (keeper.advance history step).1.IsSound := by
  cases step with
  | setEnvironment environment => exact ⟨isSound.within, isSound.apart, isSound.kept⟩
  | operate thread operation => exact (perform_spec isSound thread operation).1.isSound

private theorem isSound_run (isSound : keeper.IsSound) (steps : List SlotStep) :
    (keeper.run steps).1.IsSound := by
  induction steps using List.reverseRecOn with
  | nil => exact isSound
  | append_singleton steps step inductionHypothesis =>
      rw [run_concat]
      exact isSound_advance inductionHypothesis _ step

private theorem places_perform_of_some {other : ThreadId} {place : Nat}
    (isPlace : keeper.places other = some place) (thread : ThreadId) (operation : ThreadOperation) :
    (keeper.perform thread operation).1.places other = some place := by
  have given := @places_current_of_some keeper thread other place isPlace
  cases operation with
  | install sources chosen interruptions =>
      cases isChosen : ThreadSlots.chosenSettings keeper.environment chosen with
      | error fault =>
          rw [perform_refused isChosen]
          exact isPlace
      | ok settings =>
          rw [perform_chosen isChosen]
          exact given
  | teardown =>
      rw [perform]
      cases keeper.places thread with
      | none => exact isPlace
      | some own => exact isPlace
  | lookupConstant name => exact given
  | lookupType name => exact given
  | publish machine => exact given
  | current => exact given

private theorem places_run_of_some {thread : ThreadId} {place : Nat}
    (isPlace : keeper.places thread = some place) (steps : List SlotStep) :
    (keeper.run steps).1.places thread = some place := by
  induction steps using List.reverseRecOn with
  | nil => exact isPlace
  | append_singleton steps step inductionHypothesis =>
      rw [run_concat]
      cases step with
      | setEnvironment environment => exact inductionHypothesis
      | operate other operation =>
          exact places_perform_of_some inductionHypothesis other operation

/-- A place that one thread's context has is given to no other thread. -/
private theorem current_ne_of_places (isSound : keeper.IsSound) {thread other : ThreadId}
    {place : Nat} (isPlace : keeper.places thread = some place) (notSame : other ≠ thread) :
    (keeper.current other).2 ≠ place := by
  intro samePlace
  have ownPlace := keeper.places_current_self other
  rw [samePlace] at ownPlace
  exact notSame ((isSound_current isSound other).apart other thread place ownPlace
    (places_current_of_some isPlace))

/-- From when it is first asked for, a thread's context has one place of its own. -/
theorem exists_place (isSound : keeper.IsSound) (thread : ThreadId) :
    ∃ place,
      (keeper.perform thread .current).2 = .context place ∧
        ∀ further,
          let after := ((keeper.perform thread .current).1.run further).1
          (after.perform thread .current).2 = .context place ∧
            ∀ other, other ≠ thread → (after.perform other .current).2 ≠ .context place := by
  refine ⟨(keeper.current thread).2, rfl, fun further => ?_⟩
  have later := isSound_run (isSound_current isSound thread) further
  have isPlace := places_run_of_some (keeper.places_current_self thread) further
  constructor
  · change ThreadAnswer.context (((keeper.current thread).1.run further).1.current thread).2 = _
    rw [current_of_places isPlace]
  · intro other notSame given
    exact current_ne_of_places later isPlace notSame (ThreadAnswer.context.inj given)

/-! ## One thread among others -/

/-- Whether two runs are the same for a thread. -/
structure AgreesFor (thread : ThreadId) (first second : SlotKeeper × List SlotEvent) : Prop where
  environment : first.1.environment = second.1.environment
  context : first.1.contextOf thread = second.1.contextOf thread
  answers : answersTo thread first.2 = answersTo thread second.2

private theorem answersTo_cons_self (thread : ThreadId) (operation : ThreadOperation)
    (answer : ThreadAnswer) (history : List SlotEvent) :
    answersTo thread (⟨thread, operation, answer⟩ :: history) =
      answer.withoutPlace :: answersTo thread history := by
  simp [answersTo]

private theorem answersTo_cons_other {thread other : ThreadId} (notSame : other ≠ thread)
    (operation : ThreadOperation) (answer : ThreadAnswer) (history : List SlotEvent) :
    answersTo thread (⟨other, operation, answer⟩ :: history) = answersTo thread history := by
  simp [answersTo, notSame]

/-- A step of the thread, or a change of the environment, keeps two runs the same for
it. -/
private theorem AgreesFor.advance_both {thread : ThreadId}
    {first second : SlotKeeper × List SlotEvent} (agrees : AgreesFor thread first second)
    (firstSound : first.1.IsSound) (secondSound : second.1.IsSound) {step : SlotStep}
    (concerns : step.concerns thread = true) :
    AgreesFor thread (first.1.advance first.2 step) (second.1.advance second.2 step) := by
  cases step with
  | setEnvironment environment => exact ⟨rfl, agrees.context, agrees.answers⟩
  | operate other operation =>
      obtain rfl : other = thread := eq_of_beq concerns
      obtain ⟨firstChanges, firstAnswer⟩ := perform_spec firstSound other operation
      obtain ⟨secondChanges, secondAnswer⟩ := perform_spec secondSound other operation
      rw [agrees.environment, agrees.context] at firstChanges firstAnswer
      rw [advance_operate, advance_operate]
      exact
        { environment := by
            rw [firstChanges.environment, secondChanges.environment, agrees.environment]
          context := firstChanges.own.trans secondChanges.own.symm
          answers := by
            rw [answersTo_cons_self, answersTo_cons_self, firstAnswer, secondAnswer,
              agrees.answers] }

/-- A step of another thread leaves a run the same for the thread. -/
private theorem AgreesFor.advance_first {thread : ThreadId}
    {first second : SlotKeeper × List SlotEvent} (agrees : AgreesFor thread first second)
    (firstSound : first.1.IsSound) {step : SlotStep} (foreign : step.concerns thread = false) :
    AgreesFor thread (first.1.advance first.2 step) second := by
  cases step with
  | setEnvironment environment => contradiction
  | operate other operation =>
      have notSame : other ≠ thread := ne_of_beq_false foreign
      have changes := (perform_spec firstSound other operation).1
      rw [advance_operate]
      exact
        { environment := changes.environment.trans agrees.environment
          context := (changes.others thread notSame.symm).2.trans agrees.context
          answers := by
            rw [answersTo_cons_other notSame, agrees.answers] }

/-- The steps of other threads can be left out of a run. -/
private theorem agreesFor_run_filter (isSound : keeper.IsSound) (thread : ThreadId)
    (steps : List SlotStep) :
    AgreesFor thread (keeper.run steps) (keeper.run (steps.filter (·.concerns thread))) := by
  induction steps using List.reverseRecOn with
  | nil => exact ⟨rfl, rfl, rfl⟩
  | append_singleton steps step inductionHypothesis =>
      have sound := isSound_run isSound steps
      rw [run_concat, List.filter_append]
      cases concerns : step.concerns thread with
      | true =>
          rw [List.filter_singleton, concerns, cond_true, run_concat]
          exact inductionHypothesis.advance_both sound (isSound_run isSound _) concerns
      | false =>
          rw [List.filter_singleton, concerns, cond_false, List.append_nil]
          exact inductionHypothesis.advance_first sound concerns

/-! ## Installations -/

/-- An installation under given settings does what it does in a new context. -/
private theorem installUnder_eq_install_new (context : ContextKeeper) (settings : Settings)
    (sources : CatalogSources) (interruptions : Interruptions) :
    (context.installUnder settings sources interruptions).2 =
        ((ContextKeeper.new settings).install sources interruptions).2 ∧
      (context.installUnder settings sources interruptions).1.current =
        ((ContextKeeper.new settings).install sources interruptions).1.current ∧
      (context.installUnder settings sources interruptions).1.context =
        ((ContextKeeper.new settings).install sources interruptions).1.context :=
  @ContextKeeper.install_congr { context.teardown with settings := settings }
    (ContextKeeper.new settings) rfl sources interruptions

private theorem perform_install_spec (isSound : keeper.IsSound) {thread : ThreadId}
    {given : Option Settings} {settings : Settings}
    (chosen : ThreadSlots.chosenSettings keeper.environment given = .ok settings)
    (sources : CatalogSources) (interruptions : Interruptions) :
    ((keeper.perform thread (.install sources given interruptions)).1.contextOf thread =
        ((keeper.contextOf thread).installUnder settings sources interruptions).1) ∧
      (keeper.perform thread (.install sources given interruptions)).2 =
        .installed (((ContextKeeper.new settings).install sources interruptions).2.mapError
          .install) := by
  have own := (perform_spec isSound thread (.install sources given interruptions)).1.own
  rw [ContextKeeper.operate, chosen] at own
  refine ⟨own, ?_⟩
  rw [perform_chosen chosen]
  dsimp only
  rw [contexts_current isSound thread, (installUnder_eq_install_new _ settings _ _).1]

private theorem exists_fresh_of_perform_install (isSound : keeper.IsSound) {thread : ThreadId}
    {sources : CatalogSources} {given : Option Settings} {interruptions : Interruptions}
    {settings : Settings} {after : SlotKeeper} {answer : ThreadAnswer}
    (chosen : ThreadSlots.chosenSettings keeper.environment given = .ok settings)
    (performed :
      keeper.perform thread (.install sources given interruptions) = (after, answer)) :
    ∃ fresh outcome,
      (ContextKeeper.new settings).install sources interruptions = (fresh, outcome) ∧
        answer = .installed (outcome.mapError .install) ∧
        (after.contextOf thread).settings = settings ∧
        (after.contextOf thread).current = fresh.current ∧
        (after.contextOf thread).context = fresh.context ∧
        ∀ fault, outcome = .error fault →
          (after.contextOf thread).context = .ofSettings settings := by
  obtain ⟨own, answered⟩ := @perform_install_spec keeper isSound thread given settings chosen
    sources interruptions
  obtain ⟨-, sameCurrent, sameContext⟩ :=
    installUnder_eq_install_new (keeper.contextOf thread) settings sources interruptions
  have kept : (after.contextOf thread).settings = settings := by
    rw [performed] at own
    rw [own]
    exact ContextKeeper.settings_install _ sources interruptions
  rw [performed] at own answered
  rw [← own] at sameCurrent sameContext
  cases isFresh : (ContextKeeper.new settings).install sources interruptions with
  | mk fresh outcome =>
      rw [isFresh] at answered sameCurrent sameContext
      refine ⟨fresh, outcome, rfl, answered, kept, sameCurrent, sameContext, ?_⟩
      rintro fault rfl
      exact sameContext.trans ((ContextKeeper.isKept_new settings).failed isFresh).1

/-! ## Other operations -/

/-- What threads are told by asking never is a fault. -/
private theorem isFault_ask (isSound : keeper.IsSound) (thread : ThreadId) (query : ContextQuery) :
    (keeper.ask thread query).2.isFault = false := by
  rw [(ask_spec isSound thread query).2]
  cases query with
  | lookupConstant name => rfl
  | lookupType name => rfl
  | resolve name => rfl
  | publish machine =>
      obtain ⟨settings, standing, isKept⟩ := exists_isKept_contextOf isSound thread
      obtain ⟨run, published, -⟩ := isKept.exists_publishByCalls machine
      rw [Context.answer, published]
      rfl

private theorem current_withEnvironment (keeper : SlotKeeper) (thread : ThreadId)
    (environment : Environment) :
    { keeper with environment := environment }.current thread =
      ({ (keeper.current thread).1 with environment := environment },
        (keeper.current thread).2) := by
  unfold current
  dsimp only
  cases keeper.places thread with
  | none => rfl
  | some place => rfl

/-- Only installations read the environment. -/
private theorem perform_withEnvironment (keeper : SlotKeeper) (thread : ThreadId)
    (environment : Environment) {operation : ThreadOperation}
    (isOther : operation.isInstallation = false) :
    { keeper with environment := environment }.perform thread operation =
      ({ (keeper.perform thread operation).1 with environment := environment },
        (keeper.perform thread operation).2) := by
  have sameCurrent := keeper.current_withEnvironment thread environment
  have sameAsk : ∀ query,
      { keeper with environment := environment }.ask thread query =
        ({ (keeper.ask thread query).1 with environment := environment },
          (keeper.ask thread query).2) := by
    intro query
    unfold ask
    rw [sameCurrent]
  cases operation with
  | install sources given interruptions => contradiction
  | teardown =>
      rw [perform, perform]
      cases keeper.places thread with
      | none => rfl
      | some place => rfl
  | lookupConstant name => exact sameAsk (.lookupConstant name)
  | lookupType name => exact sameAsk (.lookupType name)
  | publish machine => exact sameAsk (.publish machine)
  | current =>
      rw [perform, perform, sameCurrent]

private theorem perform_other_spec (isSound : keeper.IsSound) (thread : ThreadId)
    {operation : ThreadOperation} (isOther : operation.isInstallation = false) :
    (keeper.perform thread operation).2.isFault = false ∧
      (keeper.perform thread operation).1.contextOf thread =
        if operation.isTeardown then (keeper.contextOf thread).teardown
        else keeper.contextOf thread := by
  have own := (perform_spec isSound thread operation).1.own
  cases operation with
  | install sources given interruptions => contradiction
  | teardown =>
      refine ⟨?_, own⟩
      rw [perform]
      cases keeper.places thread with
      | none => rfl
      | some place => rfl
  | lookupConstant name => exact ⟨isFault_ask isSound thread _, own⟩
  | lookupType name => exact ⟨isFault_ask isSound thread _, own⟩
  | publish machine => exact ⟨isFault_ask isSound thread _, own⟩
  | current => exact ⟨rfl, own⟩

/-! ## Agreement with the slots -/

private theorem contexts_slots (keeper : SlotKeeper) (thread : ThreadId) :
    keeper.slots.contexts thread =
      (keeper.places thread).map fun _ => (keeper.contextOf thread).context := by
  change (keeper.places thread).map (fun place => (keeper.contexts place).context) = _
  cases isPlace : keeper.places thread with
  | none => rfl
  | some place =>
      rw [contextOf_of_places isPlace]
      rfl

private theorem current_slots (keeper : SlotKeeper) (thread : ThreadId) :
    keeper.slots.current thread = (keeper.contextOf thread).context := by
  unfold ThreadSlots.current
  rw [contexts_slots]
  unfold contextOf
  cases keeper.places thread with
  | none => rfl
  | some place => rfl

/-- What an operation does to the slots, if its thread has a place after it. -/
private theorem Changes.slots_eq {after : SlotKeeper} {thread : ThreadId} {context : ContextKeeper}
    (changes : Changes keeper after thread context) {place : Nat}
    (isPlace : after.places thread = some place) :
    after.slots = keeper.slots.withContext thread context.context := by
  have sameContexts : ∀ other, after.slots.contexts other =
      (keeper.slots.withContext thread context.context).contexts other := by
    intro other
    rw [ThreadSlots.contexts_withContext, contexts_slots, contexts_slots]
    by_cases same : other = thread
    · rw [if_pos same, same, isPlace, changes.own]
      rfl
    · obtain ⟨samePlace, sameContext⟩ := changes.others other same
      rw [if_neg same, samePlace, sameContext]
  exact congrArg ThreadSlots.mk (funext sameContexts)

private theorem slots_current (isSound : keeper.IsSound) (thread : ThreadId) :
    (keeper.current thread).1.slots = keeper.slots.touch thread := by
  rw [(changes_current isSound thread).slots_eq (keeper.places_current_self thread),
    ThreadSlots.touch, current_slots]

private theorem slots_teardown (isSound : keeper.IsSound) (thread : ThreadId) :
    (keeper.perform thread .teardown).1.slots = keeper.slots.teardown thread := by
  have changes := (perform_spec isSound thread .teardown).1
  unfold ThreadSlots.teardown
  rw [contexts_slots]
  cases isPlace : keeper.places thread with
  | none =>
      rw [perform, isPlace]
      rfl
  | some place =>
      rw [changes.slots_eq (places_perform_of_some isPlace thread .teardown)]
      change keeper.slots.withContext thread (keeper.contextOf thread).teardown.context = _
      rw [ContextKeeper.context_teardown]
      rfl

private theorem slots_install (isSound : keeper.IsSound) (thread : ThreadId)
    (sources : CatalogSources) (given : Option Settings) :
    let asked := keeper.slots.install sources.files keeper.environment sources.constantsPath
      sources.typesPath given thread
    (keeper.perform thread (.install sources given .none)).1.slots = asked.slots ∧
      (keeper.perform thread (.install sources given .none)).2 =
        .installed (asked.outcome.mapError .ofSetup) := by
  unfold ThreadSlots.install
  cases isChosen : ThreadSlots.chosenSettings keeper.environment given with
  | error fault =>
      rw [perform_refused isChosen]
      exact ⟨rfl, rfl⟩
  | ok settings =>
      obtain ⟨own, answer⟩ := @perform_install_spec keeper isSound thread given settings isChosen
        sources .none
      have changes := (perform_spec isSound thread (.install sources given .none)).1
      obtain ⟨-, -, asNew⟩ := installUnder_eq_install_new (keeper.contextOf thread) settings
        sources .none
      obtain ⟨sameContext, sameOutcome⟩ :=
        (ContextKeeper.new settings).install_eq_installFrom sources
      have isPlace : (keeper.perform thread (.install sources given .none)).1.places thread =
          some (keeper.current thread).2 := by
        rw [perform_chosen isChosen]
        exact keeper.places_current_self thread
      rw [changes.slots_eq isPlace, ← changes.own, own, asNew, sameContext, answer, sameOutcome]
      refine ⟨rfl, ?_⟩
      change ThreadAnswer.installed (Except.mapError _ (Except.mapError _
        (Catalog.load sources.files (settings.withPaths _ _)).outcome)) =
          ThreadAnswer.installed (Except.mapError _ (Except.mapError _
            (Catalog.load sources.files (settings.withPaths _ _)).outcome))
      cases (Catalog.load sources.files
          (settings.withPaths sources.constantsPath sources.typesPath)).outcome with
      | ok catalog => rfl
      | error fault => rfl

end SlotKeeper

/-- Threads have contexts of their own, whatever they do and however their steps come one
after the other: what a thread does to its context and is told of it depends on its own
operations, and on the environment where it installs without settings. -/
theorem threads_have_contexts_of_their_own (environment : Environment) (steps : List SlotStep) :
    ThreadContract environment steps
      ((SlotKeeper.new environment).run steps).1 ((SlotKeeper.new environment).run steps).2 := by
  have startSound := SlotKeeper.isSound_new environment
  have isSound := SlotKeeper.isSound_run startSound steps
  have isolated := fun thread => SlotKeeper.agreesFor_run_filter startSound thread steps
  generalize (SlotKeeper.new environment).run steps = result at isSound isolated ⊢
  obtain ⟨reached, history⟩ := result
  dsimp only at isSound isolated ⊢
  exact
    { refused := by
        intro misconfigured
        obtain ⟨cause, invalid, -⟩ := Settings.ofEnvironment_of_misconfigured misconfigured
        refine ⟨cause, invalid, ?_⟩
        intro thread sources interruptions
        exact @SlotKeeper.perform_refused reached thread none _ invalid sources interruptions
      installed := by
        intro thread sources given interruptions settings after answer chosen performed
        exact SlotKeeper.exists_fresh_of_perform_install isSound
          (ThreadSlots.chosenSettings_eq_ok chosen) performed
      quiet := by
        intro thread operation after answer isOther performed
        obtain ⟨faultless, own⟩ := SlotKeeper.perform_other_spec isSound thread isOther
        have anywhere := fun other =>
          reached.perform_withEnvironment thread other isOther
        rw [performed] at faultless own anywhere
        refine ⟨faultless, anywhere, own, fun isTeardown => ?_⟩
        rw [own, if_pos isTeardown, ContextKeeper.context_teardown]
      placed := SlotKeeper.exists_place isSound
      apart := fun thread operation other notSame =>
        (SlotKeeper.perform_spec isSound thread operation).1.others other notSame
      isolated := fun thread => ⟨(isolated thread).context, (isolated thread).answers⟩
      refines := fun thread =>
        ⟨SlotKeeper.slots_install isSound thread, SlotKeeper.slots_teardown isSound thread,
          SlotKeeper.slots_current isSound thread, fun query =>
            ⟨SlotKeeper.slots_current isSound thread, by
              rw [(SlotKeeper.ask_spec isSound thread query).2, SlotKeeper.current_slots]⟩⟩ }

end ConstantCatalog
