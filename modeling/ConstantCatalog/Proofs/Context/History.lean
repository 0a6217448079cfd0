import ConstantCatalog.Proofs.Context.Setup

/-!
Contract: contexts that are filled, asked, torn down and filled again.

A context closes its catalog before it sets up another, so it is empty while it does, and
stays empty whatever ends the setup. Asking leaves it as it is. So of everything that
happened to a context the last installation is left, if it returned and no teardown
came after it, and nothing otherwise.

Owns: `ContextKeeper` with its steps and its histories, and `ContextLifecycle` with its
proof for all settings and steps.

Does not own: the steps of a setup, or which context a thread uses.
-/

namespace ConstantCatalog

/-! ## Questions -/

/-- What can be asked of a context. -/
inductive ContextQuery where
  | lookupConstant (name : String)
  | lookupType (name : String)
  | resolve (name : String)
  | publish (machine : GlobalTable)

inductive ContextAnswer where
  | constant (found : Option Constant)
  | declaredType (found : Option DeclaredType)
  | value (found : Option GlobalValue)
  | published (outcome : Except MachineFault MachineRun)

namespace Context

/-- Publishes every constant by calls of the machine; an empty context makes no call. -/
def publishByCalls (context : Context) (machine : GlobalTable) : Except MachineFault MachineRun :=
  match context.catalog with
  | none => .ok ⟨⟨0, machine, #[]⟩, []⟩
  | some catalog => catalog.publishByCalls machine

def answer (context : Context) : ContextQuery → ContextAnswer
  | .lookupConstant name => .constant (context.lookupConstant name)
  | .lookupType name => .declaredType (context.lookupType name)
  | .resolve name => .value (context.resolve name).1
  | .publish machine => .published (context.publishByCalls machine)

end Context

/-- The answer of an empty context. -/
def ContextQuery.unanswered : ContextQuery → ContextAnswer
  | .lookupConstant _ => .constant none
  | .lookupType _ => .declaredType none
  | .resolve _ => .value none
  | .publish machine => .published (.ok ⟨⟨0, machine, #[]⟩, []⟩)

private theorem Context.answer_ofSettings (settings : Settings) (query : ContextQuery) :
    (Context.ofSettings settings).answer query = query.unanswered := by
  cases query <;> rfl

/-! ## Contexts in use -/

/-- What a catalog is set up from: the files as they are, and the paths that take the
place of those in the settings. -/
structure CatalogSources where
  files : FileView
  constantsPath : Option SourcePath
  typesPath : Option SourcePath

/-- The settings that a setup from given sources goes by. -/
def Settings.withSources (settings : Settings) (sources : CatalogSources) : Settings :=
  settings.withPaths sources.constantsPath sources.typesPath

def Context.installFrom (context : Context) (sources : CatalogSources) : Installation :=
  context.install sources.files sources.constantsPath sources.typesPath

/-- A context in use: its settings, its catalog while there is one, the catalogs that it
had before, and the stores that setups have left unfinished, both latest first. -/
structure ContextKeeper where
  settings : Settings
  current : Option CatalogKeeper
  retired : List CatalogKeeper
  dropped : List CatalogKeeper

/-- What can be done to a context. A block that the context was opened for tears it down
at its end, however it ends. -/
inductive ContextStep where
  | install (sources : CatalogSources) (interruptions : Interruptions)
  | teardown
  | leaveBlock
  | ask (query : ContextQuery)

/-- What has been done to a context, and what came of it. -/
inductive ContextEvent where
  | installed (sources : CatalogSources) (catalog : Catalog)
  | failed (sources : CatalogSources) (fault : InstallFault)
  | tornDown
  | leftBlock
  | answered (query : ContextQuery) (answer : ContextAnswer)

def ContextStep.isQuestion : ContextStep → Bool
  | .ask _ => true
  | _ => false

/-- The sources of the last step that was no question, if that was an installation and
it returned. The latest event of a history stands first. -/
def standingSources? : List ContextEvent → Option CatalogSources
  | [] => none
  | .installed sources _ :: _ => some sources
  | .failed _ _ :: _ => none
  | .tornDown :: _ => none
  | .leftBlock :: _ => none
  | .answered _ _ :: earlier => standingSources? earlier

namespace ContextKeeper

def new (settings : Settings) : ContextKeeper := ⟨settings, none, [], []⟩

/-- The context that is kept. -/
def context (keeper : ContextKeeper) : Context :=
  ⟨keeper.settings, keeper.current.map CatalogKeeper.catalog⟩

/-- Closes the catalog, if there is one, and lets go of it. -/
def teardown (keeper : ContextKeeper) : ContextKeeper :=
  match keeper.current with
  | none => keeper
  | some catalog =>
      { keeper with
        current := none
        retired := catalog.close :: keeper.retired }

/-- Tears the context down, sets up a catalog, and installs it if that comes to its
end. -/
def install (keeper : ContextKeeper) (sources : CatalogSources)
    (interruptions : Interruptions) : ContextKeeper × Except InstallFault Catalog :=
  let emptied := keeper.teardown
  match CatalogKeeper.setUp sources.files (keeper.settings.withSources sources)
      interruptions with
  | (built, none) => ({ emptied with current := some built }, .ok built.catalog)
  | (built, some fault) =>
      ({ emptied with dropped := built.afterFault fault :: emptied.dropped }, .error fault)

def perform (keeper : ContextKeeper) : ContextStep → ContextKeeper × ContextEvent
  | .install sources interruptions =>
      match keeper.install sources interruptions with
      | (after, .ok catalog) => (after, .installed sources catalog)
      | (after, .error fault) => (after, .failed sources fault)
  | .teardown => (keeper.teardown, .tornDown)
  | .leaveBlock => (keeper.teardown, .leftBlock)
  | .ask query => (keeper, .answered query (keeper.context.answer query))

/-- Performs steps one after the other. The history has the latest event first. -/
def run (keeper : ContextKeeper) (steps : List ContextStep) : ContextKeeper × List ContextEvent :=
  steps.foldl
    (fun (reached, history) step =>
      let (after, event) := reached.perform step
      (after, event :: history))
    (keeper, [])

theorem run_concat (keeper : ContextKeeper) (steps : List ContextStep) (step : ContextStep) :
    keeper.run (steps ++ [step]) =
      (((keeper.run steps).1.perform step).1,
        ((keeper.run steps).1.perform step).2 :: (keeper.run steps).2) := by
  rw [run, List.foldl_append]
  rfl

end ContextKeeper

/-- How a context is that was new with given settings and has gone through given steps. -/
structure ContextLifecycle (settings : Settings) (steps : List ContextStep)
    (reached : ContextKeeper) (history : List ContextEvent) : Prop where
  /-- It is initialized exactly if the last step that was no question was an installation
  that returned. -/
  initialized :
    reached.context.isInitialized = true ↔
      ∃ sources, standingSources? history = some sources
  /-- It then is as a new context with the same settings after that installation alone,
  with its tables, parsers and arenas, and whatever would have cut it short. -/
  standing :
    ∀ sources, standingSources? history = some sources →
      ∃ fresh catalog,
        (ContextKeeper.new settings).install sources .none = (fresh, .ok catalog) ∧
          reached.current = fresh.current ∧
          reached.context = fresh.context ∧
          reached.context = ((Context.ofSettings settings).installFrom sources).context
  /-- Otherwise it is empty and has no answers, and its publication binds nothing. -/
  cleared :
    standingSources? history = none →
      reached.context = .ofSettings settings ∧
        ∀ query, reached.context.answer query = query.unanswered
  /-- An installation that fails, for whatever reason, leaves it empty. What it leaves
  unfinished is closed if the fault was to be expected. -/
  failed :
    ∀ after sources interruptions fault,
      reached.install sources interruptions = (after, .error fault) →
      after.context = .ofSettings settings ∧
        ∃ built, after.dropped = built :: reached.dropped ∧
          (fault.isAnticipated = true →
            built.constants.store.table = .empty ∧ built.types.store.table = .empty ∧
              built.constants.store.arena.used = 0 ∧ built.types.store.arena.used = 0)
  /-- An installation without interruptions does what `Context.install` says. -/
  running :
    ∀ sources,
      (reached.install sources .none).1.context =
          (reached.context.installFrom sources).context ∧
        (reached.install sources .none).2 =
          (reached.context.installFrom sources).outcome.mapError InstallFault.context
  /-- Questions leave no trace. -/
  unasked :
    reached = ((ContextKeeper.new settings).run (steps.filter (!·.isQuestion))).1
  /-- Publication never fails. -/
  published :
    ∀ machine, ∃ run,
      reached.context.publishByCalls machine = .ok run ∧
        run.toPublication = reached.context.publish machine
  /-- A catalog is installed until it is closed, and one that was closed holds nothing and
  has nothing charged to any arena that was made for it. -/
  retired :
    (∀ step catalog, reached.current = some catalog →
        (reached.perform step).1.current = some catalog ∨
          catalog.close ∈ (reached.perform step).1.retired) ∧
      ∀ catalog ∈ reached.retired, catalog.IsReleased

namespace ContextKeeper

/-! ## Steps -/

@[simp] theorem settings_teardown (keeper : ContextKeeper) :
    keeper.teardown.settings = keeper.settings := by
  unfold teardown
  cases keeper.current <;> rfl

@[simp] theorem current_teardown (keeper : ContextKeeper) : keeper.teardown.current = none := by
  unfold teardown
  cases isCurrent : keeper.current with
  | none => exact isCurrent
  | some catalog => rfl

@[simp] theorem dropped_teardown (keeper : ContextKeeper) :
    keeper.teardown.dropped = keeper.dropped := by
  unfold teardown
  cases keeper.current <;> rfl

private theorem retired_teardown (keeper : ContextKeeper) :
    keeper.teardown.retired =
      (keeper.current.map CatalogKeeper.close).toList ++ keeper.retired := by
  unfold teardown
  cases keeper.current <;> rfl

theorem context_teardown (keeper : ContextKeeper) :
    keeper.teardown.context = .ofSettings keeper.settings := by
  simp [context, Context.ofSettings]

/-- What an installation does, by its outcome. -/
theorem install_cases {keeper after : ContextKeeper} {sources : CatalogSources}
    {interruptions : Interruptions} {outcome : Except InstallFault Catalog}
    (isInstall : keeper.install sources interruptions = (after, outcome)) :
    (∃ built,
      CatalogKeeper.setUp sources.files (keeper.settings.withSources sources) interruptions =
          (built, none) ∧
        outcome = .ok built.catalog ∧ after = { keeper.teardown with current := some built }) ∨
    (∃ (built : CatalogKeeper) (fault : InstallFault),
      outcome = .error fault ∧
        after =
          { keeper.teardown with
            dropped := built.afterFault fault :: keeper.teardown.dropped }) := by
  unfold install at isInstall
  dsimp only at isInstall
  split at isInstall
  · rename_i built isSetUp
    obtain ⟨rfl, rfl⟩ := Prod.mk.inj isInstall
    exact Or.inl ⟨built, isSetUp, rfl, rfl⟩
  · rename_i built fault isSetUp
    obtain ⟨rfl, rfl⟩ := Prod.mk.inj isInstall
    exact Or.inr ⟨built, fault, rfl, rfl⟩

theorem perform_installed {keeper after : ContextKeeper} {sources : CatalogSources}
    {interruptions : Interruptions} {catalog : Catalog}
    (isInstall : keeper.install sources interruptions = (after, .ok catalog)) :
    keeper.perform (.install sources interruptions) = (after, .installed sources catalog) := by
  rw [perform, isInstall]

theorem perform_failed {keeper after : ContextKeeper} {sources : CatalogSources}
    {interruptions : Interruptions} {fault : InstallFault}
    (isInstall : keeper.install sources interruptions = (after, .error fault)) :
    keeper.perform (.install sources interruptions) = (after, .failed sources fault) := by
  rw [perform, isInstall]

/-- What is in a context after a setup from given sources, or without one. -/
def Stands (settings : Settings) (current : Option CatalogKeeper) : Option CatalogSources → Prop
  | none => current = none
  | some sources =>
      ∃ built, current = some built ∧
        CatalogKeeper.setUp sources.files (settings.withSources sources) .none = (built, none)

/-- What every step keeps of a context with given settings, of which given sources
stand. -/
structure IsKept (settings : Settings) (keeper : ContextKeeper)
    (standing : Option CatalogSources) : Prop where
  hasSettings : keeper.settings = settings
  current : Stands settings keeper.current standing
  retired : ∀ catalog ∈ keeper.retired, catalog.IsReleased

variable {settings : Settings} {keeper : ContextKeeper} {standing : Option CatalogSources}

theorem isKept_new (settings : Settings) : IsKept settings (new settings) none where
  hasSettings := rfl
  current := rfl
  retired := by simp [new]

theorem IsKept.teardown (isKept : IsKept settings keeper standing) :
    IsKept settings keeper.teardown none where
  hasSettings := by rw [settings_teardown, isKept.hasSettings]
  current := keeper.current_teardown
  retired := by
    intro catalog member
    rw [retired_teardown] at member
    rcases List.mem_append.1 member with closed | earlier
    · obtain ⟨installed, isInstalled, rfl⟩ :=
        Option.map_eq_some_iff.1 (Option.mem_toList.1 closed)
      have stands := isKept.current
      cases standing with
      | none =>
          rw [show keeper.current = none from stands] at isInstalled
          contradiction
      | some sources =>
          obtain ⟨built, isCurrent, isSetUp⟩ := stands
          rw [isCurrent] at isInstalled
          obtain rfl := Option.some.inj isInstalled
          exact CatalogKeeper.isReleased_close_of_setUp isSetUp
    · exact isKept.retired catalog earlier

/-- One step keeps a context to what its history says. -/
theorem IsKept.perform {history : List ContextEvent}
    (isKept : IsKept settings keeper (standingSources? history)) (step : ContextStep) :
    IsKept settings (keeper.perform step).1
      (standingSources? ((keeper.perform step).2 :: history)) := by
  have emptied := isKept.teardown
  cases step with
  | install sources interruptions =>
      cases isInstall : keeper.install sources interruptions with
      | mk after outcome =>
          rcases install_cases isInstall with
            ⟨built, isSetUp, rfl, rfl⟩ | ⟨built, fault, rfl, rfl⟩
          · rw [isKept.hasSettings] at isSetUp
            rw [perform_installed isInstall]
            exact
              { hasSettings := emptied.hasSettings
                current := ⟨built, rfl, CatalogKeeper.setUp_of_success isSetUp⟩
                retired := emptied.retired }
          · rw [perform_failed isInstall]
            exact
              { hasSettings := emptied.hasSettings
                current := emptied.current
                retired := emptied.retired }
  | teardown => exact emptied
  | leaveBlock => exact emptied
  | ask query => exact isKept

/-- After any steps a context is what its history says. -/
private theorem isKept_run (settings : Settings) (steps : List ContextStep) :
    IsKept settings ((new settings).run steps).1
      (standingSources? ((new settings).run steps).2) := by
  induction steps using List.reverseRecOn with
  | nil => exact isKept_new settings
  | append_singleton steps step inductionHypothesis =>
      rw [run_concat]
      exact inductionHypothesis.perform step

private theorem perform_question (keeper : ContextKeeper) {step : ContextStep}
    (isQuestion : step.isQuestion = true) :
    (keeper.perform step).1 = keeper := by
  cases step with
  | ask query => rfl
  | install sources interruptions => contradiction
  | teardown => contradiction
  | leaveBlock => contradiction

/-- Questions leave a context as it is, so those of a run can be left out. -/
private theorem run_filter_isQuestion (keeper : ContextKeeper) (steps : List ContextStep) :
    (keeper.run steps).1 = (keeper.run (steps.filter (!·.isQuestion))).1 := by
  induction steps using List.reverseRecOn with
  | nil => rfl
  | append_singleton steps step inductionHypothesis =>
      rw [run_concat, List.filter_append, List.filter_singleton]
      cases isQuestion : step.isQuestion with
      | true =>
          rw [Bool.not_true, cond_false, List.append_nil, ← inductionHypothesis]
          exact perform_question _ isQuestion
      | false =>
          rw [Bool.not_false, cond_true, run_concat, ← inductionHypothesis]

/-! ## Agreement -/

/-- An installation that nothing cuts short does what `Context.install` says. -/
theorem install_eq_installFrom (keeper : ContextKeeper) (sources : CatalogSources) :
    (keeper.install sources .none).1.context = (keeper.context.installFrom sources).context ∧
      (keeper.install sources .none).2 =
        (keeper.context.installFrom sources).outcome.mapError
          InstallFault.context := by
  have agreement := CatalogKeeper.outcomeOf_setUp sources.files
    (keeper.settings.withSources sources)
  unfold install
  cases isSetUp : CatalogKeeper.setUp sources.files (keeper.settings.withSources sources)
      .none with
  | mk built fault =>
      rw [isSetUp] at agreement
      unfold Context.installFrom Context.install
      change _ = (Catalog.load sources.files (keeper.settings.withPaths _ _)).outcome.mapError
        InstallFault.context at agreement
      cases isLoad : (Catalog.load sources.files
          (keeper.settings.withPaths sources.constantsPath sources.typesPath)).outcome with
      | ok catalog =>
          rw [isLoad] at agreement
          cases fault with
          | some cause => contradiction
          | none =>
              obtain rfl : built.catalog = catalog := Except.ok.inj agreement
              simp [context, Except.toOption, isLoad, Except.mapError]
      | error cause =>
          rw [isLoad] at agreement
          cases fault with
          | none => contradiction
          | some found =>
              obtain rfl : found = .context cause := Except.error.inj agreement
              simp [context, Except.toOption, isLoad, Except.mapError]

/-- What an installation makes of a context depends on the settings alone. -/
theorem install_congr {first second : ContextKeeper}
    (sameSettings : first.settings = second.settings) (sources : CatalogSources)
    (interruptions : Interruptions) :
    (first.install sources interruptions).2 = (second.install sources interruptions).2 ∧
      (first.install sources interruptions).1.current =
        (second.install sources interruptions).1.current ∧
      (first.install sources interruptions).1.context =
        (second.install sources interruptions).1.context := by
  unfold install
  rw [sameSettings]
  cases CatalogKeeper.setUp sources.files (second.settings.withSources sources)
      interruptions with
  | mk built fault =>
      cases fault with
      | none => simp [context, sameSettings]
      | some cause => simp [context, sameSettings]

theorem settings_install (keeper : ContextKeeper) (sources : CatalogSources)
    (interruptions : Interruptions) :
    (keeper.install sources interruptions).1.settings = keeper.settings := by
  cases isInstall : keeper.install sources interruptions with
  | mk after outcome =>
      rcases install_cases isInstall with ⟨built, -, -, rfl⟩ | ⟨built, fault, -, rfl⟩
      · exact keeper.settings_teardown
      · exact keeper.settings_teardown

private theorem install_of_setUp {sources : CatalogSources} {interruptions : Interruptions}
    {built : CatalogKeeper}
    (isSetUp : CatalogKeeper.setUp sources.files (keeper.settings.withSources sources)
      interruptions = (built, none)) :
    keeper.install sources interruptions =
      ({ keeper.teardown with current := some built }, .ok built.catalog) := by
  unfold install
  dsimp only
  rw [isSetUp]

/-- A context that is kept to given sources publishes without a fault. -/
theorem IsKept.exists_publishByCalls (isKept : IsKept settings keeper standing)
    (machine : GlobalTable) :
    ∃ run,
      keeper.context.publishByCalls machine = .ok run ∧
        run.toPublication = keeper.context.publish machine := by
  have stands := isKept.current
  cases standing with
  | none =>
      rw [context, show keeper.current = none from stands]
      exact ⟨_, rfl, rfl⟩
  | some sources =>
      obtain ⟨built, isCurrent, isSetUp⟩ := stands
      have within := CatalogKeeper.isWithinNumbers_of_setUp isSetUp
      rw [context, isCurrent]
      exact ⟨_, built.catalog.publishByCalls_of_within machine within, rfl⟩

private theorem tables_empty_of_isAnticipated (built : CatalogKeeper) {fault : InstallFault}
    (isAnticipated : fault.isAnticipated = true) :
    (built.afterFault fault).constants.store.table = .empty ∧
      (built.afterFault fault).types.store.table = .empty ∧
      (built.afterFault fault).constants.store.arena.used = 0 ∧
      (built.afterFault fault).types.store.arena.used = 0 := by
  rw [CatalogKeeper.afterFault, if_pos isAnticipated]
  exact ⟨rfl, rfl, rfl, rfl⟩

/-- A catalog that a step removes is closed. -/
private theorem current_or_retired_perform {catalog : CatalogKeeper}
    (isCurrent : keeper.current = some catalog) (step : ContextStep) :
    (keeper.perform step).1.current = some catalog ∨
      catalog.close ∈ (keeper.perform step).1.retired := by
  have closed : catalog.close ∈ keeper.teardown.retired := by
    rw [retired_teardown, isCurrent]
    simp
  cases step with
  | install sources interruptions =>
      cases isInstall : keeper.install sources interruptions with
      | mk after outcome =>
          rcases install_cases isInstall with ⟨built, -, rfl, rfl⟩ | ⟨built, fault, rfl, rfl⟩
          · rw [perform_installed isInstall]
            exact Or.inr closed
          · rw [perform_failed isInstall]
            exact Or.inr closed
  | teardown => exact Or.inr closed
  | leaveBlock => exact Or.inr closed
  | ask query => exact Or.inl isCurrent

/-! ## What a history leaves -/

private theorem IsKept.isInitialized_iff (isKept : IsKept settings keeper standing) :
    keeper.context.isInitialized = true ↔ ∃ sources, standing = some sources := by
  have stands := isKept.current
  cases standing with
  | none =>
      rw [Context.isInitialized, context, show keeper.current = none from stands]
      simp
  | some sources =>
      obtain ⟨built, isCurrent, -⟩ := stands
      rw [Context.isInitialized, context, isCurrent]
      simp

/-- A context of which nothing stands is as it was made. -/
private theorem IsKept.context_of_none (isKept : IsKept settings keeper none) :
    keeper.context = .ofSettings settings := by
  rw [context, show keeper.current = none from isKept.current, isKept.hasSettings]
  rfl

/-- A context of which given sources stand is as a new one after their installation. -/
private theorem IsKept.exists_fresh {sources : CatalogSources}
    (isKept : IsKept settings keeper (some sources)) :
    ∃ fresh catalog,
      (new settings).install sources .none = (fresh, .ok catalog) ∧
        keeper.current = fresh.current ∧
        keeper.context = fresh.context ∧
        keeper.context = ((Context.ofSettings settings).installFrom sources).context := by
  obtain ⟨built, isCurrent, isSetUp⟩ := isKept.current
  have isInstall := @install_of_setUp (new settings) sources .none built isSetUp
  have asInstalled := ((new settings).install_eq_installFrom sources).1
  rw [isInstall] at asInstalled
  have sameContext : keeper.context = (⟨settings, some built.catalog⟩ : Context) := by
    rw [context, isCurrent, isKept.hasSettings]
    rfl
  exact ⟨_, _, isInstall, isCurrent, sameContext, sameContext.trans asInstalled⟩

/-- An installation that fails leaves a context as it was made. -/
theorem IsKept.failed (isKept : IsKept settings keeper standing) {after : ContextKeeper}
    {sources : CatalogSources} {interruptions : Interruptions} {fault : InstallFault}
    (isInstall : keeper.install sources interruptions = (after, .error fault)) :
    after.context = .ofSettings settings ∧
      ∃ built, after.dropped = built :: keeper.dropped ∧
        (fault.isAnticipated = true →
          built.constants.store.table = .empty ∧ built.types.store.table = .empty ∧
            built.constants.store.arena.used = 0 ∧ built.types.store.arena.used = 0) := by
  rcases install_cases isInstall with ⟨built, -, returned, -⟩ | ⟨built, cause, failed, rfl⟩
  · contradiction
  · obtain rfl := Except.error.inj failed
    have emptied : keeper.teardown.context = .ofSettings settings := by
      rw [context_teardown, isKept.hasSettings]
    refine ⟨emptied, built.afterFault fault, ?_, tables_empty_of_isAnticipated built⟩
    rw [dropped_teardown]

end ContextKeeper

/-- A context is independent of its history: installations that failed, teardowns, and
everything before the last installation that returned leave no trace. -/
theorem context_history_independent (settings : Settings) (steps : List ContextStep) :
    ContextLifecycle settings steps
      ((ContextKeeper.new settings).run steps).1 ((ContextKeeper.new settings).run steps).2 := by
  have isKept := ContextKeeper.isKept_run settings steps
  have unasked := (ContextKeeper.new settings).run_filter_isQuestion steps
  generalize (ContextKeeper.new settings).run steps = result at isKept unasked ⊢
  obtain ⟨reached, history⟩ := result
  dsimp only at isKept unasked ⊢
  exact
    { initialized := isKept.isInitialized_iff
      standing := by
        intro sources standing
        rw [standing] at isKept
        exact isKept.exists_fresh
      cleared := by
        intro standing
        rw [standing] at isKept
        rw [isKept.context_of_none]
        exact ⟨rfl, Context.answer_ofSettings settings⟩
      failed := fun _ _ _ _ isInstall => isKept.failed isInstall
      running := reached.install_eq_installFrom
      unasked := unasked
      published := isKept.exists_publishByCalls
      retired :=
        ⟨fun step _ isCurrent => ContextKeeper.current_or_retired_perform isCurrent step,
          isKept.retired⟩ }

end ConstantCatalog
