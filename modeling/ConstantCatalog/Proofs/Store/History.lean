import ConstantCatalog.Proofs.Declaration.Concatenation
import ConstantCatalog.Store
import Mathlib.Data.Finset.Card

/-!
Contract: stores that are loaded, closed and loaded again.

A store in use keeps its parser, and of the arenas that were made for it one is its own.
A load that fails leaves content and own arena as they were; one that succeeds takes a
new arena and releases the one before. So of everything that happened to a store the last
load that succeeded is left, or nothing if the store was closed after it.

Owns: `StoreKeeper` with its steps and its histories, and `HistoryIndependent` with its
proof for every format.

Does not own: what a load makes of a source.
-/

namespace ConstantCatalog

variable {σ α : Type}

/-- A store in use: its content, its parser, and the other arenas that were made for it,
those before its own arena and those after it. -/
structure StoreKeeper (σ α : Type) where
  store : Store α
  parser : σ
  earlier : List Arena
  later : List Arena

/-- What can be done to a store. A block that the store was opened for closes it at its
end, however it ends. -/
inductive StoreStep where
  | load (source : DeclarationSource)
  | close
  | leaveBlock

/-- What has been done to a store, and what came of it. -/
inductive StoreEvent where
  | loaded (source : DeclarationSource) (count : Nat)
  | refused (source : DeclarationSource) (fault : LoadFault)
  | closed
  | leftBlock

/-- The source of the last load that succeeded, if it came after every close. The latest
event of a history stands first. -/
def standingSource? : List StoreEvent → Option DeclarationSource
  | [] => none
  | .loaded source _ :: _ => some source
  | .refused _ _ :: earlier => standingSource? earlier
  | .closed :: _ => none
  | .leftBlock :: _ => none

/-- What is left of an arena when the load into it has failed: an exhausted one is
released, any other is dropped as it is. -/
def LoadFault.abandoned (arena : Arena) : LoadFault → Arena
  | .exhausted _ => arena.release
  | .unconvertible _ => arena

namespace StoreKeeper

/-- A new store, with a limit for every arena it loads into. -/
def new (limit : Option Int) (parser : σ) : StoreKeeper σ α :=
  ⟨.ofLimit limit, parser, [], []⟩

/-- Every arena made for the store, in the order of making. -/
def arenas (keeper : StoreKeeper σ α) : List Arena :=
  keeper.earlier ++ keeper.store.arena :: keeper.later

/-- The place of the store's own arena among those made for it. -/
def ownPlace (keeper : StoreKeeper σ α) : Nat :=
  keeper.earlier.length

/-- Loads a source into a new arena, which becomes the store's own if that succeeds. -/
def load (reader : LineReader σ α) (keeper : StoreKeeper σ α)
    (source : DeclarationSource) : StoreKeeper σ α × Except LoadFault Nat :=
  match reader.load keeper.parser (.ofLimit keeper.store.arena.limit) source with
  | ((loading, none), parser) =>
      ({ store := ⟨loading.arena, loading.table⟩
         parser := parser
         earlier := keeper.earlier ++ keeper.store.arena.release :: keeper.later
         later := [] },
        .ok loading.table.size)
  | ((loading, some fault), parser) =>
      ({ keeper with
         parser := parser
         later := keeper.later ++ [fault.abandoned loading.arena] },
        .error fault)

def close (keeper : StoreKeeper σ α) : StoreKeeper σ α :=
  { keeper with store := keeper.store.close }

def perform (reader : LineReader σ α)
    (keeper : StoreKeeper σ α) : StoreStep → StoreKeeper σ α × StoreEvent
  | .load source =>
      match keeper.load reader source with
      | (after, .ok count) => (after, .loaded source count)
      | (after, .error fault) => (after, .refused source fault)
  | .close => (keeper.close, .closed)
  | .leaveBlock => (keeper.close, .leftBlock)

/-- Performs steps one after the other. The history has the latest event first. -/
def run (reader : LineReader σ α) (keeper : StoreKeeper σ α)
    (steps : List StoreStep) : StoreKeeper σ α × List StoreEvent :=
  steps.foldl
    (fun (reached, history) step =>
      let (after, event) := reached.perform reader step
      (after, event :: history))
    (keeper, [])

theorem run_concat (reader : LineReader σ α) (keeper : StoreKeeper σ α) (steps : List StoreStep)
    (step : StoreStep) :
    keeper.run reader (steps ++ [step]) =
      (((keeper.run reader steps).1.perform reader step).1,
        ((keeper.run reader steps).1.perform reader step).2 :: (keeper.run reader steps).2) := by
  rw [run, List.foldl_append]
  rfl

end StoreKeeper

/-- How stores behave that are used again and again with one parser of a format. -/
structure HistoryIndependent (format : DeclarationFormat α) (reader : LineReader σ α) : Prop where
  /-- Whatever its parser has read, a store in use loads as `Store.load` does. -/
  running :
    ∀ (keeper : StoreKeeper σ α) (source : DeclarationSource),
      (keeper.load reader source).1.store = (keeper.store.load format source).store ∧
        (keeper.load reader source).2 = (keeper.store.load format source).outcome
  /-- If a load stands at the end of a history, the store holds what a new store with the
  same limit holds after that load alone, whatever the parser of the new one has read. -/
  standing :
    ∀ (limit : Option Int) (parser other : σ) (steps : List StoreStep)
      (source : DeclarationSource),
      standingSource? ((StoreKeeper.new limit parser).run reader steps).2 = some source →
      ((StoreKeeper.new limit parser).run reader steps).1.store =
          ((StoreKeeper.new limit other).load reader source).1.store ∧
        ∃ count, ((StoreKeeper.new limit other).load reader source).2 = .ok count
  /-- Otherwise the store holds nothing. -/
  cleared :
    ∀ (limit : Option Int) (parser : σ) (steps : List StoreStep),
      standingSource? ((StoreKeeper.new limit parser).run reader steps).2 = none →
      ((StoreKeeper.new limit parser).run reader steps).1.store = .ofLimit limit
  /-- A load that fails leaves content and own arena as they were. -/
  refused :
    ∀ (keeper after : StoreKeeper σ α) (source : DeclarationSource) (fault : LoadFault),
      keeper.load reader source = (after, .error fault) →
      after.store = keeper.store ∧ after.ownPlace = keeper.ownPlace
  /-- A load that succeeds takes an arena that is not among those made before, releases
  the one it replaces, and returns the number of distinct names. -/
  replaced :
    ∀ (keeper after : StoreKeeper σ α) (source : DeclarationSource) (count : Nat),
      keeper.load reader source = (after, .ok count) →
      after.ownPlace = keeper.arenas.length ∧
        after.arenas[keeper.ownPlace]? = some ⟨keeper.store.arena.limit, 0, 0⟩ ∧
        count = after.store.table.names.toFinset.card

namespace Store

variable (format : DeclarationFormat α)

/-- A load leaves the limit of a store as it is. -/
private theorem limit_load (store : Store α) (source : DeclarationSource) :
    (store.load format source).store.arena.limit = store.arena.limit := by
  have kept := format.limit_loadLines
    (.start (.ofLimit store.arena.limit) source.lineEvents) source.lines
  change (format.load (.ofLimit store.arena.limit) source).1.arena.limit = _ at kept
  unfold load
  cases loaded : format.load (.ofLimit store.arena.limit) source with
  | mk loading fault =>
      rw [loaded] at kept
      cases fault with
      | none => exact kept
      | some cause => rfl

/-- A load that succeeds does not depend on what the store held before. -/
private theorem load_of_limit_eq {store other : Store α}
    (sameLimit : store.arena.limit = other.arena.limit) {source : DeclarationSource} {count : Nat}
    (loaded : (store.load format source).outcome = .ok count) :
    (store.load format source).store = (other.load format source).store ∧
      (other.load format source).outcome = .ok count := by
  unfold load at loaded ⊢
  rw [sameLimit] at loaded ⊢
  cases reached : format.load (.ofLimit other.arena.limit) source with
  | mk loading fault =>
      rw [reached] at loaded
      cases fault with
      | none => exact ⟨rfl, loaded⟩
      | some cause => contradiction

/-- A load that fails leaves the store as it was. -/
private theorem store_load_of_error {store : Store α} {source : DeclarationSource}
    {fault : LoadFault} (refused : (store.load format source).outcome = .error fault) :
    (store.load format source).store = store := by
  unfold load at refused ⊢
  cases reached : format.load (.ofLimit store.arena.limit) source with
  | mk loading cause =>
      rw [reached] at refused
      cases cause with
      | none => contradiction
      | some cause => rfl

end Store

namespace StoreKeeper

variable {reader : LineReader σ α} {format : DeclarationFormat α}

/-- A store in use loads as its content does on its own, if its parser follows one format
in every state. -/
theorem load_eq_store_load (steady : ∀ state, reader.formatIn state = format)
    (keeper : StoreKeeper σ α) (source : DeclarationSource) :
    (keeper.load reader source).1.store = (keeper.store.load format source).store ∧
      (keeper.load reader source).2 = (keeper.store.load format source).outcome := by
  have same := LineReader.load_fst steady keeper.parser (.ofLimit keeper.store.arena.limit) source
  unfold load Store.load
  rw [← same]
  cases reader.load keeper.parser (.ofLimit keeper.store.arena.limit) source with
  | mk loaded parser =>
      obtain ⟨loading, fault⟩ := loaded
      cases fault with
      | none => exact ⟨rfl, rfl⟩
      | some cause => exact ⟨rfl, rfl⟩

/-- What a load does, by its outcome. -/
theorem load_cases {keeper after : StoreKeeper σ α} {source : DeclarationSource}
    {outcome : Except LoadFault Nat} (loaded : keeper.load reader source = (after, outcome)) :
    (∃ fault, outcome = .error fault ∧ after.store = keeper.store ∧
      after.earlier = keeper.earlier) ∨
    (outcome = .ok after.store.size ∧
      after.earlier = keeper.earlier ++ keeper.store.arena.release :: keeper.later ∧
      after.later = []) := by
  unfold load at loaded
  split at loaded
  · obtain ⟨rfl, rfl⟩ := Prod.mk.inj loaded
    exact Or.inr ⟨rfl, rfl, rfl⟩
  · rename_i fault _ _
    obtain ⟨rfl, rfl⟩ := Prod.mk.inj loaded
    exact Or.inl ⟨fault, rfl, rfl, rfl⟩

/-! ## Runs -/

/-- What a store holds if a source stands at the end of its history, or none. -/
def Holds (format : DeclarationFormat α) (limit : Option Int)
    (store : Store α) : Option DeclarationSource → Prop
  | none => store = .ofLimit limit
  | some source =>
      store = ((Store.ofLimit limit).load format source).store ∧
        ∃ count, ((Store.ofLimit limit).load format source).outcome = .ok count

private theorem limit_of_holds {limit : Option Int} {store : Store α}
    {standing : Option DeclarationSource} (holds : Holds format limit store standing) :
    store.arena.limit = limit := by
  cases standing with
  | none =>
      rw [show store = .ofLimit limit from holds]
      rfl
  | some source =>
      rw [holds.1]
      exact Store.limit_load format (.ofLimit limit) source

private theorem close_of_limit_eq {store : Store α} {limit : Option Int}
    (isLimit : store.arena.limit = limit) :
    store.close = .ofLimit limit := by
  subst isLimit
  rfl

private theorem perform_loaded {keeper after : StoreKeeper σ α} {source : DeclarationSource}
    {count : Nat} (loaded : keeper.load reader source = (after, .ok count)) :
    keeper.perform reader (.load source) = (after, .loaded source count) := by
  rw [perform, loaded]

theorem perform_refused {keeper after : StoreKeeper σ α} {source : DeclarationSource}
    {fault : LoadFault} (refused : keeper.load reader source = (after, .error fault)) :
    keeper.perform reader (.load source) = (after, .refused source fault) := by
  rw [perform, refused]

/-- One step keeps a store to what its history says. -/
private theorem holds_perform (steady : ∀ state, reader.formatIn state = format)
    {keeper : StoreKeeper σ α} {limit : Option Int} {history : List StoreEvent}
    (holds : Holds format limit keeper.store (standingSource? history)) (step : StoreStep) :
    Holds format limit (keeper.perform reader step).1.store
      (standingSource? ((keeper.perform reader step).2 :: history)) := by
  have isLimit := limit_of_holds holds
  cases step with
  | load source =>
      obtain ⟨sameStore, sameOutcome⟩ := load_eq_store_load steady keeper source
      cases loaded : keeper.load reader source with
      | mk after outcome =>
          rw [loaded] at sameStore sameOutcome
          cases outcome with
          | ok count =>
              have asNew : keeper.store.arena.limit =
                  (Store.ofLimit limit : Store α).arena.limit := isLimit
              have new := Store.load_of_limit_eq format asNew sameOutcome.symm
              rw [perform_loaded loaded]
              exact ⟨sameStore.trans new.1, count, new.2⟩
          | error fault =>
              have unchanged : after.store = keeper.store :=
                sameStore.trans (Store.store_load_of_error format sameOutcome.symm)
              rw [perform_refused loaded]
              change Holds format limit after.store (standingSource? history)
              rw [unchanged]
              exact holds
  | close => exact close_of_limit_eq isLimit
  | leaveBlock => exact close_of_limit_eq isLimit

/-- After any steps a store holds what its history says. -/
theorem holds_run (steady : ∀ state, reader.formatIn state = format) (limit : Option Int)
    (parser : σ) (steps : List StoreStep) :
    Holds format limit ((new limit parser).run reader steps).1.store
      (standingSource? ((new limit parser).run reader steps).2) := by
  induction steps using List.reverseRecOn with
  | nil => rfl
  | append_singleton steps step inductionHypothesis =>
      rw [run_concat]
      exact holds_perform steady inductionHypothesis step

/-- A parser that follows one format in every state makes stores independent of their
history. -/
private theorem historyIndependent (steady : ∀ state, reader.formatIn state = format) :
    HistoryIndependent format reader where
  running := load_eq_store_load steady
  standing := by
    intro limit parser other steps source stands
    have holds := holds_run steady limit parser steps
    rw [stands] at holds
    obtain ⟨sameStore, count, isCount⟩ := holds
    have alone := load_eq_store_load steady (new limit other) source
    exact ⟨sameStore.trans alone.1.symm, count, alone.2.trans isCount⟩
  cleared := by
    intro limit parser steps stands
    have holds := holds_run steady limit parser steps
    rw [stands] at holds
    exact holds
  refused := by
    intro keeper after source fault loaded
    rcases load_cases loaded with ⟨_, _, sameStore, sameEarlier⟩ | ⟨granted, _⟩
    · exact ⟨sameStore, congrArg List.length sameEarlier⟩
    · contradiction
  replaced := by
    intro keeper after source count loaded
    rcases load_cases loaded with ⟨_, refused, _⟩ | ⟨granted, earlier, later⟩
    · contradiction
    · have isCount : count = after.store.size := by injection granted
      refine ⟨?_, ?_, ?_⟩
      · simp [ownPlace, arenas, earlier]
      · simp [ownPlace, arenas, earlier, Arena.release, Arena.ofLimit]
      · have distinct : after.store.table.names.Nodup := after.store.table.names_nodup
        rw [isCount, List.toFinset_card_of_nodup distinct]
        simp [Store.size, OrderedTable.size, OrderedTable.names]

end StoreKeeper

/-- Stores of constants and stores of types are independent of their history: loads
that fail, closes, and everything before the last load that succeeded leave no trace. -/
theorem store_history_independent :
    HistoryIndependent constantFormat constantReader ∧
      HistoryIndependent typeFormat typeReader := by
  constructor
  · exact StoreKeeper.historyIndependent formatIn_constantReader
  · exact StoreKeeper.historyIndependent fun _ => rfl

end ConstantCatalog
