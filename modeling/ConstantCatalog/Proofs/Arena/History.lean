import ConstantCatalog.Number.Basic
import ConstantCatalog.Proofs.Arena

/-!
Contract: arenas in use, step after step and block inside block.

What is given to an arena comes back as it was given, or its size is refused by the
limit, and a refusal leaves the arena as it was. Uses follow one another up to the first
that raises. A block that an arena is opened for releases it at its end, however it ends,
and lets an exception through. So after every step the account holds the items that were
kept since the last release, and nothing else.

Owns: `ArenaItem` with its size, `ArenaUse`, `ArenaKeeper` with its history, and
`ArenaAccounted` with its proof for every use.

Does not own: which items a parser keeps.
-/

namespace ConstantCatalog

/-- What can be given to an arena: a text, a tuple of components, or an object that is
given with its size. -/
inductive ArenaItem (α : Type) where
  | text (content : String)
  | components (members : List α)
  | object (object : α) (size : Nat)
deriving DecidableEq, Repr

namespace ArenaItem

variable {α : Type}

/-- The bytes of an item: those of the characters of a text in UTF-8, four for each
component. -/
def size : ArenaItem α → Nat
  | .text content => (content.toList.map Char.utf8Size).sum
  | .components members => 4 * members.length
  | .object _ size => size

def chargeTo (arena : Arena) : ArenaItem α → Except ArenaExhausted Arena
  | .text content => arena.chargeText content
  | .components members => arena.chargeComponents members.length
  | .object _ size => arena.charge size

end ArenaItem

/-- Copies an item into an arena and answers with the copy. -/
def Arena.keep {α : Type} (arena : Arena)
    (item : ArenaItem α) : Arena × Except ArenaExhausted (ArenaItem α) :=
  match item.chargeTo arena with
  | .ok charged => (charged, .ok item)
  | .error exhausted => (arena, .error exhausted)

/-- How an arena can be used. What raises an exception ends all uses around it, up to
the next `attempt`. -/
inductive ArenaUse (α : Type) where
  | nothing
  | keep (item : ArenaItem α)
  | release
  | raise
  | andThen (first second : ArenaUse α)
  | block (body : ArenaUse α)
  | attempt (body : ArenaUse α)
deriving Repr

inductive ArenaEvent (α : Type) where
  | kept (item copy : ArenaItem α)
  | refused (item : ArenaItem α) (exhausted : ArenaExhausted)
  | released
  | leftBlock
deriving DecidableEq, Repr

/-- A step that was taken, with the arena after it. -/
structure ArenaMoment (α : Type) where
  event : ArenaEvent α
  arena : Arena
deriving DecidableEq, Repr

inductive UseEnding where
  | finished
  | raised
deriving DecidableEq, Repr

/-- An arena in use. The latest moment of its history stands first. -/
structure ArenaKeeper (α : Type) where
  arena : Arena
  history : List (ArenaMoment α)
deriving DecidableEq, Repr

namespace ArenaKeeper

variable {α : Type}

def new (limit : Option Int) : ArenaKeeper α := ⟨.ofLimit limit, []⟩

def record (keeper : ArenaKeeper α) (event : ArenaEvent α) (arena : Arena) : ArenaKeeper α :=
  ⟨arena, ⟨event, arena⟩ :: keeper.history⟩

def perform (keeper : ArenaKeeper α) : ArenaUse α → ArenaKeeper α × UseEnding
  | .nothing => (keeper, .finished)
  | .keep item =>
      match keeper.arena.keep item with
      | (arena, .ok copy) => (keeper.record (.kept item copy) arena, .finished)
      | (arena, .error exhausted) => (keeper.record (.refused item exhausted) arena, .raised)
  | .release => (keeper.record .released keeper.arena.release, .finished)
  | .raise => (keeper, .raised)
  | .andThen first second =>
      match keeper.perform first with
      | (reached, .finished) => reached.perform second
      | (reached, .raised) => (reached, .raised)
  | .block body =>
      match keeper.perform body with
      | (reached, ending) => (reached.record .leftBlock reached.arena.release, ending)
  | .attempt body => ((keeper.perform body).1, .finished)

end ArenaKeeper

section

variable {α : Type}

/-- The items that were kept since the last release. -/
def standingItems : List (ArenaMoment α) → List (ArenaItem α)
  | [] => []
  | ⟨.kept item _, _⟩ :: earlier => item :: standingItems earlier
  | ⟨.refused _ _, _⟩ :: earlier => standingItems earlier
  | ⟨.released, _⟩ :: _ => []
  | ⟨.leftBlock, _⟩ :: _ => []

def arenaAfter (limit : Option Int) : List (ArenaMoment α) → Arena
  | [] => .ofLimit limit
  | moment :: _ => moment.arena

/-- What an event says of the arenas before and after it. -/
def ArenaEvent.Between (before after : Arena) : ArenaEvent α → Prop
  | .kept item copy =>
      copy = item ∧
        ∀ limit, before.limit = some limit → before.used + item.size ≤ limit
  | .refused item exhausted =>
      after = before ∧
        before.limit = some exhausted.limit ∧ exhausted.used = before.used ∧
        exhausted.requested = item.size ∧ exhausted.limit < before.used + item.size
  | .released | .leftBlock => after.used = 0 ∧ after.blocks = 0

/-- Whether the arena after a history is the one that the history accounts for. -/
structure ArenaBalanced (limit : Option Int) (history : List (ArenaMoment α)) : Prop where
  limit_eq : (arenaAfter limit history).limit = limit
  used_eq :
    (arenaAfter limit history).used = ((standingItems history).map ArenaItem.size).sum
  blocks_eq : (arenaAfter limit history).blocks = (standingItems history).length
  within : ∀ bound, limit = some bound → 0 ≤ bound → (arenaAfter limit history).used ≤ bound
  latest :
    ∀ moment earlier, history = moment :: earlier →
      moment.event.Between (arenaAfter limit earlier) moment.arena

/-- What holds of an arena in use that was made with a limit. -/
structure ArenaAccounted (limit : Option Int) (keeper : ArenaKeeper α) : Prop where
  /-- Its history ends with the arena that is in use. -/
  current : keeper.arena = arenaAfter limit keeper.history
  /-- After every step the account is that of the history up to there. -/
  throughout : ∀ history, history <:+ keeper.history → ArenaBalanced limit history
  /-- An item is refused if and only if a limit is set that its size would exceed. -/
  refusal :
    ∀ item, (keeper.perform (.keep item)).2 = .raised ↔
      ∃ bound, limit = some bound ∧ bound < keeper.arena.used + item.size
  /-- A block leaves nothing, whatever was done in it, and ends as its body does. -/
  emptied :
    ∀ body, (keeper.perform (.block body)).1.arena = ⟨limit, 0, 0⟩ ∧
      (keeper.perform (.block body)).2 = (keeper.perform body).2

end

/-! ## Items -/

private theorem utf8ByteSize_ofList_eq_sum (characters : List Char) :
    (String.ofList characters).utf8ByteSize = (characters.map Char.utf8Size).sum := by
  induction characters with
  | nil => rfl
  | cons character rest inductionHypothesis =>
      rw [String.ofList_cons, String.utf8ByteSize_append, String.utf8ByteSize_singleton,
        inductionHypothesis, List.map_cons, List.sum_cons]

namespace Arena

variable {α : Type}

private theorem chargeTo_eq (arena : Arena) (item : ArenaItem α) :
    item.chargeTo arena = arena.charge item.size := by
  cases item with
  | text content =>
      have size := utf8ByteSize_ofList_eq_sum content.toList
      rw [String.ofList_toList] at size
      show arena.charge content.utf8ByteSize = _
      rw [size]
      rfl
  | components members => rfl
  | object object size => rfl

private theorem keep_granted {arena : Arena} {item : ArenaItem α}
    (within : arena.exceedsWith item.size = false) :
    arena.keep item = (arena.withBlocks [item.size], .ok item) := by
  rw [keep, chargeTo_eq, charge_granted within]

private theorem keep_refused {arena : Arena} {item : ArenaItem α}
    (beyond : arena.exceedsWith item.size = true) :
    arena.keep item = (arena, .error ⟨arena.limit.getD 0, arena.used, item.size⟩) := by
  rw [keep, chargeTo_eq, charge, if_pos beyond]

end Arena

/-! ## Steps -/

section

variable {α : Type} {limit : Option Int}

private theorem arenaBalanced_nil : ArenaBalanced limit ([] : List (ArenaMoment α)) where
  limit_eq := rfl
  used_eq := rfl
  blocks_eq := rfl
  within := by
    intro bound isLimit nonnegative
    exact nonnegative
  latest := by
    intro moment earlier isEarlier
    contradiction

/-- A granted item goes on the account that stood before. -/
theorem ArenaBalanced.kept {history : List (ArenaMoment α)} (balanced : ArenaBalanced limit history)
    {item : ArenaItem α} (within : (arenaAfter limit history).exceedsWith item.size = false) :
    ArenaBalanced limit
      (⟨.kept item item, (arenaAfter limit history).withBlocks [item.size]⟩ :: history) where
  limit_eq := balanced.limit_eq
  used_eq := by
    show (arenaAfter limit history).used + (([item.size].sum : Nat) : Int) =
      (((item :: standingItems history).map ArenaItem.size).sum : Nat)
    rw [balanced.used_eq, List.sum_singleton, List.map_cons, List.sum_cons]
    omega
  blocks_eq := by
    show (arenaAfter limit history).blocks + 1 = (item :: standingItems history).length
    rw [balanced.blocks_eq, List.length_cons]
  within := by
    intro bound isLimit nonnegative
    show (arenaAfter limit history).used + (([item.size].sum : Nat) : Int) ≤ bound
    rw [List.sum_singleton]
    apply Arena.exceedsWith_eq_false_iff.1 within
    rw [balanced.limit_eq, isLimit]
  latest := by
    intro moment earlier isEarlier
    obtain ⟨rfl, rfl⟩ := List.cons.inj isEarlier
    exact ⟨rfl, Arena.exceedsWith_eq_false_iff.1 within⟩

/-- A refused item changes nothing. -/
theorem ArenaBalanced.refused {history : List (ArenaMoment α)}
    (balanced : ArenaBalanced limit history) {item : ArenaItem α}
    (beyond : (arenaAfter limit history).exceedsWith item.size = true) :
    ArenaBalanced limit
      (⟨.refused item
          ⟨(arenaAfter limit history).limit.getD 0, (arenaAfter limit history).used, item.size⟩,
        arenaAfter limit history⟩ :: history) where
  limit_eq := balanced.limit_eq
  used_eq := balanced.used_eq
  blocks_eq := balanced.blocks_eq
  within := balanced.within
  latest := by
    intro moment earlier isEarlier
    obtain ⟨rfl, rfl⟩ := List.cons.inj isEarlier
    obtain ⟨bound, isLimit, exceeds⟩ := Arena.exceedsWith_eq_true_iff.1 beyond
    refine ⟨rfl, ?_, rfl, rfl, ?_⟩
    · simp [isLimit]
    · simpa [isLimit] using exceeds

/-- An event that gives everything back leaves an account of nothing. -/
theorem ArenaBalanced.emptied {history : List (ArenaMoment α)}
    (balanced : ArenaBalanced limit history) {event : ArenaEvent α}
    (emptying : event = .released ∨ event = .leftBlock) :
    ArenaBalanced limit (⟨event, (arenaAfter limit history).release⟩ :: history) where
  limit_eq := balanced.limit_eq
  used_eq := by
    cases emptying with
    | inl released => subst released; rfl
    | inr left => subst left; rfl
  blocks_eq := by
    cases emptying with
    | inl released => subst released; rfl
    | inr left => subst left; rfl
  within := by
    intro bound isLimit nonnegative
    exact nonnegative
  latest := by
    intro moment earlier isEarlier
    obtain ⟨rfl, rfl⟩ := List.cons.inj isEarlier
    cases emptying with
    | inl released => subst released; exact ⟨rfl, rfl⟩
    | inr left => subst left; exact ⟨rfl, rfl⟩

end

/-! ## Runs -/

namespace ArenaKeeper

variable {α : Type} {limit : Option Int}

/-- Whether the account of an arena in use is right now and was so at every step. -/
def Steady (limit : Option Int) (keeper : ArenaKeeper α) : Prop :=
  keeper.arena = arenaAfter limit keeper.history ∧
    ∀ history, history <:+ keeper.history → ArenaBalanced limit history

private theorem Steady.balanced {keeper : ArenaKeeper α}
    (steady : keeper.Steady limit) : ArenaBalanced limit keeper.history :=
  steady.2 keeper.history (List.suffix_refl _)

private theorem steady_new : (new limit : ArenaKeeper α).Steady limit := by
  refine ⟨rfl, ?_⟩
  intro history isSuffix
  rw [List.suffix_nil.1 isSuffix]
  exact arenaBalanced_nil

private theorem Steady.record {keeper : ArenaKeeper α} (steady : keeper.Steady limit)
    {event : ArenaEvent α} {arena : Arena}
    (balanced : ArenaBalanced limit (⟨event, arena⟩ :: keeper.history)) :
    (keeper.record event arena).Steady limit := by
  refine ⟨rfl, ?_⟩
  intro history isSuffix
  cases List.suffix_cons_iff.1 isSuffix with
  | inl whole =>
      rw [whole]
      exact balanced
  | inr earlier => exact steady.2 history earlier

theorem Steady.keep {keeper : ArenaKeeper α} (steady : keeper.Steady limit) (item : ArenaItem α) :
    (keeper.perform (.keep item)).1.Steady limit := by
  rw [perform]
  cases exceeds : keeper.arena.exceedsWith item.size with
  | false =>
      rw [Arena.keep_granted exceeds]
      apply steady.record
      rw [steady.1] at exceeds ⊢
      exact steady.balanced.kept exceeds
  | true =>
      rw [Arena.keep_refused exceeds]
      apply steady.record
      rw [steady.1] at exceeds ⊢
      exact steady.balanced.refused exceeds

theorem Steady.emptied {keeper : ArenaKeeper α} (steady : keeper.Steady limit)
    {event : ArenaEvent α} (emptying : event = .released ∨ event = .leftBlock) :
    (keeper.record event keeper.arena.release).Steady limit := by
  apply steady.record
  rw [steady.1]
  exact steady.balanced.emptied emptying

/-- What every step preserves, every use preserves, raise what it may. -/
theorem Steady.perform {keeper : ArenaKeeper α} (steady : keeper.Steady limit)
    (use : ArenaUse α) : (keeper.perform use).1.Steady limit := by
  induction use generalizing keeper with
  | nothing => exact steady
  | keep item => exact steady.keep item
  | release => exact steady.emptied (Or.inl rfl)
  | raise => exact steady
  | andThen first second firstSteady secondSteady =>
      have reachedSteady := firstSteady steady
      rw [ArenaKeeper.perform]
      cases performed : keeper.perform first with
      | mk reached ending =>
          rw [performed] at reachedSteady
          cases ending with
          | finished => exact secondSteady reachedSteady
          | raised => exact reachedSteady
  | block body bodySteady => exact (bodySteady steady).emptied (Or.inr rfl)
  | attempt body bodySteady => exact bodySteady steady

private theorem raised_keep_iff (keeper : ArenaKeeper α) (item : ArenaItem α) :
    (keeper.perform (.keep item)).2 = .raised ↔ keeper.arena.exceedsWith item.size = true := by
  rw [perform]
  cases exceeds : keeper.arena.exceedsWith item.size with
  | false => simp [Arena.keep_granted exceeds]
  | true => simp [Arena.keep_refused exceeds]

/-- A use never changes the limit. -/
private theorem Steady.limit_arena {keeper : ArenaKeeper α}
    (steady : keeper.Steady limit) : keeper.arena.limit = limit := by
  rw [steady.1]
  exact steady.balanced.limit_eq

end ArenaKeeper

/-- However a new arena is used, its account is that of the items kept since the last
release, within the limit, after every step. -/
theorem arena_accounted_throughout {α : Type} (limit : Option Int) (use : ArenaUse α) :
    ArenaAccounted limit ((ArenaKeeper.new limit).perform use).1 := by
  have steady : ((ArenaKeeper.new limit).perform use).1.Steady limit :=
    ArenaKeeper.steady_new.perform use
  refine ⟨steady.1, steady.2, ?_, ?_⟩
  · intro item
    rw [ArenaKeeper.raised_keep_iff, Arena.exceedsWith_eq_true_iff, steady.limit_arena]
  · intro body
    refine ⟨?_, rfl⟩
    show Arena.ofLimit (_ : Arena).limit = _
    rw [(steady.perform body).limit_arena]
    rfl

/-- Three bytes and two are more than four: the second text ends the block. -/
example :
    (ArenaKeeper.new (some 4)).perform
        (.block (.andThen (.keep (.text "abc")) (.keep (.text "é")))) =
      ((⟨⟨some 4, 0, 0⟩,
        [⟨.leftBlock, ⟨some 4, 0, 0⟩⟩,
          ⟨.refused (.text "é") ⟨4, 3, 2⟩, ⟨some 4, 3, 1⟩⟩,
          ⟨.kept (.text "abc") (.text "abc"), ⟨some 4, 3, 1⟩⟩]⟩ : ArenaKeeper Number),
        .raised) := by
  decide +kernel

end ConstantCatalog
