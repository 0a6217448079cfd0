import ConstantCatalog.Declaration.Loading
import ConstantCatalog.Proofs.Arena
import ConstantCatalog.Proofs.OrderedTable

/-!
Contract: what a load makes of its lines.

A line that is passed over leaves table and arena as they are, so a load depends on
the other lines alone. It inserts what the accepted lines add, one after the other, and
charges all their copies. Without a limit on the arena it succeeds exactly when no line
spells a value that cannot be converted.

Owns: `Addition`, `LoadResult`, `Convertible`, the composition of loads, where the
entries of a table come from, what a load keeps of its arena, and the result of a load
whose charges are granted.

Does not own: which lines a format accepts.
-/

namespace ConstantCatalog

variable {α : Type}

/-- What an accepted line adds to a table, with the sizes its copies are charged
with. -/
structure Addition (α : Type) where
  name : String
  entry : α
  sizes : List Nat
deriving DecidableEq, Repr

def LineReading.addition? : LineReading α → Option (Addition α)
  | .accepted name entry sizes _ => some ⟨name, entry, sizes⟩
  | .skipped _ => none
  | .unconvertible _ => none

/-- The sizes that a line is charged with. -/
def LineReading.sizes : LineReading α → List Nat
  | .accepted _ _ sizes _ => sizes
  | .skipped _ => []
  | .unconvertible _ => []

/-- Whether a reading is of a line that is more than passed over. -/
def LineReading.matters : LineReading α → Bool
  | .skipped _ => false
  | .unconvertible _ => true
  | .accepted _ _ _ _ => true

/-- What a load leaves apart from its events. -/
structure LoadResult (α : Type) where
  table : OrderedTable α
  arena : Arena
  fault : Option LoadFault

def LoadResult.of (loaded : Loading α × Option LoadFault) : LoadResult α :=
  ⟨loaded.1.table, loaded.1.arena, loaded.2⟩

namespace DeclarationFormat

variable (format : DeclarationFormat α)

/-- Whether a line is more than passed over. -/
def matters (line : String) : Bool :=
  (format.readLine line).matters

def addition? (line : String) : Option (Addition α) :=
  (format.readLine line).addition?

def additions (lines : List String) : List (Addition α) :=
  lines.filterMap format.addition?

/-- Lines none of which spells a value that cannot be converted. -/
def Convertible (lines : List String) : Prop :=
  ∀ line ∈ lines, ∀ fault, format.readLine line ≠ .unconvertible fault

/-- Whether a line is passed over. -/
def Skips (line : String) : Prop :=
  ∃ events, format.readLine line = .skipped events

/-- What comes of a line: an entry, nothing, or a fault. -/
def outcome (arena : Arena) (line : String) : Except LoadFault (Option (String × α)) :=
  Admission.outcome <| format.admit arena line

/-! ## Admission -/

/-- A line leads to no entry and no fault exactly when it is passed over. -/
theorem outcome_eq_none_iff {arena : Arena} {line : String} :
    format.outcome arena line = .ok none ↔ format.Skips line := by
  unfold outcome DeclarationFormat.admit Skips
  cases format.readLine line with
  | skipped events => simp
  | unconvertible fault => simp
  | accepted name entry sizes events =>
      cases charged : arena.chargeAll sizes with
      | mk reached refusal => cases refusal <;> simp [charged]

theorem outcome_unlimited {arena : Arena} (unlimited : arena.limit = none) {line name : String}
    {entry : α} {sizes : List Nat} {events : List Event}
    (reading : format.readLine line = .accepted name entry sizes events) :
    format.outcome arena line = .ok (some (name, entry)) := by
  simp only [outcome, reading, DeclarationFormat.admit, Arena.chargeAll_unlimited unlimited]

/-- An entry comes of an accepted line whose charges are granted. -/
theorem readLine_of_outcome_eq_some {arena : Arena} {line name : String} {entry : α}
    (admitted : format.outcome arena line = .ok (some (name, entry))) :
    ∃ sizes events, format.readLine line = .accepted name entry sizes events ∧
      (arena.chargeAll sizes).2 = none := by
  unfold outcome DeclarationFormat.admit at admitted
  cases reading : format.readLine line with
  | skipped events => simp [reading] at admitted
  | unconvertible fault => simp [reading] at admitted
  | accepted key found sizes events =>
      rw [reading] at admitted
      cases charged : arena.chargeAll sizes with
      | mk reached refusal =>
          cases refusal with
          | none =>
              simp only [charged, Except.ok.injEq, Option.some.injEq, Prod.mk.injEq] at admitted
              obtain ⟨rfl, rfl⟩ := admitted
              exact ⟨sizes, events, rfl, by rw [charged]⟩
          | some cause => simp [charged] at admitted

/-- The arena after a line is the one that the sizes of the line are charged to. -/
private theorem arena_admit (arena : Arena) (line : String) :
    (Admission.arena <| format.admit arena line) =
      (arena.chargeAll (format.readLine line).sizes).1 := by
  unfold DeclarationFormat.admit
  cases format.readLine line with
  | skipped events => rfl
  | unconvertible fault => rfl
  | accepted name entry sizes events =>
      cases charged : arena.chargeAll sizes with
      | mk reached refusal => cases refusal <;> simp [charged, LineReading.sizes]

/-! ## Composition -/

/-- A load of more lines goes on where a load without fault has come to. -/
private theorem loadLines_append (loading : Loading α) (first second : List String) :
    format.loadLines loading (first ++ second) =
      match format.loadLines loading first with
      | (reached, none) => format.loadLines reached second
      | (reached, some fault) => (reached, some fault) := by
  induction first generalizing loading with
  | nil => rfl
  | cons line rest inductionHypothesis =>
      rw [List.cons_append, loadLines, loadLines]
      split
      · exact inductionHypothesis _
      · rfl

/-- Lines that are passed over have no part in the result, and neither have events
that came before. -/
private theorem loadLines_filter_matters {loading other : Loading α}
    (sameTable : loading.table = other.table) (sameArena : loading.arena = other.arena)
    (lines : List String) :
    LoadResult.of (format.loadLines loading lines) =
      LoadResult.of (format.loadLines other
        (lines.filter format.matters)) := by
  induction lines generalizing loading other with
  | nil => simp [loadLines, LoadResult.of, sameTable, sameArena]
  | cons line rest inductionHypothesis =>
      cases reading : format.readLine line with
      | skipped events =>
          have dropped : format.matters line = false := by
            rw [matters, reading]
            rfl
          rw [List.filter_cons_of_neg (by simp [dropped]), loadLines]
          simp only [reading, DeclarationFormat.admit]
          exact inductionHypothesis sameTable sameArena
      | unconvertible fault =>
          have kept : format.matters line = true := by
            rw [matters, reading]
            rfl
          rw [List.filter_cons_of_pos kept, loadLines, loadLines]
          simp only [reading, DeclarationFormat.admit]
          simp [LoadResult.of, Loading.advance, sameTable, sameArena]
      | accepted name entry sizes events =>
          have kept : format.matters line = true := by
            rw [matters, reading]
            rfl
          rw [List.filter_cons_of_pos kept, loadLines, loadLines]
          simp only [reading, sameArena, DeclarationFormat.admit]
          -- Both loads charge the same arena, so both are refused or neither is.
          cases charged : other.arena.chargeAll sizes with
          | mk arena refusal =>
              cases refusal with
              | none =>
                  exact inductionHypothesis
                    (by simp [Loading.advance, sameTable]) rfl
              | some cause =>
                  simp [LoadResult.of, Loading.advance, sameTable]

/-- The result of a load depends on the lines alone that are not passed over. -/
private theorem load_filter_matters (arena : Arena) (source : DeclarationSource) :
    LoadResult.of (format.load arena source) =
      LoadResult.of
        (format.loadLines (.start arena []) (source.lines.filter format.matters)) :=
  @loadLines_filter_matters α format (.start arena source.lineEvents)
    (.start arena []) rfl rfl source.lines

/-- Sources whose lines are the same but for lines that are passed over load
alike. -/
theorem load_eq_of_filter_matters_eq (arena : Arena) {left right : DeclarationSource}
    (same : left.lines.filter format.matters = right.lines.filter format.matters) :
    LoadResult.of (format.load arena left) = LoadResult.of (format.load arena right) := by
  rw [load_filter_matters, load_filter_matters, same]

/-! ## Entries -/

/-- One line inserts at most the entry that it is accepted with. -/
private theorem origin_of_mem_advance {loading : Loading α} {line name : String} {entry : α}
    (member :
      (name, entry) ∈ (loading.advance <| format.admit loading.arena line).table.entries) :
    (name, entry) ∈ loading.table.entries ∨
      ∃ sizes events, format.readLine line = .accepted name entry sizes events := by
  unfold Loading.advance at member
  dsimp only at member
  split at member
  · rename_i key added outcome
    rcases OrderedTable.mem_insert member with before | isNew
    · exact Or.inl before
    · obtain ⟨rfl, rfl⟩ := Prod.mk.inj isNew
      obtain ⟨sizes, events, reading, -⟩ := format.readLine_of_outcome_eq_some outcome
      exact Or.inr ⟨sizes, events, reading⟩
  · exact Or.inl member

/-- What a load holds was held before it or comes of a line that it accepted. -/
private theorem origin_of_mem_loadLines {loading : Loading α} {lines : List String} {name : String}
    {entry : α} (member : (name, entry) ∈ (format.loadLines loading lines).1.table.entries) :
    (name, entry) ∈ loading.table.entries ∨
      ∃ line ∈ lines, ∃ sizes events,
        format.readLine line = .accepted name entry sizes events := by
  induction lines generalizing loading with
  | nil => exact Or.inl member
  | cons line rest inductionHypothesis =>
      have afterLine :
          (name, entry) ∈ (loading.advance <| format.admit loading.arena line).table.entries ∨
            ∃ other ∈ rest, ∃ sizes events,
              format.readLine other = .accepted name entry sizes events := by
        rw [loadLines] at member
        split at member
        · exact inductionHypothesis member
        · exact Or.inl member
      rcases afterLine with advanced | ⟨other, inRest, found⟩
      · rcases format.origin_of_mem_advance advanced with before | found
        · exact Or.inl before
        · exact Or.inr ⟨line, List.mem_cons_self, found⟩
      · exact Or.inr ⟨other, List.mem_cons_of_mem _ inRest, found⟩

/-- What a load of a source holds comes of a line of the source. -/
theorem origin_of_mem_load {arena : Arena} {source : DeclarationSource} {name : String} {entry : α}
    (member : (name, entry) ∈ (format.load arena source).1.table.entries) :
    ∃ line ∈ source.lines, ∃ sizes events,
      format.readLine line = .accepted name entry sizes events := by
  rcases format.origin_of_mem_loadLines member with before | found
  · contradiction
  · exact found

/-! ## Arenas -/

/-- What charges keep of an arena is kept by a load. -/
theorem arena_loadLines {Kept : Arena → Prop}
    (charges : ∀ arena sizes, Kept arena → Kept (arena.chargeAll sizes).1) {loading : Loading α}
    (start : Kept loading.arena) (lines : List String) :
    Kept (format.loadLines loading lines).1.arena := by
  induction lines generalizing loading with
  | nil => exact start
  | cons line rest inductionHypothesis =>
      have advanced : Kept (loading.advance <| format.admit loading.arena line).arena := by
        rw [Loading.advance, format.arena_admit]
        exact charges _ _ start
      rw [loadLines]
      split
      · exact inductionHypothesis advanced
      · exact advanced

/-- A load leaves the limit of its arena as it is. -/
theorem limit_loadLines (loading : Loading α) (lines : List String) :
    (format.loadLines loading lines).1.arena.limit = loading.arena.limit := by
  have charges : ∀ (arena : Arena) (sizes : List Nat),
      arena.limit = loading.arena.limit →
        (arena.chargeAll sizes).1.limit = loading.arena.limit :=
    fun arena sizes same => (arena.limit_chargeAll sizes).trans same
  exact format.arena_loadLines charges rfl lines

/-! ## Faults -/

/-- A load stops at a value that cannot be converted exactly when a line spells one
and the lines before it load without fault. -/
theorem loadLines_unconvertible_iff (loading : Loading α) (lines : List String)
    (fault : ConversionFault) :
    (format.loadLines loading lines).2 = some (.unconvertible fault) ↔
      ∃ before line after, lines = before ++ line :: after ∧
        (format.loadLines loading before).2 = none ∧
        format.readLine line = .unconvertible fault := by
  constructor
  · intro stopped
    induction lines generalizing loading with
    | nil => simp [loadLines] at stopped
    | cons line rest inductionHypothesis =>
        rw [loadLines] at stopped
        split at stopped
        · rename_i added outcome
          obtain ⟨before, faulty, after, built, loaded, reading⟩ :=
            inductionHypothesis _ stopped
          refine ⟨line :: before, faulty, after, by rw [built, List.cons_append], ?_, reading⟩
          rw [loadLines, outcome]
          exact loaded
        · rename_i cause outcome
          refine ⟨[], line, rest, rfl, rfl, ?_⟩
          simp only [Option.some.injEq] at stopped
          subst stopped
          -- Only a value that cannot be converted makes an admission end so.
          unfold DeclarationFormat.admit at outcome
          split at outcome
          · simp at outcome
          · rename_i found reading
            simp only [Except.error.injEq, LoadFault.unconvertible.injEq] at outcome
            rw [reading, outcome]
          · split at outcome <;> simp at outcome
  · rintro ⟨before, line, after, built, loaded, reading⟩
    rw [built, loadLines_append]
    cases reached : format.loadLines loading before with
    | mk state outcome =>
        rw [reached] at loaded
        dsimp only at loaded
        subst loaded
        simp [loadLines, DeclarationFormat.admit, reading]

/-- A load that ends without fault has met no value that cannot be converted. -/
theorem convertible_of_loadLines {loading : Loading α} {lines : List String}
    (loaded : (format.loadLines loading lines).2 = none) :
    format.Convertible lines := by
  intro line member fault reading
  obtain ⟨before, after, built⟩ := List.append_of_mem member
  rw [built, loadLines_append] at loaded
  cases reached : format.loadLines loading before with
  | mk state outcome =>
      rw [reached] at loaded
      cases outcome with
      | none => simp [loadLines, DeclarationFormat.admit, reading] at loaded
      | some earlier => simp at loaded

/-! ## Grants -/

def chargesOf (added : List (Addition α)) : List Nat :=
  added.flatMap Addition.sizes

def entriesOf (added : List (Addition α)) : List (String × α) :=
  added.map fun addition => (addition.name, addition.entry)

/-- Where every value can be converted and all charges together are within the limit, the
accepted lines add their entries one after the other, and all their copies are charged. -/
theorem loadLines_granted {loading : Loading α} {lines : List String}
    (convertible : format.Convertible lines)
    (within :
      loading.arena.exceedsWith (chargesOf (format.additions lines)).sum = false) :
    LoadResult.of (format.loadLines loading lines) =
      { table := loading.table.insertAll (entriesOf (format.additions lines))
        arena := loading.arena.withBlocks (chargesOf (format.additions lines))
        fault := none } := by
  induction lines generalizing loading with
  | nil => simp [loadLines, additions, entriesOf, chargesOf, LoadResult.of]
  | cons line rest inductionHypothesis =>
      have restConvertible : format.Convertible rest :=
        fun other member => convertible other (List.mem_cons_of_mem _ member)
      rw [loadLines]
      cases reading : format.readLine line with
      | skipped events =>
          simp only [reading, DeclarationFormat.admit]
          have nothing : format.addition? line = none := by
            rw [addition?, reading]
            rfl
          rw [additions, List.filterMap_cons_none nothing] at within ⊢
          exact inductionHypothesis restConvertible within
      | unconvertible fault =>
          exact absurd reading (convertible line List.mem_cons_self fault)
      | accepted name entry sizes events =>
          have added : format.addition? line = some ⟨name, entry, sizes⟩ := by
            rw [addition?, reading]
            rfl
          rw [additions, List.filterMap_cons_some added, chargesOf, List.flatMap_cons,
            List.sum_append, Int.natCast_add] at within
          dsimp only at within
          have granted : loading.arena.exceedsWith sizes.sum = false :=
            Arena.exceedsWith_of_le (by omega) within
          simp only [reading, DeclarationFormat.admit, Arena.chargeAll_granted granted]
          rw [additions, List.filterMap_cons_some added]
          refine (inductionHypothesis restConvertible ?_).trans ?_
          · exact (Arena.exceedsWith_withBlocks _ _ _).trans within
          · simp [Loading.advance, entriesOf, chargesOf, Arena.withBlocks_append, additions]

/-- Whatever the limit, a load that ends without fault has added the entries of the
accepted lines one after the other. -/
theorem table_loadLines {loading : Loading α} {lines : List String}
    (loaded : (format.loadLines loading lines).2 = none) :
    (format.loadLines loading lines).1.table =
      loading.table.insertAll (entriesOf (format.additions lines)) := by
  induction lines generalizing loading with
  | nil => simp [loadLines, additions, entriesOf]
  | cons line rest inductionHypothesis =>
      rw [loadLines] at loaded ⊢
      cases reading : format.readLine line with
      | skipped events =>
          simp only [reading, DeclarationFormat.admit] at loaded ⊢
          have nothing : format.addition? line = none := by
            rw [addition?, reading]
            rfl
          rw [additions, List.filterMap_cons_none nothing]
          exact inductionHypothesis loaded
      | unconvertible fault => simp [reading, DeclarationFormat.admit] at loaded
      | accepted name entry sizes events =>
          have added : format.addition? line = some ⟨name, entry, sizes⟩ := by
            rw [addition?, reading]
            rfl
          cases charged : loading.arena.chargeAll sizes with
          | mk arena refusal =>
              cases refusal with
              | some cause => simp [reading, DeclarationFormat.admit, charged] at loaded
              | none =>
                  simp only [reading, DeclarationFormat.admit, charged] at loaded ⊢
                  have more : format.additions (line :: rest) =
                      ⟨name, entry, sizes⟩ :: format.additions rest :=
                    List.filterMap_cons_some added
                  rw [inductionHypothesis loaded, more]
                  simp [Loading.advance, entriesOf]

/-! ## Without a limit -/

/-- Without a limit every charge is granted. -/
theorem loadLines_unlimited {loading : Loading α} (unlimited : loading.arena.limit = none)
    {lines : List String} (convertible : format.Convertible lines) :
    LoadResult.of (format.loadLines loading lines) =
      { table := loading.table.insertAll (entriesOf (format.additions lines))
        arena := loading.arena.withBlocks (chargesOf (format.additions lines))
        fault := none } :=
  format.loadLines_granted convertible (Arena.exceedsWith_unlimited unlimited _)

/-- Without a limit nothing is exhausted. -/
theorem loadLines_unlimited_ne_exhausted {loading : Loading α}
    (unlimited : loading.arena.limit = none) (lines : List String) (cause : ArenaExhausted) :
    (format.loadLines loading lines).2 ≠ some (.exhausted cause) := by
  induction lines generalizing loading with
  | nil => simp [loadLines]
  | cons line rest inductionHypothesis =>
      rw [loadLines]
      cases reading : format.readLine line with
      | skipped events =>
          simp only [reading, DeclarationFormat.admit]
          exact inductionHypothesis (by exact unlimited)
      | unconvertible fault => simp [reading, DeclarationFormat.admit]
      | accepted name entry sizes events =>
          simp only [reading, DeclarationFormat.admit, Arena.chargeAll_unlimited unlimited]
          exact inductionHypothesis (by exact unlimited)

/-- Without a limit a load ends without fault exactly when every value can be
converted. -/
theorem loadLines_unlimited_eq_none_iff {loading : Loading α}
    (unlimited : loading.arena.limit = none) {lines : List String} :
    (format.loadLines loading lines).2 = none ↔ format.Convertible lines := by
  constructor
  · exact format.convertible_of_loadLines
  · intro convertible
    exact congrArg LoadResult.fault (format.loadLines_unlimited unlimited convertible)

end DeclarationFormat

end ConstantCatalog
