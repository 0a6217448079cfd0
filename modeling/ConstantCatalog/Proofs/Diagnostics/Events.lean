import ConstantCatalog.Context
import ConstantCatalog.Proofs.Publication.Effect

/-!
Contract: how grave the events of work that succeeds are.

Lines that are passed over, loads, installations, and constants that keep their own kind
are reported as details. What is graver comes of a file that cannot be used or of a name
that is too long to be copied, so an installation that succeeds reports details alone, and
so does a publication without a limit on names.

Owns: `Event.IsDetail`, and the events of loads, installations and publications.

Does not own: which events are shown.
-/

namespace ConstantCatalog

variable {α β ε ε' : Type}

/-- Whether an event is below a warning. -/
def Event.IsDetail (event : Event) : Prop :=
  event.severity.atLeast .warning = false

instance (event : Event) : Decidable event.IsDetail :=
  inferInstanceAs (Decidable (_ = false))

/-! ## Loads -/

def LineReading.events : LineReading α → List Event
  | .skipped events => events
  | .unconvertible _ => []
  | .accepted _ _ _ events => events

namespace DeclarationFormat

variable {format : DeclarationFormat α}

/-- Whether a format reports what it reads and loads as details. -/
structure ReportsDetails (format : DeclarationFormat α) : Prop where
  line : ∀ line, ∀ event ∈ (format.readLine line).events, event.IsDetail
  loaded : ∀ count bytes, (format.loadedEvent count bytes).IsDetail

/-- The events of a line are those of its reading, or none. -/
private theorem events_admit_subset (arena : Arena) (line : String) :
    (Admission.events <| format.admit arena line) ⊆ (format.readLine line).events := by
  unfold DeclarationFormat.admit
  cases format.readLine line with
  | skipped events => exact List.Subset.refl _
  | unconvertible fault => exact List.Subset.refl _
  | accepted name entry sizes events =>
      dsimp only
      split
      · exact List.Subset.refl _
      · exact List.Subset.refl _

/-- A load that has reported details alone goes on so. -/
theorem ReportsDetails.loadLines (reports : format.ReportsDetails) {loading : Loading α}
    (start : ∀ event ∈ loading.events.toList, event.IsDetail) (lines : List String) :
    ∀ event ∈ (format.loadLines loading lines).1.events.toList, event.IsDetail := by
  induction lines generalizing loading with
  | nil => exact start
  | cons line rest inductionHypothesis =>
      have advanced :
          ∀ event ∈ (loading.advance <| format.admit loading.arena line).events.toList,
            event.IsDetail := by
        intro event member
        have either : event ∈ loading.events.toList ++
            (Admission.events <| format.admit loading.arena line) := by
          simpa [Loading.advance] using member
        rcases List.mem_append.1 either with before | ofLine
        · exact start event before
        · exact reports.line line event (events_admit_subset _ _ ofLine)
      rw [DeclarationFormat.loadLines]
      split
      · exact inductionHypothesis advanced
      · exact advanced

theorem ReportsDetails.load (reports : format.ReportsDetails) (arena : Arena)
    (source : DeclarationSource) :
    ∀ event ∈ (format.load arena source).1.events.toList, event.IsDetail := by
  apply reports.loadLines
  intro event member
  cases source with
  | text content => contradiction
  | bytes content =>
      have inLines : event ∈ (DeclarationSource.bytes content).lineEvents := by
        simpa [Loading.start] using member
      obtain ⟨line, -, rfl⟩ := List.mem_map.1 inLines
      rfl

end DeclarationFormat

private theorem constantFormat_reportsDetails : constantFormat.ReportsDetails where
  line := by
    intro line event member
    change event ∈ (readConstantLine line).events at member
    unfold readConstantLine at member
    split at member
    · contradiction
    · rw [List.mem_singleton.1 member]
      rfl
    · unfold readDeclaration at member
      split at member
      · contradiction
      · split at member
        · rw [List.mem_singleton.1 member]
          rfl
        · split at member
          · contradiction
          · rw [List.mem_singleton.1 member]
            rfl
          · contradiction
  loaded := fun _ _ => rfl

private theorem typeFormat_reportsDetails : typeFormat.ReportsDetails where
  line := by
    intro line event member
    change event ∈ (readTypeLine line).events at member
    unfold readTypeLine at member
    split at member
    · contradiction
    · rw [List.mem_singleton.1 member]
      rfl
    · dsimp only [LineReading.events] at member
      split at member
      · rw [List.mem_singleton.1 member]
        rfl
      · contradiction
  loaded := fun _ _ => rfl

/-! ## Installations -/

/-- Whether a success is reported as a matter of detail. -/
def Reported.SucceedsQuietly (reported : Reported ε α) : Prop :=
  ∀ value, reported.outcome = .ok value → ∀ event ∈ reported.events, event.IsDetail

namespace Reported.SucceedsQuietly

theorem done (value : α) : (Reported.done value : Reported ε α).SucceedsQuietly := by
  intro _ _ event member
  contradiction

theorem failed (events : List Event) (fault : ε) :
    (⟨events, .error fault⟩ : Reported ε α).SucceedsQuietly := by
  intro value isValue
  contradiction

theorem andThen {first : Reported ε α} {second : α → Reported ε β}
    (firstQuiet : first.SucceedsQuietly) (secondQuiet : ∀ value, (second value).SucceedsQuietly) :
    (first.andThen second).SucceedsQuietly := by
  intro result isResult event member
  unfold Reported.andThen at isResult member
  cases outcome : first.outcome with
  | error fault =>
      rw [outcome] at isResult
      contradiction
  | ok value =>
      rw [outcome] at isResult member
      rcases List.mem_append.1 member with inFirst | inSecond
      · exact firstQuiet value outcome event inFirst
      · exact secondQuiet value result isResult event inSecond

theorem mapFault {reported : Reported ε α} (quiet : reported.SucceedsQuietly) (wrap : ε → ε') :
    (reported.mapFault wrap).SucceedsQuietly := by
  intro value isValue event member
  cases outcome : reported.outcome with
  | error fault =>
      rw [Reported.mapFault, outcome] at isValue
      contradiction
  | ok found => exact quiet found outcome event member

end Reported.SucceedsQuietly

private theorem readContent_succeedsQuietly (memoryBound budget : Int) (path : String)
    (content : ByteArray) :
    (readContent memoryBound budget path content).SucceedsQuietly := by
  unfold readContent
  cases countFault? memoryBound (budget + 1) with
  | some fault => exact .failed _ _
  | none =>
      dsimp only
      by_cases exceeds : budget < content.size
      · rw [if_pos exceeds]
        exact .failed _ _
      · rw [if_neg exceeds]
        cases String.fromUTF8? content with
        | none => exact .failed _ _
        | some text => exact .done text

/-- A source that can be read is read without a word. -/
private theorem readSource_succeedsQuietly (files : FileView) (budget : Int)
    (embedded : EmbeddedSource) (path : Option SourcePath) :
    (readSource files budget embedded path).SucceedsQuietly := by
  cases path with
  | none => exact .done embedded.text
  | some path =>
      rw [readSource, readFile]
      by_cases null : path.text.toList.contains '\x00' = true
      · rw [if_pos null]
        exact .failed _ _
      · rw [if_neg null]
        cases files path with
        | error fault => exact .failed _ _
        | ok content => exact readContent_succeedsQuietly _ budget path.text content

theorem DeclarationFormat.ReportsDetails.loadStore {format : DeclarationFormat α}
    (reports : format.ReportsDetails) (limit : Option Int) (text : String) :
    (ConstantCatalog.loadStore format limit text).SucceedsQuietly := by
  intro store _ event member
  change event ∈ ((Store.ofLimit limit).load format (.text text)).events at member
  have details := reports.load (.ofLimit (Store.ofLimit limit : Store α).arena.limit) (.text text)
  unfold Store.load at member
  cases loaded : format.load (.ofLimit (Store.ofLimit limit : Store α).arena.limit)
      (.text text) with
  | mk loading fault =>
      rw [loaded] at member details
      cases fault with
      | some cause => exact details event member
      | none =>
          rcases List.mem_append.1 member with inLoad | isLoaded
          · exact details event inLoad
          · rw [List.mem_singleton.1 isLoaded]
            exact reports.loaded _ _

/-- An installation that succeeds reports details alone. -/
theorem Catalog.load_succeedsQuietly (files : FileView) (settings : Settings) :
    (Catalog.load files settings).SucceedsQuietly := by
  have typesRead : (readTypes files settings).SucceedsQuietly := by
    unfold readTypes
    cases settings.dialect with
    | lsl => exact .done none
    | slua =>
        apply Reported.SucceedsQuietly.andThen
        · exact (readSource_succeedsQuietly _ _ _ _).mapFault _
        · exact fun text => .done (some text)
  have typesLoaded : ∀ typesText, (loadTypes settings.arenaLimit typesText).SucceedsQuietly := by
    intro typesText
    cases typesText with
    | none => exact .done _
    | some text => exact typeFormat_reportsDetails.loadStore _ _
  unfold Catalog.load
  apply ((readSource_succeedsQuietly _ _ _ _).mapFault _).andThen
  intro constantsText
  apply typesRead.andThen
  intro typesText
  apply (constantFormat_reportsDetails.loadStore _ _).andThen
  intro constants
  apply (typesLoaded typesText).andThen
  intro types catalog _ event member
  rw [List.mem_singleton.1 member]
  rfl

/-! ## Catalogs -/

namespace Catalog

variable (catalog : Catalog)

/-- A constant that keeps its own kind is a detail. -/
private theorem isDetail_resolveConstant (constant : Constant) :
    ∀ event ∈ (catalog.resolveConstant constant).2, event.IsDetail := by
  unfold resolveConstant
  dsimp only
  split
  · simp
  · split
    · simp
    · intro event member
      rw [List.mem_singleton.1 member]
      rfl

theorem isDetail_resolve (name : String) :
    ∀ event ∈ (catalog.resolve name).2, event.IsDetail := by
  unfold resolve
  cases catalog.constants.get? name with
  | none => simp
  | some constant => exact catalog.isDetail_resolveConstant constant

/-- Where names can be of any length, publication has nothing to warn of. -/
theorem isDetail_publish (unlimited : catalog.nameLimit = none) (machine : GlobalTable) :
    ∀ event ∈ (catalog.publish machine).events.toList, event.IsDetail := by
  intro event member
  rw [publish_eq] at member
  obtain ⟨entry, -, ofEntry⟩ := List.mem_flatMap.1 member
  have fits : catalog.fits entry.1 = true := by rw [Catalog.fits, unlimited]
  rw [eventsOf, if_pos fits, List.append_nil] at ofEntry
  exact catalog.isDetail_resolveConstant entry.2 event ofEntry

end Catalog

end ConstantCatalog
