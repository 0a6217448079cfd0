import ConstantCatalog.Constant.Declaration
import ConstantCatalog.Overlay.Declaration
import ConstantCatalog.Proofs.Constant.Reading
import ConstantCatalog.Proofs.Declaration.Loading
import Mathlib.Algebra.BigOperators.Group.List.Defs

/-!
Contract: loads into an arena with a limit, compared with loads without one.

What the accepted lines of a source are charged with in all decides about every limit:
within it the load is the one without a limit, beyond it the load is refused. At no
moment is more than the limit on the account.

Owns: `Passes`, `ChargedWith`, `LimitTransparent` and its proof for every format, the
bytes and blocks of constants and of types.

Does not own: sources with values that cannot be converted.
-/

namespace ConstantCatalog

variable {α : Type}

namespace DeclarationFormat

variable (format : DeclarationFormat α)

/-- The moments of a load: some lines have been loaded, and of the line after them some
copies have been charged. -/
def Passes (arena : Arena) (source : DeclarationSource) (moment : Arena) : Prop :=
  ∃ before after charged,
    source.lines = before ++ after ∧
    (format.loadLines (.start arena source.lineEvents) before).2 = none ∧
    charged <+: after.head?.elim [] (fun line => (format.readLine line).sizes) ∧
    moment =
      ((format.loadLines (.start arena source.lineEvents) before).1.arena.chargeAll charged).1

/-- Whether the copies of every accepted entry come to the given bytes and blocks. -/
def ChargedWith (bytes blocks : String → α → Nat) : Prop :=
  ∀ line name entry sizes events,
    format.readLine line = .accepted name entry sizes events →
      sizes.sum = bytes name entry ∧ sizes.length = blocks name entry

end DeclarationFormat

/-- How loads keep to a limit in a format that charges an accepted entry with `bytes`
and counts `blocks` for it. -/
structure LimitTransparent (format : DeclarationFormat α)
    (bytes blocks : String → α → Nat) : Prop where
  /-- Every accepted line is charged, also one whose entry a later line replaces. -/
  charged :
    ∀ source, (format.load (.ofLimit none) source).2 = none →
      (format.load (.ofLimit none) source).1.arena =
        { limit := none
          used :=
            ((format.additions source.lines).map fun added =>
              bytes added.name added.entry).sum
          blocks :=
            ((format.additions source.lines).map fun added =>
              blocks added.name added.entry).sum }
  /-- A limit that is not exceeded in all has no part in the load. -/
  within :
    ∀ source (limit : Int), (format.load (.ofLimit none) source).2 = none →
      (format.load (.ofLimit none) source).1.arena.used ≤ limit →
      LoadResult.of (format.load (.ofLimit (some limit)) source) =
        { table := (format.load (.ofLimit none) source).1.table
          arena := { (format.load (.ofLimit none) source).1.arena with limit := some limit }
          fault := none }
  /-- A limit that is exceeded in all ends the load. -/
  beyond :
    ∀ source (limit : Int), 0 ≤ limit → (format.load (.ofLimit none) source).2 = none →
      limit < (format.load (.ofLimit none) source).1.arena.used →
      ∃ refusal, (format.load (.ofLimit (some limit)) source).2 = some (.exhausted refusal) ∧
        refusal.limit = limit ∧ refusal.ExceedsLimit
  /-- No moment of a load has more than the limit on the account. -/
  bounded :
    ∀ source (limit : Int) moment, 0 ≤ limit →
      format.Passes (.ofLimit (some limit)) source moment →
      moment.used ≤ limit

namespace DeclarationFormat

variable (format : DeclarationFormat α)

/-! ## Loads under a limit -/

/-- An arena within its limit stays within it through a load. -/
private theorem exceedsWith_loadLines {loading : Loading α}
    (start : loading.arena.exceedsWith 0 = false) (lines : List String) :
    (format.loadLines loading lines).1.arena.exceedsWith 0 = false := by
  have charges : ∀ (arena : Arena) (sizes : List Nat),
      arena.exceedsWith 0 = false → (arena.chargeAll sizes).1.exceedsWith 0 = false :=
    fun _ sizes within => Arena.exceedsWith_chargeAll within sizes
  exact format.arena_loadLines charges start lines

/-- Where every value can be converted and all charges together are beyond the limit, the
load is refused. -/
private theorem loadLines_refused {loading : Loading α} {lines : List String}
    (convertible : format.Convertible lines) (start : loading.arena.exceedsWith 0 = false)
    (beyond :
      loading.arena.exceedsWith (chargesOf (format.additions lines)).sum = true) :
    ∃ refusal, (format.loadLines loading lines).2 = some (.exhausted refusal) ∧
      loading.arena.limit = some refusal.limit ∧ refusal.ExceedsLimit := by
  induction lines generalizing loading with
  | nil =>
      change loading.arena.exceedsWith 0 = true at beyond
      rw [start] at beyond
      contradiction
  | cons line rest inductionHypothesis =>
      have restConvertible : format.Convertible rest :=
        fun other member => convertible other (List.mem_cons_of_mem _ member)
      rw [loadLines]
      cases reading : format.readLine line with
      | skipped events =>
          simp only [reading, DeclarationFormat.admit]
          have nothing : format.addition? line = none := by
            rw [addition?, reading]
            rfl
          rw [additions, List.filterMap_cons_none nothing] at beyond
          exact inductionHypothesis restConvertible start beyond
      | unconvertible fault =>
          exact absurd reading (convertible line List.mem_cons_self fault)
      | accepted name entry sizes events =>
          have added : format.addition? line = some ⟨name, entry, sizes⟩ := by
            rw [addition?, reading]
            rfl
          rw [additions, List.filterMap_cons_some added, chargesOf, List.flatMap_cons,
            List.sum_append, Int.natCast_add] at beyond
          dsimp only at beyond
          -- Either this line is refused already, or the rest is beyond what it leaves.
          cases exceeds : loading.arena.exceedsWith sizes.sum with
          | true =>
              obtain ⟨before, size, after, refusal, -, charged, isLimit, isExcess⟩ :=
                Arena.chargeAll_refused start exceeds
              simp only [reading, DeclarationFormat.admit, charged]
              exact ⟨refusal, rfl, isLimit, isExcess⟩
          | false =>
              simp only [reading, DeclarationFormat.admit, Arena.chargeAll_granted exceeds]
              apply inductionHypothesis restConvertible
              · change (loading.arena.withBlocks sizes).exceedsWith 0 = false
                rw [Arena.exceedsWith_withBlocks, Int.add_zero, exceeds]
              · exact (Arena.exceedsWith_withBlocks _ _ _).trans beyond

/-! ## Sources -/

/-- What a source loads into without a limit. -/
private theorem load_unlimited {source : DeclarationSource}
    (loaded : (format.load (.ofLimit none) source).2 = none) :
    LoadResult.of (format.load (.ofLimit none) source) =
      { table := .insertAll .empty (entriesOf (format.additions source.lines))
        arena := (Arena.ofLimit none).withBlocks
          (chargesOf (format.additions source.lines))
        fault := none } :=
  format.loadLines_unlimited rfl (format.convertible_of_loadLines loaded)

/-- The bytes on the account of a load without a limit. -/
private theorem used_load_unlimited {source : DeclarationSource}
    (loaded : (format.load (.ofLimit none) source).2 = none) :
    (format.load (.ofLimit none) source).1.arena.used =
      ((chargesOf (format.additions source.lines)).sum : Nat) := by
  have account := congrArg (fun result => result.arena.used) (format.load_unlimited loaded)
  exact account.trans (Int.zero_add _)

/-- A limit that is not exceeded in all has no part in the load. -/
private theorem load_within {source : DeclarationSource} {limit : Int}
    (loaded : (format.load (.ofLimit none) source).2 = none)
    (enough : (format.load (.ofLimit none) source).1.arena.used ≤ limit) :
    LoadResult.of (format.load (.ofLimit (some limit)) source) =
      { table := (format.load (.ofLimit none) source).1.table
        arena := { (format.load (.ofLimit none) source).1.arena with limit := some limit }
        fault := none } := by
  let start : Loading α := .start (.ofLimit (some limit)) source.lineEvents
  have granted : start.arena.exceedsWith
      (chargesOf (format.additions source.lines)).sum = false := by
    rw [format.used_load_unlimited loaded] at enough
    refine (Arena.exceedsWith_ofLimit limit _).trans ?_
    rw [decide_eq_false_iff_not]
    omega
  have unlimited := format.load_unlimited loaded
  have limited : LoadResult.of (format.load (.ofLimit (some limit)) source) = _ :=
    format.loadLines_granted (format.convertible_of_loadLines loaded) granted
  have table := congrArg LoadResult.table unlimited
  have arena := congrArg LoadResult.arena unlimited
  change (format.load (.ofLimit none) source).1.table = _ at table
  change (format.load (.ofLimit none) source).1.arena = _ at arena
  rw [limited, table, arena]
  rfl

/-- A load into a new arena starts within its limit. -/
private theorem exceedsWith_start {limit : Int} (nonnegative : 0 ≤ limit) (events : List Event) :
    (Loading.start (.ofLimit (some limit)) events : Loading α).arena.exceedsWith 0 =
      false := by
  refine (Arena.exceedsWith_ofLimit limit 0).trans ?_
  rw [decide_eq_false_iff_not]
  omega

/-- A limit that is exceeded in all ends the load. -/
private theorem load_beyond {source : DeclarationSource} {limit : Int} (nonnegative : 0 ≤ limit)
    (loaded : (format.load (.ofLimit none) source).2 = none)
    (tooMuch : limit < (format.load (.ofLimit none) source).1.arena.used) :
    ∃ refusal, (format.load (.ofLimit (some limit)) source).2 = some (.exhausted refusal) ∧
      refusal.limit = limit ∧ refusal.ExceedsLimit := by
  have start := exceedsWith_start (α := α) nonnegative source.lineEvents
  have beyond :
      (Loading.start (.ofLimit (some limit)) source.lineEvents : Loading α).arena.exceedsWith
        (chargesOf (format.additions source.lines)).sum = true := by
    rw [format.used_load_unlimited loaded] at tooMuch
    refine (Arena.exceedsWith_ofLimit limit _).trans ?_
    rw [decide_eq_true_iff]
    exact tooMuch
  obtain ⟨refusal, refused, isLimit, isExcess⟩ :=
    format.loadLines_refused (format.convertible_of_loadLines loaded) start beyond
  exact ⟨refusal, refused, (Option.some.inj isLimit).symm, isExcess⟩

/-- No moment of a load has more than the limit on the account. -/
private theorem used_le_of_passes {source : DeclarationSource} {limit : Int} {moment : Arena}
    (nonnegative : 0 ≤ limit) (passes : format.Passes (.ofLimit (some limit)) source moment) :
    moment.used ≤ limit := by
  obtain ⟨before, after, charged, -, -, -, rfl⟩ := passes
  have start := exceedsWith_start (α := α) nonnegative source.lineEvents
  have reached := format.exceedsWith_loadLines start before
  have held := Arena.exceedsWith_chargeAll reached charged
  have isLimit := (Arena.limit_chargeAll _ charged).trans
    (format.limit_loadLines (.start (.ofLimit (some limit)) source.lineEvents) before)
  have bound := Arena.exceedsWith_eq_false_iff.1 held limit isLimit
  rwa [Int.add_zero] at bound

/-! ## Accounts -/

variable {format} {bytes blocks : String → α → Nat}

private theorem ChargedWith.of_mem_additions (charges : format.ChargedWith bytes blocks)
    {lines : List String} {added : Addition α} (member : added ∈ format.additions lines) :
    added.sizes.sum = bytes added.name added.entry ∧
      added.sizes.length = blocks added.name added.entry := by
  obtain ⟨line, -, isAddition⟩ := List.mem_filterMap.1 member
  unfold addition? at isAddition
  cases reading : format.readLine line with
  | skipped events => simp [reading, LineReading.addition?] at isAddition
  | unconvertible fault => simp [reading, LineReading.addition?] at isAddition
  | accepted name entry sizes events =>
      rw [reading] at isAddition
      obtain rfl := Option.some.inj isAddition
      exact charges line name entry sizes events reading

private theorem ChargedWith.sum_charges (charges : format.ChargedWith bytes blocks)
    (lines : List String) :
    (chargesOf (format.additions lines)).sum =
      ((format.additions lines).map fun added => bytes added.name added.entry).sum := by
  rw [chargesOf, List.flatMap_def, List.sum_flatten, List.map_map]
  congr 1
  exact List.map_congr_left fun added member => (charges.of_mem_additions member).1

private theorem ChargedWith.length_charges (charges : format.ChargedWith bytes blocks)
    (lines : List String) :
    (chargesOf (format.additions lines)).length =
      ((format.additions lines).map fun added => blocks added.name added.entry).sum := by
  rw [chargesOf, List.length_flatMap]
  congr 1
  exact List.map_congr_left fun added member => (charges.of_mem_additions member).2

/-- A format that charges its entries as said keeps to limits. -/
private theorem ChargedWith.limitTransparent (charges : format.ChargedWith bytes blocks) :
    LimitTransparent format bytes blocks where
  charged := by
    intro source loaded
    have account := congrArg LoadResult.arena (format.load_unlimited loaded)
    refine account.trans ?_
    simp [Arena.withBlocks, Arena.ofLimit, charges.sum_charges, charges.length_charges]
  within := fun _ _ => format.load_within
  beyond := fun _ _ => format.load_beyond
  bounded := fun _ _ _ => format.used_le_of_passes

end DeclarationFormat

/-! ## Constants and types -/

/-- The bytes that the value of a constant is charged with: texts by their encoding, four
for each component, none for a number. -/
def ConstantValue.byteCount : ConstantValue → Nat
  | .string text | .key text => text.utf8ByteSize
  | .vector _ => 12
  | .quaternion _ => 16
  | .integer _ | .float _ | .null | .list | .error => 0

/-- The blocks that the value of a constant takes: one, and none for a number. -/
def ConstantValue.blockCount : ConstantValue → Nat
  | .string _ | .key _ | .vector _ | .quaternion _ => 1
  | .integer _ | .float _ | .null | .list | .error => 0

private theorem Constant.sum_copySizes (constant : Constant) :
    constant.copySizes.sum = constant.name.utf8ByteSize + constant.value.byteCount := by
  obtain ⟨name, value⟩ := constant
  cases value <;>
    simp [copySizes, ConstantValue.copySizes, ConstantValue.byteCount, componentSize,
      Vector3.components, Rotation.components, Nat.add_comm]

private theorem Constant.length_copySizes (constant : Constant) :
    constant.copySizes.length = 1 + constant.value.blockCount := by
  obtain ⟨name, value⟩ := constant
  cases value <;> rfl

/-- Loads of constants and of types keep to limits. A constant is charged with its name
and its value, a type with its name alone. -/
theorem limit_transparent_exact :
    LimitTransparent constantFormat
        (fun name constant => name.utf8ByteSize + constant.value.byteCount)
        (fun _ constant => 1 + constant.value.blockCount) ∧
      LimitTransparent typeFormat
        (fun name _ => name.utf8ByteSize)
        (fun _ _ => 1) := by
  constructor
  · apply DeclarationFormat.ChargedWith.limitTransparent
    intro line name constant sizes events accepted
    obtain ⟨opening, keyword, nameText, after, -, declared⟩ :=
      (readConstantLine_eq_iff (by simp)).1 accepted
    obtain ⟨-, kind, found, -, -, rfl, rfl, rfl, -⟩ :=
      readDeclaration_eq_accepted_iff.1 declared
    exact ⟨Constant.sum_copySizes _, Constant.length_copySizes _⟩
  · apply DeclarationFormat.ChargedWith.limitTransparent
    intro line name declared sizes events accepted
    change readTypeLine line = _ at accepted
    unfold readTypeLine at accepted
    split at accepted
    · contradiction
    · contradiction
    · obtain ⟨rfl, -, rfl, -⟩ := LineReading.accepted.inj accepted
      exact ⟨List.sum_singleton, rfl⟩

end ConstantCatalog
