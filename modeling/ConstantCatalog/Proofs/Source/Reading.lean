import ConstantCatalog.Proofs.Source.Bytes
import ConstantCatalog.Source.Reading

/-!
Contract: the reading of files within a budget.

One byte more than the budget is asked of a file. If so many bytes come, the file is too
large, whatever they are; otherwise they are all that it has, and are decoded as a whole.
So a file has the text that its content encodes, or none. The only other thing that can
happen is that one byte more than the budget is more than can be asked for.

Owns: `readBounded`, `ReadsContent`, and what files and their readings have to do with
each other.

Does not own: what is loaded from a text.
-/

namespace ConstantCatalog

/-! ## Counts -/

/-- Whether so many bytes can be asked of a file: a buffer can be that long, and there is
memory for it. -/
def IsCountable (memoryBound count : Int) : Prop :=
  count < indexBound - bufferOverhead ∧ count < memoryBound

/-- Every count can be asked of a file but those that no buffer can have and those that there
is no memory for. -/
private theorem countFault?_eq_none_iff {memoryBound count : Int} (nonnegative : 0 ≤ count) :
    countFault? memoryBound count = none ↔ IsCountable memoryBound count := by
  have buffer : indexBound - bufferOverhead ≤ indexBound := by decide
  have negative : -indexBound ≤ 0 := by decide
  unfold countFault? IsCountable
  split
  · simp only [reduceCtorEq, false_iff]
    omega
  · split
    · omega
    · split
      · simp only [reduceCtorEq, false_iff]
        omega
      · split
        · simp only [reduceCtorEq, false_iff]
          omega
        · simp only [true_iff]
          omega

/-! ## Contents -/

/-- What comes of a content if one byte more than the budget is asked for, the bytes that
come are counted, and then they are decoded. -/
def readBounded (budget : Nat) (path : String) (content : ByteArray) : Except SourceFault String :=
  let data := content.extract 0 (budget + 1)
  if budget < data.size then .error (.unavailable path (.overBudget budget))
  else
    match String.fromUTF8? data with
    | some text => .ok text
    | none => .error (.unavailable path .notUtf8)

private theorem extract_eq_self {content : ByteArray} {budget : Nat}
    (fits : content.size ≤ budget) :
    content.extract 0 (budget + 1) = content := by
  apply ByteArray.ext
  rw [ByteArray.data_extract]
  apply Array.extract_eq_self_of_le
  show content.size ≤ budget + 1
  omega

private theorem size_extract_of_lt {content : ByteArray} {budget : Nat}
    (exceeds : budget < content.size) :
    (content.extract 0 (budget + 1)).size = budget + 1 := by
  rw [ByteArray.size_extract]
  omega

/-- What comes of a content within a budget. The cases exclude each other. -/
inductive ReadsContent (memoryBound : Int) (budget : Nat) (path : String)
    (content : ByteArray) : Except SourceFault String → Prop where
  | whole {text : String} (countable : IsCountable memoryBound (budget + 1))
      (fits : content.size ≤ budget) (encodes : text.toUTF8 = content) :
      ReadsContent memoryBound budget path content (.ok text)
  | tooLarge (countable : IsCountable memoryBound (budget + 1)) (exceeds : budget < content.size) :
      ReadsContent memoryBound budget path content (.error (.unavailable path (.overBudget budget)))
  | undecodable (countable : IsCountable memoryBound (budget + 1)) (fits : content.size ≤ budget)
      (foreign : ∀ text : String, text.toUTF8 ≠ content) :
      ReadsContent memoryBound budget path content (.error (.unavailable path .notUtf8))
  | uncountable {fault : CountFault} (refused : countFault? memoryBound (budget + 1) = some fault) :
      ReadsContent memoryBound budget path content (.error (.uncountable fault))

/-- The first bytes of a content decide as the whole of it does: a character that the
bound cuts is in a file that is too large anyway. -/
private theorem outcome_readContent {memoryBound : Int} {budget : Nat}
    (countable : countFault? memoryBound (budget + 1) = none) (path : String)
    (content : ByteArray) :
    (readContent memoryBound budget path content).outcome = readBounded budget path content := by
  rw [readContent, countable, readBounded]
  dsimp only
  by_cases fits : content.size ≤ budget
  · have within : ¬((budget : Int) < content.size) := by omega
    have withinBytes : ¬budget < content.size := by omega
    rw [extract_eq_self fits, if_neg within, if_neg withinBytes]
    cases String.fromUTF8? content with
    | none => rfl
    | some text => rfl
  · have exceeds : budget < content.size := by omega
    have exceedsCount : (budget : Int) < content.size := by omega
    rw [size_extract_of_lt exceeds, if_pos exceedsCount, if_pos (Nat.lt_succ_self budget)]
    rfl

private theorem readsContent_readBounded {memoryBound : Int} {budget : Nat}
    (countable : IsCountable memoryBound (budget + 1)) (path : String) (content : ByteArray) :
    ReadsContent memoryBound budget path content (readBounded budget path content) := by
  unfold readBounded
  dsimp only
  by_cases fits : content.size ≤ budget
  · rw [extract_eq_self fits, if_neg (by omega)]
    cases decoded : String.fromUTF8? content with
    | some text => exact .whole countable fits (fromUTF8?_eq_some_iff.1 decoded)
    | none =>
        refine .undecodable countable fits ?_
        intro text encodes
        rw [fromUTF8?_eq_some_iff.2 encodes] at decoded
        exact Option.some_ne_none text decoded
  · have exceeds : budget < content.size := by omega
    rw [size_extract_of_lt exceeds, if_pos (Nat.lt_succ_self budget)]
    exact .tooLarge countable exceeds

private theorem readsContent_readContent (memoryBound : Int) (budget : Nat) (path : String)
    (content : ByteArray) :
    ReadsContent memoryBound budget path content
      (readContent memoryBound budget path content).outcome := by
  cases refused : countFault? memoryBound (budget + 1) with
  | none =>
      have countable := (countFault?_eq_none_iff (by omega)).1 refused
      rw [outcome_readContent refused]
      exact readsContent_readBounded countable path content
  | some fault =>
      rw [readContent, refused]
      exact .uncountable refused

/-- A content within the budget is read as the text that it encodes. -/
theorem ReadsContent.eq_ok {memoryBound : Int} {budget : Nat} {path : String} {content : ByteArray}
    {outcome : Except SourceFault String}
    (reads : ReadsContent memoryBound budget path content outcome)
    (countable : IsCountable memoryBound (budget + 1)) (fits : content.size ≤ budget)
    {text : String} (encodes : text.toUTF8 = content) :
    outcome = .ok text := by
  cases reads with
  | whole _ _ found => rw [String.toByteArray_inj.1 (found.trans encodes.symm)]
  | tooLarge _ exceeds => omega
  | undecodable _ _ foreign => exact absurd encodes (foreign text)
  | uncountable refused =>
      rw [(countFault?_eq_none_iff (by omega)).2 countable] at refused
      exact absurd refused.symm (Option.some_ne_none _)

/-! ## Files -/

/-- A file that can be opened is used whole or not at all. -/
theorem readsContent_readFile {files : FileView} {path : SourcePath} {content : ByteArray}
    (named : '\x00' ∉ path.text.toList) (opened : files path = .ok content) (budget : Nat) :
    ReadsContent files.memoryBound budget path.text content
      (readFile files budget path).outcome := by
  have proper : path.text.toList.contains '\x00' = false := by
    rw [Bool.eq_false_iff]
    intro contains
    exact named (List.contains_iff_mem.1 contains)
  rw [readFile, proper, opened]
  exact readsContent_readContent files.memoryBound budget path.text content

/-- A text comes of a file whose content encodes it. -/
theorem encodes_of_readFile {files : FileView} {budget : Nat} {path : SourcePath} {text : String}
    (isRead : (readFile files budget path).outcome = .ok text) :
    files path = .ok text.toUTF8 := by
  unfold readFile at isRead
  split at isRead
  · contradiction
  · cases opened : files path with
    | error fault =>
        rw [opened] at isRead
        contradiction
    | ok content =>
        rw [opened] at isRead
        have reading := readsContent_readContent files.memoryBound budget path.text content
        dsimp only at isRead
        rw [isRead] at reading
        cases reading with
        | whole countable fits encodes => rw [encodes]

/-- The text of a source is the same for all budgets that it can be read within. -/
theorem text_eq_of_readSource {first second : FileView} {firstBudget secondBudget : Nat}
    {embedded : EmbeddedSource} {path : Option SourcePath} {firstText secondText : String}
    (sameFile : ∀ file, path = some file → first file = second file)
    (firstRead : (readSource first firstBudget embedded path).outcome = .ok firstText)
    (secondRead : (readSource second secondBudget embedded path).outcome = .ok secondText) :
    firstText = secondText := by
  cases path with
  | none =>
      have isFirst : embedded.text = firstText := Except.ok.inj firstRead
      have isSecond : embedded.text = secondText := Except.ok.inj secondRead
      rw [← isFirst, isSecond]
  | some file =>
      have firstFile := encodes_of_readFile firstRead
      have secondFile := encodes_of_readFile secondRead
      rw [sameFile file rfl, secondFile] at firstFile
      exact (String.toByteArray_inj.1 (Except.ok.inj firstFile)).symm

end ConstantCatalog
