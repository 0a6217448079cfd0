import ConstantCatalog.Proofs.Declaration.Concatenation
import ConstantCatalog.Proofs.Source.Bytes

/-!
Contract: sources of bytes, compared with sources of text.

No character but a line break has the byte of a line break in its encoding, so a text and
its encoding have the same lines and load alike. The lines of any bytes are those of their
segments between line breaks that encode a text; a segment that encodes none stands for
itself alone, and another such segment or an empty one in its place changes nothing that
is loaded.

Owns: `ByteSegments`, `DecodedLines`, `LoadsBytesAsText` and its proof for every format
that passes over empty lines.

Does not own: sources that have to be valid as a whole.
-/

namespace ConstantCatalog

variable {σ α : Type}

/-! ## Segments -/

/-- Segments of bytes, each but the first with the byte in front of it. -/
structure ByteSegments where
  first : List UInt8
  others : List (UInt8 × List UInt8)

namespace ByteSegments

/-- The bytes that the segments are taken from. -/
def bytes (cut : ByteSegments) : List UInt8 :=
  cut.first ++ cut.others.flatMap fun (between, segment) => between :: segment

def segments (cut : ByteSegments) : List (List UInt8) :=
  cut.first :: cut.others.map Prod.snd

/-- Whether the bytes between segments, and no others, are line breaks. -/
structure IsCutAtLineBreaks (cut : ByteSegments) : Prop where
  breaks : ∀ other ∈ cut.others, isLineBreakByte other.1 = true
  unbroken : ∀ segment ∈ cut.segments, ∀ byte ∈ segment, isLineBreakByte byte = false

/-- The lines of bytes before decoding are their segments. -/
private theorem pieces_bytes {cut : ByteSegments} (isCut : cut.IsCutAtLineBreaks) :
    pieces isLineBreakByte cut.bytes = cut.segments := by
  obtain ⟨first, others⟩ := cut
  obtain ⟨breaks, unbroken⟩ := isCut
  have firstPlain := unbroken first List.mem_cons_self
  induction others generalizing first with
  | nil =>
      change pieces isLineBreakByte (first ++ []) = [first]
      rw [List.append_nil, pieces_eq_singleton firstPlain]
  | cons other rest inductionHypothesis =>
      obtain ⟨between, segment⟩ := other
      have separates := breaks (between, segment) List.mem_cons_self
      have restBreaks : ∀ later ∈ rest, isLineBreakByte later.1 = true :=
        fun later member => breaks later (List.mem_cons_of_mem _ member)
      have restPlain : ∀ later ∈ segment :: rest.map Prod.snd, ∀ byte ∈ later,
          isLineBreakByte byte = false :=
        fun later member => unbroken later (List.mem_cons_of_mem first member)
      have restPieces := inductionHypothesis segment restBreaks restPlain
        (restPlain segment List.mem_cons_self)
      change pieces isLineBreakByte (first ++ between :: bytes ⟨segment, rest⟩) = _
      rw [pieces_append_cons separates, pieces_eq_singleton firstPlain, restPieces]
      rfl

/-- All bytes can be cut at their line breaks. -/
private theorem exists_cut (content : List UInt8) :
    ∃ cut : ByteSegments, cut.bytes = content ∧ cut.IsCutAtLineBreaks := by
  induction content with
  | nil => exact ⟨⟨[], []⟩, rfl, by simp, by simp [segments]⟩
  | cons byte rest inductionHypothesis =>
      obtain ⟨⟨first, others⟩, rfl, breaks, unbroken⟩ := inductionHypothesis
      cases isBreak : isLineBreakByte byte with
      | true =>
          refine ⟨⟨[], (byte, first) :: others⟩, rfl, ?_, ?_⟩
          · intro other member
            rcases List.mem_cons.1 member with rfl | inOthers
            · exact isBreak
            · exact breaks other inOthers
          · intro segment member
            rcases List.mem_cons.1 member with rfl | inSegments
            · simp
            · exact unbroken segment inSegments
      | false =>
          refine ⟨⟨byte :: first, others⟩, rfl, breaks, ?_⟩
          intro segment member
          rcases List.mem_cons.1 member with rfl | inOthers
          · intro other isByte
            rcases List.mem_cons.1 isByte with rfl | inFirst
            · exact isBreak
            · exact unbroken first List.mem_cons_self other inFirst
          · exact unbroken segment (List.mem_cons_of_mem first inOthers)

end ByteSegments

/-- Bytes that are the encoding of no text. -/
def Undecodable (bytes : List UInt8) : Prop :=
  ∀ text : String, text.toUTF8.data.toList ≠ bytes

private theorem undecodable_iff {bytes : List UInt8} :
    Undecodable bytes ↔ decodeUtf8? bytes = none := by
  rw [Option.eq_none_iff_forall_ne_some]
  exact forall_congr' fun text => not_congr decodeUtf8?_eq_some_iff.symm

/-- The lines that segments stand for: the text of each segment that encodes one, in
order, and nothing for the others. -/
inductive DecodedLines : List (List UInt8) → List String → Prop where
  | nil : DecodedLines [] []
  | decoded {segments : List (List UInt8)} {lines : List String} (text : String)
      (others : DecodedLines segments lines) :
      DecodedLines (text.toUTF8.data.toList :: segments) (text :: lines)
  | dropped {segment : List UInt8} {segments : List (List UInt8)} {lines : List String}
      (undecodable : Undecodable segment) (others : DecodedLines segments lines) :
      DecodedLines (segment :: segments) lines

private theorem decodedLines_filterMap (segments : List (List UInt8)) :
    DecodedLines segments (segments.filterMap decodeUtf8?) := by
  induction segments with
  | nil => exact .nil
  | cons segment rest inductionHypothesis =>
      cases decoded : decodeUtf8? segment with
      | none =>
          rw [List.filterMap_cons_none decoded]
          exact .dropped (undecodable_iff.2 decoded) inductionHypothesis
      | some text =>
          rw [List.filterMap_cons_some decoded]
          obtain rfl := decodeUtf8?_eq_some_iff.1 decoded
          exact .decoded text inductionHypothesis

/-! ## Encoded texts -/

/-- The lines of an encoded text, before decoding, are the encoded lines of the text. -/
private theorem byteLines_toUTF8 (text : String) :
    byteLines text.toUTF8 =
      (pieces isLineBreak text.toList).map (List.flatMap String.utf8EncodeChar) := by
  rw [byteLines, toList_toUTF8]
  exact pieces_flatMap (fun _ => exists_utf8EncodeChar_of_isLineBreak)
    (fun _ => isLineBreakByte_of_mem_utf8EncodeChar) text.toList

private theorem decodeUtf8?_flatMap (characters : List Char) :
    decodeUtf8? (characters.flatMap String.utf8EncodeChar) =
      some (String.ofList characters) := by
  rw [decodeUtf8?_eq_some_iff, toList_toUTF8, String.toList_ofList]

/-- A text has the lines of its encoding. -/
private theorem lines_toUTF8 (text : String) :
    (DeclarationSource.bytes text.toUTF8).lines = (DeclarationSource.text text).lines := by
  change (byteLines text.toUTF8).filterMap decodeUtf8? = textLines text
  have decoded : decodeUtf8? ∘ List.flatMap String.utf8EncodeChar = some ∘ String.ofList :=
    funext decodeUtf8?_flatMap
  rw [byteLines_toUTF8, List.filterMap_map, decoded, List.filterMap_eq_map]
  rfl

/-- No line of an encoded text is left out. -/
private theorem lineEvents_toUTF8 (text : String) :
    (DeclarationSource.bytes text.toUTF8).lineEvents = [] := by
  change ((byteLines text.toUTF8).filter fun line => (decodeUtf8? line).isNone).map _ = []
  rw [byteLines_toUTF8, List.map_eq_nil_iff, List.filter_eq_nil_iff]
  intro line member
  obtain ⟨characters, -, rfl⟩ := List.mem_map.1 member
  simp [decodeUtf8?_flatMap]

/-! ## Segments in their surroundings -/

/-- Bytes between which a segment stands on its own: those before it end in a line break,
and those after it begin with one, where there are any. -/
def Delimits (before after : List UInt8) : Prop :=
  (∀ byte ∈ before.getLast?, isLineBreakByte byte = true) ∧
    ∀ byte ∈ after.head?, isLineBreakByte byte = true

/-- The segments around one that stands on its own do not depend on it. -/
private theorem exists_surroundings {before after : List UInt8} (delimits : Delimits before after) :
    ∃ front back, ∀ segment, (∀ byte ∈ segment, isLineBreakByte byte = false) →
      pieces isLineBreakByte (before ++ segment ++ after) = front ++ segment :: back := by
  obtain ⟨endsLine, beginsLine⟩ := delimits
  -- The line break before a segment, and so the end of the segments in front of it.
  have inFront : ∃ front, ∀ rest,
      pieces isLineBreakByte (before ++ rest) = front ++ pieces isLineBreakByte rest := by
    rcases List.eq_nil_or_concat before with rfl | ⟨initial, last, rfl⟩
    · exact ⟨[], fun rest => rfl⟩
    · refine ⟨pieces isLineBreakByte initial, fun rest => ?_⟩
      have separates := endsLine last (by simp)
      rw [List.concat_append, pieces_append_cons separates]
  obtain ⟨front, frontPieces⟩ := inFront
  cases after with
  | nil =>
      refine ⟨front, [], fun segment plain => ?_⟩
      rw [List.append_nil, frontPieces, pieces_eq_singleton plain]
  | cons first rest =>
      refine ⟨front, pieces isLineBreakByte rest, fun segment plain => ?_⟩
      rw [List.append_assoc, frontPieces, pieces_append_cons (beginsLine first rfl),
        pieces_eq_singleton plain]
      rfl

/-! ## Loads -/

/-- A source of the given bytes. -/
def DeclarationSource.ofBytes (bytes : List UInt8) : DeclarationSource :=
  .bytes ⟨bytes.toArray⟩

/-- How loads treat bytes, compared with texts. `load` gets the state that its parser was
left in, an arena, and a source. -/
structure LoadsBytesAsText
    (load : σ → Arena → DeclarationSource → Loading α × Option LoadFault) : Prop where
  /-- A text and its encoding load alike. -/
  encoded :
    ∀ (kept keptOther : σ) (arena : Arena) (text : String),
      load kept arena (.bytes text.toUTF8) = load keptOther arena (.text text)
  /-- A segment that encodes no text may be any other such segment, or be empty. -/
  isolated :
    ∀ (kept keptOther : σ) (arena : Arena) (before segment other after : List UInt8),
      Delimits before after →
      (∀ byte ∈ segment ++ other, isLineBreakByte byte = false) →
      Undecodable segment →
      Undecodable other ∨ other = [] →
      LoadResult.of (load kept arena (.ofBytes (before ++ segment ++ after))) =
        LoadResult.of (load keptOther arena (.ofBytes (before ++ other ++ after)))

namespace DeclarationFormat

variable (format : DeclarationFormat α)

theorem load_toUTF8 (arena : Arena) (text : String) :
    format.load arena (.bytes text.toUTF8) = format.load arena (.text text) := by
  rw [load, load, lines_toUTF8, lineEvents_toUTF8]
  rfl

/-- A segment that encodes no text adds nothing to a load, and neither does an empty
one. -/
private theorem filter_matters_segment (skipsEmpty : format.Skips "") {segment : List UInt8}
    (idle : Undecodable segment ∨ segment = []) :
    (decodeUtf8? segment).toList.filter format.matters = [] := by
  rcases idle with undecodable | rfl
  · rw [undecodable_iff.1 undecodable]
    rfl
  · have empty : decodeUtf8? [] = some "" := decodeUtf8?_flatMap []
    rw [empty]
    simp [format.matters_eq_false skipsEmpty]

private theorem load_segment (skipsEmpty : format.Skips "") (arena : Arena)
    {before segment other after : List UInt8} (delimits : Delimits before after)
    (unbroken : ∀ byte ∈ segment ++ other, isLineBreakByte byte = false)
    (idle : Undecodable segment ∨ segment = []) (otherIdle : Undecodable other ∨ other = []) :
    LoadResult.of (format.load arena (.ofBytes (before ++ segment ++ after))) =
      LoadResult.of (format.load arena (.ofBytes (before ++ other ++ after))) := by
  obtain ⟨front, back, surrounds⟩ := exists_surroundings delimits
  have mattering : ∀ middle, (∀ byte ∈ middle, isLineBreakByte byte = false) →
      Undecodable middle ∨ middle = [] →
      (DeclarationSource.ofBytes (before ++ middle ++ after)).lines.filter format.matters =
        (front.filterMap decodeUtf8? ++ back.filterMap decodeUtf8?).filter format.matters := by
    intro middle plain middleIdle
    change ((pieces isLineBreakByte (before ++ middle ++ after)).filterMap decodeUtf8?).filter
      format.matters = _
    have single : [middle].filterMap decodeUtf8? = (decodeUtf8? middle).toList := by
      cases decoded : decodeUtf8? middle <;> simp [decoded]
    rw [surrounds middle plain, ← List.singleton_append, List.filterMap_append,
      List.filterMap_append, single, List.filter_append, List.filter_append,
      format.filter_matters_segment skipsEmpty middleIdle, List.nil_append, List.filter_append]
  have segmentPlain : ∀ byte ∈ segment, isLineBreakByte byte = false :=
    fun byte member => unbroken byte (List.mem_append_left _ member)
  have otherPlain : ∀ byte ∈ other, isLineBreakByte byte = false :=
    fun byte member => unbroken byte (List.mem_append_right _ member)
  apply format.load_eq_of_filter_matters_eq
  rw [mattering segment segmentPlain idle, mattering other otherPlain otherIdle]

/-- A parser that follows a format in every state loads bytes as texts, if the format
passes over empty lines. -/
private theorem loadsBytesAsText {reader : LineReader σ α}
    (steady : ∀ state, reader.formatIn state = format) (skipsEmpty : format.Skips "") :
    LoadsBytesAsText fun kept arena source => (reader.load kept arena source).1 := by
  simp only [LineReader.load_fst steady]
  exact
    { encoded := fun _ _ arena text => format.load_toUTF8 arena text
      isolated := fun _ _ arena _ _ _ _ delimits unbroken undecodable otherIdle =>
        format.load_segment skipsEmpty arena delimits unbroken (Or.inl undecodable) otherIdle }

end DeclarationFormat

/-- Texts and their encodings have the same lines. The lines of bytes are the decoded ones
of their segments between line breaks. Sources of constants and sources of types load
alike as texts and as bytes, and segments that encode no text have no part in it. -/
theorem text_and_bytes_load_alike :
    (∀ text : String,
      (DeclarationSource.bytes text.toUTF8).lines = (DeclarationSource.text text).lines) ∧
    (∀ content : ByteArray,
      (∃ cut : ByteSegments, cut.bytes = content.data.toList ∧ cut.IsCutAtLineBreaks) ∧
      ∀ cut : ByteSegments, cut.bytes = content.data.toList → cut.IsCutAtLineBreaks →
        DecodedLines cut.segments (DeclarationSource.bytes content).lines) ∧
    LoadsBytesAsText (fun kept arena source => (constantReader.load kept arena source).1) ∧
    LoadsBytesAsText (fun kept arena source => (typeReader.load kept arena source).1) := by
  refine ⟨lines_toUTF8, ?_, ?_, ?_⟩
  · intro content
    refine ⟨ByteSegments.exists_cut content.data.toList, ?_⟩
    intro cut isContent isCut
    change DecodedLines cut.segments
      ((pieces isLineBreakByte content.data.toList).filterMap decodeUtf8?)
    rw [← isContent, ByteSegments.pieces_bytes isCut]
    exact decodedLines_filterMap cut.segments
  · exact constantFormat.loadsBytesAsText formatIn_constantReader ⟨[], rfl⟩
  · exact typeFormat.loadsBytesAsText (fun _ => rfl) ⟨[], rfl⟩

/-- Between two declarations, a line of a byte that no encoding has is as good as an
empty one, also for a parser that has stopped inside a literal. -/
theorem stray_byte_line_passed_over :
    let before := "const integer A = 1\r\n".toUTF8.data.toList
    let after := "\nconst integer B = 2".toUTF8.data.toList
    Delimits before after ∧ Undecodable [0xFF] ∧
      LoadResult.of
          (constantReader.load ⟨[], 0⟩ (.ofLimit none)
            (.ofBytes (before ++ [0xFF] ++ after))).1 =
        LoadResult.of
          (constantReader.load ⟨['>'], 7⟩ (.ofLimit none)
            (.ofBytes (before ++ [] ++ after))).1 := by
  intro before after
  have delimits : Delimits before after := by
    constructor
    · intro byte last
      obtain rfl : (0x0A : UInt8) = byte := Option.some.inj last
      rfl
    · intro byte first
      obtain rfl : (0x0A : UInt8) = byte := Option.some.inj first
      rfl
  have undecodable : Undecodable [0xFF] := undecodable_iff.2 (by decide)
  have unbroken : ∀ byte ∈ [0xFF] ++ ([] : List UInt8), isLineBreakByte byte = false := by
    simp [isLineBreakByte]
  exact ⟨delimits, undecodable,
    text_and_bytes_load_alike.2.2.1.isolated _ _ _ before [0xFF] [] after delimits unbroken
      undecodable (Or.inr rfl)⟩

end ConstantCatalog
