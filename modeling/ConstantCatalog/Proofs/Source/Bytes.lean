import ConstantCatalog.Proofs.Source.Lines

/-!
Contract: the lines of bytes as texts.

A line of bytes that can be decoded is the UTF-8 encoding of its text, character by
character. A line break is encoded as its own code, so a text that has one comes from
bytes that have one: cut before or after decoding, no line has a line break in it.

Owns: decoding as the inverse of encoding, the bytes that line breaks and other
characters are encoded with, and that lines are unbroken.

Does not own: what is loaded from lines.
-/

namespace ConstantCatalog

/-- The bytes of a text are those of its characters. -/
theorem toList_toUTF8 (text : String) :
    text.toUTF8.data.toList = text.toList.flatMap String.utf8EncodeChar := by
  have encoded := congrArg (fun array => array.data.toList) (String.utf8Encode_toList (b := text))
  rw [List.utf8Encode, List.data_toByteArray] at encoded
  exact encoded.symm

/-- An array of bytes is decoded to the text that it is the encoding of, if there is one. -/
theorem fromUTF8?_eq_some_iff {content : ByteArray} {text : String} :
    String.fromUTF8? content = some text ↔ text.toUTF8 = content := by
  unfold String.fromUTF8?
  constructor
  · intro decoded
    split at decoded
    · obtain rfl := Option.some.inj decoded
      rfl
    · contradiction
  · rintro rfl
    exact dif_pos text.isValidUTF8

/-- Bytes are decoded to the text that they are the encoding of, if there is one. -/
theorem decodeUtf8?_eq_some_iff {bytes : List UInt8} {text : String} :
    decodeUtf8? bytes = some text ↔ text.toUTF8.data.toList = bytes := by
  unfold decodeUtf8?
  rw [fromUTF8?_eq_some_iff]
  constructor
  · intro encoded
    rw [encoded]
  · rintro rfl
    rfl

/-! ## Line breaks -/

/-- A line break is encoded as a byte that breaks lines. -/
theorem exists_utf8EncodeChar_of_isLineBreak {character : Char}
    (breaks : isLineBreak character = true) :
    ∃ byte, String.utf8EncodeChar character = [byte] ∧ isLineBreakByte byte = true := by
  have either : character = '\n' ∨ character = '\r' := by
    simpa [isLineBreak] using breaks
  rcases either with rfl | rfl
  · exact ⟨0x0A, by decide, by decide⟩
  · exact ⟨0x0D, by decide, by decide⟩

private theorem isLineBreakByte_ofNat {code : Nat} (small : code < 256) (notFeed : code ≠ 10)
    (notCarriage : code ≠ 13) :
    isLineBreakByte (UInt8.ofNat code) = false := by
  have held : (UInt8.ofNat code).toNat = code := UInt8.toNat_ofNat_of_lt' small
  unfold isLineBreakByte
  rw [Bool.or_eq_false_iff, beq_eq_false_iff_ne, beq_eq_false_iff_ne]
  constructor
  · intro isFeed
    rw [isFeed] at held
    exact notFeed held.symm
  · intro isCarriage
    rw [isCarriage] at held
    exact notCarriage held.symm

/-- Every other character is encoded without such a byte: as its own code, or as bytes
that are all beyond ASCII. -/
theorem isLineBreakByte_of_mem_utf8EncodeChar {character : Char}
    (solid : isLineBreak character = false) :
    ∀ byte ∈ String.utf8EncodeChar character, isLineBreakByte byte = false := by
  have notFeed : character.val.toNat ≠ 10 := by
    intro isFeed
    obtain rfl : character = '\n' := Char.ext (UInt32.toNat_inj.1 isFeed)
    contradiction
  have notCarriage : character.val.toNat ≠ 13 := by
    intro isCarriage
    obtain rfl : character = '\r' := Char.ext (UInt32.toNat_inj.1 isCarriage)
    contradiction
  intro byte member
  unfold String.utf8EncodeChar at member
  dsimp only at member
  split at member
  · obtain rfl := List.mem_singleton.1 member
    exact isLineBreakByte_ofNat (by omega) notFeed notCarriage
  · have beyondAscii : ∃ code, byte = UInt8.ofNat code ∧ 128 ≤ code ∧ code < 256 := by
      split at member
      · simp only [List.mem_cons, List.not_mem_nil, or_false] at member
        rcases member with rfl | rfl <;> exact ⟨_, rfl, by omega, by omega⟩
      · split at member
        · simp only [List.mem_cons, List.not_mem_nil, or_false] at member
          rcases member with rfl | rfl | rfl <;> exact ⟨_, rfl, by omega, by omega⟩
        · simp only [List.mem_cons, List.not_mem_nil, or_false] at member
          rcases member with rfl | rfl | rfl | rfl <;> exact ⟨_, rfl, by omega, by omega⟩
    obtain ⟨code, rfl, least, small⟩ := beyondAscii
    exact isLineBreakByte_ofNat small (by omega) (by omega)

private theorem unbroken_of_decodeUtf8? {bytes : List UInt8} {text : String}
    (decoded : decodeUtf8? bytes = some text)
    (plain : ∀ byte ∈ bytes, isLineBreakByte byte = false) :
    Unbroken text.toList := by
  intro character member
  rw [Bool.eq_false_iff]
  intro breaks
  obtain ⟨byte, encoded, byteBreaks⟩ := exists_utf8EncodeChar_of_isLineBreak breaks
  have inBytes : byte ∈ bytes := by
    rw [← decodeUtf8?_eq_some_iff.1 decoded, toList_toUTF8]
    exact List.mem_flatMap.2 ⟨character, member, by simp [encoded]⟩
  have solid := plain byte inBytes
  rw [byteBreaks] at solid
  contradiction

/-- No line of a source has a line break in it. -/
theorem DeclarationSource.unbroken_of_mem_lines {source : DeclarationSource} {line : String}
    (member : line ∈ source.lines) :
    Unbroken line.toList := by
  cases source with
  | text content =>
      obtain ⟨piece, isPiece, rfl⟩ := List.mem_map.1 member
      rw [String.toList_ofList]
      exact plain_of_mem_pieces isPiece
  | bytes content =>
      obtain ⟨piece, isPiece, decoded⟩ := List.mem_filterMap.1 member
      exact unbroken_of_decodeUtf8? decoded (plain_of_mem_pieces isPiece)

end ConstantCatalog
