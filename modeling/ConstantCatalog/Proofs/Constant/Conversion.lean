import ConstantCatalog.Proofs.Constant.Reading

/-!
Contract: the sources of constants whose load stops at a value that cannot be converted.

A malformed line is passed over, with two exceptions: a decimal of too many digits under
the keyword of integers, and a word numeral with a letter I beyond ASCII under the
keyword of floats. A load that comes to such a line stops there. Any other source loads
into an arena without limit, and into an arena with a limit unless that is exhausted.

Owns: `UnconvertibleValue`, `SpellsUnconvertible`, and the exact condition on which a
load stops at a line of a source.

Does not own: what a load adds to its table.
-/

namespace ConstantCatalog

/-- A value that is recognised for a kind but cannot be converted. -/
def UnconvertibleValue :
    ConstantKind → List Char → ConversionFault → Prop
  | .integer, text, fault =>
      ∃ (sign : Option Char) (digits : List Char),
        text = sign.toList ++ digits ∧
        (∀ written, sign = some written → written = '+' ∨ written = '-') ∧
        (∀ digit ∈ digits, digit.isDigit = true) ∧
        maxIntegerDigits < digits.length ∧ fault = .tooManyDigits digits.length
  | .float, text, fault =>
      UnreadableWord text ∧ fault = .unreadableFloat (String.ofList text)
  | _, _, _ => False

/-- A declaration of a value that cannot be converted, under a name that can be
declared. -/
def SpellsUnconvertible (line : String) (fault : ConversionFault) : Prop :=
  ∃ opening keyword name after kind,
    HasHeader line.toList opening keyword name after ∧
    ConstantKind.ofKeyword? (String.ofList keyword) = some kind ∧
    '=' ∉ name ∧ String.ofList name ∉ reservedNames ∧
    UnconvertibleValue kind (trimBlanks after) fault

/-! ## Values -/

private theorem readValue_eq_error_iff {kind : ConstantKind} {text : List Char}
    {fault : ConversionFault} :
    readValue kind text = .error fault ↔ UnconvertibleValue kind text fault := by
  cases kind with
  | integer =>
      have mapped : readValue .integer text = .error fault ↔ readInteger text = .error fault := by
        rw [readValue]
        cases readInteger text <;> simp [Except.map]
      rw [mapped, readInteger_eq_error_iff]
      constructor
      · rintro ⟨sign, digits, found, tooMany, rfl⟩
        obtain ⟨written, isSign, -, areDigits⟩ := signedDigits?_eq_some_iff.1 found
        exact ⟨sign, digits, written, isSign, areDigits, tooMany, rfl⟩
      · rintro ⟨sign, digits, written, isSign, areDigits, tooMany, rfl⟩
        have nonempty : digits ≠ [] := by
          apply List.ne_nil_of_length_pos
          omega
        exact ⟨sign, digits,
          signedDigits?_eq_some_iff.2 ⟨written, isSign, nonempty, areDigits⟩, tooMany, rfl⟩
  | float =>
      have mapped : readValue .float text = .error fault ↔ readFloat text = .error fault := by
        rw [readValue]
        cases readFloat text <;> simp [Except.map]
      rw [mapped, readFloat_eq_error_iff]
      exact Iff.rfl
  | _ => simp [readValue, UnconvertibleValue]

/-- No value that cannot be converted has an equals sign in it. -/
theorem UnconvertibleValue.no_equals {kind : ConstantKind} {text : List Char}
    {fault : ConversionFault} (unconvertible : UnconvertibleValue kind text fault) :
    '=' ∉ text := by
  intro equals
  have number : kind.isText = false := by
    rw [Bool.eq_false_iff]
    intro isText
    rcases ConstantKind.isText_iff.1 isText with rfl | rfl
    · exact unconvertible
    · exact unconvertible
  rw [← readValue_eq_error_iff, readValue_eq_none_of_equals equals number] at unconvertible
  contradiction

/-! ## Lines -/

/-- A line is recognised and not converted exactly when it declares a value that cannot
be converted. -/
private theorem readConstantLine_eq_unconvertible_iff {line : String} {fault : ConversionFault} :
    readConstantLine line = .unconvertible fault ↔ SpellsUnconvertible line fault := by
  rw [readConstantLine_eq_iff (by simp)]
  constructor
  · rintro ⟨opening, keyword, name, after, header, refused⟩
    obtain ⟨free, kind, known, isRead⟩ := readDeclaration_eq_unconvertible_iff.1 refused
    have unconvertible := readValue_eq_error_iff.1 isRead
    have plainKeyword := no_equals_of_ofKeyword? known
    -- An equals sign in the name would leave the header's own one in the value.
    have plainName : '=' ∉ name := fun equals =>
      unconvertible.no_equals (header.equals_mem_value plainKeyword equals)
    rw [header.afterEquals_eq plainKeyword plainName] at unconvertible
    have notReserved : String.ofList name ∉ reservedNames := by
      intro reserved
      rw [List.contains_iff_mem.2 reserved] at free
      contradiction
    exact ⟨opening, keyword, name, after, kind, header, known, plainName, notReserved,
      unconvertible⟩
  · rintro ⟨opening, keyword, name, after, kind, header, known, plainName, notReserved,
      unconvertible⟩
    refine ⟨opening, keyword, name, after, header,
      readDeclaration_eq_unconvertible_iff.2 ⟨?_, kind, known, ?_⟩⟩
    · rw [Bool.eq_false_iff]
      exact fun reserved => notReserved (List.contains_iff_mem.1 reserved)
    · rw [header.afterEquals_eq (no_equals_of_ofKeyword? known) plainName]
      exact readValue_eq_error_iff.2 unconvertible

private theorem convertible_iff_spells {lines : List String} :
    constantFormat.Convertible lines ↔
      ∀ line ∈ lines, ∀ fault, ¬SpellsUnconvertible line fault := by
  unfold DeclarationFormat.Convertible
  constructor
  · intro convertible line member fault spells
    exact convertible line member fault (readConstantLine_eq_unconvertible_iff.2 spells)
  · intro unspelled line member fault reading
    exact unspelled line member fault (readConstantLine_eq_unconvertible_iff.1 reading)

/-! ## Sources -/

/-- A load of constants stops at a line exactly when the line declares a value that
cannot be converted and the lines before it have loaded. So a source loads into every
arena with no other fault than exhaustion, and without any fault into an arena without
limit, exactly when none of its lines declares such a value. -/
theorem load_stops_at_unconvertible_values (source : DeclarationSource) :
    (∀ (arena : Arena) (fault : ConversionFault),
      (constantFormat.load arena source).2 = some (.unconvertible fault) ↔
        ∃ before line after, source.lines = before ++ line :: after ∧
          (constantFormat.loadLines (.start arena source.lineEvents) before).2 = none ∧
          SpellsUnconvertible line fault) ∧
    (∀ arena : Arena, arena.limit = none →
      ((constantFormat.load arena source).2 = none ↔
        ∀ line ∈ source.lines, ∀ fault, ¬SpellsUnconvertible line fault)) ∧
    ((∀ (arena : Arena) (fault : ConversionFault),
        (constantFormat.load arena source).2 ≠ some (.unconvertible fault)) ↔
      ∀ line ∈ source.lines, ∀ fault, ¬SpellsUnconvertible line fault) := by
  have stops : ∀ (arena : Arena) (fault : ConversionFault),
      (constantFormat.load arena source).2 = some (.unconvertible fault) ↔
        ∃ before line after, source.lines = before ++ line :: after ∧
          (constantFormat.loadLines (.start arena source.lineEvents) before).2 = none ∧
          SpellsUnconvertible line fault := by
    intro arena fault
    refine (constantFormat.loadLines_unconvertible_iff _ _ _).trans ?_
    simp only [← readConstantLine_eq_unconvertible_iff]
    exact Iff.rfl
  have unlimited : ∀ arena : Arena, arena.limit = none →
      ((constantFormat.load arena source).2 = none ↔
        ∀ line ∈ source.lines, ∀ fault, ¬SpellsUnconvertible line fault) := by
    intro arena noLimit
    rw [← convertible_iff_spells]
    exact constantFormat.loadLines_unlimited_eq_none_iff noLimit
  refine ⟨stops, unlimited, ?_⟩
  constructor
  · intro neverStops
    apply (unlimited (.ofLimit none) rfl).1
    cases fault : (constantFormat.load (.ofLimit none) source).2 with
    | none => rfl
    | some cause =>
        cases cause with
        | exhausted refusal =>
            exact absurd fault (constantFormat.loadLines_unlimited_ne_exhausted rfl _ refusal)
        | unconvertible conversion => exact absurd fault (neverStops _ conversion)
  · intro unspelled arena fault stopped
    obtain ⟨before, line, after, built, -, spells⟩ := (stops arena fault).1 stopped
    exact unspelled line (by simp [built]) fault spells

/-- A dotless small I in a word numeral stops the load, and the line behind it is lost. -/
theorem dotless_infinity_stops_load :
    (constantFormat.load (.ofLimit none)
      (.text "const float A = \u0131nf\nconst integer B = 1")).2 =
        some (.unconvertible (.unreadableFloat "\u0131nf")) := by
  rfl

end ConstantCatalog
