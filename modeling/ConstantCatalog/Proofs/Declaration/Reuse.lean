import ConstantCatalog.Constant.Declaration
import ConstantCatalog.Proofs.Declaration.Loading
import ConstantCatalog.Proofs.Literal.Reuse

/-!
Contract: parsers of declarations that are used for one source after another.

A parser may keep something from one line to the next and from one source to the
next. The parser of constants keeps the lexer of its literals, left wherever the last
vector or rotation was accepted or given up.

Owns: `LineReader`, the loading of sources by one, `constantReader`, and the agreement
of its loads with those of `constantFormat` whatever it was used for before.

Does not own: type declarations, whose parser keeps nothing.
-/

namespace ConstantCatalog

variable {σ α : Type}

/-- A parser of lines that keeps a state. -/
structure LineReader (σ α : Type) where
  read : σ → String → LineReading α × σ
  loadedEvent : Nat → Int → Event

namespace LineReader

/-- The format that a parser follows while it keeps a state. -/
def formatIn (reader : LineReader σ α) (state : σ) : DeclarationFormat α where
  readLine := fun line => (reader.read state line).1
  loadedEvent := reader.loadedEvent

/-- Loads lines one after the other, each in the state that the one before left. -/
def loadLines (reader : LineReader σ α) (state : σ)
    (loading : Loading α) : List String → (Loading α × Option LoadFault) × σ
  | [] => ((loading, none), state)
  | line :: lines =>
      let admission := DeclarationFormat.admit (reader.formatIn state) loading.arena line
      let after := (reader.read state line).2
      match admission.outcome with
      | .ok _ => reader.loadLines after (loading.advance admission) lines
      | .error fault => ((loading.advance admission, some fault), after)

/-- Loads a source into an arena and a new table. -/
def load (reader : LineReader σ α) (state : σ) (arena : Arena)
    (source : DeclarationSource) : (Loading α × Option LoadFault) × σ :=
  reader.loadLines state (.start arena source.lineEvents) source.lines

/-- A parser that follows one format in every state loads as the format says. -/
theorem load_fst {reader : LineReader σ α} {format : DeclarationFormat α}
    (steady : ∀ state, reader.formatIn state = format) (state : σ) (arena : Arena)
    (source : DeclarationSource) :
    (reader.load state arena source).1 = format.load arena source := by
  have lines : ∀ (remaining : List String) (kept : σ) (loading : Loading α),
      (reader.loadLines kept loading remaining).1 = format.loadLines loading remaining := by
    intro remaining
    induction remaining with
    | nil =>
        intro kept loading
        rfl
    | cons line rest inductionHypothesis =>
        intro kept loading
        rw [loadLines, DeclarationFormat.loadLines, steady kept]
        cases outcome : ( DeclarationFormat.admit format loading.arena line).outcome with
        | ok added => exact inductionHypothesis _ _
        | error fault => rfl
  exact lines source.lines state (.start arena source.lineEvents)

end LineReader

/-! ## Constants -/

/-- The value of the components of a literal, for a kind that has components. -/
def componentsValue? : ConstantKind → List Number → Option ConstantValue
  | .vector, [x, y, z] => some (.vector ⟨x, y, z⟩)
  | .quaternion, [x, y, z, s] => some (.quaternion ⟨x, y, z, s⟩)
  | _, _ => none

private theorem readValue_geometric {kind : ConstantKind}
    (geometric : kind = .vector ∨ kind = .quaternion) (text : List Char) :
    readValue kind text =
      match Literal.components text with
      | .ok found => .ok (componentsValue? kind found)
      | .error _ => .ok none := by
  rcases geometric with rfl | rfl
  · unfold readValue vectorValue?
    cases Literal.components text with
    | error fault => rfl
    | ok found => rcases found with _ | ⟨x, _ | ⟨y, _ | ⟨z, _ | ⟨s, rest⟩⟩⟩⟩ <;> rfl
  · unfold readValue rotationValue?
    cases Literal.components text with
    | error fault => rfl
    | ok found =>
        rcases found with _ | ⟨x, _ | ⟨y, _ | ⟨z, _ | ⟨s, _ | ⟨extra, rest⟩⟩⟩⟩⟩ <;> rfl

namespace Literal.Lexer

/-- The value that a text spells for a kind, vectors and rotations read with a lexer
that is used again and again. -/
def readValue (lexer : Lexer) (kind : ConstantKind)
    (text : List Char) : Except ConversionFault (Option ConstantValue) × Lexer :=
  if kind = .vector ∨ kind = .quaternion then
    match lexer.parse text with
    | (.ok found, after) => (.ok (componentsValue? kind found), after)
    | (.error _, after) => (.ok none, after)
  else (ConstantCatalog.readValue kind text, lexer)

/-- What a declaration amounts to, read with a lexer that is used again and again. -/
def readDeclaration (lexer : Lexer) (keyword name : String)
    (value : List Char) : LineReading Constant × Lexer :=
  if reservedNames.contains name then (.skipped [], lexer)
  else
    match ConstantKind.ofKeyword? keyword with
    | none => (.skipped [.unsupportedKeyword name keyword], lexer)
    | some kind =>
        match lexer.readValue kind value with
        | (.error fault, after) => (.unconvertible fault, after)
        | (.ok none, after) =>
            (.skipped [.malformedValue name keyword (String.ofList value)], after)
        | (.ok (some found), after) =>
            let constant : Constant := ⟨name, found⟩
            (.accepted name constant constant.copySizes [], after)

/-- What a line of a source of constants amounts to, read with a lexer that is used
again and again. -/
def readLine (lexer : Lexer) (line : String) : LineReading Constant × Lexer :=
  match ConstantLine.ofText line.toList with
  | .silent => (.skipped [], lexer)
  | .foreign trimmed => (.skipped [.foreignLine (String.ofList trimmed)], lexer)
  | .declaration keyword name value =>
      lexer.readDeclaration (String.ofList keyword) (String.ofList name) value

private theorem readValue_fst (lexer : Lexer) (kind : ConstantKind) (text : List Char) :
    (lexer.readValue kind text).1 = ConstantCatalog.readValue kind text := by
  unfold readValue
  split
  · rename_i geometric
    rw [readValue_geometric geometric, ← lexer.parse_fst text]
    cases lexer.parse text with
    | mk outcome after =>
        cases outcome with
        | error fault => rfl
        | ok found => rfl
  · rfl

private theorem readDeclaration_fst (lexer : Lexer) (keyword name : String) (value : List Char) :
    (lexer.readDeclaration keyword name value).1 =
      ConstantCatalog.readDeclaration keyword name value := by
  unfold readDeclaration ConstantCatalog.readDeclaration
  split
  · rfl
  · cases ConstantKind.ofKeyword? keyword with
    | none => rfl
    | some kind =>
        dsimp only
        rw [← lexer.readValue_fst kind value]
        cases lexer.readValue kind value with
        | mk outcome after =>
            cases outcome with
            | error fault => rfl
            | ok found => cases found <;> rfl

end Literal.Lexer

/-- The parser of constants: what it keeps is the lexer of its literals. -/
def constantReader : LineReader Literal.Lexer Constant where
  read := Literal.Lexer.readLine
  loadedEvent := Event.constantsLoaded

/-- The parser of constants follows its format whatever it was used for before. -/
theorem formatIn_constantReader (lexer : Literal.Lexer) :
    constantReader.formatIn lexer = constantFormat := by
  unfold LineReader.formatIn constantReader constantFormat
  simp only [DeclarationFormat.mk.injEq, and_true]
  funext line
  unfold Literal.Lexer.readLine readConstantLine
  cases ConstantLine.ofText line.toList with
  | silent => rfl
  | foreign trimmed => rfl
  | declaration keyword name value => exact lexer.readDeclaration_fst _ _ _

end ConstantCatalog
