import ConstantCatalog.Overlay.Declaration
import ConstantCatalog.Proofs.Declaration.Reuse
import ConstantCatalog.Proofs.Source.Lines

/-!
Contract: loads of sources that are put together from other sources.

Into an arena without limit, a text of two parts with a line end between them loads
as its parts do: the second table is inserted into the first, and bytes and blocks are
added up. Lines that are passed over and the choice of line ends have no part in it,
under any limit. Nothing of this depends on what the parser was used for before.

Owns: `Concatenative`, and its proof for every format that passes over empty lines,
with constants and types as its two cases.

Does not own: which lines are passed over.
-/

namespace ConstantCatalog

variable {σ α : Type}

/-- How a parser takes texts together and apart. `parse` gets the state that its parser
was left in by earlier texts, an arena, and a text; `Skips` is about single lines. -/
structure Concatenative (parse : σ → Arena → String → LoadResult α)
    (Skips : String → Prop) : Prop where
  /-- The second table is inserted into the first, and the arenas are added up. -/
  append :
    ∀ (kept keptBefore keptAfter : σ) (before after : String) (ending : LineEnd),
      (parse keptBefore (.ofLimit none) before).fault = none →
      (parse keptAfter (.ofLimit none) after).fault = none →
      parse kept (.ofLimit none) (before ++ ending.text ++ after) =
        { table :=
            (parse keptBefore (.ofLimit none) before).table.insertAll
              (parse keptAfter (.ofLimit none) after).table.entries
          arena :=
            { limit := none
              used :=
                (parse keptBefore (.ofLimit none) before).arena.used +
                  (parse keptAfter (.ofLimit none) after).arena.used
              blocks :=
                (parse keptBefore (.ofLimit none) before).arena.blocks +
                  (parse keptAfter (.ofLimit none) after).arena.blocks }
          fault := none }
  /-- A line that is passed over can be taken out and put in anywhere. -/
  skip :
    ∀ (kept keptOther : σ) (arena : Arena) (text other line : String)
      (before after : List String),
      textLines text = before ++ line :: after →
      textLines other = before ++ after →
      Skips line →
      parse kept arena text = parse keptOther arena other
  /-- The same lines load alike, however each of them is ended. -/
  lineEnds :
    ∀ (kept keptOther : σ) (arena : Arena) (rows others : List (String × LineEnd))
      (last : String),
      rows.map Prod.fst = others.map Prod.fst →
      parse kept arena (terminatedText rows ++ last) =
        parse keptOther arena (terminatedText others ++ last)

namespace DeclarationFormat

variable (format : DeclarationFormat α)

/-- The result of loading a text. -/
def loadText (arena : Arena) (text : String) : LoadResult α :=
  LoadResult.of (format.load arena (.text text))

theorem matters_eq_false {line : String} (skips : format.Skips line) :
    format.matters line = false := by
  obtain ⟨events, reading⟩ := skips
  rw [matters, reading]
  rfl

private theorem addition?_eq_none {line : String} (skips : format.Skips line) :
    format.addition? line = none := by
  obtain ⟨events, reading⟩ := skips
  rw [addition?, reading]
  rfl

private theorem filter_matters_inner (skipsEmpty : format.Skips "") (ending : LineEnd) :
    ending.inner.filter format.matters = [] := by
  apply List.filter_eq_nil_iff.2
  intro line member
  rw [LineEnd.eq_empty_of_mem_inner member, format.matters_eq_false skipsEmpty]
  simp

theorem additions_append (first second : List String) :
    format.additions (first ++ second) =
      format.additions first ++ format.additions second :=
  List.filterMap_append

theorem additions_inner (skipsEmpty : format.Skips "") (ending : LineEnd) :
    format.additions ending.inner = [] := by
  apply List.filterMap_eq_nil_iff.2
  intro line member
  rw [LineEnd.eq_empty_of_mem_inner member, format.addition?_eq_none skipsEmpty]

/-- The result of loading a text without limit. -/
theorem loadText_unlimited {text : String} (convertible : format.Convertible (textLines text)) :
    format.loadText (.ofLimit none) text =
      { table := .insertAll .empty (entriesOf (format.additions (textLines text)))
        arena := (Arena.ofLimit none).withBlocks
          (chargesOf (format.additions (textLines text)))
        fault := none } := by
  have unlimited : (Loading.start (Arena.ofLimit none) [] : Loading α).arena.limit = none :=
    rfl
  exact format.loadLines_unlimited unlimited convertible

private theorem loadText_append (skipsEmpty : format.Skips "") {before after : String}
    (ending : LineEnd) (beforeLoaded : (format.loadText (.ofLimit none) before).fault = none)
    (afterLoaded : (format.loadText (.ofLimit none) after).fault = none) :
    format.loadText (.ofLimit none) (before ++ ending.text ++ after) =
      { table :=
          (format.loadText (.ofLimit none) before).table.insertAll
            (format.loadText (.ofLimit none) after).table.entries
        arena :=
          { limit := none
            used :=
              (format.loadText (.ofLimit none) before).arena.used +
                (format.loadText (.ofLimit none) after).arena.used
            blocks :=
              (format.loadText (.ofLimit none) before).arena.blocks +
                (format.loadText (.ofLimit none) after).arena.blocks }
        fault := none } := by
  have beforeConvertible := format.convertible_of_loadLines beforeLoaded
  have afterConvertible := format.convertible_of_loadLines afterLoaded
  have convertible : format.Convertible (textLines (before ++ ending.text ++ after)) := by
    rw [textLines_append]
    intro line member fault
    rcases List.mem_append.1 member with inFront | inAfter
    · rcases List.mem_append.1 inFront with inBefore | inside
      · exact beforeConvertible line inBefore fault
      · obtain ⟨events, reading⟩ := skipsEmpty
        rw [LineEnd.eq_empty_of_mem_inner inside, reading]
        simp
    · exact afterConvertible line inAfter fault
  -- What the lines between the parts add is nothing, so the additions are concatenated.
  have additions : format.additions (textLines (before ++ ending.text ++ after)) =
      format.additions (textLines before) ++ format.additions (textLines after) := by
    rw [textLines_append, additions_append, additions_append,
      format.additions_inner skipsEmpty, List.append_nil]
  rw [format.loadText_unlimited convertible, format.loadText_unlimited beforeConvertible,
    format.loadText_unlimited afterConvertible, additions]
  dsimp only
  rw [OrderedTable.insertAll_entries_insertAll, ← OrderedTable.insertAll_append]
  simp [entriesOf, chargesOf, Arena.withBlocks, Arena.ofLimit]

private theorem loadText_skip (arena : Arena) {text other line : String}
    {before after : List String} (textBuilt : textLines text = before ++ line :: after)
    (otherBuilt : textLines other = before ++ after) (skips : format.Skips line) :
    format.loadText arena text = format.loadText arena other := by
  apply format.load_eq_of_filter_matters_eq
  change (textLines text).filter format.matters = (textLines other).filter format.matters
  rw [textBuilt, otherBuilt, List.filter_append, List.filter_append,
    List.filter_cons_of_neg (by simp [format.matters_eq_false skips])]

private theorem loadText_lineEnds (skipsEmpty : format.Skips "") (arena : Arena)
    {rows others : List (String × LineEnd)} (last : String)
    (same : rows.map Prod.fst = others.map Prod.fst) :
    format.loadText arena (terminatedText rows ++ last) =
      format.loadText arena (terminatedText others ++ last) := by
  -- Of the lines that matter none lies inside a line end.
  have mattering : ∀ written : List (String × LineEnd),
      (textLines (terminatedText written ++ last)).filter format.matters =
        ((written.map Prod.fst).flatMap fun line =>
          (textLines line).filter format.matters) ++
          (textLines last).filter format.matters := by
    intro written
    rw [textLines_terminatedText, List.filter_append]
    congr 1
    induction written with
    | nil => rfl
    | cons row rest inductionHypothesis =>
        rw [List.flatMap_cons, List.filter_append, List.filter_append,
          format.filter_matters_inner skipsEmpty, List.append_nil, inductionHypothesis,
          List.map_cons, List.flatMap_cons]
  apply format.load_eq_of_filter_matters_eq
  change (textLines _).filter _ = (textLines _).filter _
  rw [mattering, mattering, same]

/-- A parser that follows a format in every state takes texts apart line by line, if
the format passes over empty lines. -/
private theorem concatenative {reader : LineReader σ α}
    (steady : ∀ state, reader.formatIn state = format) (skipsEmpty : format.Skips "") :
    Concatenative
      (fun kept arena text => LoadResult.of (reader.load kept arena (.text text)).1)
      format.Skips := by
  simp only [LineReader.load_fst steady]
  exact
    { append := fun _ _ _ _ _ ending => format.loadText_append skipsEmpty ending
      skip := fun _ _ arena _ _ _ _ _ => format.loadText_skip arena
      lineEnds := fun _ _ arena _ _ last => format.loadText_lineEnds skipsEmpty arena last }

end DeclarationFormat

/-- The parser of types, which keeps nothing. -/
def typeReader : LineReader Unit DeclaredType where
  read := fun kept line => (typeFormat.readLine line, kept)
  loadedEvent := typeFormat.loadedEvent

/-- Sources of constants and sources of types are read line by line: parsing takes
concatenation to the update of tables and to the sum of accounts, whatever the parser
was used for before. -/
theorem load_text_concatenative :
    Concatenative
        (fun kept arena text =>
          LoadResult.of (constantReader.load kept arena (.text text)).1)
        constantFormat.Skips ∧
      Concatenative
        (fun kept arena text =>
          LoadResult.of (typeReader.load kept arena (.text text)).1)
        typeFormat.Skips := by
  have constantsSkipEmpty : constantFormat.Skips "" := ⟨[], rfl⟩
  have typesSkipEmpty : typeFormat.Skips "" := ⟨[], rfl⟩
  constructor
  · exact constantFormat.concatenative formatIn_constantReader constantsSkipEmpty
  · exact typeFormat.concatenative (fun _ => rfl) typesSkipEmpty

end ConstantCatalog
