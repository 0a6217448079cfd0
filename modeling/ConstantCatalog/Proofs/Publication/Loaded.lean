import ConstantCatalog.Proofs.Constant.WellFormed
import ConstantCatalog.Proofs.Publication.Effect
import ConstantCatalog.Proofs.Store.History

/-!
Contract: constants on their way from a source to the machine.

What holds of loaded constants is all that their publication relies on: integers of 32
bits are numbers of the machine, so every constant has a representation under every type
and every width, it is pushed and bound without a fault, and no reserved name is bound.
What a store in use holds was loaded, whatever was done to it, so its publication has
just the effect that it should have.

Owns: `Constant.IsPublishable` and `SoundConstants` with their proofs for loads, and the
effect of publishing stores in use.

Does not own: constants that a caller brings along.
-/

namespace ConstantCatalog

/-! ## Representation -/

private theorem isWithinNumbers_integer (value : Int) :
    (ConstantValue.integer value).isWithinNumbers = (Number.ofInt? value).isSome := rfl

/-- An integer of 32 bits is a number of the machine. -/
theorem ConstantValue.WellFormed.isWithinNumbers {value : ConstantValue}
    (wellFormed : value.WellFormed) :
    value.isWithinNumbers = true := by
  cases value with
  | integer value =>
      obtain ⟨least, greatest⟩ := wellFormed
      have small : value.natAbs < powerOfTwo 53 := by
        change value.natAbs < 2 ^ 53
        omega
      rw [isWithinNumbers_integer]
      exact Number.isSome_ofInt?_of_natAbs_lt small
  | _ => rfl

/-- A constant that is published without a fault, whatever machine and types there are. -/
structure Constant.IsPublishable (constant : Constant) : Prop where
  /-- It is represented by its own kind, on machines of either width. -/
  native :
    ∀ width, constant.value.checkedNative width = .ok (constant.value.native width)
  /-- It takes every declared type that its kind can take. -/
  coerced :
    ∀ declared, constant.value.checkedCoerced declared = .ok (constant.value.coerced? declared)
  resolved :
    ∀ catalog : Catalog,
      (catalog.checkedResolveConstant constant).outcome =
        .ok (catalog.resolveConstant constant).1
  /-- What it is resolved to can be pushed, and then bound. -/
  bound :
    ∀ (catalog : Catalog) (machine : GlobalTable), ∃ pushed,
      machine.perform (catalog.resolveConstant constant).1.pushCall = .ok pushed ∧
        pushed.perform (.setGlobal constant.name) =
          .ok (machine.bind constant.name (catalog.resolveConstant constant).1)

private theorem Constant.IsLoadable.isPublishable {constant : Constant}
    (isLoadable : constant.IsLoadable) :
    constant.IsPublishable where
  native := fun _ => if_pos isLoadable.value.isWithinNumbers
  coerced := by
    intro declared
    unfold ConstantValue.checkedCoerced
    cases constant.value.coerced? declared with
    | none => rfl
    | some published => exact if_pos isLoadable.value.isWithinNumbers
  resolved := by
    intro catalog
    rw [catalog.checkedResolveConstant_of_within isLoadable.value.isWithinNumbers]
  bound := by
    intro catalog machine
    exact ⟨_, machine.perform_pushCall _, machine.setGlobal_push _ _⟩

/-! ## Tables -/

/-- What holds of a table of constants that was loaded. -/
structure SoundConstants (table : OrderedTable Constant) : Prop where
  named :
    ∀ key constant, (key, constant) ∈ table.entries → key = constant.name
  loadable :
    ∀ key constant, (key, constant) ∈ table.entries → constant.IsLoadable
  publishable :
    ∀ key constant, (key, constant) ∈ table.entries → constant.IsPublishable
  /-- No publication binds a reserved name. -/
  reserved :
    ∀ (arena : Arena) (types : TypeStore) (width : VectorWidth) (nameLimit : Option Int)
      (machine : GlobalTable), ∃ run,
        Catalog.publishByCalls ⟨⟨arena, table⟩, types, width, nameLimit⟩ machine = .ok run ∧
          ∀ name ∈ reservedNames,
            .setGlobal name ∉ run.calls ∧ run.table.get? name = machine.get? name

/-- Constants that can be loaded do not have reserved names. -/
private theorem reserved_notMem_names {table : OrderedTable Constant}
    (loaded : ∀ key constant, (key, constant) ∈ table.entries →
      key = constant.name ∧ constant.IsLoadable) {name : String}
    (isReserved : name ∈ reservedNames) :
    name ∉ table.names := by
  intro present
  obtain ⟨⟨key, constant⟩, member, rfl⟩ := List.mem_map.1 present
  obtain ⟨rfl, isLoadable⟩ := loaded key constant member
  obtain ⟨notTrue, notFalse⟩ := isLoadable.name.free
  simp [reservedNames, notTrue, notFalse] at isReserved

/-- Every source loads into a sound table of constants, into every arena. -/
theorem soundConstants_load (arena : Arena) (source : DeclarationSource) :
    SoundConstants (constantFormat.load arena source).1.table := by
  have loaded : ∀ key constant,
      (key, constant) ∈ (constantFormat.load arena source).1.table.entries →
        key = constant.name ∧ constant.IsLoadable :=
    fun _ _ => isLoadable_of_mem_load
  generalize (constantFormat.load arena source).1.table = table at loaded ⊢
  exact
    { named := fun key constant member => (loaded key constant member).1
      loadable := fun key constant member => (loaded key constant member).2
      publishable := fun key constant member => (loaded key constant member).2.isPublishable
      reserved := by
        intro otherArena types width nameLimit machine
        let catalog : Catalog := ⟨⟨otherArena, table⟩, types, width, nameLimit⟩
        have within : ∀ entry ∈ table.entries, entry.2.value.isWithinNumbers = true :=
          fun entry member => (loaded entry.1 entry.2 member).2.value.isWithinNumbers
        obtain ⟨run, published, -, effect⟩ :=
          catalog.publicationEffect_of_within within machine
        refine ⟨run, published, ?_⟩
        intro name isReserved
        have unpublished : name ∉ catalog.publishedNames := by
          intro isPublished
          obtain ⟨present, -⟩ := catalog.mem_publishedNames.1 isPublished
          exact reserved_notMem_names loaded isReserved present
        exact ⟨fun isSet => unpublished (effect.mem_publishedNames_of_setGlobal isSet),
          effect.kept name unpublished⟩ }

/-! ## Stores in use -/

/-- What a store of constants holds after any steps was loaded. -/
theorem isLoadable_of_holds {limit : Option Int} {store : ConstantStore}
    {standing : Option DeclarationSource}
    (holds : StoreKeeper.Holds constantFormat limit store standing) {key : String}
    {constant : Constant} (member : (key, constant) ∈ store.table.entries) :
    key = constant.name ∧ constant.IsLoadable := by
  cases standing with
  | none =>
      have empty : store = .ofLimit limit := holds
      rw [empty] at member
      contradiction
  | some source =>
      obtain ⟨rfl, count, loaded⟩ := holds
      unfold Store.load at loaded member
      cases reached : constantFormat.load (.ofLimit limit) source with
      | mk loading fault =>
          rw [show (Store.ofLimit limit : ConstantStore).arena.limit = limit from rfl,
            reached] at loaded member
          cases fault with
          | none =>
              have inLoading : (key, constant) ∈
                  (constantFormat.load (.ofLimit limit) source).1.table.entries := by
                rw [reached]
                exact member
              exact isLoadable_of_mem_load inLoading
          | some cause => contradiction

/-- Publishing a store of constants in use, under whatever types, ends without a fault and
has just the effect that it should have. -/
theorem publication_effect_exact (constantLimit typeLimit nameLimit : Option Int)
    (lexer : Literal.Lexer) (constantSteps typeSteps : List StoreStep) (width : VectorWidth)
    (machine : GlobalTable) :
    let catalog : Catalog :=
      { constants :=
          ((StoreKeeper.new constantLimit lexer).run constantReader constantSteps).1.store
        types := ((StoreKeeper.new typeLimit ()).run typeReader typeSteps).1.store
        vectorWidth := width
        nameLimit := nameLimit }
    ∃ run, catalog.publishByCalls machine = .ok run ∧
      run.toPublication = catalog.publish machine ∧
      PublicationEffect catalog machine run := by
  intro catalog
  have holds := StoreKeeper.holds_run formatIn_constantReader constantLimit lexer constantSteps
  apply catalog.publicationEffect_of_within
  intro entry member
  exact (isLoadable_of_holds holds member).2.value.isWithinNumbers

end ConstantCatalog
