import ConstantCatalog.Proofs.Publication.Loaded
import ConstantCatalog.Proofs.Source.Insertion
import ConstantCatalog.Proofs.Store.Source

/-!
Contract: what types have influence on.

Of its types a catalog reads those of its constants alone, each by its name. Catalogs of
the same constants whose types agree there cannot be told apart, neither by what names
resolve to nor by what is published. So lines that declare nothing, or a name that is no
constant, can be put into a source of types anywhere.

Owns: `AnswersAlike`, `Store.IsIdleLine`, `TypesActByName`, and its proof for constants
from any source.

Does not own: what a type makes of its constant.
-/

namespace ConstantCatalog

/-- Whether two catalogs cannot be told apart by their answers. -/
structure AnswersAlike (first second : Catalog) : Prop where
  /-- Every name resolves to the same, with the same events. -/
  resolve : ∀ name, first.resolve name = second.resolve name
  /-- Publication leaves the same count, the same table and the same events. -/
  publish : ∀ machine, first.publish machine = second.publish machine
  /-- It comes to its end, by the same calls. -/
  calls :
    ∀ machine, ∃ run,
      first.publishByCalls machine = .ok run ∧ second.publishByCalls machine = .ok run

/-- Whether a line declares no constant: it declares nothing, or another name. -/
def Store.IsIdleLine (constants : ConstantStore) (line : String) : Prop :=
  ∀ name declared, DeclaresType line name declared → name ∉ constants.table.names

/-- How catalogs of some constants depend on their types. -/
structure TypesActByName (constants : ConstantStore) (width : VectorWidth)
    (nameLimit : Option Int) : Prop where
  /-- Types that agree on every constant make no difference. -/
  agreeing :
    ∀ first second : TypeStore,
      (∀ name ∈ constants.table.names, first.get? name = second.get? name) →
      AnswersAlike ⟨constants, first, width, nameLimit⟩ ⟨constants, second, width, nameLimit⟩
  /-- Neither do idle lines that are put into a source of types. -/
  growing :
    ∀ original grown : DeclarationSource,
      original.GrowsBy constants.IsIdleLine grown →
      ∀ firstLimit secondLimit first second,
        Store.ofSource typeFormat firstLimit original = .ok first →
        Store.ofSource typeFormat secondLimit grown = .ok second →
        AnswersAlike ⟨constants, first, width, nameLimit⟩
          ⟨constants, second, width, nameLimit⟩
  /-- Only a limit can keep the source that has grown from being loaded. -/
  loadable : ∀ source, ∃ types, Store.ofSource typeFormat none source = .ok types

/-! ## Agreement on the constants -/

section Agreement

variable {constants : ConstantStore} {first second : TypeStore} {width : VectorWidth}
  {nameLimit : Option Int}

private theorem resolveConstant_eq_of_agrees {constant : Constant}
    (agrees : first.get? constant.name = second.get? constant.name) :
    (⟨constants, first, width, nameLimit⟩ : Catalog).resolveConstant constant =
      (⟨constants, second, width, nameLimit⟩ : Catalog).resolveConstant constant := by
  unfold Catalog.resolveConstant
  dsimp only
  rw [agrees]

private theorem publishOne_eq_of_agrees {constant : Constant}
    (agrees : first.get? constant.name = second.get? constant.name) (publication : Publication)
    (name : String) :
    publication.publishOne ⟨constants, first, width, nameLimit⟩ name constant =
      publication.publishOne ⟨constants, second, width, nameLimit⟩ name constant := by
  unfold Publication.publishOne
  rw [resolveConstant_eq_of_agrees agrees]

private theorem callsFor_eq_of_agrees {constant : Constant}
    (agrees : first.get? constant.name = second.get? constant.name) (name : String) :
    (⟨constants, first, width, nameLimit⟩ : Catalog).callsFor name constant =
      (⟨constants, second, width, nameLimit⟩ : Catalog).callsFor name constant := by
  unfold Catalog.callsFor
  rw [resolveConstant_eq_of_agrees agrees]
  rfl

/-- Constants that stand under their own names are all that types are read for. -/
private theorem answersAlike_of_agrees
    (loadable : ∀ key constant, (key, constant) ∈ constants.table.entries →
      key = constant.name ∧ constant.IsLoadable)
    (agrees : ∀ name ∈ constants.table.names, first.get? name = second.get? name) :
    AnswersAlike ⟨constants, first, width, nameLimit⟩
      ⟨constants, second, width, nameLimit⟩ := by
  have agreesOn : ∀ entry ∈ constants.table.entries,
      first.get? entry.2.name = second.get? entry.2.name := by
    intro entry member
    obtain ⟨isName, -⟩ := loadable entry.1 entry.2 member
    rw [← isName]
    exact agrees entry.1 (List.mem_map_of_mem member)
  have within : ∀ entry ∈ constants.table.entries,
      entry.2.value.isWithinNumbers = true :=
    fun entry member => (loadable entry.1 entry.2 member).2.value.isWithinNumbers
  have publish : ∀ machine,
      (⟨constants, first, width, nameLimit⟩ : Catalog).publish machine =
        (⟨constants, second, width, nameLimit⟩ : Catalog).publish machine := by
    intro machine
    exact List.foldl_ext _ _ _ fun publication entry member =>
      publishOne_eq_of_agrees (agreesOn entry member) publication entry.1
  refine ⟨?_, publish, ?_⟩
  · intro name
    unfold Catalog.resolve
    cases held : constants.get? name with
    | none => rfl
    | some constant =>
        dsimp only
        rw [resolveConstant_eq_of_agrees (agreesOn _ (mem_of_lookupEntry held))]
  · intro machine
    refine ⟨_, Catalog.publishByCalls_of_within _ machine within, ?_⟩
    rw [Catalog.publishByCalls_of_within _ machine within, publish machine]
    refine congrArg (fun calls => Except.ok (MachineRun.mk _ calls)) (List.flatMap_congr ?_)
    intro entry member
    exact (callsFor_eq_of_agrees (agreesOn entry member) entry.1).symm

end Agreement

/-! ## Idle lines -/

private theorem Store.isIdleLine_iff {constants : ConstantStore} {line : String} :
    constants.IsIdleLine line ↔
      ∀ name ∈ constants.table.names, ¬typeFormat.DeclaresName line name := by
  simp only [declaresName_typeFormat_iff]
  constructor
  · rintro idle name isConstant ⟨declared, declares⟩
    exact idle name declared declares isConstant
  · intro other name declared declares isConstant
    exact other name isConstant ⟨declared, declares⟩

instance (constants : ConstantStore) (line : String) :
    Decidable (constants.IsIdleLine line) :=
  decidable_of_iff
    (∀ name ∈ constants.table.names, ((typeFormat.addition? line).map Addition.name) ≠ some name)
    (by
      rw [Store.isIdleLine_iff]
      simp only [DeclarationFormat.DeclaresName, ne_eq, Option.map_eq_some_iff])

/-- Idle lines that are put in leave the types of constants as they were. -/
private theorem lastUnder?_of_inserts {constants : ConstantStore} {original grown : List String}
    (inserts : Inserts constants.IsIdleLine original grown) {name : String}
    (isConstant : name ∈ constants.table.names) :
    typeFormat.lastUnder? name original = typeFormat.lastUnder? name grown := by
  induction inserts with
  | nil => rfl
  | keep line others inductionHypothesis =>
      rw [DeclarationFormat.lastUnder?_cons, DeclarationFormat.lastUnder?_cons,
        inductionHypothesis]
  | insert idle others inductionHypothesis =>
      have other := Store.isIdleLine_iff.1 idle name isConstant
      rw [typeFormat.lastUnder?_cons_of_other other, inductionHypothesis]

/-- Types have influence on the constants alone that they are declared for. -/
theorem types_act_by_name {limit : Option Int} {source : DeclarationSource}
    {constants : ConstantStore}
    (loaded : Store.ofSource constantFormat limit source = .ok constants) (width : VectorWidth)
    (nameLimit : Option Int) :
    TypesActByName constants width nameLimit := by
  have loadable : ∀ key constant, (key, constant) ∈ constants.table.entries →
      key = constant.name ∧ constant.IsLoadable :=
    fun _ _ => isLoadable_of_holds (Store.holds_of_ofSource loaded)
  exact
    { agreeing := fun _ _ => answersAlike_of_agrees loadable
      growing := by
        intro original grown grows firstLimit secondLimit first second firstLoaded
          secondLoaded
        apply answersAlike_of_agrees loadable
        intro name isConstant
        rw [Store.get?_of_ofSource firstLoaded, Store.get?_of_ofSource secondLoaded]
        exact lastUnder?_of_inserts grows.inserts_lines isConstant
      loadable := Store.exists_ofSource_typeFormat }

/-- A declaration of another name that is written in front of the types makes no
difference, and neither does the empty line inside its end. -/
theorem orphan_declaration_makes_no_difference :
    let source : DeclarationSource := .text "const integer A = 1"
    let constants := ((Store.ofLimit none).load constantFormat source).store
    let original := [("declare A: number", LineEnd.lineFeed)]
    let grown := ("declare B: uuid", LineEnd.both) :: original
    Store.ofSource constantFormat none source = .ok constants ∧
      ∃ first second,
        Store.ofSource typeFormat none (.text (terminatedText original ++ "")) = .ok first ∧
          Store.ofSource typeFormat none (.text (terminatedText grown ++ "")) = .ok second ∧
          AnswersAlike ⟨constants, first, .three, none⟩ ⟨constants, second, .three, none⟩ := by
  intro source constants original grown
  have loaded : Store.ofSource constantFormat none source = .ok constants := rfl
  have idle : ∀ line ∈ textLines "declare B: uuid" ++ LineEnd.both.inner,
      constants.IsIdleLine line := by
    decide +kernel
  have rows : Inserts (fun row : String × LineEnd =>
      ∀ line ∈ textLines row.1 ++ row.2.inner, constants.IsIdleLine line) original grown :=
    .insert idle (.refl original)
  have influence := types_act_by_name loaded .three none
  obtain ⟨first, firstLoaded⟩ := influence.loadable (.text (terminatedText original ++ ""))
  obtain ⟨second, secondLoaded⟩ := influence.loadable (.text (terminatedText grown ++ ""))
  exact ⟨loaded, first, second, firstLoaded, secondLoaded,
    influence.growing _ _ (DeclarationSource.growsBy_terminatedText rows "") none none first
      second firstLoaded secondLoaded⟩

end ConstantCatalog
