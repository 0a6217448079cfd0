import ConstantCatalog.Proofs.CommandLine.Framing
import ConstantCatalog.Settings.Environment

/-!
Contract: what environment variables make of settings.

A variable that is set to something asks for a setting, and is at fault if there is no such
setting. An environment without such variables gives what its variables ask for, and the
standard where they ask for nothing. Any other environment gives no settings at all, and the
fault is told in one line.

Owns: `Misconfigured`, `Settings.askedFor`, and when an environment gives settings.

Does not own: settings from the command line.
-/

namespace ConstantCatalog

/-! ## What variables ask for -/

/-- Whether a variable asks for a dialect that there is not. -/
def UnknownDialect (value : Option String) : Prop :=
  ∃ name, value = some name ∧ name ≠ "" ∧ lowered name ≠ "lsl" ∧ lowered name ≠ "slua"

/-- Whether a variable asks for vectors of a size that there is not, or of none. -/
def UnusableSize (value : Option String) : Prop :=
  ∃ text, value = some text ∧ text ≠ "" ∧
    readSettingInteger text ≠ .ok 3 ∧ readSettingInteger text ≠ .ok 4

/-- Whether an environment cannot be settings. -/
def Misconfigured (environment : Environment) : Prop :=
  UnknownDialect environment.dialect ∨ UnusableSize environment.vectorSize

def Dialect.askedFor? (value : Option String) : Option Dialect :=
  (Environment.given? value).bind fun name => Dialect.ofName? (lowered name)

def VectorWidth.askedFor? (value : Option String) : Option VectorWidth :=
  (Environment.given? value).bind fun text =>
    (readSettingInteger text).toOption.bind VectorWidth.ofInt?

def SourcePath.askedFor? (value : Option String) : Option SourcePath :=
  (Environment.given? value).map SourcePath.ofText

/-- The settings that an environment asks for. -/
def Settings.askedFor (environment : Environment) : Settings :=
  { Settings.standard with
    constantsPath := SourcePath.askedFor? environment.constantsFile
    typesPath := SourcePath.askedFor? environment.typesFile
    dialect := (Dialect.askedFor? environment.dialect).getD .slua
    vectorWidth := (VectorWidth.askedFor? environment.vectorSize).getD .three }

/-! ## Single variables -/

private theorem Environment.given?_cases (value : Option String) :
    Environment.given? value = none ∧ (∀ text, value = some text → text = "") ∨
      ∃ text, value = some text ∧ text ≠ "" ∧ Environment.given? value = some text := by
  cases value with
  | none => exact Or.inl ⟨rfl, by simp⟩
  | some text =>
      by_cases empty : text = ""
      · subst empty
        refine Or.inl ⟨rfl, ?_⟩
        intro text isText
        exact (Option.some.inj isText).symm
      · exact Or.inr ⟨text, rfl, empty, by simp [Environment.given?, empty]⟩

private theorem Dialect.ofName?_eq_none_iff {name : String} :
    Dialect.ofName? name = none ↔ name ≠ "lsl" ∧ name ≠ "slua" := by
  unfold Dialect.ofName?
  rw [List.find?_eq_none]
  simp only [Dialect.all, List.mem_cons, List.not_mem_nil, or_false, forall_eq_or_imp, forall_eq,
    Dialect.name, beq_iff_eq]
  constructor
  · rintro ⟨notLsl, notSlua⟩
    exact ⟨fun isLsl => notLsl isLsl.symm, fun isSlua => notSlua isSlua.symm⟩
  · rintro ⟨notLsl, notSlua⟩
    exact ⟨fun isLsl => notLsl isLsl.symm, fun isSlua => notSlua isSlua.symm⟩

private theorem Dialect.ofVariable_of_unknown {value : Option String}
    (unknown : UnknownDialect value) :
    ∃ fault, Dialect.ofVariable value = .error fault ∧ IsField fault.message.toList := by
  obtain ⟨name, rfl, nonempty, notLsl, notSlua⟩ := unknown
  have nothing := Dialect.ofName?_eq_none_iff.2 ⟨notLsl, notSlua⟩
  have given : Environment.given? (some name) = some name := by
    simp [Environment.given?, nonempty]
  refine ⟨.dialect ⟨lowered name, "Dialect"⟩, ?_, ?_⟩
  · rw [Dialect.ofVariable, given]
    dsimp only
    rw [Dialect.ofName, nothing]
    rfl
  · have behind : IsField " is not a valid ".toList := by decide
    have category : IsField "Dialect".toList := by decide
    show IsField (quoted (lowered name) ++ " is not a valid " ++ "Dialect").toList
    rw [String.toList_append, String.toList_append]
    exact ((isField_quoted _).append behind).append category

private theorem Dialect.ofVariable_of_known {value : Option String}
    (known : ¬UnknownDialect value) :
    Dialect.ofVariable value = .ok ((Dialect.askedFor? value).getD .slua) := by
  cases Environment.given?_cases value with
  | inl nothing =>
      rw [Dialect.ofVariable, Dialect.askedFor?, nothing.1]
      rfl
  | inr something =>
      obtain ⟨name, rfl, nonempty, given⟩ := something
      rw [Dialect.ofVariable, Dialect.askedFor?, given]
      dsimp only
      rw [Option.bind_some, Dialect.ofName]
      cases found : Dialect.ofName? (lowered name) with
      | some dialect => rfl
      | none => exact absurd ⟨name, rfl, nonempty, Dialect.ofName?_eq_none_iff.1 found⟩ known

private theorem VectorWidth.ofInt?_eq_none_iff {size : Int} :
    VectorWidth.ofInt? size = none ↔ size ≠ 3 ∧ size ≠ 4 := by
  unfold VectorWidth.ofInt?
  by_cases isThree : size = 3
  · simp [isThree]
  · by_cases isFour : size = 4
    · simp [isFour]
    · simp [isThree, isFour]

/-- The message of an integer that cannot be read is one line. -/
private theorem isField_integerFault (fault : IntegerFault) : IsField fault.message.toList := by
  cases fault with
  | tooManyDigits count =>
      have opening : IsField "Exceeds the limit (".toList := by decide +kernel
      have middle : IsField " digits) for integer string conversion: ".toList := by decide +kernel
      have value : IsField "value has ".toList := by decide +kernel
      have behind : IsField
          " digits; use sys.set_int_max_str_digits() to increase the limit".toList := by
        decide +kernel
      have limit : IsField maxIntegerDigits.repr.toList := isField_natText maxIntegerDigits
      show IsField ("Exceeds the limit (" ++ maxIntegerDigits.repr ++
        " digits) for integer string conversion: " ++ ("value has " ++ count.repr ++
          " digits; use sys.set_int_max_str_digits() to increase the limit")).toList
      simp only [String.toList_append]
      exact ((opening.append limit).append middle).append
        ((value.append (isField_natText count)).append behind)
  | unreadable text =>
      have front : IsField "invalid literal for int() with base 10: ".toList := by decide +kernel
      have shown : IsField (String.ofList ((quoted text).toList.take 200)).toList := by
        rw [String.toList_ofList]
        exact (isField_quoted text).of_subset (List.take_subset 200 _)
      show IsField ("invalid literal for int() with base 10: " ++
        String.ofList ((quoted text).toList.take 200)).toList
      rw [String.toList_append]
      exact front.append shown

private theorem vectorSizeOfVariable_cases (value : Option String) :
    (∃ size, vectorSizeOfVariable value = .ok size) ∨
      ∃ fault, vectorSizeOfVariable value = .error fault ∧ IsField fault.message.toList := by
  rw [vectorSizeOfVariable]
  cases Environment.given? value with
  | none => exact Or.inl ⟨3, rfl⟩
  | some text =>
      dsimp only
      cases readSettingInteger text with
      | ok size => exact Or.inl ⟨size, rfl⟩
      | error fault => exact Or.inr ⟨.integer fault, rfl, isField_integerFault fault⟩

private theorem vectorSizeOfVariable_of_usable {value : Option String}
    (usable : ¬UnusableSize value) :
    ∃ size, vectorSizeOfVariable value = .ok size ∧
      VectorWidth.ofInt? size = some ((VectorWidth.askedFor? value).getD .three) := by
  cases Environment.given?_cases value with
  | inl nothing =>
      rw [vectorSizeOfVariable, VectorWidth.askedFor?, nothing.1]
      exact ⟨3, rfl, rfl⟩
  | inr something =>
      obtain ⟨text, rfl, nonempty, given⟩ := something
      have isSize : readSettingInteger text = .ok 3 ∨ readSettingInteger text = .ok 4 := by
        by_cases isThree : readSettingInteger text = .ok 3
        · exact Or.inl isThree
        · by_cases isFour : readSettingInteger text = .ok 4
          · exact Or.inr isFour
          · exact absurd ⟨text, rfl, nonempty, isThree, isFour⟩ usable
      rw [vectorSizeOfVariable, VectorWidth.askedFor?, given]
      dsimp only
      rw [Option.bind_some]
      cases isSize with
      | inl isThree =>
          rw [isThree]
          exact ⟨3, rfl, rfl⟩
      | inr isFour =>
          rw [isFour]
          exact ⟨4, rfl, rfl⟩

/-- What a variable of no usable size comes to is refused as a number or as a size. -/
private theorem ofInt?_of_unusable {value : Option String} {size : Int}
    (unusable : UnusableSize value) (isSize : vectorSizeOfVariable value = .ok size) :
    VectorWidth.ofInt? size = none := by
  obtain ⟨text, rfl, nonempty, notThree, notFour⟩ := unusable
  have given : Environment.given? (some text) = some text := by
    simp [Environment.given?, nonempty]
  rw [vectorSizeOfVariable, given] at isSize
  dsimp only at isSize
  cases read : readSettingInteger text with
  | error fault =>
      rw [read] at isSize
      contradiction
  | ok found =>
      rw [read] at isSize notThree notFour
      obtain rfl : found = size := Except.ok.inj isSize
      apply VectorWidth.ofInt?_eq_none_iff.2
      exact ⟨fun isThree => notThree (by rw [isThree]), fun isFour => notFour (by rw [isFour])⟩

private theorem isField_vectorSizeFault (size : Int) :
    IsField (SettingsFault.vectorSize size).message.toList := by
  have front : IsField "vector_size must be 3 or 4, got ".toList := by decide +kernel
  show IsField ("vector_size must be 3 or 4, got " ++ toString size).toList
  rw [String.toList_append]
  exact front.append (isField_intText size)

/-! ## Environments -/

private theorem SettingsDraft.check_of_width {draft : SettingsDraft} {width : VectorWidth}
    (isWidth : VectorWidth.ofInt? draft.vectorSize = some width)
    (isStandard : draft.sourceBudget = defaultSourceBudget) :
    draft.check = .ok
      { constantsPath := draft.constantsPath
        typesPath := draft.typesPath
        dialect := draft.dialect
        vectorWidth := width
        sourceBudget := defaultSourceBudget
        arenaLimit := draft.arenaLimit
        nameLimit := draft.nameLimit
        sourceBudget_pos := defaultSourceBudget_pos } := by
  obtain ⟨constantsPath, typesPath, dialect, vectorSize, sourceBudget, arenaLimit, nameLimit⟩ :=
    draft
  dsimp only at isWidth isStandard
  subst isStandard
  rw [check, VectorWidth.ofInt]
  dsimp only
  rw [isWidth]
  rfl

/-- An environment that is not misconfigured gives the settings that it asks for. -/
theorem Settings.ofEnvironment_of_configured {environment : Environment}
    (configured : ¬Misconfigured environment) :
    Settings.ofEnvironment environment = .ok (Settings.askedFor environment) := by
  have known := Dialect.ofVariable_of_known fun unknown => configured (Or.inl unknown)
  obtain ⟨size, isSize, isWidth⟩ :=
    vectorSizeOfVariable_of_usable fun unusable => configured (Or.inr unusable)
  have drafted : SettingsDraft.ofEnvironment environment = .ok
      { constantsPath := SourcePath.askedFor? environment.constantsFile
        typesPath := SourcePath.askedFor? environment.typesFile
        dialect := (Dialect.askedFor? environment.dialect).getD .slua
        vectorSize := size } := by
    rw [SettingsDraft.ofEnvironment, known, isSize]
    rfl
  rw [ofEnvironment, drafted]
  show Except.mapError SettingsFault.environment (SettingsDraft.check _) = _
  rw [SettingsDraft.check_of_width isWidth rfl]
  rfl

/-- Any other environment gives none, and its fault is told in one line. -/
theorem Settings.ofEnvironment_of_misconfigured {environment : Environment}
    (misconfigured : Misconfigured environment) :
    ∃ fault : SettingsFault,
      Settings.ofEnvironment environment = .error (.environment fault) ∧
        IsField fault.message.toList := by
  have ofDraft : ∃ fault,
      (SettingsDraft.ofEnvironment environment).bind SettingsDraft.check = .error fault ∧
        IsField fault.message.toList := by
    rw [SettingsDraft.ofEnvironment]
    by_cases unknown : UnknownDialect environment.dialect
    · obtain ⟨fault, refused, isField⟩ := Dialect.ofVariable_of_unknown unknown
      rw [refused]
      exact ⟨fault, rfl, isField⟩
    · have unusable : UnusableSize environment.vectorSize :=
        misconfigured.resolve_left unknown
      rw [Dialect.ofVariable_of_known unknown]
      cases vectorSizeOfVariable_cases environment.vectorSize with
      | inr refused =>
          obtain ⟨fault, isFault, isField⟩ := refused
          rw [isFault]
          exact ⟨fault, rfl, isField⟩
      | inl read =>
          obtain ⟨size, isSize⟩ := read
          have nothing := ofInt?_of_unusable unusable isSize
          rw [isSize]
          refine ⟨.vectorSize size, ?_, isField_vectorSizeFault size⟩
          show SettingsDraft.check _ = _
          rw [SettingsDraft.check, VectorWidth.ofInt]
          dsimp only
          rw [nothing]
  obtain ⟨fault, refused, isField⟩ := ofDraft
  refine ⟨fault, ?_, isField⟩
  rw [ofEnvironment, refused]
  rfl

end ConstantCatalog
