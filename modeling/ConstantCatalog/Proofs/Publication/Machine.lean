import ConstantCatalog.Proofs.Arena
import ConstantCatalog.Publication.Catalog

/-!
Contract: publication as calls of the machine.

The machine is driven by single calls: one for each representation of a value, which
pushes it, and one that takes the top of the stack and binds it. Publication makes two
calls for each name that can be copied and none for the others. Where every integer is
within the numbers no call fails, and the calls do what `Catalog.publish` does.

Owns: `MachineCall` and what each call does, `MachineRun`, publication call by call, and
its agreement with `Catalog.publish`.

Does not own: the state that a publication leaves.
-/

namespace ConstantCatalog

/-! ## Calls -/

/-- The operations of the machine. -/
inductive MachineCall where
  | pushNumber (value : Number)
  | pushString (text : String)
  | pushUuid (text : String)
  | pushVector (x y z : Number) (fourth : Option Number)
  | pushQuaternion (x y z s : Number)
  | pushNil
  | setGlobal (name : String)
deriving DecidableEq, Repr

/-- What a call does to the machine. -/
def GlobalTable.perform (table : GlobalTable) : MachineCall → Except MachineFault GlobalTable
  | .pushNumber value => .ok (table.push (.number value))
  | .pushString text => .ok (table.push (.string text))
  | .pushUuid text => .ok (table.push (.uuid text))
  | .pushVector x y z fourth => .ok (table.push (.vector ⟨x, y, z⟩ fourth))
  | .pushQuaternion x y z s => .ok (table.push (.quaternion ⟨x, y, z, s⟩))
  | .pushNil => .ok (table.push .nil)
  | .setGlobal name => table.setGlobal name

/-- The call that pushes a value. -/
def GlobalValue.pushCall : GlobalValue → MachineCall
  | .number value => .pushNumber value
  | .string text => .pushString text
  | .uuid text => .pushUuid text
  | .vector value fourth => .pushVector value.x value.y value.z fourth
  | .quaternion value => .pushQuaternion value.x value.y value.z value.s
  | .nil => .pushNil

/-- Pushing a value by its call puts that very value on the stack. -/
@[simp] theorem GlobalTable.perform_pushCall (table : GlobalTable) (value : GlobalValue) :
    table.perform value.pushCall = .ok (table.push value) := by
  cases value <;> rfl

/-- No value is pushed by a call that sets a global. -/
theorem GlobalValue.pushCall_ne_setGlobal (value : GlobalValue) (name : String) :
    value.pushCall ≠ .setGlobal name := by
  cases value <;> simp [pushCall]

/-! ## Names that can be copied -/

namespace Catalog

/-- Whether the limit on names leaves room for the copy of a name. -/
def fits (catalog : Catalog) (name : String) : Bool :=
  match catalog.nameLimit with
  | none => true
  | some limit => decide ((name.utf8ByteSize : Int) ≤ limit)

/-- The refusal of a name that there is no room for. -/
def refusal (catalog : Catalog) (name : String) : ArenaExhausted :=
  ⟨catalog.nameLimit.getD 0, 0, name.utf8ByteSize⟩

private theorem exceedsWith_eq_not_fits (catalog : Catalog) (name : String) :
    (Arena.ofLimit catalog.nameLimit).exceedsWith name.utf8ByteSize = !catalog.fits name := by
  unfold fits
  cases catalog.nameLimit with
  | none => rfl
  | some limit =>
      rw [Arena.exceedsWith_ofLimit, ← decide_not]
      simp only [Int.not_le]

theorem chargeText_of_fits {catalog : Catalog} {name : String} (fits : catalog.fits name = true) :
    ∃ charged, (Arena.ofLimit catalog.nameLimit).chargeText name = .ok charged := by
  have within := catalog.exceedsWith_eq_not_fits name
  rw [fits] at within
  exact ⟨_, Arena.charge_granted within⟩

theorem chargeText_of_not_fits {catalog : Catalog} {name : String}
    (tooLong : catalog.fits name = false) :
    (Arena.ofLimit catalog.nameLimit).chargeText name = .error (catalog.refusal name) := by
  have exceeds := catalog.exceedsWith_eq_not_fits name
  rw [tooLong, Bool.not_false] at exceeds
  rw [Arena.chargeText, Arena.charge, if_pos exceeds]
  rfl

/-- The calls that publish a constant under a name. -/
def callsFor (catalog : Catalog) (name : String) (constant : Constant) : List MachineCall :=
  if catalog.fits name then
    [(catalog.resolveConstant constant).1.pushCall, .setGlobal name]
  else []

end Catalog

/-! ## Runs -/

/-- How far a publication has come, with the calls that it has made, in order. -/
structure MachineRun extends Publication where
  calls : List MachineCall

namespace MachineRun

/-- Makes one call. -/
def call (run : MachineRun) (next : MachineCall) : Except MachineFault MachineRun :=
  match run.table.perform next with
  | .ok table => .ok { run with table := table, calls := run.calls ++ [next] }
  | .error fault => .error fault

def report (run : MachineRun) (events : List Event) : MachineRun :=
  { run with events := run.events ++ events }

/-- Pushes a value, sets a global to it, and counts it. -/
def bind (run : MachineRun) (name : String)
    (value : GlobalValue) : Except MachineFault MachineRun := do
  let pushed ← run.call value.pushCall
  let bound ← pushed.call (.setGlobal name)
  return { bound with count := bound.count + 1 }

/-- Publishes one constant under a name: resolves it, copies the name into an arena of
its own, and binds the global. A name that cannot be copied is passed over. -/
def publishOne (catalog : Catalog) (run : MachineRun) (name : String)
    (constant : Constant) : Except MachineFault MachineRun :=
  match catalog.checkedResolveConstant constant with
  | ⟨_, .error fault⟩ => .error fault
  | ⟨events, .ok value⟩ =>
      match (Arena.ofLimit catalog.nameLimit).chargeText name with
      | .ok _ => (run.report events).bind name value
      | .error cause => .ok (run.report (events ++ [.globalSkipped name cause]))

/-- Publishes constants one after the other. -/
def publishAll (catalog : Catalog) (run : MachineRun)
    (entries : List (String × Constant)) : Except MachineFault MachineRun :=
  entries.foldlM (fun reached (name, constant) => reached.publishOne catalog name constant) run

end MachineRun

/-- Publishes every constant of a catalog, in the order of the store, by calls of the
machine. -/
def Catalog.publishByCalls (catalog : Catalog)
    (table : GlobalTable) : Except MachineFault MachineRun :=
  MachineRun.publishAll catalog ⟨⟨0, table, #[]⟩, []⟩ catalog.constants.table.entries

/-! ## Agreement -/

private theorem MachineRun.call_of_perform {run : MachineRun} {next : MachineCall}
    {table : GlobalTable} (performed : run.table.perform next = .ok table) :
    run.call next = .ok { run with table := table, calls := run.calls ++ [next] } := by
  rw [call, performed]

/-- Binding a global takes two calls, and the second takes away what the first one has
pushed. -/
private theorem MachineRun.bind_eq (run : MachineRun) (name : String) (value : GlobalValue) :
    run.bind name value =
      .ok
        { count := run.count + 1
          table := run.table.bind name value
          events := run.events
          calls := run.calls ++ [value.pushCall, .setGlobal name] } := by
  let afterPush : MachineRun :=
    { run with table := run.table.push value, calls := run.calls ++ [value.pushCall] }
  have pushed : run.call value.pushCall = .ok afterPush :=
    call_of_perform (run.table.perform_pushCall value)
  have performed : afterPush.table.perform (.setGlobal name) = .ok (run.table.bind name value) :=
    run.table.setGlobal_push name value
  have bound := call_of_perform performed
  rw [bind, pushed]
  change (do let reached ← afterPush.call (.setGlobal name); _) = _
  rw [bound]
  simp [afterPush, pure, Except.pure, Except.bind, Bind.bind]

/-- A value within the numbers is represented. -/
theorem Catalog.checkedResolveConstant_of_within (catalog : Catalog) {constant : Constant}
    (within : constant.value.isWithinNumbers = true) :
    catalog.checkedResolveConstant constant =
      ⟨(catalog.resolveConstant constant).2, .ok (catalog.resolveConstant constant).1⟩ :=
  if_pos within

/-- Publishing one constant by calls succeeds and agrees with publishing it. -/
private theorem MachineRun.publishOne_of_within (catalog : Catalog) (run : MachineRun)
    (name : String) {constant : Constant} (within : constant.value.isWithinNumbers = true) :
    run.publishOne catalog name constant =
      .ok ⟨run.toPublication.publishOne catalog name constant,
        run.calls ++ catalog.callsFor name constant⟩ := by
  rw [publishOne, catalog.checkedResolveConstant_of_within within,
    Publication.publishOne, Catalog.callsFor]
  cases fits : catalog.fits name with
  | true =>
      obtain ⟨charged, granted⟩ := Catalog.chargeText_of_fits fits
      simp only [granted, bind_eq, if_true]
      rfl
  | false =>
      have refused := Catalog.chargeText_of_not_fits fits
      simp [refused, report]

private theorem MachineRun.publishAll_of_within (catalog : Catalog) (run : MachineRun)
    {entries : List (String × Constant)}
    (within : ∀ entry ∈ entries, entry.2.value.isWithinNumbers = true) :
    run.publishAll catalog entries =
      .ok
        ⟨entries.foldl
            (fun publication (name, constant) => publication.publishOne catalog name constant)
            run.toPublication,
          run.calls ++ entries.flatMap fun (name, constant) =>
            catalog.callsFor name constant⟩ := by
  induction entries generalizing run with
  | nil => simp [publishAll, pure, Except.pure]
  | cons entry rest inductionHypothesis =>
      obtain ⟨name, constant⟩ := entry
      have first := run.publishOne_of_within catalog name (within _ List.mem_cons_self)
      have restWithin : ∀ other ∈ rest, other.2.value.isWithinNumbers = true :=
        fun other member => within other (List.mem_cons_of_mem _ member)
      rw [publishAll, List.foldlM_cons]
      dsimp only at first ⊢
      rw [first]
      refine (inductionHypothesis _ restWithin).trans ?_
      simp only [List.foldl_cons, List.flatMap_cons, List.append_assoc]

/-- Where all integers are within the numbers, publication by calls succeeds and agrees
with publication. -/
theorem Catalog.publishByCalls_of_within (catalog : Catalog) (table : GlobalTable)
    (within : ∀ entry ∈ catalog.constants.table.entries,
      entry.2.value.isWithinNumbers = true) :
    catalog.publishByCalls table =
      .ok ⟨catalog.publish table,
        catalog.constants.table.entries.flatMap fun (name, constant) =>
          catalog.callsFor name constant⟩ :=
  MachineRun.publishAll_of_within catalog ⟨⟨0, table, #[]⟩, []⟩ within

end ConstantCatalog
