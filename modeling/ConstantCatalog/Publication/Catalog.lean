import ConstantCatalog.Diagnostics.Reported
import ConstantCatalog.Publication.GlobalTable
import ConstantCatalog.Store

/-!
Contract: a store of constants seen together with a store of declared types.

A constant takes its declared type where its kind allows it:

  declared type   kinds that can take it
  uuid            key, string
  quaternion      quaternion
  vector          vector
  number          integer, float
  string          string, key
  unknown         none

In every other case it keeps its own kind: numbers as numbers, texts as strings,
vectors as vectors, and quaternions as vectors too, without their scalar part where
vectors have three components. What has no representation becomes nil.

Constants of a store hold integers that are numbers of the machine. One that a caller
brings along may hold an integer beyond them, which has no representation; the checked
operations refuse it where its number would be needed.

Owns: `Catalog`, resolution of constants, and publication of all of them.

Does not own: the loading of the two stores.
-/

namespace ConstantCatalog

/-- Both stores, the width of the machine's vectors, and the limit on the copy made of
each name that is published. -/
structure Catalog where
  constants : ConstantStore
  types : TypeStore
  vectorWidth : VectorWidth
  nameLimit : Option Int

/-- Whether a constant of a kind can take a declared type. -/
def DeclaredType.accepts : DeclaredType → ConstantKind → Bool
  | .uuid, .key | .uuid, .string => true
  | .quaternion, .quaternion => true
  | .vector, .vector => true
  | .number, .integer | .number, .float => true
  | .string, .string | .string, .key => true
  | _, _ => false

/-- The representation of a value under a declared type, if it can take the type. -/
def ConstantValue.coerced? :
    ConstantValue → DeclaredType → Option GlobalValue
  | .key text, .uuid | .string text, .uuid => some (.uuid text)
  | .quaternion value, .quaternion => some (.quaternion value)
  | .vector value, .vector => some (.vector value none)
  | .integer value, .number => some (.number (Number.ofInt value))
  | .float value, .number => some (.number value)
  | .string text, .string | .key text, .string => some (.string text)
  | _, _ => none

/-- The vector that a quaternion becomes on a machine of the given width. -/
def Rotation.asVector (rotation : Rotation) : VectorWidth → GlobalValue
  | .three => .vector ⟨rotation.x, rotation.y, rotation.z⟩ none
  | .four => .vector ⟨rotation.x, rotation.y, rotation.z⟩ (some rotation.s)

/-- The representation of a value by its own kind. -/
def ConstantValue.native (width : VectorWidth) : ConstantValue → GlobalValue
  | .integer value => .number (Number.ofInt value)
  | .float value => .number value
  | .string text | .key text => .string text
  | .vector value => .vector value none
  | .quaternion value => value.asVector width
  | .null | .list | .error => .nil

/-- A value can take a declared type exactly if its kind is one that the type accepts. -/
theorem ConstantValue.isSome_coerced? (value : ConstantValue) (declared : DeclaredType) :
    (value.coerced? declared).isSome = declared.accepts value.kind := by
  cases value <;> cases declared <;> rfl

def ConstantValue.isWithinNumbers : ConstantValue → Bool
  | .integer value => (Number.ofInt? value).isSome
  | _ => true

/-- The representation of a value by its own kind, if it is within the numbers. -/
def ConstantValue.checkedNative (width : VectorWidth)
    (value : ConstantValue) : Except MachineFault GlobalValue :=
  if value.isWithinNumbers then .ok (value.native width) else .error .integerTooLarge

/-- The representation of a value under a declared type, if it can take the type. One
that can, but is not within the numbers, is refused. -/
def ConstantValue.checkedCoerced (value : ConstantValue)
    (declared : DeclaredType) : Except MachineFault (Option GlobalValue) :=
  match value.coerced? declared with
  | none => .ok none
  | some published =>
      if value.isWithinNumbers then .ok (some published) else .error .integerTooLarge

namespace Catalog

/-- The representation of a constant, and the event that its declared type had to be
set aside. -/
def resolveConstant (catalog : Catalog) (constant : Constant) : GlobalValue × List Event :=
  let native := constant.value.native catalog.vectorWidth
  match catalog.types.get? constant.name with
  | none => (native, [])
  | some declared =>
      match constant.value.coerced? declared with
      | some value => (value, [])
      | none => (native, [.nativeKindKept constant.name constant.kind declared])

/-- The representation of a constant that need not be of the store. -/
def checkedResolveConstant (catalog : Catalog)
    (constant : Constant) : Reported MachineFault GlobalValue :=
  let (value, events) := catalog.resolveConstant constant
  if constant.value.isWithinNumbers then ⟨events, .ok value⟩
  else ⟨events, .error .integerTooLarge⟩

def resolve (catalog : Catalog) (name : String) : Option GlobalValue × List Event :=
  match catalog.constants.get? name with
  | none => (none, [])
  | some constant =>
      let (value, events) := catalog.resolveConstant constant
      (some value, events)

/-- Drops the content of both stores. -/
def close (catalog : Catalog) : Catalog :=
  { catalog with
    constants := catalog.constants.close
    types := catalog.types.close }

end Catalog

/-- How far a publication has come: the number of globals bound, the machine, and the
events so far. -/
structure Publication where
  count : Nat
  table : GlobalTable
  events : Array Event

namespace Publication

/-- Publishes one constant under a name: resolves it, copies the name into an arena of
its own, and binds the global. A name that cannot be copied is passed over. -/
def publishOne (catalog : Catalog) (publication : Publication) (name : String)
    (constant : Constant) : Publication :=
  let (value, events) := catalog.resolveConstant constant
  match (Arena.ofLimit catalog.nameLimit).chargeText name with
  | .ok _ =>
      { count := publication.count + 1
        table := publication.table.bind name value
        events := publication.events ++ events }
  | .error cause =>
      { publication with
        events := publication.events ++ (events ++ [Event.globalSkipped name cause]) }

end Publication

/-- Publishes every constant of a catalog, in the order of the store. -/
def Catalog.publish (catalog : Catalog) (table : GlobalTable) : Publication :=
  catalog.constants.table.entries.foldl
    (fun publication (name, constant) =>
      publication.publishOne catalog name constant)
    ⟨0, table, #[]⟩

end ConstantCatalog
