import Mathlib.Logic.Function.Basic

/-! The data `dpiObject.c` works on: object records, their type descriptors,
the owning connection's list of open objects, and the answers of the
collaborator calls the code branches on. Only the fields the file reads or
writes are kept; a NULL pointer is `none`. -/
namespace Dpi

/-- A non-null native pointer: an OCI instance, indicator, string or descriptor. -/
abbrev Handle := Nat

/-- The address of a `dpiObject` record. -/
abbrev ObjId := Nat

/-- The address of a `dpiObjectType` record. -/
abbrev TypeId := Nat

/-- `dpiOracleTypeNum`. `zero` is the value 0, which no constant has: the type
code of the attribute had no mapping. `other` stands for every constant the
file does not name. -/
inductive OracleTypeNum
  | zero
  | varchar | nvarchar | char | nchar | raw
  | nativeFloat | nativeDouble | nativeInt | number | date
  | timestamp | timestampTz | timestampLtz
  | clob | nclob | blob | bfile
  | boolean | object
  | other
  deriving DecidableEq, Repr, Inhabited

/-- `dpiNativeTypeNum`, with `other` for the constants the file does not name. -/
inductive NativeTypeNum
  | int64 | uint64 | float | double | bytes | timestamp | lob | object | boolean
  | other
  deriving DecidableEq, Repr

/-- The `DPI_ERR_*` numbers the file raises, with the arguments it passes. -/
inductive ErrorNum
  | notCollection (schema name : String)
  | wrongAttr (attrName schema name : String)
  | wrongType (schema name expectedSchema expectedName : String)
  | invalidIndex (index : Int)
  | unhandledDataType (ociTypeCode : Nat)
  | unhandledConversion (oracleTypeNum : OracleTypeNum) (nativeTypeNum : NativeTypeNum)
  /-- A failure raised inside the named collaborator and passed on unchanged. -/
  | collaborator (fn : String)
  deriving DecidableEq, Repr

/-- `dpiError__set(error, action, num, ...)`. -/
structure DpiError where
  action : String
  num : ErrorNum
  deriving DecidableEq, Repr

/-- `dpiDataTypeInfo`: the element or attribute type the conversions switch on. -/
structure DataTypeInfo where
  oracleTypeNum : OracleTypeNum
  ociTypeCode : Nat
  objectType : Option TypeId
  deriving DecidableEq, Repr, Inhabited

/-- `dpiObjectType`, an immutable descriptor. `tdo` is the native type
descriptor that attribute and type checks compare. -/
structure ObjectType where
  tdo : Handle
  schema : String
  name : String
  isCollection : Bool
  elementTypeInfo : DataTypeInfo
  deriving DecidableEq, Repr, Inhabited

/-- `dpiObjectAttr`. -/
structure ObjectAttr where
  name : String
  belongsToType : TypeId
  typeInfo : DataTypeInfo
  deriving DecidableEq, Repr

/-- `dpiObject`, with the reference count of its `dpiBaseType` header. -/
structure Object where
  type : TypeId
  «instance» : Option Handle
  indicator : Option Handle
  dependsOnObj : Option ObjId
  freeIndicator : Bool
  closing : Bool
  openSlotNum : Nat
  refCount : Nat
  deriving DecidableEq, Repr, Inhabited

/-- `dpiLob`: the locator it wraps and its reference count. -/
structure Lob where
  locator : Handle
  refCount : Nat
  deriving DecidableEq, Repr, Inhabited

/-- Modelled from the spec: `dpiHandleList`, the connection's list of open
objects, "a Handle Registry exposing add(instance)->slot, remove(slot)".
The used-slot count is an integer so that a decrement below zero, which wraps
in the unsigned field, stays visible. -/
structure HandleList where
  handles : List (Option ObjId)
  numUsedSlots : Int
  deriving DecidableEq, Repr, Inhabited

/-- `dpiConn`: its tearing-down flag and its list of open objects. -/
structure Conn where
  closing : Bool
  objects : HandleList
  deriving DecidableEq, Repr, Inhabited

/-- `dpiEnv`: the flags and character sets the file reads. -/
structure Env where
  threaded : Bool
  encoding : String
  nencoding : String
  deriving DecidableEq, Repr, Inhabited

/-- `dpiTimestamp`; also the contents of an `OCIDateTime` descriptor. -/
structure Timestamp where
  year : Int
  month : Nat
  day : Nat
  hour : Nat
  minute : Nat
  second : Nat
  fsecond : Nat
  tzHourOffset : Int
  tzMinuteOffset : Int
  deriving DecidableEq, Repr, Inhabited

/-- An `OCINumber`: the decimal `mantissa * 10 ^ exponent`. -/
structure OciNumber where
  mantissa : Int
  exponent : Int
  deriving DecidableEq, Repr, Inhabited

/-- An `OCIDate`. -/
structure OciDate where
  year : Int
  month : Nat
  day : Nat
  hour : Nat
  minute : Nat
  second : Nat
  deriving DecidableEq, Repr, Inhabited

/-- `dpiOracleData`, the native value, by the member that holds it. A string,
a raw value and a timestamp descriptor are given by their contents; an object
by the pointer `asRaw` and, read as `asCollection`, the pointer stored there. -/
inductive OracleData
  | asString (bytes : List UInt8)
  | asRawData (bytes : List UInt8)
  | asInt32 (v : Int)
  | asFloat (v : BitVec 32)
  | asDouble (v : BitVec 64)
  | asNumber (v : OciNumber)
  | asDate (v : OciDate)
  | asTimestamp (v : Timestamp)
  | asObject (raw collection : Option Handle)
  | asBoolean (v : Bool)
  | asLobLocator (locator : Handle)
  deriving DecidableEq, Repr

/-- Which handle of a record `dpiObject__closeHelper` passes to `dpiOci__objectFree`. -/
inductive FreeTarget
  | «instance»
  | indicator
  deriving DecidableEq, Repr

/-- The scratch resources a conversion allocates, with the descriptor type of
a timestamp descriptor. -/
inductive Scratch
  | string
  | raw
  | timestamp
  | timestampTz
  | timestampLtz
  | lob
  deriving DecidableEq, Repr

/-- The OCI calls the accessors (the writers, the readers and the walks of a
collection) make on a record's instance, each with the name of its function. -/
inductive OciCall
  /-- A store (`dpiOci__collAppend`, `dpiOci__collAssignElem` or
  `dpiOci__objectSetAttr`) with what it hands OCI: the native value (`none` for
  NULL), the scalar indicator when it passes one (whether it is the null
  indicator), and the object indicator. -/
  | store (fn : String) (value : Option OracleData) (scalarNull : Option Bool)
      (objectIndicator : Option Handle)
  /-- `dpiOci__tableDelete` or `dpiOci__collTrim`. -/
  | change (fn : String)
  /-- A read: `dpiOci__objectGetAttr`, `dpiOci__collGetElem` or a walk of the
  collection's indexes. -/
  | fetch (fn : String)
  deriving DecidableEq, Repr

/-- The calls of `dpiObject.c` that are logged, in the order made: the making
and reclaiming of a record, the making and freeing of its native instance and
indicator, the OCI calls of the accessors on its instance, and the scratch
resources of a conversion. `dpiOci__objectGetInd`, `dpiOci__objectCopy` and a
failed `dpiOci__objectNew` only take an answer and are not logged. The writes
of a record's own fields are not calls; they are changes of the state. -/
inductive Event
  /-- `dpiGen__allocate` made record `obj` for a call with this parent. -/
  | allocate (obj : ObjId) (dependsOnObj : Option ObjId)
  /-- `dpiOci__objectNew` created `inst` for record `obj`. -/
  | objectNew (obj : ObjId) (inst : Handle)
  /-- `dpiOci__objectFree` on a handle of record `obj`, and whether it succeeded. -/
  | objectFree (obj : ObjId) (target : FreeTarget) (handle : Option Handle)
      (checkError ok : Bool)
  /-- `dpiUtils__freeMemory` reclaimed record `obj`. -/
  | freeMemory (obj : ObjId)
  /-- A scratch resource was allocated. -/
  | scratchAlloc (h : Handle) (kind : Scratch)
  /-- A scratch resource was released. -/
  | scratchFree (h : Handle) (kind : Scratch)
  /-- An OCI call on record `obj`'s instance. -/
  | oci (obj : ObjId) (call : OciCall)
  deriving DecidableEq, Repr

/-- Everything the file can reach: the records, the type descriptors and their
reference counts, the LOB records, the one connection and environment, the
next fresh native handle, the calls made so far, and the answers still to be
given by collaborator calls (`true` for success; an exhausted list answers
success). -/
structure State where
  objects : ObjId → Option Object
  nextObj : ObjId
  types : TypeId → ObjectType
  typeRefCount : TypeId → Nat
  lobs : Handle → Option Lob
  conn : Conn
  env : Env
  nextHandle : Handle
  trace : List Event
  answers : List Bool

namespace State

variable (s : State)

/-- The answer of the next collaborator call. -/
def callOk : Bool := s.answers.headD true

/-- The state once that answer is given. -/
def afterCall : State := { s with answers := s.answers.tail }

/-- Record a call. -/
def log (e : Event) : State := { s with trace := s.trace ++ [e] }

/-- The record at `x`; a freed address reads as the default record. -/
def obj (x : ObjId) : Object := (s.objects x).getD default

/-- Change the record at `x`, if it is live. -/
def modify (x : ObjId) (f : Object → Object) : State :=
  { s with objects := Function.update s.objects x ((s.objects x).map f) }

/-- Whether `x` is a live record. -/
def Live (x : ObjId) : Prop := (s.objects x).isSome

instance (x : ObjId) : Decidable (s.Live x) := inferInstanceAs (Decidable (_ = _))

/-- A connection with no records yet and an empty list of open objects, whose
collaborators give `answers`. -/
def init (answers : List Bool) : State :=
  { objects := fun _ => none, nextObj := 0, types := fun _ => default, typeRefCount := fun _ => 0,
    lobs := fun _ => none, conn := default, env := default, nextHandle := 0, trace := [], answers }

@[simp] theorem afterCall_objects : s.afterCall.objects = s.objects := rfl
@[simp] theorem afterCall_nextObj : s.afterCall.nextObj = s.nextObj := rfl
@[simp] theorem afterCall_conn : s.afterCall.conn = s.conn := rfl
@[simp] theorem afterCall_trace : s.afterCall.trace = s.trace := rfl
@[simp] theorem afterCall_typeRefCount : s.afterCall.typeRefCount = s.typeRefCount := rfl
@[simp] theorem afterCall_answers : s.afterCall.answers = s.answers.tail := rfl
@[simp] theorem afterCall_nextHandle : s.afterCall.nextHandle = s.nextHandle := rfl
@[simp] theorem afterCall_lobs : s.afterCall.lobs = s.lobs := rfl
@[simp] theorem afterCall_types : s.afterCall.types = s.types := rfl
@[simp] theorem afterCall_env : s.afterCall.env = s.env := rfl

@[simp] theorem log_objects (e : Event) : (s.log e).objects = s.objects := rfl
@[simp] theorem log_nextObj (e : Event) : (s.log e).nextObj = s.nextObj := rfl
@[simp] theorem log_conn (e : Event) : (s.log e).conn = s.conn := rfl
@[simp] theorem log_trace (e : Event) : (s.log e).trace = s.trace ++ [e] := rfl
@[simp] theorem log_answers (e : Event) : (s.log e).answers = s.answers := rfl
@[simp] theorem log_typeRefCount (e : Event) : (s.log e).typeRefCount = s.typeRefCount := rfl
@[simp] theorem log_nextHandle (e : Event) : (s.log e).nextHandle = s.nextHandle := rfl
@[simp] theorem log_lobs (e : Event) : (s.log e).lobs = s.lobs := rfl
@[simp] theorem log_types (e : Event) : (s.log e).types = s.types := rfl
@[simp] theorem log_env (e : Event) : (s.log e).env = s.env := rfl

@[simp] theorem modify_objects_self (x : ObjId) (f : Object → Object) :
    (s.modify x f).objects x = (s.objects x).map f := by
  simp [modify]

theorem modify_objects_of_ne {x y : ObjId} (f : Object → Object) (h : y ≠ x) :
    (s.modify x f).objects y = s.objects y := by
  simp [modify, Function.update_noteq h]

@[simp] theorem modify_nextObj (x : ObjId) (f : Object → Object) :
    (s.modify x f).nextObj = s.nextObj := rfl
@[simp] theorem modify_conn (x : ObjId) (f : Object → Object) :
    (s.modify x f).conn = s.conn := rfl
@[simp] theorem modify_trace (x : ObjId) (f : Object → Object) :
    (s.modify x f).trace = s.trace := rfl
@[simp] theorem modify_answers (x : ObjId) (f : Object → Object) :
    (s.modify x f).answers = s.answers := rfl
@[simp] theorem modify_typeRefCount (x : ObjId) (f : Object → Object) :
    (s.modify x f).typeRefCount = s.typeRefCount := rfl
@[simp] theorem modify_nextHandle (x : ObjId) (f : Object → Object) :
    (s.modify x f).nextHandle = s.nextHandle := rfl
@[simp] theorem modify_lobs (x : ObjId) (f : Object → Object) :
    (s.modify x f).lobs = s.lobs := rfl
@[simp] theorem modify_types (x : ObjId) (f : Object → Object) :
    (s.modify x f).types = s.types := rfl
@[simp] theorem modify_env (x : ObjId) (f : Object → Object) :
    (s.modify x f).env = s.env := rfl

theorem modify_objects (x y : ObjId) (f : Object → Object) :
    (s.modify x f).objects y = if y = x then (s.objects y).map f else s.objects y := by
  split_ifs with h
  · subst h; simp
  · exact s.modify_objects_of_ne f h

theorem callOk_of_answers_nil (h : s.answers = []) : s.callOk = true := by
  simp [callOk, h]

theorem obj_of_objects {x : ObjId} {r : Object} (h : s.objects x = some r) : s.obj x = r := by
  simp [obj, h]

theorem live_iff {x : ObjId} : s.Live x ↔ ∃ r, s.objects x = some r :=
  Option.isSome_iff_exists

@[simp] theorem afterCall_obj (x : ObjId) : s.afterCall.obj x = s.obj x := rfl
@[simp] theorem log_obj (e : Event) (x : ObjId) : (s.log e).obj x = s.obj x := rfl

@[simp] theorem obj_modify_self (x : ObjId) (f : Object → Object) :
    (s.modify x f).obj x = ((s.objects x).map f).getD default := by
  simp [obj]

theorem modify_obj_self {x : ObjId} {r : Object} (f : Object → Object)
    (h : s.objects x = some r) : (s.modify x f).obj x = f r := by
  simp [obj, h]

theorem modify_obj_of_ne {x y : ObjId} (f : Object → Object) (h : y ≠ x) :
    (s.modify x f).obj y = s.obj y := by
  simp [obj, s.modify_objects_of_ne f h]

theorem modify_congr {x : ObjId} {r : Object} {f g : Object → Object}
    (h : s.objects x = some r) (hfg : f r = g r) : s.modify x f = s.modify x g := by
  simp only [modify, h, Option.map_some', hfg]

@[simp] theorem modify_callOk (x : ObjId) (f : Object → Object) :
    (s.modify x f).callOk = s.callOk := rfl

@[simp] theorem modify_afterCall (x : ObjId) (f : Object → Object) :
    (s.modify x f).afterCall = s.afterCall.modify x f := rfl

@[simp] theorem modify_log (x : ObjId) (f : Object → Object) (e : Event) :
    (s.modify x f).log e = (s.log e).modify x f := rfl

@[simp] theorem log_callOk (e : Event) : (s.log e).callOk = s.callOk := rfl

@[simp] theorem modify_modify (x : ObjId) (f g : Object → Object) :
    (s.modify x f).modify x g = s.modify x (g ∘ f) := by
  cases s
  simp only [modify, Function.update_same, Option.map_map, Function.update_idem]

end State

end Dpi
