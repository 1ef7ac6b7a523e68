import Mathlib.Algebra.Group.Int
import DpiObject.Lifecycle

/-! The conversions of `dpiObject.c`: `dpiObject__toOracleValue`, from an
external value to the native form a collection or object stores, with the
scratch resource it may allocate; `dpiObject__fromOracleValue`, back; and
`dpiObject__clearOracleValue`, which releases the scratch resource. The
number, date and timestamp conversions of `dpiDataBuffer.c` are not in this
file: they are parameters, and one that answers `none` has failed. -/
namespace Dpi

/-- `dpiBytes`: the bytes and the name of their encoding (NULL for raw data). -/
structure Bytes where
  ptr : List UInt8
  encoding : Option String
  deriving DecidableEq, Repr, Inhabited

/-- `dpiDataBuffer`, the value of a `dpiData`, by the member that holds it. -/
inductive DataBuffer
  | asInt64 (v : Int)
  | asUint64 (v : Nat)
  | asFloat (v : BitVec 32)
  | asDouble (v : BitVec 64)
  | asBytes (v : Bytes)
  | asTimestamp (v : Timestamp)
  | asLOB (lob : Handle)
  | asObject (obj : ObjId)
  | asBoolean (v : Bool)
  deriving DecidableEq, Repr

/-- `dpiData`. -/
structure Data where
  isNull : Bool
  value : DataBuffer
  deriving DecidableEq, Repr

namespace DataBuffer

/-- The external type whose member holds the value. -/
def nativeTypeNum : DataBuffer → NativeTypeNum
  | asInt64 _ => .int64
  | asUint64 _ => .uint64
  | asFloat _ => .float
  | asDouble _ => .double
  | asBytes _ => .bytes
  | asTimestamp _ => .timestamp
  | asLOB _ => .lob
  | asObject _ => .object
  | asBoolean _ => .boolean

/-! Reading a member that does not hold the value reads bytes that mean
nothing; it gives a default here, and no result depends on it. -/

/-- `value.asInt64`. -/
def int64 : DataBuffer → Int | asInt64 v => v | _ => 0
/-- `value.asFloat`. -/
def float : DataBuffer → BitVec 32 | asFloat v => v | _ => 0
/-- `value.asDouble`. -/
def double : DataBuffer → BitVec 64 | asDouble v => v | _ => 0
/-- `value.asBytes`. -/
def bytes : DataBuffer → Bytes | asBytes v => v | _ => default
/-- `value.asTimestamp`. -/
def timestamp : DataBuffer → Timestamp | asTimestamp v => v | _ => default
/-- `value.asLOB`. -/
def lob : DataBuffer → Handle | asLOB v => v | _ => 0
/-- `value.asObject`. -/
def object : DataBuffer → ObjId | asObject v => v | _ => 0
/-- `value.asBoolean`. -/
def boolean : DataBuffer → Bool | asBoolean v => v | _ => false

end DataBuffer

namespace OracleData

/-- `*value->asString`, through `dpiOci__stringPtr` and `dpiOci__stringSize`. -/
def string : OracleData → List UInt8 | asString b => b | _ => []
/-- `*value->asRawData`, through `dpiOci__rawPtr` and `dpiOci__rawSize`. -/
def rawData : OracleData → List UInt8 | asRawData b => b | _ => []
/-- `*value->asInt32`. -/
def int32 : OracleData → Int | asInt32 v => v | _ => 0
/-- `*value->asFloat`. -/
def float : OracleData → BitVec 32 | asFloat v => v | _ => 0
/-- `*value->asDouble`. -/
def double : OracleData → BitVec 64 | asDouble v => v | _ => 0
/-- `value->asNumber`. -/
def number : OracleData → OciNumber | asNumber v => v | _ => default
/-- `value->asDate`. -/
def date : OracleData → OciDate | asDate v => v | _ => default
/-- `*value->asTimestamp`. -/
def timestamp : OracleData → Timestamp | asTimestamp v => v | _ => default
/-- `value->asRaw`. -/
def raw : OracleData → Option Handle | asObject r _ => r | _ => none
/-- `*value->asCollection`. -/
def collection : OracleData → Option Handle | asObject _ c => c | _ => none
/-- `*value->asBoolean`. -/
def boolean : OracleData → Bool | asBoolean v => v | _ => false

end OracleData

/-- The conversions of `dpiDataBuffer.c` the two switches call; `none` is a
failure, with the error the helper sets. `toOracleDate` and `fromOracleDate`
take no error and cannot fail. -/
structure Helpers where
  toOracleNumberFromInteger : Int → Option OciNumber
  toOracleNumberFromDouble : BitVec 64 → Option OciNumber
  toOracleNumberFromText : Env → Bytes → Option OciNumber
  fromOracleNumberAsDouble : OciNumber → Option (BitVec 64)
  fromOracleNumberAsInteger : OciNumber → Option Int
  fromOracleNumberAsUnsignedInteger : OciNumber → Option Nat
  fromOracleNumberAsText : Env → OciNumber → Option Bytes
  toOracleDate : Timestamp → OciDate
  fromOracleDate : OciDate → Timestamp
  toOracleDateFromDouble : Env → BitVec 64 → Option OciDate
  fromOracleDateAsDouble : Env → OciDate → Option (BitVec 64)
  toOracleTimestamp : Env → Timestamp → Bool → Option Timestamp
  fromOracleTimestamp : Env → Timestamp → Bool → Option Timestamp
  toOracleTimestampFromDouble : OracleTypeNum → Env → BitVec 64 → Option Timestamp
  fromOracleTimestampAsDouble : OracleTypeNum → Env → Timestamp → Option (BitVec 64)
  /-- The C conversion `(float)` of a double. -/
  narrow : BitVec 64 → BitVec 32

/-- Helpers that convert an integer exactly, copy a timestamp, keep the
fields an `OCIDate` has, and refuse doubles and text. -/
def Helpers.exact : Helpers where
  toOracleNumberFromInteger i := some ⟨i, 0⟩
  toOracleNumberFromDouble _ := none
  toOracleNumberFromText _ _ := none
  fromOracleNumberAsDouble _ := none
  fromOracleNumberAsInteger n := if n.exponent = 0 then some n.mantissa else none
  fromOracleNumberAsUnsignedInteger n := if n.exponent = 0 then some n.mantissa.toNat else none
  fromOracleNumberAsText _ _ := none
  toOracleDate t := ⟨t.year, t.month, t.day, t.hour, t.minute, t.second⟩
  fromOracleDate d := ⟨d.year, d.month, d.day, d.hour, d.minute, d.second, 0, 0, 0⟩
  toOracleDateFromDouble _ _ := none
  fromOracleDateAsDouble _ _ := none
  toOracleTimestamp _ t _ := some t
  fromOracleTimestamp _ t _ := some t
  toOracleTimestampFromDouble _ _ _ := none
  fromOracleTimestampAsDouble _ _ _ := none
  narrow d := d.truncate 32

/-- The error a failed collaborator `fn` sets, passed on unchanged. -/
def failedIn (fn : String) : DpiError := ⟨fn, .collaborator fn⟩

/-- Call the helper `fn`, which answered `r`, and wrap its value with `f`. -/
def helper {α β : Type} (fn : String) (r : Option α) (f : α → β) : Except DpiError β :=
  match r with
  | some a => .ok (f a)
  | none => .error (failedIn fn)

/-- What `dpiObject__toOracleValue` leaves in its out-parameters: the native
value `*ociValue` points at (`none` for NULL, or where no path set it),
whether `*valueIndicator` is the null indicator, `*objectIndicator`, the
pointer member of the scratch buffer (`none` where no path wrote it) and
`*lob`. -/
structure ToOracle where
  ociValue : Option OracleData := none
  nullIndicator : Bool := false
  objectIndicator : Option Handle := none
  buffer : Option (Option Handle) := none
  lob : Option Handle := none
  deriving DecidableEq, Repr

namespace Object

/-- `dpiOci__stringAssignText` or `dpiOci__rawAssignBytes` (named `fn`): a new
scratch resource of kind `k` holding `bytes`, stored in the buffer's pointer. -/
def assignBytes (s : State) (fn : String) (k : Scratch) (bytes : List UInt8)
    (mk : List UInt8 → OracleData) : State × ToOracle × Except DpiError Unit :=
  if s.callOk then
    let h := s.nextHandle
    (s.afterCall.newHandle.log (.scratchAlloc h k),
      { ociValue := some (mk bytes), buffer := some (some h) }, .ok ())
  else (s.afterCall, { buffer := some none }, .error (failedIn fn))

/-- A value converted into the buffer by a helper, or the helper's failure. -/
def converted (s : State) (r : Except DpiError OracleData) :
    State × ToOracle × Except DpiError Unit :=
  match r with
  | .ok d => (s, { ociValue := some d }, .ok ())
  | .error e => (s, {}, .error e)

/-- The descriptor type `dpiObject__toOracleValue` allocates for a timestamp type. -/
def timestampKind (oracleTypeNum : OracleTypeNum) : Scratch :=
  if oracleTypeNum = .timestampLtz then .timestampLtz
  else if oracleTypeNum = .timestamp then .timestamp
  else .timestampTz

/-- The timestamp types of `dpiObject__toOracleValue`, for an external
timestamp or double: a descriptor of the matching type, filled by a helper. -/
def toTimestamp (H : Helpers) (s : State) (oracleTypeNum : OracleTypeNum)
    (nativeTypeNum : NativeTypeNum) (v : DataBuffer) : State × ToOracle × Except DpiError Unit :=
  if s.callOk then
    let h := s.nextHandle
    let s₁ := s.afterCall.newHandle.log (.scratchAlloc h (timestampKind oracleTypeNum))
    let r := if nativeTypeNum = .timestamp then
        helper "dpiDataBuffer__toOracleTimestamp"
          (H.toOracleTimestamp s.env v.timestamp (oracleTypeNum != .timestamp)) .asTimestamp
      else helper "dpiDataBuffer__toOracleTimestampFromDouble"
          (H.toOracleTimestampFromDouble oracleTypeNum s.env v.double) .asTimestamp
    match r with
    | .ok d => (s₁, { ociValue := some d, buffer := some (some h) }, .ok ())
    | .error e => (s₁, { buffer := some (some h) }, .error e)
  else (s.afterCall, { buffer := some none },
    .error ⟨"allocate timestamp", .collaborator "dpiOci__descriptorAlloc"⟩)

/-- The LOB types of `dpiObject__toOracleValue`, for external bytes:
`dpiLob__allocate` makes a LOB (it and its locator are named by one handle),
then `dpiLob__setFromBytes` fills it. -/
def toLobFromBytes (s : State) : State × ToOracle × Except DpiError Unit :=
  if s.callOk then
    let h := s.nextHandle
    let s₁ := s.afterCall.newHandle.log (.scratchAlloc h .lob)
    if s₁.callOk then
      let out : ToOracle := { ociValue := some (.asLobLocator h), buffer := some (some h), lob := some h }
      (s₁.afterCall, out, .ok ())
    else (s₁.afterCall, { buffer := some none, lob := some h }, .error (failedIn "dpiLob__setFromBytes"))
  else (s.afterCall, { buffer := some none }, .error (failedIn "dpiLob__allocate"))

/-- `dpiObject__toOracleValue`. -/
def toOracleValue (H : Helpers) (s : State) (dataTypeInfo : DataTypeInfo)
    (nativeTypeNum : NativeTypeNum) (data : Data) : State × ToOracle × Except DpiError Unit :=
  if data.isNull then (s, { nullIndicator := true, buffer := some none }, .ok ())
  else
    let oracleTypeNum := dataTypeInfo.oracleTypeNum
    let v := data.value
    let unhandled : Except DpiError Unit :=
      .error ⟨"to Oracle value", .unhandledConversion oracleTypeNum nativeTypeNum⟩
    match oracleTypeNum with
    | .char | .nchar | .varchar | .nvarchar =>
      if nativeTypeNum = .bytes then
        assignBytes s "dpiOci__stringAssignText" .string v.bytes.ptr .asString
      else (s, { buffer := some none }, unhandled)
    | .raw =>
      if nativeTypeNum = .bytes then
        assignBytes s "dpiOci__rawAssignBytes" .raw v.bytes.ptr .asRawData
      else (s, { buffer := some none }, unhandled)
    | .nativeInt =>
      if nativeTypeNum = .int64 then (s, { ociValue := some (.asInt32 (v.int64.bmod (2 ^ 32))) }, .ok ())
      else (s, {}, unhandled)
    | .number =>
      if nativeTypeNum = .int64 then
        converted s (helper "dpiDataBuffer__toOracleNumberFromInteger"
          (H.toOracleNumberFromInteger v.int64) .asNumber)
      else if nativeTypeNum = .double then
        converted s (helper "dpiDataBuffer__toOracleNumberFromDouble"
          (H.toOracleNumberFromDouble v.double) .asNumber)
      else if nativeTypeNum = .bytes then
        converted s (helper "dpiDataBuffer__toOracleNumberFromText"
          (H.toOracleNumberFromText s.env v.bytes) .asNumber)
      else (s, {}, unhandled)
    | .nativeFloat =>
      if nativeTypeNum = .float then (s, { ociValue := some (.asFloat v.float) }, .ok ())
      else if nativeTypeNum = .double then (s, { ociValue := some (.asFloat (H.narrow v.double)) }, .ok ())
      else (s, {}, unhandled)
    | .nativeDouble =>
      if nativeTypeNum = .double then (s, { ociValue := some (.asDouble v.double) }, .ok ())
      else (s, {}, unhandled)
    | .date =>
      if nativeTypeNum = .timestamp then converted s (.ok (.asDate (H.toOracleDate v.timestamp)))
      else if nativeTypeNum = .double then
        converted s (helper "dpiDataBuffer__toOracleDateFromDouble"
          (H.toOracleDateFromDouble s.env v.double) .asDate)
      else (s, {}, unhandled)
    | .timestamp | .timestampTz | .timestampLtz =>
      if nativeTypeNum = .timestamp ∨ nativeTypeNum = .double then
        toTimestamp H s oracleTypeNum nativeTypeNum v
      else (s, { buffer := some none }, unhandled)
    | .object =>
      if nativeTypeNum = .object then
        let other := s.obj v.object
        let otherType := s.types other.type
        let expected := s.types (dataTypeInfo.objectType.getD default)
        if otherType.tdo ≠ expected.tdo then
          (s, {}, .error ⟨"check type",
            .wrongType otherType.schema otherType.name expected.schema expected.name⟩)
        else
          let out : ToOracle :=
            { ociValue := some (.asObject other.«instance» none), objectIndicator := other.indicator }
          (s, out, .ok ())
      else (s, {}, unhandled)
    | .boolean =>
      if nativeTypeNum = .boolean then (s, { ociValue := some (.asBoolean v.boolean) }, .ok ())
      else (s, {}, unhandled)
    | .clob | .nclob | .blob | .bfile =>
      if nativeTypeNum = .lob then
        let locator := ((s.lobs v.lob).getD default).locator
        (s, { ociValue := some (.asLobLocator locator), buffer := some none }, .ok ())
      else if nativeTypeNum = .bytes then toLobFromBytes s
      else (s, { buffer := some none }, unhandled)
    | _ => (s, {}, unhandled)

/-- The object case of `dpiObject__fromOracleValue`: a record of type `t`
for the instance, depending on `x`. -/
def fromObject (s : State) (x : ObjId) (t : TypeId) (value : OracleData)
    (indicator : Option Handle) : State × Except DpiError (Option DataBuffer) :=
  let inst := if (s.types t).isCollection && !(s.types (s.obj x).type).isCollection
    then value.collection else value.raw
  let a := allocate s t inst indicator (some x)
  match a.2 with
  | some y => (a.1, .ok (some (.asObject y)))
  | none => (a.1, .error (failedIn "dpiGen__allocate"))

/-- The LOB case of `dpiObject__fromOracleValue`: `dpiLob__allocate`, then
`dpiOci__lobLocatorAssign`, and `dpiLob__free` when that fails. -/
def fromLob (s : State) : State × Except DpiError (Option DataBuffer) :=
  if s.callOk then
    let h := s.nextHandle
    let s₁ := s.afterCall.newHandle.log (.scratchAlloc h .lob)
    if s₁.callOk then (s₁.afterCall, .ok (some (.asLOB h)))
    else (s₁.afterCall.log (.scratchFree h .lob), .error (failedIn "dpiOci__lobLocatorAssign"))
  else (s.afterCall, .error (failedIn "dpiLob__allocate"))

/-- `dpiObject__fromOracleValue` for record `x`, given the native value, its
null indicator and the indicator pointer; the external value, `none` for NULL. -/
def fromOracleValue (H : Helpers) (s : State) (x : ObjId) (typeInfo : DataTypeInfo)
    (value : OracleData) (isNull : Bool) (indicator : Option Handle)
    (nativeTypeNum : NativeTypeNum) : State × Except DpiError (Option DataBuffer) :=
  if isNull then (s, .ok none)
  else
    let oracleTypeNum := typeInfo.oracleTypeNum
    let unhandled : Except DpiError (Option DataBuffer) :=
      .error ⟨"from Oracle value", .unhandledConversion oracleTypeNum nativeTypeNum⟩
    match oracleTypeNum with
    | .char | .nchar | .varchar | .nvarchar =>
      if nativeTypeNum = .bytes then
        (s, .ok (some (.asBytes ⟨value.string, some
          (if oracleTypeNum = .nchar ∨ oracleTypeNum = .nvarchar then s.env.nencoding
            else s.env.encoding)⟩)))
      else (s, unhandled)
    | .raw =>
      if nativeTypeNum = .bytes then (s, .ok (some (.asBytes ⟨value.rawData, none⟩)))
      else (s, unhandled)
    | .nativeInt =>
      if nativeTypeNum = .int64 then (s, .ok (some (.asInt64 value.int32))) else (s, unhandled)
    | .nativeFloat =>
      if nativeTypeNum = .float then (s, .ok (some (.asFloat value.float))) else (s, unhandled)
    | .nativeDouble =>
      if nativeTypeNum = .double then (s, .ok (some (.asDouble value.double))) else (s, unhandled)
    | .number =>
      if nativeTypeNum = .double then
        (s, helper "dpiDataBuffer__fromOracleNumberAsDouble"
          (H.fromOracleNumberAsDouble value.number) (some ∘ .asDouble))
      else if nativeTypeNum = .int64 then
        (s, helper "dpiDataBuffer__fromOracleNumberAsInteger"
          (H.fromOracleNumberAsInteger value.number) (some ∘ .asInt64))
      else if nativeTypeNum = .uint64 then
        (s, helper "dpiDataBuffer__fromOracleNumberAsUnsignedInteger"
          (H.fromOracleNumberAsUnsignedInteger value.number) (some ∘ .asUint64))
      else if nativeTypeNum = .bytes then
        (s, helper "dpiDataBuffer__fromOracleNumberAsText"
          (H.fromOracleNumberAsText s.env value.number) (some ∘ .asBytes))
      else (s, unhandled)
    | .date =>
      if nativeTypeNum = .timestamp then
        (s, .ok (some (.asTimestamp (H.fromOracleDate value.date))))
      else if nativeTypeNum = .double then
        (s, helper "dpiDataBuffer__fromOracleDateAsDouble"
          (H.fromOracleDateAsDouble s.env value.date) (some ∘ .asDouble))
      else (s, unhandled)
    | .timestamp =>
      if nativeTypeNum = .timestamp then
        (s, helper "dpiDataBuffer__fromOracleTimestamp"
          (H.fromOracleTimestamp s.env value.timestamp false) (some ∘ .asTimestamp))
      else if nativeTypeNum = .double then
        (s, helper "dpiDataBuffer__fromOracleTimestampAsDouble"
          (H.fromOracleTimestampAsDouble oracleTypeNum s.env value.timestamp) (some ∘ .asDouble))
      else (s, unhandled)
    | .timestampTz | .timestampLtz =>
      if nativeTypeNum = .timestamp then
        (s, helper "dpiDataBuffer__fromOracleTimestamp"
          (H.fromOracleTimestamp s.env value.timestamp true) (some ∘ .asTimestamp))
      else if nativeTypeNum = .double then
        (s, helper "dpiDataBuffer__fromOracleTimestampAsDouble"
          (H.fromOracleTimestampAsDouble oracleTypeNum s.env value.timestamp) (some ∘ .asDouble))
      else (s, unhandled)
    | .object =>
      match typeInfo.objectType with
      | some t => if nativeTypeNum = .object then fromObject s x t value indicator else (s, unhandled)
      | none => (s, unhandled)
    | .boolean =>
      if nativeTypeNum = .boolean then (s, .ok (some (.asBoolean value.boolean)))
      else (s, unhandled)
    | .clob | .nclob | .blob | .bfile =>
      if nativeTypeNum = .lob then fromLob s else (s, unhandled)
    | _ => (s, unhandled)

/-- Release the scratch resource of kind `k` a pointer holds, if it is set. -/
def releaseScratch (s : State) (p : Option (Option Handle)) (k : Scratch) : State :=
  match p with
  | some (some h) => s.log (.scratchFree h k)
  | _ => s

/-- Whether `dpiObject__clearOracleValue` reads the buffer's pointer member
for this type. -/
def clearReadsBuffer (oracleTypeNum : OracleTypeNum) : Bool :=
  match oracleTypeNum with
  | .char | .nchar | .varchar | .nvarchar | .raw | .timestamp | .timestampTz | .timestampLtz => true
  | _ => false

/-- `dpiObject__clearOracleValue`. A pointer member no path has written is
read as NULL here; `toOracleValue_buffer_set` shows no path leaves it so. -/
def clearOracleValue (s : State) (buffer : Option (Option Handle)) (lob : Option Handle)
    (oracleTypeNum : OracleTypeNum) : State :=
  match oracleTypeNum with
  | .char | .nchar | .varchar | .nvarchar => releaseScratch s buffer .string
  | .raw => releaseScratch s buffer .raw
  | .timestamp => releaseScratch s buffer .timestamp
  | .timestampTz => releaseScratch s buffer .timestampTz
  | .timestampLtz => releaseScratch s buffer .timestampLtz
  | .clob | .nclob | .blob | .bfile => releaseScratch s (some lob) .lob
  | _ => s

@[simp] theorem helper_eq_error {α β : Type} {fn : String} {r : Option α} {f : α → β}
    {e : DpiError} : helper fn r f = .error e ↔ r = none ∧ failedIn fn = e := by
  cases r <;> simp [helper]

@[simp] theorem helper_eq_ok {α β : Type} {fn : String} {r : Option α} {f : α → β} {b : β} :
    helper fn r f = .ok b ↔ ∃ a, r = some a ∧ f a = b := by
  cases r <;> simp [helper]

@[simp] theorem failedIn_ne_unhandled {fn action : String} {T : OracleTypeNum} {N : NativeTypeNum} :
    failedIn fn ≠ ⟨action, .unhandledConversion T N⟩ := by
  simp [failedIn]

@[simp] theorem newHandle_env (s : State) : s.newHandle.env = s.env := rfl

@[simp] theorem converted_eq_error {s : State} {r : Except DpiError OracleData} {e : DpiError} :
    (converted s r).2.2 = .error e ↔ r = .error e := by
  cases r <;> simp [converted]

@[simp] theorem assignBytes_eq_error {s : State} {fn : String} {k : Scratch} {b : List UInt8}
    {mk : List UInt8 → OracleData} {e : DpiError} :
    (assignBytes s fn k b mk).2.2 = .error e ↔ s.callOk = false ∧ failedIn fn = e := by
  unfold assignBytes; split_ifs with h <;> simp [h]

theorem fromObject_error {s : State} {x : ObjId} {t : TypeId} {value : OracleData}
    {indicator : Option Handle} {e : DpiError}
    (h : (fromObject s x t value indicator).2 = .error e) : e = failedIn "dpiGen__allocate" := by
  simp only [fromObject] at h
  split at h <;> simp_all

@[simp] theorem fromObject_ne_unhandled {s : State} {x : ObjId} {t : TypeId}
    {value : OracleData} {indicator : Option Handle} {a : String} {T : OracleTypeNum}
    {N : NativeTypeNum} :
    (fromObject s x t value indicator).2 ≠ .error ⟨a, .unhandledConversion T N⟩ := fun h => by
  simpa [failedIn] using fromObject_error h

theorem fromLob_error {s : State} {e : DpiError} (h : (fromLob s).2 = .error e) :
    ∃ fn, e = failedIn fn := by
  simp only [fromLob] at h
  split_ifs at h <;> simp at h <;> exact ⟨_, h.symm⟩

theorem toTimestamp_error {H : Helpers} {s : State} {T : OracleTypeNum} {N : NativeTypeNum}
    {v : DataBuffer} {e : DpiError} (h : (toTimestamp H s T N v).2.2 = .error e) :
    ∃ fn, e.num = .collaborator fn := by
  unfold toTimestamp at h
  by_cases hc : s.callOk = true
  · by_cases hN : N = .timestamp
    · cases hr : H.toOracleTimestamp s.env v.timestamp (T != .timestamp) <;>
        simp [hc, hN, hr, helper] at h
      exact ⟨_, by rw [← h]; rfl⟩
    · cases hr : H.toOracleTimestampFromDouble T s.env v.double <;> simp [hc, hN, hr, helper] at h
      exact ⟨_, by rw [← h]; rfl⟩
  · simp only [hc] at h
    simp at h
    exact ⟨_, by rw [← h]⟩

theorem toLobFromBytes_error {s : State} {e : DpiError} (h : (toLobFromBytes s).2.2 = .error e) :
    ∃ fn, e = failedIn fn := by
  simp only [toLobFromBytes] at h
  split_ifs at h <;> simp at h <;> exact ⟨_, h.symm⟩

@[simp] theorem fromLob_ne_unhandled {s : State} {a : String} {T : OracleTypeNum}
    {N : NativeTypeNum} : (fromLob s).2 ≠ .error ⟨a, .unhandledConversion T N⟩ := fun h => by
  obtain ⟨fn, hfn⟩ := fromLob_error h
  simp [failedIn] at hfn

@[simp] theorem toTimestamp_ne_unhandled {H : Helpers} {s : State} {T T' : OracleTypeNum}
    {N N' : NativeTypeNum} {v : DataBuffer} {a : String} :
    (toTimestamp H s T N v).2.2 ≠ .error ⟨a, .unhandledConversion T' N'⟩ := fun h => by
  simpa using toTimestamp_error h

@[simp] theorem toLobFromBytes_ne_unhandled {s : State} {a : String} {T : OracleTypeNum}
    {N : NativeTypeNum} : (toLobFromBytes s).2.2 ≠ .error ⟨a, .unhandledConversion T N⟩ :=
  fun h => by
    obtain ⟨fn, hfn⟩ := toLobFromBytes_error h
    simp [failedIn] at hfn

/-! ### The paths of a conversion -/

section Paths

variable {s : State} {T : OracleTypeNum}

theorem converted_eq {r : Except DpiError OracleData} :
    converted s r = (s, (converted s r).2.1, (converted s r).2.2) := by
  cases r <;> rfl

end Paths

/-- The paths of `dpiObject__toOracleValue` into native type `T`, from state
`s` to `t`, as the clear of the same type sees them: one that leaves the state
as it was and allocates nothing, with the pointer member written wherever the
clear reads it; or one of the three helpers that allocate a scratch resource,
of the kind the clear releases. -/
def ToPath (H : Helpers) (s : State) (T : OracleTypeNum) (t : State × ToOracle × Except DpiError Unit) :
    Prop :=
  (∃ out r, t = (s, out, r) ∧ (clearReadsBuffer T = true → out.buffer.isSome) ∧
    ∀ u, clearOracleValue u out.buffer out.lob T = u) ∨
  (∃ fn k b mk, t = assignBytes s fn k b mk ∧ ∀ u p l, clearOracleValue u p l T = releaseScratch u p k) ∨
  (∃ N v, t = toTimestamp H s T N v ∧
    ∀ u p l, clearOracleValue u p l T = releaseScratch u p (timestampKind T)) ∨
  (t = toLobFromBytes s ∧ clearReadsBuffer T = false ∧
    ∀ u p l, clearOracleValue u p l T = releaseScratch u (some l) .lob)

theorem toOracleValue_cases (H : Helpers) (s : State) (dataTypeInfo : DataTypeInfo)
    (N : NativeTypeNum) (data : Data) :
    ToPath H s dataTypeInfo.oracleTypeNum (toOracleValue H s dataTypeInfo N data) := by
  obtain ⟨T, code, objectType⟩ := dataTypeInfo
  obtain ⟨_ | _, v⟩ := data
  · cases T <;> simp only [toOracleValue, Bool.false_eq_true, if_false] <;> (try split_ifs) <;>
      first
      | exact .inl ⟨_, _, rfl, by simp [clearReadsBuffer], fun _ => rfl⟩
      | exact .inl ⟨_, _, converted_eq, by simp [clearReadsBuffer], fun _ => rfl⟩
      | exact .inr (.inl ⟨_, _, _, _, rfl, fun _ _ _ => rfl⟩)
      | exact .inr (.inr (.inl ⟨_, _, rfl, fun _ _ _ => rfl⟩))
      | exact .inr (.inr (.inr ⟨rfl, rfl, fun _ _ _ => rfl⟩))
  · exact .inl ⟨_, _, rfl, fun _ => rfl, by cases T <;> exact fun _ => rfl⟩

/-! ### The scratch resource of a conversion -/

/-- The out-parameters of a conversion into native type `T`, from state `s` to
`t`, as the clear sees them: either no scratch resource was allocated and the
clear releases nothing, or one was and the clear, from any state, releases
exactly that one. -/
def ClearsScratch (s : State) (T : OracleTypeNum) (t : State × ToOracle × Except DpiError Unit) :
    Prop :=
  (t.1.trace = s.trace ∧ ∀ u, clearOracleValue u t.2.1.buffer t.2.1.lob T = u) ∨
  ∃ h k, t.1.trace = s.trace ++ [.scratchAlloc h k] ∧
    ∀ u, clearOracleValue u t.2.1.buffer t.2.1.lob T = u.log (.scratchFree h k)

/-- A conversion changes no record, no type count and not `nextObj`. -/
def KeepsRecords (s : State) (t : State × ToOracle × Except DpiError Unit) : Prop :=
  t.1.objects = s.objects ∧ t.1.nextObj = s.nextObj ∧ t.1.typeRefCount = s.typeRefCount ∧
    t.1.conn = s.conn

section Scratch

variable {s : State} {T : OracleTypeNum}

theorem assignBytes_clears {fn : String} {k : Scratch} {b : List UInt8}
    {mk : List UInt8 → OracleData}
    (hT : ∀ u p l, clearOracleValue u p l T = releaseScratch u p k) :
    ClearsScratch s T (assignBytes s fn k b mk) := by
  dsimp only [assignBytes]
  split_ifs
  · exact .inr ⟨_, k, rfl, fun u => hT u _ _⟩
  · exact .inl ⟨rfl, fun u => hT u _ _⟩

theorem toTimestamp_clears {H : Helpers} {N : NativeTypeNum} {v : DataBuffer}
    (hT : ∀ u p l, clearOracleValue u p l T = releaseScratch u p (timestampKind T)) :
    ClearsScratch s T (toTimestamp H s T N v) := by
  dsimp only [toTimestamp]
  split_ifs
  all_goals first
    | exact .inl ⟨rfl, fun u => hT u _ _⟩
    | split <;> exact .inr ⟨_, _, rfl, fun u => hT u _ _⟩

theorem toLobFromBytes_clears (hT : ∀ u p l, clearOracleValue u p l T = releaseScratch u (some l) .lob) :
    ClearsScratch s T (toLobFromBytes s) := by
  dsimp only [toLobFromBytes]
  split_ifs
  · exact .inr ⟨_, _, rfl, fun u => hT u _ _⟩
  · exact .inr ⟨_, _, rfl, fun u => hT u _ _⟩
  · exact .inl ⟨rfl, fun u => hT u _ _⟩

/-! The string, raw, timestamp and LOB helpers write the pointer member on every path. -/

theorem assignBytes_buffer {fn : String} {k : Scratch} {b : List UInt8}
    {mk : List UInt8 → OracleData} : (assignBytes s fn k b mk).2.1.buffer.isSome := by
  dsimp only [assignBytes]
  split_ifs <;> rfl

theorem toTimestamp_buffer {H : Helpers} {N : NativeTypeNum} {v : DataBuffer} :
    (toTimestamp H s T N v).2.1.buffer.isSome := by
  dsimp only [toTimestamp]
  split_ifs <;> (try split) <;> rfl

/-! The helpers change no record. -/

theorem assignBytes_keeps {fn : String} {k : Scratch} {b : List UInt8}
    {mk : List UInt8 → OracleData} : KeepsRecords s (assignBytes s fn k b mk) := by
  dsimp only [assignBytes]
  split_ifs <;> simp [KeepsRecords]

theorem toTimestamp_keeps {H : Helpers} {N : NativeTypeNum} {v : DataBuffer} :
    KeepsRecords s (toTimestamp H s T N v) := by
  dsimp only [toTimestamp]
  split_ifs <;> (try split) <;> simp [KeepsRecords]

theorem toLobFromBytes_keeps : KeepsRecords s (toLobFromBytes s) := by
  dsimp only [toLobFromBytes]
  split_ifs <;> simp [KeepsRecords]

end Scratch

/-- Every scratch resource `dpiObject__toOracleValue` allocates is one the
clear of the same type releases, and it allocates at most one. -/
theorem toOracleValue_clears_scratch (H : Helpers) (s : State) (dataTypeInfo : DataTypeInfo)
    (N : NativeTypeNum) (data : Data) :
    ClearsScratch s dataTypeInfo.oracleTypeNum (toOracleValue H s dataTypeInfo N data) := by
  rcases toOracleValue_cases H s dataTypeInfo N data with
    ⟨out, r, ht, -, hc⟩ | ⟨fn, k, b, mk, ht, hT⟩ | ⟨N', v, ht, hT⟩ | ⟨ht, -, hT⟩ <;> rw [ht]
  · exact .inl ⟨rfl, hc⟩
  · exact assignBytes_clears hT
  · exact toTimestamp_clears hT
  · exact toLobFromBytes_clears hT

/-- Where `dpiObject__clearOracleValue` reads the buffer's pointer member,
every path of `dpiObject__toOracleValue` has written it. -/
theorem toOracleValue_buffer_set (H : Helpers) (s : State) (dataTypeInfo : DataTypeInfo)
    (N : NativeTypeNum) (data : Data) (h : clearReadsBuffer dataTypeInfo.oracleTypeNum = true) :
    (toOracleValue H s dataTypeInfo N data).2.1.buffer.isSome := by
  rcases toOracleValue_cases H s dataTypeInfo N data with
    ⟨out, r, ht, hb, -⟩ | ⟨fn, k, b, mk, ht, -⟩ | ⟨N', v, ht, -⟩ | ⟨-, hr, -⟩
  · rw [ht]; exact hb h
  · rw [ht]; exact assignBytes_buffer
  · rw [ht]; exact toTimestamp_buffer
  · exact absurd h (by simp [hr])

/-- `dpiObject__toOracleValue` changes no record, no type count and not `nextObj`. -/
theorem toOracleValue_keeps (H : Helpers) (s : State) (dataTypeInfo : DataTypeInfo)
    (N : NativeTypeNum) (data : Data) : KeepsRecords s (toOracleValue H s dataTypeInfo N data) := by
  rcases toOracleValue_cases H s dataTypeInfo N data with
    ⟨out, r, ht, -⟩ | ⟨fn, k, b, mk, ht, -⟩ | ⟨N', v, ht, -⟩ | ⟨ht, -⟩ <;> rw [ht]
  · exact ⟨rfl, rfl, rfl, rfl⟩
  · exact assignBytes_keeps
  · exact toTimestamp_keeps
  · exact toLobFromBytes_keeps

/-- The paths of `dpiObject__fromOracleValue` for record `x`, from state `s`
to `r`: the object case, which makes a record depending on `x`; the LOB case;
or a path that leaves the state as it was and hands back no record. -/
def FromPath (s : State) (x : ObjId) (typeInfo : DataTypeInfo) (value : OracleData) (isNull : Bool)
    (indicator : Option Handle) (r : State × Except DpiError (Option DataBuffer)) : Prop :=
  (∃ res, r = (s, res) ∧ ∀ y, res ≠ .ok (some (.asObject y))) ∨ r = fromLob s ∨
    ∃ t, typeInfo.oracleTypeNum = .object ∧ isNull = false ∧ r = fromObject s x t value indicator

theorem fromOracleValue_cases (H : Helpers) (s : State) (x : ObjId) (typeInfo : DataTypeInfo)
    (value : OracleData) (isNull : Bool) (indicator : Option Handle) (N : NativeTypeNum) :
    FromPath s x typeInfo value isNull indicator
      (fromOracleValue H s x typeInfo value isNull indicator N) := by
  obtain ⟨T, code, objectType⟩ := typeInfo
  cases isNull
  · cases T <;> simp only [fromOracleValue, Bool.false_eq_true, if_false] <;>
      (try split_ifs) <;> (try split) <;>
      first
      | exact .inl ⟨_, rfl, by simp⟩
      | exact .inr (.inl rfl)
      | exact .inr (.inr ⟨_, rfl, rfl, rfl⟩)
  · exact .inl ⟨_, rfl, by simp⟩

/-! ### Which pairs the two switches accept -/

/-- The external types `dpiObject__fromOracleValue` converts a value of native
type `T` into. -/
def fromAccepts (T : OracleTypeNum) (N : NativeTypeNum) : Bool :=
  match T with
  | .char | .nchar | .varchar | .nvarchar | .raw => N == .bytes
  | .nativeInt => N == .int64
  | .nativeFloat => N == .float
  | .nativeDouble => N == .double
  | .number => N == .double || N == .int64 || N == .uint64 || N == .bytes
  | .date | .timestamp | .timestampTz | .timestampLtz => N == .timestamp || N == .double
  | .object => N == .object
  | .boolean => N == .boolean
  | .clob | .nclob | .blob | .bfile => N == .lob
  | _ => false

/-- The external types `dpiObject__toOracleValue` converts into native type `T`. -/
def toAccepts (T : OracleTypeNum) (N : NativeTypeNum) : Bool :=
  match T with
  | .char | .nchar | .varchar | .nvarchar | .raw => N == .bytes
  | .nativeInt => N == .int64
  | .nativeFloat => N == .float || N == .double
  | .nativeDouble => N == .double
  | .number => N == .int64 || N == .double || N == .bytes
  | .date | .timestamp | .timestampTz | .timestampLtz => N == .timestamp || N == .double
  | .object => N == .object
  | .boolean => N == .boolean
  | .clob | .nclob | .blob | .bfile => N == .lob || N == .bytes
  | _ => false

theorem fromOracleValue_unhandled_iff (H : Helpers) (s : State) (x : ObjId)
    (typeInfo : DataTypeInfo) (value : OracleData) (indicator : Option Handle)
    (N : NativeTypeNum) (hobj : typeInfo.oracleTypeNum = .object → typeInfo.objectType.isSome) :
    (fromOracleValue H s x typeInfo value false indicator N).2 =
        .error ⟨"from Oracle value", .unhandledConversion typeInfo.oracleTypeNum N⟩ ↔
      fromAccepts typeInfo.oracleTypeNum N = false := by
  obtain ⟨T, code, objectType⟩ := typeInfo
  cases T <;> simp only [fromOracleValue, fromAccepts, Bool.false_eq_true, if_false] <;>
    (try split) <;> (try split_ifs) <;> subst_vars <;> simp_all

theorem toOracleValue_unhandled_iff (H : Helpers) (s : State) (dataTypeInfo : DataTypeInfo)
    (N : NativeTypeNum) (v : DataBuffer) :
    (toOracleValue H s dataTypeInfo N ⟨false, v⟩).2.2 =
        .error ⟨"to Oracle value", .unhandledConversion dataTypeInfo.oracleTypeNum N⟩ ↔
      toAccepts dataTypeInfo.oracleTypeNum N = false := by
  obtain ⟨T, code, objectType⟩ := dataTypeInfo
  cases T <;> simp only [toOracleValue, toAccepts, Bool.false_eq_true, if_false] <;>
    (try split_ifs) <;> subst_vars <;> simp_all [or_iff_not_imp_left]

end Object

/-! ### The round trip -/

/-- NATIVE_INT keeps an int64 exactly when it fits in 32 bits. -/
theorem bmod_two_pow_32_eq_self_iff (i : Int) :
    i.bmod (2 ^ 32) = i ↔ -2 ^ 31 ≤ i ∧ i < 2 ^ 31 := by
  rw [Int.bmod_def]
  split_ifs <;> omega

/-- Whether a native type is passed as a handle (an object or a LOB) rather
than as a copy of the value. -/
def OracleTypeNum.holdsHandle : OracleTypeNum → Bool
  | .object | .clob | .nclob | .blob | .bfile => true
  | _ => false

/-- What converting `v` into native type `T` and back gives: `v` itself, except
that an int64 kept as NATIVE_INT comes back narrowed to 32 bits, and bytes come
back tagged with the environment's encoding (none for raw data). -/
def roundTrip (env : Env) (T : OracleTypeNum) (v : DataBuffer) : DataBuffer :=
  match T, v with
  | .nativeInt, .asInt64 i => .asInt64 (i.bmod (2 ^ 32))
  | .char, .asBytes b | .varchar, .asBytes b => .asBytes { b with encoding := some env.encoding }
  | .nchar, .asBytes b | .nvarchar, .asBytes b => .asBytes { b with encoding := some env.nencoding }
  | .raw, .asBytes b => .asBytes { b with encoding := none }
  | _, v => v

/-- Whether the pair of `dpiDataBuffer.c` conversions that stands for native
type `T` gives `v` back: the first converts `v` and the second converts the
result back to `v`, the timestamp pair with the one time-zone flag `T` calls
for. A value that no helper converts is given back. -/
def Helpers.Exact (H : Helpers) (env : Env) (T : OracleTypeNum) : DataBuffer → Prop
  | .asInt64 i => T = .number →
      ∃ n, H.toOracleNumberFromInteger i = some n ∧ H.fromOracleNumberAsInteger n = some i
  | .asDouble d =>
      (T = .number →
        ∃ n, H.toOracleNumberFromDouble d = some n ∧ H.fromOracleNumberAsDouble n = some d) ∧
      (T = .date →
        ∃ n, H.toOracleDateFromDouble env d = some n ∧ H.fromOracleDateAsDouble env n = some d) ∧
      (T = .timestamp ∨ T = .timestampTz ∨ T = .timestampLtz →
        ∃ t, H.toOracleTimestampFromDouble T env d = some t ∧
          H.fromOracleTimestampAsDouble T env t = some d)
  | .asBytes b => T = .number →
      ∃ n, H.toOracleNumberFromText env b = some n ∧ H.fromOracleNumberAsText env n = some b
  | .asTimestamp t =>
      (T = .date → H.fromOracleDate (H.toOracleDate t) = t) ∧
      (T = .timestamp ∨ T = .timestampTz ∨ T = .timestampLtz →
        ∃ u, H.toOracleTimestamp env t (T != .timestamp) = some u ∧
          H.fromOracleTimestamp env u (T != .timestamp) = some t)
  | _ => True

namespace Object

/-- The round trip of `v` through the native type of `dataTypeInfo`:
`dpiObject__toOracleValue` fails only in a collaborator, and when it succeeds,
`dpiObject__fromOracleValue` of the native value it produced, with a not-null
indicator, gives back `roundTrip`. -/
def RoundTrips (H : Helpers) (s : State) (x : ObjId) (dataTypeInfo : DataTypeInfo)
    (v : DataBuffer) (indicator : Option Handle) : Prop :=
  (∀ e, (toOracleValue H s dataTypeInfo v.nativeTypeNum ⟨false, v⟩).2.2 = .error e →
    ∃ fn, e.num = .collaborator fn) ∧
  ((toOracleValue H s dataTypeInfo v.nativeTypeNum ⟨false, v⟩).2.2 = .ok () →
    ∃ d, (toOracleValue H s dataTypeInfo v.nativeTypeNum ⟨false, v⟩).2.1.ociValue = some d ∧
      (fromOracleValue H (toOracleValue H s dataTypeInfo v.nativeTypeNum ⟨false, v⟩).1 x
        dataTypeInfo d false indicator v.nativeTypeNum).2 =
        .ok (some (roundTrip s.env dataTypeInfo.oracleTypeNum v)))

theorem toOracleValue_round_trip (H : Helpers) (s : State) (x : ObjId)
    (dataTypeInfo : DataTypeInfo) (v : DataBuffer) (indicator : Option Handle)
    (hT : dataTypeInfo.oracleTypeNum.holdsHandle = false)
    (hacc : fromAccepts dataTypeInfo.oracleTypeNum v.nativeTypeNum = true)
    (hnum : v.nativeTypeNum ≠ .uint64) (hex : H.Exact s.env dataTypeInfo.oracleTypeNum v) :
    RoundTrips H s x dataTypeInfo v indicator := by
  obtain ⟨T, code, objectType⟩ := dataTypeInfo
  cases v <;> cases T <;>
    simp only [fromAccepts, OracleTypeNum.holdsHandle, DataBuffer.nativeTypeNum] at hacc hT hnum <;>
    simp at hacc hT hnum
  all_goals simp [Helpers.Exact, bne, BEq.beq] at hex
  all_goals (try obtain ⟨n, h₁, h₂⟩ := hex)
  all_goals cases hc : s.callOk <;>
    simp [*, RoundTrips, toOracleValue, fromOracleValue, assignBytes, converted, toTimestamp,
      helper, DataBuffer.nativeTypeNum, DataBuffer.int64, DataBuffer.float, DataBuffer.double,
      DataBuffer.bytes, DataBuffer.timestamp, DataBuffer.boolean, OracleData.int32,
      OracleData.float, OracleData.double, OracleData.number, OracleData.date, OracleData.timestamp,
      OracleData.boolean, OracleData.string, OracleData.rawData, roundTrip, failedIn, bne, BEq.beq]

/-- NATIVE_INT narrows an int64 beyond 32 bits: 2^31 is stored as the int32
-2^31 and read back as -2^31. -/
example :
    (toOracleValue Helpers.exact (State.init []) ⟨.nativeInt, 0, none⟩ .int64
      ⟨false, .asInt64 (2 ^ 31)⟩).2.1.ociValue = some (.asInt32 (-2 ^ 31)) ∧
    (fromOracleValue Helpers.exact (State.init []) 0 ⟨.nativeInt, 0, none⟩ (.asInt32 (-2 ^ 31))
      false none .int64).2 = .ok (some (.asInt64 (-2 ^ 31))) :=
  ⟨rfl, rfl⟩

/-- The round trip through NATIVE_INT gives an int64 back unchanged exactly when
it fits in 32 bits. -/
theorem roundTrip_nativeInt_eq_self_iff (env : Env) (i : Int) :
    roundTrip env .nativeInt (.asInt64 i) = .asInt64 i ↔ -2 ^ 31 ≤ i ∧ i < 2 ^ 31 := by
  simp only [roundTrip, DataBuffer.asInt64.injEq, bmod_two_pow_32_eq_self_iff]

theorem toOracleValue_round_trip_number :
    (OracleTypeNum.number.holdsHandle = false ∧ fromAccepts .number .int64 = true ∧
      NativeTypeNum.int64 ≠ .uint64 ∧ Helpers.exact.Exact (State.init []).env .number (.asInt64 7)) ∧
    RoundTrips Helpers.exact (State.init []) 0 ⟨.number, 0, none⟩ (.asInt64 7) none :=
  ⟨⟨rfl, rfl, by decide, fun _ => ⟨⟨7, 0⟩, rfl, rfl⟩⟩,
    toOracleValue_round_trip _ _ _ _ _ _ rfl rfl (by decide) fun _ => ⟨⟨7, 0⟩, rfl, rfl⟩⟩

/-- NUMBER is read as UINT64 but never written from it:
`dpiObject__fromOracleValue` reads the number 7 as the uint64 7, and
`dpiObject__toOracleValue` rejects that value for NUMBER with
`DPI_ERR_UNHANDLED_CONVERSION`, so the round trip of a pair the reader accepts
cannot start. -/
theorem toOracleValue_round_trip_fails :
    (fromOracleValue Helpers.exact (State.init []) 0 ⟨.number, 0, none⟩ (.asNumber ⟨7, 0⟩)
      false none .uint64).2 = .ok (some (.asUint64 7)) ∧
    (toOracleValue Helpers.exact (State.init []) ⟨.number, 0, none⟩ .uint64
      ⟨false, .asUint64 7⟩).2.2 = .error ⟨"to Oracle value", .unhandledConversion .number .uint64⟩ :=
  ⟨rfl, rfl⟩

/-- Which switch accepts each pair the two disagree on: only
`dpiObject__toOracleValue` accepts NATIVE_FLOAT from a double and a LOB type
from bytes, and only `dpiObject__fromOracleValue` accepts NUMBER as UINT64. -/
theorem accepts_differ (T : OracleTypeNum) (N : NativeTypeNum) :
    (toAccepts T N = true ∧ fromAccepts T N = false ↔
      (T = .nativeFloat ∧ N = .double) ∨
      ((T = .clob ∨ T = .nclob ∨ T = .blob ∨ T = .bfile) ∧ N = .bytes)) ∧
    (fromAccepts T N = true ∧ toAccepts T N = false ↔ T = .number ∧ N = .uint64) := by
  cases T <;> simp [toAccepts, fromAccepts] <;> cases N <;> decide

/-- Where the two switches disagree: every pair both accept or both reject,
except the three of `accepts_differ`. -/
theorem conversion_switches_differ (H : Helpers) (s : State) (x : ObjId)
    (dataTypeInfo : DataTypeInfo) (v : DataBuffer) (value : OracleData)
    (indicator : Option Handle) (N : NativeTypeNum)
    (hobj : dataTypeInfo.oracleTypeNum = .object → dataTypeInfo.objectType.isSome) :
    ((toOracleValue H s dataTypeInfo N ⟨false, v⟩).2.2 =
        .error ⟨"to Oracle value", .unhandledConversion dataTypeInfo.oracleTypeNum N⟩ ↔
      (fromOracleValue H s x dataTypeInfo value false indicator N).2 =
        .error ⟨"from Oracle value", .unhandledConversion dataTypeInfo.oracleTypeNum N⟩) ↔
    ¬((dataTypeInfo.oracleTypeNum = .nativeFloat ∧ N = .double) ∨
      (dataTypeInfo.oracleTypeNum = .number ∧ N = .uint64) ∨
      ((dataTypeInfo.oracleTypeNum = .clob ∨ dataTypeInfo.oracleTypeNum = .nclob ∨
        dataTypeInfo.oracleTypeNum = .blob ∨ dataTypeInfo.oracleTypeNum = .bfile) ∧ N = .bytes)) := by
  rw [toOracleValue_unhandled_iff, fromOracleValue_unhandled_iff _ _ _ _ _ _ _ hobj]
  cases dataTypeInfo.oracleTypeNum <;> simp [toAccepts, fromAccepts] <;> cases N <;> decide

end Object

end Dpi
