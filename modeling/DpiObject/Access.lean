import DpiObject.Allocate
import DpiObject.Convert

/-! The public functions of `dpiObject.c` that write or read one value.
`dpiObject_appendElement`, `dpiObject_setElementValueByIndex` and
`dpiObject_setAttributeValue` convert the value, store it and clear the
conversion's scratch resource; `dpiObject_getAttributeValue` and
`dpiObject_getElementValueByIndex` fetch a native value and convert it back,
where what OCI hands back is an argument. The writers change the collection or
object only after a conversion that succeeded and release every scratch
resource exactly once; the readers leave allocated only what they hand to the
caller. -/
namespace Dpi

/-- Whether a call allocates or releases a scratch resource. -/
def Event.isScratch : Event → Bool
  | .scratchAlloc .. | .scratchFree .. => true
  | _ => false

/-- The scratch calls among `l`. -/
def scratchCalls (l : List Event) : List Event := l.filter Event.isScratch

/-- The scratch calls of `l` are none, or one allocation followed by its release. -/
def ScratchReleased (l : List Event) : Prop :=
  scratchCalls l = [] ∨ ∃ h k, scratchCalls l = [.scratchAlloc h k, .scratchFree h k]

/-- Run `k` from the state `c` left, unless `c` failed. -/
def andThen {α : Type} (c : State × Except DpiError Unit) (k : State → State × Except DpiError α) :
    State × Except DpiError α :=
  match c.2 with
  | .ok () => k c.1
  | .error e => (c.1, .error e)

theorem andThen_cases {α : Type} (c : State × Except DpiError Unit)
    (k : State → State × Except DpiError α) :
    (c.2 = .ok () ∧ andThen c k = k c.1) ∨ ∃ e, c.2 = .error e ∧ andThen c k = (c.1, .error e) := by
  unfold andThen
  split
  · exact .inl ⟨‹_›, rfl⟩
  · exact .inr ⟨_, ‹_›, rfl⟩

/-- The name of the OCI function a call goes to. -/
def OciCall.fn : OciCall → String
  | .store fn .. | .change fn | .fetch fn => fn

/-- The scalar indicator a collection writer passes: its `indicator` falls
back to `&scalarValueIndicator` only when the conversion found no object
indicator. -/
def ToOracle.scalarFallback (t : ToOracle) : Option Bool :=
  if t.objectIndicator.isNone then some t.nullIndicator else none

theorem ToOracle.scalarFallback_eq_some {t : ToOracle} {b : Bool} (h : t.scalarFallback = some b) :
    b = t.nullIndicator := by
  unfold ToOracle.scalarFallback at h
  split at h
  · exact (Option.some.inj h).symm
  · cases h

namespace Oci

/-- The OCI call `c` on record `x`'s instance, answered by the next answer. -/
def onRecord (c : OciCall) (s : State) (x : ObjId) : State × Except DpiError Unit :=
  (s.afterCall.log (.oci x c), if s.callOk then .ok () else .error (failedIn c.fn))

/-- A store named `fn` of the converted value `t` into record `x`'s instance,
handed the value, the scalar indicator `scalar t` and the object indicator. -/
def store (fn : String) (scalar : ToOracle → Option Bool) (s : State) (x : ObjId) (t : ToOracle) :
    State × Except DpiError Unit :=
  onRecord (.store fn t.ociValue (scalar t) t.objectIndicator) s x

/-- `dpiOci__collAppend`. -/
def collAppend : State → ObjId → ToOracle → State × Except DpiError Unit :=
  store "dpiOci__collAppend" ToOracle.scalarFallback

/-- `dpiOci__collAssignElem`; the index it assigns is not modelled. -/
def collAssignElem : State → ObjId → ToOracle → State × Except DpiError Unit :=
  store "dpiOci__collAssignElem" ToOracle.scalarFallback

/-- `dpiOci__objectSetAttr`, handed the scalar indicator and the object
indicator both. -/
def objectSetAttr : State → ObjId → ToOracle → State × Except DpiError Unit :=
  store "dpiOci__objectSetAttr" fun t => some t.nullIndicator

/-- `dpiOci__objectGetAttr`; what it hands back is an argument of its caller. -/
def objectGetAttr : State → ObjId → State × Except DpiError Unit :=
  onRecord (.fetch "dpiOci__objectGetAttr")

/-- `dpiOci__collGetElem`; what it hands back is an argument of its caller. -/
def collGetElem : State → ObjId → State × Except DpiError Unit :=
  onRecord (.fetch "dpiOci__collGetElem")

/-- `dpiOci__tableDelete`; the index it deletes is not modelled. -/
def tableDelete : State → ObjId → State × Except DpiError Unit := onRecord (.change "dpiOci__tableDelete")

/-- `dpiOci__collTrim`; the number it trims is not modelled. -/
def collTrim : State → ObjId → State × Except DpiError Unit := onRecord (.change "dpiOci__collTrim")

/-- `dpiOci__tableExists`. -/
def tableExists : State → ObjId → State × Except DpiError Unit := onRecord (.fetch "dpiOci__tableExists")

/-- `dpiOci__tableSize`. -/
def tableSize : State → ObjId → State × Except DpiError Unit := onRecord (.fetch "dpiOci__tableSize")

/-- `dpiOci__tableFirst`. -/
def tableFirst : State → ObjId → State × Except DpiError Unit := onRecord (.fetch "dpiOci__tableFirst")

/-- `dpiOci__tableLast`. -/
def tableLast : State → ObjId → State × Except DpiError Unit := onRecord (.fetch "dpiOci__tableLast")

/-- `dpiOci__tableNext`. -/
def tableNext : State → ObjId → State × Except DpiError Unit := onRecord (.fetch "dpiOci__tableNext")

/-- `dpiOci__tablePrev`. -/
def tablePrev : State → ObjId → State × Except DpiError Unit := onRecord (.fetch "dpiOci__tablePrev")

/-- `dpiOci__collSize`. -/
def collSize : State → ObjId → State × Except DpiError Unit := onRecord (.fetch "dpiOci__collSize")

@[simp] theorem onRecord_fst (c : OciCall) (s : State) (x : ObjId) :
    (onRecord c s x).1 = s.afterCall.log (.oci x c) := rfl

end Oci

namespace Object

/-- `dpiObject__check`, with the error it passes on. -/
def checkObject (s : State) (x : ObjId) : State × Except DpiError Unit :=
  let c := check s x
  (c.1, if c.2 then .ok () else .error (failedIn "dpiObject__check"))

/-- `dpiObject__checkIsCollection`. -/
def checkIsCollection (s : State) (x : ObjId) : State × Except DpiError Unit :=
  andThen (checkObject s x) fun s₁ =>
    let t := s₁.types (s₁.obj x).type
    (s₁, if t.isCollection then .ok () else .error ⟨"check collection", .notCollection t.schema t.name⟩)

/-- `dpiGen__checkHandle` of the attribute, then the check that it belongs to
record `x`'s type, both raising their errors under `action`. -/
def checkAttr (s : State) (x : ObjId) (attr : ObjectAttr) (action : String) :
    State × Except DpiError Unit :=
  if s.callOk then
    let objType := s.types (s.obj x).type
    (s.afterCall, if (s.types attr.belongsToType).tdo ≠ objType.tdo then
      .error ⟨action, .wrongAttr attr.name objType.schema objType.name⟩ else .ok ())
  else (s.afterCall, .error ⟨action, .collaborator "dpiGen__checkHandle"⟩)

/-- The check that the attribute's type is supported, which the getter and the
setter both raise under the action "get attribute value". -/
def checkAttrType (s : State) (attr : ObjectAttr) : State × Except DpiError Unit :=
  (s, if attr.typeInfo.oracleTypeNum = .zero then
    .error ⟨"get attribute value", .unhandledDataType attr.typeInfo.ociTypeCode⟩ else .ok ())

/-- What the three writers share: convert `data`, call `store` only if the
conversion succeeded, and clear the conversion's out-parameters whatever
happened; the status is the conversion's, or else the store's. -/
def convertAndStore (H : Helpers) (s : State) (dataTypeInfo : DataTypeInfo)
    (nativeTypeNum : NativeTypeNum) (data : Data)
    (store : State → ToOracle → State × Except DpiError Unit) : State × Except DpiError Unit :=
  let t := toOracleValue H s dataTypeInfo nativeTypeNum data
  let m := andThen (t.1, t.2.2) fun u => store u t.2.1
  (clearOracleValue m.1 t.2.1.buffer t.2.1.lob dataTypeInfo.oracleTypeNum, m.2)

/-- The two collection writers: check that `x` is a collection, then convert
an element and store it with `store`. -/
def storeElement (H : Helpers) (s : State) (x : ObjId) (nativeTypeNum : NativeTypeNum)
    (data : Data) (store : State → ObjId → ToOracle → State × Except DpiError Unit) :
    State × Except DpiError Unit :=
  andThen (checkIsCollection s x) fun s₁ =>
    convertAndStore H s₁ (s₁.types (s₁.obj x).type).elementTypeInfo nativeTypeNum data
      fun s₂ t => store s₂ x t

/-- `dpiObject_appendElement`. -/
def appendElement (H : Helpers) (s : State) (x : ObjId) (nativeTypeNum : NativeTypeNum)
    (data : Data) : State × Except DpiError Unit :=
  storeElement H s x nativeTypeNum data Oci.collAppend

/-- `dpiObject_setElementValueByIndex`; the index only reaches OCI. -/
def setElementValueByIndex (H : Helpers) (s : State) (x : ObjId) (nativeTypeNum : NativeTypeNum)
    (data : Data) : State × Except DpiError Unit :=
  storeElement H s x nativeTypeNum data Oci.collAssignElem

/-- `dpiObject_setAttributeValue`. -/
def setAttributeValue (H : Helpers) (s : State) (x : ObjId) (attr : ObjectAttr)
    (nativeTypeNum : NativeTypeNum) (data : Data) : State × Except DpiError Unit :=
  andThen (checkObject s x) fun s₁ =>
  andThen (checkAttr s₁ x attr "set attribute value") fun s₂ =>
  andThen (checkAttrType s₂ attr) fun s₃ =>
    convertAndStore H s₃ attr.typeInfo nativeTypeNum data fun s₄ t => Oci.objectSetAttr s₄ x t

/-- What `dpiOci__objectGetAttr` or `dpiOci__collGetElem` hands back when it
succeeds: the native value, whether its indicator is the null indicator, and
the indicator pointer. -/
structure Fetched where
  value : OracleData
  isNull : Bool
  indicator : Option Handle
  deriving DecidableEq, Repr

/-- `dpiObject_getAttributeValue`. -/
def getAttributeValue (H : Helpers) (s : State) (x : ObjId) (attr : ObjectAttr)
    (nativeTypeNum : NativeTypeNum) (got : Fetched) :
    State × Except DpiError (Option DataBuffer) :=
  andThen (checkObject s x) fun s₁ =>
  andThen (checkAttr s₁ x attr "get attribute value") fun s₂ =>
  andThen (Oci.objectGetAttr s₂ x) fun s₃ =>
  andThen (checkAttrType s₃ attr) fun s₄ =>
    fromOracleValue H s₄ x attr.typeInfo got.value got.isNull got.indicator nativeTypeNum

/-- `dpiObject_getElementValueByIndex` at `index`; `found` is whether
`dpiOci__collGetElem` found an element there. -/
def getElementValueByIndex (H : Helpers) (s : State) (x : ObjId) (index : Int)
    (nativeTypeNum : NativeTypeNum) (found : Bool) (got : Fetched) :
    State × Except DpiError (Option DataBuffer) :=
  andThen (checkIsCollection s x) fun s₁ =>
  andThen (Oci.collGetElem s₁ x) fun s₂ =>
  andThen (s₂, if found then .ok () else .error ⟨"get element value", .invalidIndex index⟩) fun s₃ =>
    fromOracleValue H s₃ x (s₃.types (s₃.obj x).type).elementTypeInfo got.value got.isNull
      got.indicator nativeTypeNum

/-- `dpiObject_deleteElementByIndex`; the index only reaches OCI. -/
def deleteElementByIndex (s : State) (x : ObjId) : State × Except DpiError Unit :=
  andThen (checkIsCollection s x) fun s₁ => Oci.tableDelete s₁ x

/-- `dpiObject_trim`; the number trimmed only reaches OCI. -/
def trim (s : State) (x : ObjId) : State × Except DpiError Unit :=
  andThen (checkIsCollection s x) fun s₁ => Oci.collTrim s₁ x

/-- The collection calls that make one OCI call, `read`, and return what it hands
back, `out`. -/
def readCollection {α : Type} (s : State) (x : ObjId)
    (read : State → ObjId → State × Except DpiError Unit) (out : α) : State × Except DpiError α :=
  andThen (checkIsCollection s x) fun s₁ => andThen (read s₁ x) fun s₂ => (s₂, .ok out)

/-- `dpiObject_getElementExistsByIndex`; `found` is what `dpiOci__tableExists`
answers. -/
def getElementExistsByIndex (s : State) (x : ObjId) (found : Bool) : State × Except DpiError Bool :=
  readCollection s x Oci.tableExists found

/-- `dpiObject_getNextIndex`; `next` is the index `dpiOci__tableNext` answers,
`none` when there is no next entry. -/
def getNextIndex (s : State) (x : ObjId) (next : Option Int) :
    State × Except DpiError (Option Int) :=
  readCollection s x Oci.tableNext next

/-- `dpiObject_getPrevIndex`; `prev` is the index `dpiOci__tablePrev` answers,
`none` when there is no previous entry. -/
def getPrevIndex (s : State) (x : ObjId) (prev : Option Int) :
    State × Except DpiError (Option Int) :=
  readCollection s x Oci.tablePrev prev

/-- `dpiObject_getSize`; `size` is what `dpiOci__collSize` answers. -/
def getSize (s : State) (x : ObjId) (size : Int) : State × Except DpiError Int :=
  readCollection s x Oci.collSize size

/-- `dpiObject_getFirstIndex` and `dpiObject_getLastIndex`, whose OCI call
`fetch` answers `index`: `dpiOci__tableSize` answers `size`, and an empty
collection has no index, so `fetch` is not called. -/
def getEndIndex (s : State) (x : ObjId) (fetch : State → ObjId → State × Except DpiError Unit)
    (size index : Int) : State × Except DpiError (Option Int) :=
  andThen (checkIsCollection s x) fun s₁ =>
  andThen (Oci.tableSize s₁ x) fun s₂ =>
    if size ≠ 0 then andThen (fetch s₂ x) fun s₃ => (s₃, .ok (some index)) else (s₂, .ok none)

/-- `dpiObject_getFirstIndex`. -/
def getFirstIndex (s : State) (x : ObjId) (size index : Int) : State × Except DpiError (Option Int) :=
  getEndIndex s x Oci.tableFirst size index

/-- `dpiObject_getLastIndex`. -/
def getLastIndex (s : State) (x : ObjId) (size index : Int) : State × Except DpiError (Option Int) :=
  getEndIndex s x Oci.tableLast size index

/-! ### The checks make no call that is recorded -/

section Checks

variable (s : State) (x : ObjId)

@[simp] theorem checkObject_fst : (checkObject s x).1 = s.afterCall := rfl

@[simp] theorem checkIsCollection_fst : (checkIsCollection s x).1 = s.afterCall := by
  unfold checkIsCollection andThen
  split <;> rfl

@[simp] theorem checkAttr_fst (attr : ObjectAttr) (action : String) :
    (checkAttr s x attr action).1 = s.afterCall := by
  unfold checkAttr
  split_ifs <;> rfl

@[simp] theorem checkAttrType_fst (attr : ObjectAttr) : (checkAttrType s attr).1 = s := rfl

end Checks

/-- Every collection call, on a live record that passes the handle check but
whose type is not a collection, fails with the error that names the type and
makes no other call. -/
theorem andThen_checkIsCollection_of_not_collection {α : Type} {s : State} {x : ObjId}
    (k : State → State × Except DpiError α) (hx : s.Live x) (hc : s.callOk = true)
    (hcol : (s.types (s.obj x).type).isCollection = false) :
    andThen (checkIsCollection s x) k = (s.afterCall, .error ⟨"check collection",
      .notCollection (s.types (s.obj x).type).schema (s.types (s.obj x).type).name⟩) := by
  have hl : decide (s.Live x) = true := decide_eq_true hx
  simp [andThen, checkIsCollection, checkObject, check, hl, hc, hcol]

/-! ### The writers -/

/-- What a writer leaves behind, from state `s` to `r`, given the conversion
`conv` it runs once its checks pass: its only call on record `x` is a store,
made only if that conversion succeeded and handed the value and the object
indicator the conversion produced, with the scalar indicator it produced or
none; and every scratch resource is released exactly once. -/
def StoreSafe (s : State) (x : ObjId) (conv : State × ToOracle × Except DpiError Unit)
    (r : State × Except DpiError Unit) : Prop :=
  ∃ new, r.1.trace = s.trace ++ new ∧
    (∀ c, Event.oci x c ∈ new → conv.2.2 = .ok () ∧ ∃ fn scalarNull,
      c = .store fn conv.2.1.ociValue scalarNull conv.2.1.objectIndicator ∧
      ∀ b, scalarNull = some b → b = conv.2.1.nullIndicator) ∧
    ScratchReleased new

theorem StoreSafe.andThen {s : State} {x : ObjId} {conv : State × ToOracle × Except DpiError Unit}
    {c : State × Except DpiError Unit} {k : State → State × Except DpiError Unit}
    (hc : c.1.trace = s.trace) (hk : c.2 = .ok () → StoreSafe s x conv (k c.1)) :
    StoreSafe s x conv (Dpi.andThen c k) := by
  rcases andThen_cases c k with ⟨h, hr⟩ | ⟨e, -, hr⟩ <;> rw [hr]
  · exact hk h
  · exact ⟨[], by simpa using hc, by simp, .inl rfl⟩

/-- A conversion followed by a store: the store runs only after a conversion
that succeeded and is handed what it produced, and the clear releases the one
scratch resource the conversion allocated, if any. -/
theorem convertAndStore_safe (fn : String) (scalar : ToOracle → Option Bool)
    (hsc : ∀ t b, scalar t = some b → b = t.nullIndicator) (H : Helpers) (s : State) (x : ObjId)
    (dataTypeInfo : DataTypeInfo) (N : NativeTypeNum) (data : Data) :
    StoreSafe s x (toOracleValue H s dataTypeInfo N data)
      (convertAndStore H s dataTypeInfo N data fun u t => Oci.store fn scalar u x t) := by
  have hcs := toOracleValue_clears_scratch H s dataTypeInfo N data
  simp only [convertAndStore]
  generalize toOracleValue H s dataTypeInfo N data = conv at hcs ⊢
  obtain ⟨u, t, res⟩ := conv
  -- the store's one call hands OCI what the conversion produced
  have hstore : ∃ fn' scalarNull, OciCall.store fn t.ociValue (scalar t) t.objectIndicator =
      .store fn' t.ociValue scalarNull t.objectIndicator ∧
      ∀ b, scalarNull = some b → b = t.nullIndicator := ⟨fn, _, rfl, hsc _⟩
  have hm := andThen_cases (u, res) fun u => Oci.store fn scalar u x t
  rcases hcs with ⟨h₁, h₂⟩ | ⟨h, k, h₁, h₂⟩ <;> simp only at h₁ h₂ <;> rw [h₂] <;>
    rcases hm with ⟨hok, hr⟩ | ⟨e, -, hr⟩ <;> rw [hr]
  · refine ⟨[.oci x (.store fn t.ociValue (scalar t) t.objectIndicator)], by simp [h₁, Oci.store],
      fun c hc => ?_, .inl rfl⟩
    simp only [List.mem_singleton, Event.oci.injEq, true_and] at hc
    exact hc ▸ ⟨hok, hstore⟩
  · exact ⟨[], by simpa using h₁, by simp, .inl rfl⟩
  · refine ⟨[.scratchAlloc h k, .oci x (.store fn t.ociValue (scalar t) t.objectIndicator),
      .scratchFree h k], by simp [h₁, Oci.store], fun c hc => ?_, .inr ⟨h, k, rfl⟩⟩
    simp only [List.mem_cons, Event.oci.injEq, true_and, reduceCtorEq, List.mem_singleton,
      List.not_mem_nil, or_false, false_or] at hc
    exact hc ▸ ⟨hok, hstore⟩
  · exact ⟨[.scratchAlloc h k, .scratchFree h k], by simp [h₁], by simp, .inr ⟨h, k, rfl⟩⟩

theorem storeElement_safe (fn : String) (H : Helpers) (s : State) (x : ObjId) (N : NativeTypeNum)
    (data : Data) :
    StoreSafe s x (toOracleValue H s.afterCall (s.types (s.obj x).type).elementTypeInfo N data)
      (storeElement H s x N data (Oci.store fn ToOracle.scalarFallback)) :=
  StoreSafe.andThen (by simp) fun _ => by
    rw [checkIsCollection_fst]
    exact convertAndStore_safe fn _ (fun _ _ => ToOracle.scalarFallback_eq_some) H s.afterCall x _ N data

theorem setAttributeValue_safe (H : Helpers) (s : State) (x : ObjId) (attr : ObjectAttr)
    (N : NativeTypeNum) (data : Data) :
    StoreSafe s x (toOracleValue H s.afterCall.afterCall attr.typeInfo N data)
      (setAttributeValue H s x attr N data) :=
  StoreSafe.andThen (by simp) fun _ => StoreSafe.andThen (by simp) fun _ =>
    StoreSafe.andThen (by simp) fun _ => by
      simp only [checkObject_fst, checkAttr_fst, checkAttrType_fst]
      exact convertAndStore_safe "dpiOci__objectSetAttr" _ (fun _ _ h => (Option.some.inj h).symm)
        H _ x _ N data

/-! ### The readers -/

/-- The calls `l` read record `x`'s instance and do nothing else. -/
def Reads (x : ObjId) (l : List Event) : Prop := ∀ e ∈ l, ∃ fn, e = .oci x (.fetch fn)

theorem Reads.scratchCalls_append {x : ObjId} {l : List Event} (h : Reads x l) (l' : List Event) :
    scratchCalls (l ++ l') = scratchCalls l' := by
  have : scratchCalls l = [] := List.filter_eq_nil_iff.2 fun e he => by
    obtain ⟨fn, rfl⟩ := h e he
    simp [Event.isScratch]
  simp [scratchCalls, List.filter_append, ← this]

/-- A step from `s` to `u` that changes no record and no type count, and whose
only calls read record `x`'s instance. -/
def Quiet (s : State) (x : ObjId) (u : State) : Prop :=
  (∃ new, u.trace = s.trace ++ new ∧ Reads x new) ∧
    u.objects = s.objects ∧ u.typeRefCount = s.typeRefCount

/-- What a reader leaves behind, from state `s` to `r`: its scratch calls
release all they allocate, but for a LOB handed to the caller; the records are
unchanged, but for a record handed to the caller and its parent `x`; when it
fails, the records and the type counts are unchanged and every scratch
resource is released; and its calls are scratch calls, reads of `x` and the
creation of a record that depends on `x`, so it makes and frees no native
instance. -/
def FetchSafe (s : State) (x : ObjId) (r : State × Except DpiError (Option DataBuffer)) : Prop :=
  ∃ new, r.1.trace = s.trace ++ new ∧
    (ScratchReleased new ∨
      ∃ h, scratchCalls new = [.scratchAlloc h .lob] ∧ r.2 = .ok (some (.asLOB h))) ∧
    (r.1.objects = s.objects ∨
      ∃ y, r.2 = .ok (some (.asObject y)) ∧ (r.1.objects y).isSome ∧
        ∀ z, z ≠ y → z ≠ x → r.1.objects z = s.objects z) ∧
    (∀ e, r.2 = .error e →
      r.1.objects = s.objects ∧ r.1.typeRefCount = s.typeRefCount ∧ ScratchReleased new) ∧
    ∀ e ∈ new, e.isScratch = true ∨ (∃ fn, e = .oci x (.fetch fn)) ∨ ∃ y, e = .allocate y (some x)

section Readers

variable {s u : State} {x : ObjId}

theorem FetchSafe.of_quiet {r : Except DpiError (Option DataBuffer)} (h : Quiet s x u) :
    FetchSafe s x (u, r) :=
  let ⟨⟨new, ht, hn⟩, ho, htc⟩ := h
  have hs : ScratchReleased new := .inl (by simpa using hn.scratchCalls_append [])
  ⟨new, ht, .inl hs, .inl ho, fun _ _ => ⟨ho, htc, hs⟩, fun e he => .inr (.inl (hn e he))⟩

theorem FetchSafe.trans_quiet {r : State × Except DpiError (Option DataBuffer)} (h : Quiet s x u)
    (hr : FetchSafe u x r) : FetchSafe s x r := by
  obtain ⟨⟨q, hq, hn⟩, h₂, h₃⟩ := h
  obtain ⟨new, ht, hs, ho, he, hc⟩ := hr
  have hrel : ScratchReleased (q ++ new) ↔ ScratchReleased new := by
    simp only [ScratchReleased, hn.scratchCalls_append]
  refine ⟨q ++ new, by rw [ht, hq, List.append_assoc], ?_, by rwa [← h₂],
    fun e hr => ?_, fun e hm => ?_⟩
  · rwa [hrel, hn.scratchCalls_append]
  · obtain ⟨ho', ht', hs'⟩ := he e hr
    exact ⟨ho'.trans h₂, ht'.trans h₃, hrel.2 hs'⟩
  · rcases List.mem_append.1 hm with hm | hm
    exacts [.inr (.inl (hn e hm)), hc e hm]

theorem FetchSafe.andThen {c : State × Except DpiError Unit}
    {k : State → State × Except DpiError (Option DataBuffer)} (hc : Quiet s x c.1)
    (hk : c.2 = .ok () → FetchSafe c.1 x (k c.1)) : FetchSafe s x (Dpi.andThen c k) := by
  rcases andThen_cases c k with ⟨h, hr⟩ | ⟨e, -, hr⟩ <;> rw [hr]
  · exact (hk h).trans_quiet hc
  · exact .of_quiet hc

theorem quiet_same (ho : u.objects = s.objects) (ht : u.typeRefCount = s.typeRefCount)
    (htr : u.trace = s.trace) : Quiet s x u :=
  ⟨⟨[], htr.trans (List.append_nil _).symm, fun _ h => nomatch h⟩, ho, ht⟩

theorem quiet_afterCall : Quiet s x s.afterCall := quiet_same rfl rfl rfl

theorem quiet_fetch (fn : String) : Quiet s x (Oci.onRecord (.fetch fn) s x).1 :=
  ⟨⟨[_], rfl, fun _ h => ⟨fn, List.mem_singleton.1 h⟩⟩, rfl, rfl⟩

/-- The object case of the conversion back, for an instance OCI handed back:
`dpiObject__allocate` of a record that depends on `x` fails only at its first
call, before it made anything. -/
theorem fromObject_safe {t : TypeId} {value : OracleData} {indicator : Option Handle}
    (hv : ∃ r c, value = .asObject (some r) (some c)) :
    FetchSafe s x (fromObject s x t value indicator) := by
  obtain ⟨r, c, rfl⟩ := hv
  obtain ⟨i, hi⟩ : ∃ i, (if (s.types t).isCollection && !(s.types (s.obj x).type).isCollection
      then (OracleData.asObject (some r) (some c)).collection
      else (OracleData.asObject (some r) (some c)).raw) = some i := by
    split_ifs <;> exact ⟨_, rfl⟩
  simp only [fromObject, hi, allocate, Option.isNone_some, Bool.false_eq_true, if_false,
    Option.isNone_some, Bool.and_false]
  split_ifs
  · refine ⟨[.allocate s.nextObj (some x)], by simp, .inl (.inl rfl), .inr ⟨s.nextObj, rfl, ?_, ?_⟩,
      fun _ h => (nomatch h), fun e he => .inr (.inr ⟨_, List.mem_singleton.1 he⟩)⟩
    · rw [create_objects]
      by_cases h : s.nextObj = x
      · subst h; simp [parentInc]
      · simp [parentInc, Function.update_noteq h]
    · intro z hz hzx
      simp [create_objects, parentInc, Function.update_noteq hz, Function.update_noteq hzx]
  · exact .of_quiet quiet_afterCall

/-- The LOB case of the conversion back: the LOB it allocates is handed to the
caller, or freed when the locator cannot be assigned. -/
theorem fromLob_safe : FetchSafe s x (fromLob s) := by
  dsimp only [fromLob]
  split_ifs
  · exact ⟨[.scratchAlloc s.nextHandle .lob], by simp, .inr ⟨_, rfl, rfl⟩, .inl (by simp),
      fun _ h => (nomatch h), by simp [Event.isScratch]⟩
  · exact ⟨[.scratchAlloc s.nextHandle .lob, .scratchFree s.nextHandle .lob], by simp,
      .inl (.inr ⟨_, _, rfl⟩), .inl (by simp), fun _ _ => ⟨by simp, by simp, .inr ⟨_, _, rfl⟩⟩,
      by simp [Event.isScratch]⟩
  · exact .of_quiet quiet_afterCall

/-- `dpiObject__fromOracleValue` leaves allocated only what it hands back,
given that OCI hands back an object value as a pair of instance pointers. -/
theorem fromOracleValue_safe (H : Helpers) (typeInfo : DataTypeInfo) (value : OracleData)
    (isNull : Bool) (indicator : Option Handle) (N : NativeTypeNum)
    (hinst : typeInfo.oracleTypeNum = .object → isNull = false →
      ∃ r c, value = .asObject (some r) (some c)) :
    FetchSafe s x (fromOracleValue H s x typeInfo value isNull indicator N) := by
  rcases fromOracleValue_cases H s x typeInfo value isNull indicator N with
    ⟨r, hr, -⟩ | hr | ⟨t, hT, hN, hr⟩ <;> rw [hr]
  · exact .of_quiet (quiet_same rfl rfl rfl)
  · exact fromLob_safe
  · exact fromObject_safe (hinst hT hN)

end Readers

theorem getAttributeValue_safe (H : Helpers) (s : State) (x : ObjId) (attr : ObjectAttr)
    (N : NativeTypeNum) (got : Fetched)
    (hinst : attr.typeInfo.oracleTypeNum = .object → got.isNull = false →
      ∃ r c, got.value = .asObject (some r) (some c)) :
    FetchSafe s x (getAttributeValue H s x attr N got) :=
  FetchSafe.andThen quiet_afterCall fun _ => FetchSafe.andThen (by simpa using quiet_afterCall)
    fun _ => FetchSafe.andThen (quiet_fetch _) fun _ => FetchSafe.andThen (quiet_same rfl rfl rfl)
      fun _ => fromOracleValue_safe H _ _ _ _ N hinst

theorem getElementValueByIndex_safe (H : Helpers) (s : State) (x : ObjId) (index : Int)
    (N : NativeTypeNum) (found : Bool) (got : Fetched)
    (hinst : (s.types (s.obj x).type).elementTypeInfo.oracleTypeNum = .object →
      got.isNull = false → ∃ r c, got.value = .asObject (some r) (some c)) :
    FetchSafe s x (getElementValueByIndex H s x index N found got) :=
  FetchSafe.andThen (by simpa using quiet_afterCall) fun _ =>
    FetchSafe.andThen (quiet_fetch _) fun _ => FetchSafe.andThen (quiet_same rfl rfl rfl)
      fun _ => fromOracleValue_safe H _ _ _ _ N (by simpa using hinst)

end Object

end Dpi
