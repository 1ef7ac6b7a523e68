import DpiObject.Api
import Mathlib.Logic.Function.Iterate

/-! The edges of the public API. Every call opens with checks: the handle and
connection check of `dpiObject__check`, then for a collection the check of
`dpiObject__checkIsCollection`, and for an attribute the attribute's handle
and the type it belongs to. A call whose opening checks fail does nothing but
use up the answers of the calls it made: no record, count, list or resource
changes, no call is logged, and the caller holds what it held. The attribute's
type is compared by its `tdo`, and the error names the attribute and the
record's type only. The setter rejects an attribute of an unsupported type
before converting anything, but under the getter's action; the getter asks OCI
for the value before it rejects the type. A null value skips the conversion
matrix in both directions, and a writer hands OCI a NULL value with the null
indicator. -/
namespace Dpi.Object

namespace ApiCall

/-- The record a call checks first: the record it works on, or the record
`dpiObject_copy`, `dpiObject_addRef` or `dpiObject_release` is called on. -/
def checked : ApiCall → Option ObjId
  | lifetime (.copy x) | lifetime (.addRef x) | lifetime (.release x) => some x
  | lifetime (.allocate ..) => none
  | c => c.target

/-- Whether a call works on a collection, and so opens with
`dpiObject__checkIsCollection`. -/
def onCollection : ApiCall → Bool
  | appendElement .. | setElementValueByIndex .. | getElementValueByIndex .. => true
  | deleteElementByIndex _ | trim _ | getElementExistsByIndex .. | getSize .. => true
  | getFirstIndex .. | getLastIndex .. | getNextIndex .. | getPrevIndex .. => true
  | _ => false

/-- The attribute an attribute call reads or writes. -/
def attr : ApiCall → Option ObjectAttr
  | getAttributeValue _ a .. | setAttributeValue _ a .. => some a
  | _ => none

end ApiCall

/-- The opening checks of call `c` on record `x` fail at `s`: the handle and
connection check; or, past it, the collection check of a collection call; or
the attribute's handle check, or the type it belongs to. -/
def CheckFails (s : State) (x : ObjId) (c : ApiCall) : Prop :=
  (decide (s.Live x) && s.callOk) = false ∨
  (s.Live x ∧ s.callOk = true ∧
    ((c.onCollection = true ∧ (s.types (s.obj x).type).isCollection = false) ∨
      ∃ attr, c.attr = some attr ∧ (s.afterCall.callOk = false ∨
        (s.types attr.belongsToType).tdo ≠ (s.types (s.obj x).type).tdo)))

/-! ### The opening checks -/

section Checks

variable {s : State} {x : ObjId}

theorem checkObject_of_fails (hc : (decide (s.Live x) && s.callOk) = false) :
    checkObject s x = (s.afterCall, .error (failedIn "dpiObject__check")) := by
  simp [checkObject, check, hc]

theorem checkObject_of_ok (hx : s.Live x) (hc : s.callOk = true) :
    checkObject s x = (s.afterCall, .ok ()) := by
  simp [checkObject, check, decide_eq_true hx, hc]

theorem checkIsCollection_of_fails (hc : (decide (s.Live x) && s.callOk) = false) :
    checkIsCollection s x = (s.afterCall, .error (failedIn "dpiObject__check")) := by
  rw [checkIsCollection, checkObject_of_fails hc]; rfl

/-- An attribute of another type is rejected with `DPI_ERR_WRONG_ATTR` under
the caller's action. The types are compared by their `tdo`, and the error
names the attribute and the record's type, not the type the attribute belongs
to. -/
theorem checkAttr_of_wrong (attr : ObjectAttr) (action : String) (hc : s.callOk = true)
    (hw : (s.types attr.belongsToType).tdo ≠ (s.types (s.obj x).type).tdo) :
    checkAttr s x attr action = (s.afterCall, .error ⟨action,
      .wrongAttr attr.name (s.types (s.obj x).type).schema (s.types (s.obj x).type).name⟩) := by
  simp [checkAttr, hc, hw]

theorem checkAttr_of_ok (attr : ObjectAttr) (action : String) (hc : s.callOk = true)
    (hw : (s.types attr.belongsToType).tdo = (s.types (s.obj x).type).tdo) :
    checkAttr s x attr action = (s.afterCall, .ok ()) := by
  simp [checkAttr, hc, hw]

theorem checkAttr_of_fails (attr : ObjectAttr) (action : String) (hc : s.callOk = false) :
    checkAttr s x attr action =
      (s.afterCall, .error ⟨action, .collaborator "dpiGen__checkHandle"⟩) := by
  simp [checkAttr, hc]

variable (H : Helpers) (attr : ObjectAttr) (N : NativeTypeNum)

/-- Both attribute calls reject an attribute of another type after the two
checks, each under its own action. -/
theorem attribute_calls_of_wrong_attr (hx : s.Live x)
    (hc : s.callOk = true) (hc' : s.afterCall.callOk = true)
    (hw : (s.types attr.belongsToType).tdo ≠ (s.types (s.obj x).type).tdo) :
    (∀ got, getAttributeValue H s x attr N got = (s.afterCall.afterCall, .error ⟨"get attribute value",
      .wrongAttr attr.name (s.types (s.obj x).type).schema (s.types (s.obj x).type).name⟩)) ∧
    ∀ data, setAttributeValue H s x attr N data = (s.afterCall.afterCall, .error ⟨"set attribute value",
      .wrongAttr attr.name (s.types (s.obj x).type).schema (s.types (s.obj x).type).name⟩) := by
  have hw' : (s.afterCall.types attr.belongsToType).tdo ≠
      (s.afterCall.types (s.afterCall.obj x).type).tdo := hw
  constructor <;> intro <;>
    simp only [getAttributeValue, setAttributeValue, checkObject_of_ok hx hc, andThen,
      checkAttr_of_wrong attr _ hc' hw'] <;> rfl

/-- The setter rejects an attribute of an unsupported type before it converts
anything, and reports it under the getter's action. The getter first asks OCI
for the value, and reports the same error only when that call succeeded. -/
theorem attribute_type_check_order (hx : s.Live x)
    (hc : s.callOk = true) (hc' : s.afterCall.callOk = true)
    (hw : (s.types attr.belongsToType).tdo = (s.types (s.obj x).type).tdo)
    (hz : attr.typeInfo.oracleTypeNum = .zero) :
    (∀ data, setAttributeValue H s x attr N data = (s.afterCall.afterCall, .error ⟨"get attribute value",
      .unhandledDataType attr.typeInfo.ociTypeCode⟩)) ∧
    ∀ got, getAttributeValue H s x attr N got =
      (s.afterCall.afterCall.afterCall.log (.oci x (.fetch "dpiOci__objectGetAttr")),
        if s.afterCall.afterCall.callOk then
          .error ⟨"get attribute value", .unhandledDataType attr.typeInfo.ociTypeCode⟩
        else .error (failedIn "dpiOci__objectGetAttr")) := by
  have hw' : (s.afterCall.types attr.belongsToType).tdo =
      (s.afterCall.types (s.afterCall.obj x).type).tdo := hw
  refine ⟨fun data => ?_, fun got => ?_⟩
  · simp only [setAttributeValue, checkObject_of_ok hx hc, andThen, checkAttr_of_ok attr _ hc' hw',
      checkAttrType, hz, if_true]
  · simp only [getAttributeValue, checkObject_of_ok hx hc, andThen, checkAttr_of_ok attr _ hc' hw',
      Oci.objectGetAttr, Oci.onRecord]
    cases h : s.afterCall.afterCall.callOk <;> simp [h, checkAttrType, hz, OciCall.fn]

/-- The attribute checks of the getter and the setter, past the handle and
connection check and the attribute's handle check. An attribute of another
type, compared by `tdo`, is rejected with `DPI_ERR_WRONG_ATTR` under each
call's own action, naming the attribute and the record's type but not the
type the attribute belongs to. An attribute of an unsupported type is
rejected by both under the action "get attribute value": by the setter before
it converts anything, by the getter only after `dpiOci__objectGetAttr`
succeeded. -/
theorem attribute_checks (hx : s.Live x) (hc : s.callOk = true) (hc' : s.afterCall.callOk = true) :
    ((s.types attr.belongsToType).tdo ≠ (s.types (s.obj x).type).tdo →
      (∀ got, getAttributeValue H s x attr N got = (s.afterCall.afterCall, .error
        ⟨"get attribute value", .wrongAttr attr.name (s.types (s.obj x).type).schema
          (s.types (s.obj x).type).name⟩)) ∧
      ∀ data, setAttributeValue H s x attr N data = (s.afterCall.afterCall, .error
        ⟨"set attribute value", .wrongAttr attr.name (s.types (s.obj x).type).schema
          (s.types (s.obj x).type).name⟩)) ∧
    ((s.types attr.belongsToType).tdo = (s.types (s.obj x).type).tdo →
      attr.typeInfo.oracleTypeNum = .zero →
      (∀ data, setAttributeValue H s x attr N data = (s.afterCall.afterCall, .error
        ⟨"get attribute value", .unhandledDataType attr.typeInfo.ociTypeCode⟩)) ∧
      ∀ got, getAttributeValue H s x attr N got =
        (s.afterCall.afterCall.afterCall.log (.oci x (.fetch "dpiOci__objectGetAttr")),
          if s.afterCall.afterCall.callOk then
            .error ⟨"get attribute value", .unhandledDataType attr.typeInfo.ociTypeCode⟩
          else .error (failedIn "dpiOci__objectGetAttr"))) :=
  ⟨attribute_calls_of_wrong_attr H attr N hx hc hc', attribute_type_check_order H attr N hx hc hc'⟩

/-- A getter whose attribute checks fail uses up the answers of the two checks
and returns an error, before it asks OCI for the value. -/
theorem getAttributeValue_of_rejected (got : Fetched) (hx : s.Live x) (hc : s.callOk = true)
    (hf : s.afterCall.callOk = false ∨
      (s.types attr.belongsToType).tdo ≠ (s.types (s.obj x).type).tdo) :
    ∃ e, getAttributeValue H s x attr N got = (s.afterCall.afterCall, .error e) := by
  cases hc' : s.afterCall.callOk
  · exact ⟨_, by simp only [getAttributeValue, checkObject_of_ok hx hc, andThen,
      checkAttr_of_fails attr _ hc']; rfl⟩
  · exact ⟨_, (attribute_calls_of_wrong_attr H attr N hx hc hc' (hf.resolve_left (by simp [hc']))).1 got⟩

/-- A setter whose attribute checks fail uses up the answers of the checks and
returns an error, before it converts anything. -/
theorem setAttributeValue_of_rejected (data : Data) (hx : s.Live x) (hc : s.callOk = true)
    (hf : s.afterCall.callOk = false ∨
      (s.types attr.belongsToType).tdo ≠ (s.types (s.obj x).type).tdo) :
    ∃ e, setAttributeValue H s x attr N data = (s.afterCall.afterCall, .error e) := by
  cases hc' : s.afterCall.callOk
  · exact ⟨_, by simp only [setAttributeValue, checkObject_of_ok hx hc, andThen,
      checkAttr_of_fails attr _ hc']; rfl⟩
  · exact ⟨_, (attribute_calls_of_wrong_attr H attr N hx hc hc' (hf.resolve_left (by simp [hc']))).2 data⟩

end Checks

/-- A call of the public API whose opening checks fail changes nothing: it
uses up the answers of the calls it made, and the caller holds what it held.
No record, type count, list entry or resource changes, and no call is logged. -/
theorem failed_check_changes_nothing (H : Helpers) (s : State) (h : Held) {c : ApiCall}
    {x : ObjId} (hx : c.checked = some x) (hf : CheckFails s x c) :
    ∃ n, c.run H s h = (State.afterCall^[n] s, h) := by
  rcases hf with hf | ⟨hl, hc, ⟨hcol, hnc⟩ | ⟨a, ha, hfa⟩⟩
  · -- the handle and connection check
    refine ⟨1, ?_⟩
    cases c with
    | lifetime c' =>
      cases c' <;> simp only [ApiCall.checked, Option.some.injEq, reduceCtorEq] at hx <;> subst hx <;>
        simp [ApiCall.run, Call.run, copy, addRef, release, check, hf]
    | _ =>
      simp only [ApiCall.checked, ApiCall.target, Option.some.injEq] at hx
      subst hx
      simp [ApiCall.run, appendElement, setElementValueByIndex, setAttributeValue, getAttributeValue,
        getElementValueByIndex, deleteElementByIndex, trim, getElementExistsByIndex, getFirstIndex,
        getLastIndex, getNextIndex, getPrevIndex, getSize, readCollection, getEndIndex, storeElement,
        checkObject_of_fails hf, checkIsCollection_of_fails hf, andThen, Held.receive]
  · -- the collection check
    refine ⟨1, ?_⟩
    cases c <;> simp only [ApiCall.onCollection, Bool.false_eq_true] at hcol <;>
      simp only [ApiCall.checked, ApiCall.target, Option.some.injEq] at hx <;> subst hx <;>
      simp [ApiCall.run, appendElement, setElementValueByIndex, getElementValueByIndex,
        deleteElementByIndex, trim, getElementExistsByIndex, getFirstIndex, getLastIndex,
        getNextIndex, getPrevIndex, getSize, readCollection, getEndIndex, storeElement,
        andThen_checkIsCollection_of_not_collection _ hl hc hnc, Held.receive]
  · -- the attribute checks
    cases c with
    | setAttributeValue x' a' N' d' =>
      simp only [ApiCall.attr, ApiCall.checked, ApiCall.target, Option.some.injEq] at ha hx
      subst hx ha
      obtain ⟨e, he⟩ := setAttributeValue_of_rejected H a' N' d' hl hc hfa
      exact ⟨2, by simp only [ApiCall.run, he]; rfl⟩
    | getAttributeValue x' a' N' g' =>
      simp only [ApiCall.attr, ApiCall.checked, ApiCall.target, Option.some.injEq] at ha hx
      subst hx ha
      obtain ⟨e, he⟩ := getAttributeValue_of_rejected H a' N' g' hl hc hfa
      exact ⟨2, by simp only [ApiCall.run, he, Held.receive]; rfl⟩
    | _ => simp [ApiCall.attr] at ha

/-! ### Null values -/

section Nulls

variable (H : Helpers) (s : State)

/-- `dpiObject__clearOracleValue` after the conversion of a null value frees
nothing. -/
theorem clearOracleValue_of_null (T : OracleTypeNum) : clearOracleValue s (some none) none T = s := by
  cases T <;> rfl

/-- `dpiObject__fromOracleValue` hands back a null value as null. -/
theorem fromOracleValue_of_null (x : ObjId) (T : DataTypeInfo) (value : OracleData)
    (ind : Option Handle) (N : NativeTypeNum) : fromOracleValue H s x T value true ind N = (s, .ok none) :=
  if_pos rfl

/-- A writer does not convert a null value: whatever the external type, it
hands its store the out-parameters of a null, a NULL value with the null
indicator, and allocates no scratch resource. -/
theorem convertAndStore_of_null (T : DataTypeInfo) (N : NativeTypeNum) {data : Data}
    (hd : data.isNull = true) (store : State → ToOracle → State × Except DpiError Unit) :
    convertAndStore H s T N data store = store s { nullIndicator := true, buffer := some none } := by
  simp [convertAndStore, toOracleValue, hd, andThen, clearOracleValue_of_null]

/-- Null values skip the conversion matrix, whatever the external type, even a
pairing the matrix rejects. The three writers make their checks and then hand
their store a NULL value with the null indicator, with no conversion and no
scratch resource; the two readers make their checks and the fetch, and hand
back a null fetched value as null. -/
theorem null_values_skip_conversion (x : ObjId) (N : NativeTypeNum) {data : Data}
    (hd : data.isNull = true) :
    appendElement H s x N data = andThen (checkIsCollection s x)
      (fun s₁ => Oci.onRecord (.store "dpiOci__collAppend" none (some true) none) s₁ x) ∧
    setElementValueByIndex H s x N data = andThen (checkIsCollection s x)
      (fun s₁ => Oci.onRecord (.store "dpiOci__collAssignElem" none (some true) none) s₁ x) ∧
    (∀ attr, setAttributeValue H s x attr N data =
      andThen (checkObject s x) fun s₁ =>
      andThen (checkAttr s₁ x attr "set attribute value") fun s₂ =>
      andThen (checkAttrType s₂ attr) fun s₃ =>
        Oci.onRecord (.store "dpiOci__objectSetAttr" none (some true) none) s₃ x) ∧
    (∀ attr got, got.isNull = true → getAttributeValue H s x attr N got =
      andThen (checkObject s x) fun s₁ =>
      andThen (checkAttr s₁ x attr "get attribute value") fun s₂ =>
      andThen (Oci.objectGetAttr s₂ x) fun s₃ =>
      andThen (checkAttrType s₃ attr) fun s₄ => (s₄, .ok none)) ∧
    ∀ index found got, got.isNull = true → getElementValueByIndex H s x index N found got =
      andThen (checkIsCollection s x) fun s₁ =>
      andThen (Oci.collGetElem s₁ x) fun s₂ =>
      andThen (s₂, if found then .ok () else .error ⟨"get element value", .invalidIndex index⟩)
        fun s₃ => (s₃, .ok none) := by
  refine ⟨?_, ?_, fun attr => ?_, fun attr got hg => ?_, fun index found got hg => ?_⟩
  · simp only [appendElement, storeElement, convertAndStore_of_null H _ _ _ hd]; rfl
  · simp only [setElementValueByIndex, storeElement, convertAndStore_of_null H _ _ _ hd]; rfl
  · simp only [setAttributeValue, convertAndStore_of_null H _ _ _ hd]; rfl
  · simp only [getAttributeValue, hg, fromOracleValue_of_null]
  · simp only [getElementValueByIndex, hg, fromOracleValue_of_null]

end Nulls

end Dpi.Object
