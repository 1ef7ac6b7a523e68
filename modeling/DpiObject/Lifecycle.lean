import DpiObject.HandleList

/-! The lifetime of an object record: `dpiObject__allocate`, `dpiObject__close`
with its helper, `dpiObject__free`, `dpiObject_copy`, `dpiObject_addRef` and
`dpiObject_release`. The statements of `dpiObject__close` are separate
definitions, so that the threaded model can interleave them. -/
namespace Dpi

namespace State

variable (s : State)

/-- Change the connection's list of open objects. -/
def setObjects (l : HandleList) : State := { s with conn := { s.conn with objects := l } }

/-- `dpiGen__setRefCount(objType, error, 1)`. -/
def typeAddRef (t : TypeId) : State :=
  { s with typeRefCount := Function.update s.typeRefCount t (s.typeRefCount t + 1) }

/-- `dpiGen__setRefCount(obj->type, error, -1)`; freeing a type whose count
reaches zero is not this file's concern. -/
def typeRelease (t : TypeId) : State :=
  { s with typeRefCount := Function.update s.typeRefCount t (s.typeRefCount t - 1) }

/-- Take the next native handle, as a call that allocates one does. -/
def newHandle : State := { s with nextHandle := s.nextHandle + 1 }

/-- `dpiUtils__freeMemory` on record `x`. -/
def freeMemory (x : ObjId) : State :=
  { s with objects := Function.update s.objects x none }.log (.freeMemory x)

@[simp] theorem setObjects_objects (l : HandleList) : (s.setObjects l).objects = s.objects := rfl
@[simp] theorem setObjects_nextObj (l : HandleList) : (s.setObjects l).nextObj = s.nextObj := rfl
@[simp] theorem setObjects_trace (l : HandleList) : (s.setObjects l).trace = s.trace := rfl
@[simp] theorem setObjects_answers (l : HandleList) : (s.setObjects l).answers = s.answers := rfl
@[simp] theorem setObjects_conn_objects (l : HandleList) :
    (s.setObjects l).conn.objects = l := rfl
@[simp] theorem setObjects_conn_closing (l : HandleList) :
    (s.setObjects l).conn.closing = s.conn.closing := rfl
@[simp] theorem setObjects_typeRefCount (l : HandleList) :
    (s.setObjects l).typeRefCount = s.typeRefCount := rfl

@[simp] theorem typeAddRef_objects (t : TypeId) : (s.typeAddRef t).objects = s.objects := rfl
@[simp] theorem typeAddRef_nextObj (t : TypeId) : (s.typeAddRef t).nextObj = s.nextObj := rfl
@[simp] theorem typeAddRef_conn (t : TypeId) : (s.typeAddRef t).conn = s.conn := rfl
@[simp] theorem typeAddRef_trace (t : TypeId) : (s.typeAddRef t).trace = s.trace := rfl
@[simp] theorem typeAddRef_answers (t : TypeId) : (s.typeAddRef t).answers = s.answers := rfl
@[simp] theorem typeAddRef_typeRefCount (t : TypeId) : (s.typeAddRef t).typeRefCount =
    Function.update s.typeRefCount t (s.typeRefCount t + 1) := rfl
@[simp] theorem typeRelease_objects (t : TypeId) : (s.typeRelease t).objects = s.objects := rfl
@[simp] theorem typeRelease_nextObj (t : TypeId) : (s.typeRelease t).nextObj = s.nextObj := rfl
@[simp] theorem typeRelease_conn (t : TypeId) : (s.typeRelease t).conn = s.conn := rfl
@[simp] theorem typeRelease_trace (t : TypeId) : (s.typeRelease t).trace = s.trace := rfl
@[simp] theorem typeRelease_answers (t : TypeId) : (s.typeRelease t).answers = s.answers := rfl
@[simp] theorem typeRelease_typeRefCount (t : TypeId) : (s.typeRelease t).typeRefCount =
    Function.update s.typeRefCount t (s.typeRefCount t - 1) := rfl

@[simp] theorem newHandle_objects : s.newHandle.objects = s.objects := rfl
@[simp] theorem newHandle_nextObj : s.newHandle.nextObj = s.nextObj := rfl
@[simp] theorem newHandle_conn : s.newHandle.conn = s.conn := rfl
@[simp] theorem newHandle_trace : s.newHandle.trace = s.trace := rfl
@[simp] theorem newHandle_answers : s.newHandle.answers = s.answers := rfl
@[simp] theorem newHandle_callOk : s.newHandle.callOk = s.callOk := rfl
@[simp] theorem newHandle_typeRefCount : s.newHandle.typeRefCount = s.typeRefCount := rfl
@[simp] theorem newHandle_nextHandle : s.newHandle.nextHandle = s.nextHandle + 1 := rfl

@[simp] theorem freeMemory_objects (x : ObjId) :
    (s.freeMemory x).objects = Function.update s.objects x none := rfl
@[simp] theorem freeMemory_nextObj (x : ObjId) : (s.freeMemory x).nextObj = s.nextObj := rfl
@[simp] theorem freeMemory_conn (x : ObjId) : (s.freeMemory x).conn = s.conn := rfl
@[simp] theorem freeMemory_trace (x : ObjId) :
    (s.freeMemory x).trace = s.trace ++ [.freeMemory x] := rfl
@[simp] theorem freeMemory_answers (x : ObjId) : (s.freeMemory x).answers = s.answers := rfl
@[simp] theorem freeMemory_typeRefCount (x : ObjId) :
    (s.freeMemory x).typeRefCount = s.typeRefCount := rfl

end State

namespace Oci

/-- `dpiOci__objectFree` on one handle of record `x`, answered by the next answer. -/
def objectFree (s : State) (x : ObjId) (target : FreeTarget) (h : Option Handle)
    (checkError : Bool) : State × Bool :=
  (s.afterCall.log (.objectFree x target h checkError s.callOk), s.callOk)

/-- `dpiOci__objectNew`: a new native instance for record `x`. -/
def objectNew (s : State) (x : ObjId) : State × Bool :=
  if s.callOk then
    let h := s.nextHandle
    ((s.afterCall.newHandle.modify x fun r => { r with «instance» := some h }).log
      (.objectNew x h), true)
  else (s.afterCall, false)

/-- `dpiOci__objectGetInd`: the null indicator of record `x`'s instance. -/
def objectGetInd (s : State) (x : ObjId) : State × Bool :=
  if s.callOk then
    let h := s.nextHandle
    (s.afterCall.newHandle.modify x fun r => { r with indicator := some h }, true)
  else (s.afterCall, false)

end Oci

namespace Object

/-! ### `dpiObject__close`, statement by statement -/

/-- The first lock section: read the closing flag and set it. -/
def markClosing (s : State) (x : ObjId) : State × Bool :=
  (s.modify x fun r => { r with closing := true }, (s.obj x).closing)

/-- The test before the helper: a live instance and no parent. -/
def ownsNative (r : Object) : Bool := r.instance.isSome && r.dependsOnObj.isNone

/-- Free the instance. -/
def freeInstance (s : State) (x : ObjId) (checkError : Bool) : State × Bool :=
  Oci.objectFree s x .instance (s.obj x).instance checkError

/-- `obj->instance = NULL`. -/
def clearInstance (s : State) (x : ObjId) : State :=
  s.modify x fun r => { r with «instance» := none }

/-- Free the indicator, when the record owns a separate one. -/
def freeIndicatorHandle (s : State) (x : ObjId) (checkError : Bool) : State × Bool :=
  if (s.obj x).freeIndicator then Oci.objectFree s x .indicator (s.obj x).indicator checkError
  else (s, true)

/-- `obj->indicator = NULL`. -/
def clearIndicator (s : State) (x : ObjId) : State :=
  s.modify x fun r => { r with indicator := none }

/-- Leave the connection's list, unless the connection is tearing down. -/
def deregister (s : State) (x : ObjId) : State :=
  if s.conn.closing then s else s.setObjects (s.conn.objects.removeHandle (s.obj x).openSlotNum)

/-- The second lock section, after a failed helper: clear the closing flag. -/
def resetClosing (s : State) (x : ObjId) : State :=
  s.modify x fun r => { r with closing := false }

/-- `dpiObject__closeHelper`. -/
def closeHelper (s : State) (x : ObjId) (checkError : Bool) : State × Bool :=
  let a := freeInstance s x checkError
  if a.2 then
    let b := freeIndicatorHandle (clearInstance a.1 x) x checkError
    if b.2 then (deregister (clearIndicator b.1 x) x, true) else b
  else a

/-- `dpiObject__close`. -/
def close (s : State) (x : ObjId) (checkError : Bool) : State × Bool :=
  let m := markClosing s x
  if m.2 then (m.1, true)
  else if ownsNative (m.1.obj x) then
    let h := closeHelper m.1 x checkError
    if h.2 then h else (resetClosing h.1 x, false)
  else (m.1, true)

section CloseStatements

variable (s : State) (x : ObjId) (ck : Bool)

@[simp] theorem markClosing_snd : (markClosing s x).2 = (s.obj x).closing := rfl
@[simp] theorem freeInstance_snd : (freeInstance s x ck).2 = s.callOk := rfl

@[simp] theorem freeInstance_fst :
    (freeInstance s x ck).1 =
      s.afterCall.log (.objectFree x .instance (s.obj x).instance ck s.callOk) := rfl

theorem freeIndicatorHandle_eq :
    freeIndicatorHandle s x ck =
      if (s.obj x).freeIndicator then
        (s.afterCall.log (.objectFree x .indicator (s.obj x).indicator ck s.callOk), s.callOk)
      else (s, true) := rfl

@[simp] theorem deregister_objects : (deregister s x).objects = s.objects := by
  unfold deregister; split <;> rfl

@[simp] theorem deregister_trace : (deregister s x).trace = s.trace := by
  unfold deregister; split <;> rfl

@[simp] theorem deregister_answers : (deregister s x).answers = s.answers := by
  unfold deregister; split <;> rfl

@[simp] theorem deregister_nextObj : (deregister s x).nextObj = s.nextObj := by
  unfold deregister; split <;> rfl

@[simp] theorem deregister_typeRefCount : (deregister s x).typeRefCount = s.typeRefCount := by
  unfold deregister; split <;> rfl

@[simp] theorem deregister_conn_closing : (deregister s x).conn.closing = s.conn.closing := by
  unfold deregister; split <;> rfl

theorem deregister_conn_objects :
    (deregister s x).conn.objects =
      if s.conn.closing then s.conn.objects
      else s.conn.objects.removeHandle (s.obj x).openSlotNum := by
  unfold deregister; split <;> rfl

end CloseStatements

/-! ### Reference counts and `dpiObject__free` -/

/-- `dpiGen__setRefCount(obj, error, -1)` on record `x`: the new count, and
whether it reached zero. -/
def decRef (s : State) (x : ObjId) : State × Bool :=
  (s.modify x fun r => { r with refCount := r.refCount - 1 }, (s.obj x).refCount == 1)

/-- `dpiGen__setRefCount(obj, error, 1)` on record `x`. -/
def incRef (s : State) (x : ObjId) : State :=
  s.modify x fun r => { r with refCount := r.refCount + 1 }

/-- `dpiObject__free`. A parent whose count reaches zero is freed in turn, as
`dpiGen__setRefCount` does; parents have smaller addresses than their
dependents, which is what the recursion descends on. -/
def free (s : State) (x : ObjId) : State :=
  let s₁ := (close s x false).1
  let r := s₁.obj x
  let s₂ := s₁.typeRelease r.type
  let s₃ := match r.dependsOnObj with
    | none => s₂
    | some p =>
        let d := decRef s₂ p
        if h : d.2 = true ∧ p < x then free d.1 p else d.1
  s₃.freeMemory x
termination_by x
decreasing_by exact h.2

/-! ### `dpiObject__allocate` -/

/-- `dpiGen__allocate` of record `nextObj`, with the references it takes on
its type and its parent. -/
def create (s : State) (objType : TypeId) (inst ind : Option Handle)
    (dependsOnObj : Option ObjId) : State :=
  let x := s.nextObj
  let s₁ := ({ s with
    objects := Function.update s.objects x (some
      { type := objType, «instance» := inst, indicator := ind, dependsOnObj,
        freeIndicator := false, closing := false, openSlotNum := 0, refCount := 1 })
    nextObj := x + 1 }.typeAddRef objType).log (.allocate x dependsOnObj)
  match dependsOnObj with
  | none => s₁
  | some p => incRef s₁ p

/-- `dpiOci__objectNew` and `dpiOci__objectGetInd` for a record given no instance. -/
def newInstance (s : State) (x : ObjId) : State × Bool :=
  let a := Oci.objectNew s x
  if a.2 then Oci.objectGetInd a.1 x else a

/-- `dpiHandleList__addHandle` of record `x` into its connection's list. -/
def addHandle (s : State) (x : ObjId) : State × Bool :=
  if s.callOk then
    let l := s.conn.objects.addHandle x
    ((s.afterCall.setObjects l.1).modify x fun r => { r with openSlotNum := l.2 }, true)
  else (s.afterCall, false)

/-- `dpiObject__allocate`: the new record's address, or `none` on failure. -/
def allocate (s : State) (objType : TypeId) (inst ind : Option Handle)
    (dependsOnObj : Option ObjId) : State × Option ObjId :=
  if s.callOk then
    let x := s.nextObj
    let s₁ := create s.afterCall objType inst ind dependsOnObj
    let n := if inst.isNone then newInstance s₁ x else (s₁, true)
    if n.2 then
      let a := if (n.1.obj x).instance.isSome && dependsOnObj.isNone then addHandle n.1 x
        else (n.1, true)
      if a.2 then (a.1, some x) else (free a.1 x, none)
    else (free n.1 x, none)
  else (s.afterCall, none)

/-! ### Public functions -/

/-- Modelled from the spec: `dpiGen__startPublicFn` and the connection check
of `dpiObject__check`: the handle must be a live record, and the call's answer
decides the rest. -/
def check (s : State) (x : ObjId) : State × Bool :=
  (s.afterCall, decide (s.Live x) && s.callOk)

/-- Modelled from the spec: `dpiObject_addRef`, generic reference counting. -/
def addRef (s : State) (x : ObjId) : State × Bool :=
  let c := check s x
  if c.2 then (incRef c.1 x, true) else c

/-- Modelled from the spec: `dpiObject_release`, generic reference counting;
the record is freed when its count reaches zero. -/
def release (s : State) (x : ObjId) : State × Bool :=
  let c := check s x
  if c.2 then
    let d := decRef c.1 x
    (if d.2 then free d.1 x else d.1, true)
  else c

/-- `dpiObject_copy`: a new record, with `dpiOci__objectCopy` answered next. -/
def copy (s : State) (x : ObjId) : State × Option ObjId :=
  let c := check s x
  if c.2 then
    let a := allocate c.1 (c.1.obj x).type none none none
    match a.2 with
    | none => (a.1, none)
    | some y => if a.1.callOk then (a.1.afterCall, some y) else (free a.1.afterCall y, none)
  else (c.1, none)

end Object

end Dpi
