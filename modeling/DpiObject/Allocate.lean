import DpiObject.Free
import Mathlib.Tactic.Set

/-! A failed `dpiObject__allocate`: what the discarded record leaves behind. -/
namespace Dpi.Object

/-- The record `dpiObject__allocate` builds before any native call. -/
def fresh (objType : TypeId) (inst ind : Option Handle) (dependsOnObj : Option ObjId) : Object :=
  { type := objType, «instance» := inst, indicator := ind, dependsOnObj, freeIndicator := false,
    closing := false, openSlotNum := 0, refCount := 1 }

/-- The parent's count after an increment. -/
def parentInc (o : ObjId → Option Object) : Option ObjId → ObjId → Option Object
  | none => o
  | some q => Function.update o q ((o q).map fun r => { r with refCount := r.refCount + 1 })

section Create

variable (s : State) (t : TypeId) (inst ind : Option Handle) (p : Option ObjId)

theorem create_objects : (create s t inst ind p).objects =
    parentInc (Function.update s.objects s.nextObj (some (fresh t inst ind p))) p := by
  cases p <;> rfl

@[simp] theorem create_typeRefCount : (create s t inst ind p).typeRefCount =
    Function.update s.typeRefCount t (s.typeRefCount t + 1) := by
  cases p <;> rfl

@[simp] theorem create_trace :
    (create s t inst ind p).trace = s.trace ++ [.allocate s.nextObj p] := by
  cases p <;> rfl

@[simp] theorem create_answers : (create s t inst ind p).answers = s.answers := by
  cases p <;> rfl

@[simp] theorem create_callOk : (create s t inst ind p).callOk = s.callOk := by
  simp [State.callOk]

@[simp] theorem create_nextHandle : (create s t inst ind p).nextHandle = s.nextHandle := by
  cases p <;> rfl

@[simp] theorem create_conn : (create s t inst ind p).conn = s.conn := by
  cases p <;> rfl

@[simp] theorem create_nextObj : (create s t inst ind p).nextObj = s.nextObj + 1 := by
  cases p <;> rfl

end Create

theorem parentInc_update_of_ne {o : ObjId → Option Object} {p : Option ObjId} {x : ObjId}
    (hp : ∀ q, p = some q → q ≠ x) (v : Option Object) :
    parentInc (Function.update o x v) p = Function.update (parentInc o p) x v := by
  cases p with
  | none => rfl
  | some q =>
    have hq := hp q rfl
    simp only [parentInc, Function.update_noteq hq]
    exact (Function.update_comm hq _ _ _).symm

theorem parentInc_apply_self {o : ObjId → Option Object} {p : Option ObjId} {x : ObjId}
    (hp : ∀ q, p = some q → q ≠ x) (v : Object) :
    parentInc (Function.update o x (some v)) p x = some v := by
  rw [parentInc_update_of_ne hp]; simp

theorem objects_modify_of_parentInc {u : State} {o : ObjId → Option Object} {p : Option ObjId}
    {x : ObjId} {r : Object} (hp : ∀ q, p = some q → q ≠ x)
    (hu : u.objects = parentInc (Function.update o x (some r)) p) (f : Object → Object) :
    (u.modify x f).objects = parentInc (Function.update o x (some (f r))) p := by
  simp only [State.modify, hu, parentInc_update_of_ne hp, Function.update_same,
    Option.map_some', Function.update_idem]

/-- The state `dpiObject__allocate` holds between its native calls, against the
state `s` it started from: record `r` sits at `s.nextObj`, its type and its
parent carry one reference more, and `pre` are the calls made so far. -/
structure Pending (s u : State) (r : Object) (pre : List Event) : Prop where
  objects_eq : u.objects = parentInc (Function.update s.objects s.nextObj (some r)) r.dependsOnObj
  typeRefCount_eq :
    u.typeRefCount = Function.update s.typeRefCount r.type (s.typeRefCount r.type + 1)
  trace_eq : u.trace = s.trace ++ pre
  nextObj_eq : u.nextObj = s.nextObj + 1

namespace Pending

variable {s u : State} {r : Object} {pre : List Event}

theorem afterCall (h : Pending s u r pre) : Pending s u.afterCall r pre := ⟨h.1, h.2, h.3, h.4⟩

theorem newHandle (h : Pending s u r pre) : Pending s u.newHandle r pre := ⟨h.1, h.2, h.3, h.4⟩

theorem setObjects (h : Pending s u r pre) (l : HandleList) : Pending s (u.setObjects l) r pre :=
  ⟨h.1, h.2, h.3, h.4⟩

theorem log (h : Pending s u r pre) (e : Event) : Pending s (u.log e) r (pre ++ [e]) :=
  ⟨h.1, h.2, by simp [h.3], h.4⟩

theorem modify (h : Pending s u r pre) (hx : ∀ q, r.dependsOnObj = some q → q ≠ s.nextObj)
    (f : Object → Object) (hd : (f r).dependsOnObj = r.dependsOnObj) (ht : (f r).type = r.type) :
    Pending s (u.modify s.nextObj f) (f r) pre :=
  ⟨by rw [hd]; exact objects_modify_of_parentInc hx h.1 f, by simpa [ht] using h.2,
    by simpa using h.3, by simpa using h.4⟩

theorem obj_self (h : Pending s u r pre) (hx : ∀ q, r.dependsOnObj = some q → q ≠ s.nextObj) :
    u.obj s.nextObj = r :=
  u.obj_of_objects (by rw [h.objects_eq, parentInc_apply_self hx])

end Pending

theorem create_pending (s : State) (t : TypeId) (inst ind : Option Handle) (p : Option ObjId) :
    Pending s (create s.afterCall t inst ind p) (fresh t inst ind p) [.allocate s.nextObj p] :=
  ⟨create_objects .., create_typeRefCount .., create_trace .., create_nextObj ..⟩

/-- Discarding the record `x` that `create` built from `s`, after any of the
native calls of `dpiObject__allocate`: the records and the type counts are
those of `s`, the only calls added are the free of an owned instance and the
reclaim, and a successful free removes slot `openSlotNum` from the list. -/
theorem discard_restores {s u : State} {r : Object} {pre : List Event}
    (h : Pending s u r pre) (hx : s.objects s.nextObj = none)
    (hp : ∀ q, r.dependsOnObj = some q →
      q ≠ s.nextObj ∧ ∃ rq, s.objects q = some rq ∧ 0 < rq.refCount)
    (hc : r.closing = false) (hi : r.freeIndicator = false) :
    (free u s.nextObj).objects = s.objects ∧ (free u s.nextObj).typeRefCount = s.typeRefCount ∧
    (free u s.nextObj).trace = s.trace ++ pre ++
      ((if ownsNative r then [.objectFree s.nextObj .instance r.instance false u.callOk]
        else []) ++ [.freeMemory s.nextObj]) ∧
    (free u s.nextObj).conn.objects =
      if ownsNative r && u.callOk && !u.conn.closing then
        u.conn.objects.removeHandle r.openSlotNum
      else u.conn.objects := by
  have hne : ∀ q, r.dependsOnObj = some q → q ≠ s.nextObj := fun q h => (hp q h).1
  have hr : u.objects s.nextObj = some r := by rw [h.objects_eq, parentInc_apply_self hne]
  have hcasc : ∀ q, r.dependsOnObj = some q → (u.obj q).refCount ≠ 1 ∨ ¬ q < s.nextObj := by
    intro q hq
    obtain ⟨hqx, rq, hrq, hpos⟩ := hp q hq
    left
    have : u.objects q = some { rq with refCount := rq.refCount + 1 } := by
      rw [h.objects_eq, hq]; simp [parentInc, Function.update_noteq hqx, hrq]
    rw [u.obj_of_objects this]
    simp only [ne_eq, Nat.add_right_eq_self]
    omega
  obtain ⟨ho, htc, htr', hcn⟩ := free_discard hr hc hi hcasc
  refine ⟨?_, ?_, by rw [htr', h.trace_eq, List.append_assoc], hcn⟩
  · rw [ho, h.objects_eq]
    funext y
    by_cases hy : y = s.nextObj
    · subst hy; simp [hx]
    rw [Function.update_noteq hy]
    cases hq : r.dependsOnObj with
    | none => simp [parentDec, parentInc, Function.update_noteq hy]
    | some q =>
      by_cases hyq : y = q
      · subst hyq
        obtain ⟨-, rq, hrq, -⟩ := hp y hq
        simp [parentDec, parentInc, hrq, Function.update_noteq hy]
      · simp [parentDec, parentInc, Function.update_noteq hy, Function.update_noteq hyq]
  · rw [htc, h.typeRefCount_eq]
    funext y
    by_cases hy : y = r.type
    · subst hy; simp
    · simp [Function.update_noteq hy]

section Steps

variable (u : State) (x : ObjId)

theorem objectNew_of_ok (h : u.callOk = true) :
    Oci.objectNew u x = ((u.afterCall.newHandle.modify x
      fun r => { r with «instance» := some u.nextHandle }).log (.objectNew x u.nextHandle), true) := by
  simp [Oci.objectNew, h]

theorem objectGetInd_of_ok (h : u.callOk = true) :
    Oci.objectGetInd u x = (u.afterCall.newHandle.modify x
      fun r => { r with indicator := some u.nextHandle }, true) := by
  simp [Oci.objectGetInd, h]

theorem objectGetInd_of_fails (h : u.callOk = false) : Oci.objectGetInd u x = (u.afterCall, false) := by
  simp [Oci.objectGetInd, h]

theorem newInstance_of_new_fails (h : u.callOk = false) : newInstance u x = (u.afterCall, false) := by
  simp [newInstance, Oci.objectNew, h]

theorem addHandle_of_fails (h : u.callOk = false) : addHandle u x = (u.afterCall, false) := by
  simp [addHandle, h]

@[simp] theorem addHandle_snd : (addHandle u x).2 = u.callOk := by
  unfold addHandle; split <;> simp_all

end Steps

/-- Whether an event is a call of `dpiOci__objectFree`. -/
def isObjectFree : Event → Bool
  | .objectFree .. => true
  | _ => false

/-- What a failed `dpiObject__allocate` from `s` leaves in `s'`: the records and
the type counts of `s`, and calls `new` added to the trace, whose
`dpiOci__objectFree` calls are none when a parent was given, and otherwise one
free of the instance the record held (the caller's, or the one
`dpiOci__objectNew` made), or none when it held none. -/
def AllocateFailureOutcome (s : State) (inst : Option Handle) (p : Option ObjId) (s' : State) :
    Prop :=
  s'.objects = s.objects ∧ s'.typeRefCount = s.typeRefCount ∧
    ∃ new, s'.trace = s.trace ++ new ∧
      (p.isSome → new.filter isObjectFree = []) ∧
      (p = none → ∀ i, ((Event.allocate s.nextObj none ∈ new ∧ inst = some i) ∨
          Event.objectNew s.nextObj i ∈ new) →
        ∃ a, new.filter isObjectFree = [.objectFree s.nextObj .instance (some i) false a]) ∧
      (p = none → (∀ i, ¬((Event.allocate s.nextObj none ∈ new ∧ inst = some i) ∨
          Event.objectNew s.nextObj i ∈ new)) → new.filter isObjectFree = [])

/-- The calls `dpiObject__allocate` has made on record `x` when it discards or
returns it: the creation, and the `dpiOci__objectNew` of an instance if it made one. -/
def AllocCalls (x : ObjId) (p : Option ObjId) (pre : List Event) : Prop :=
  pre = [.allocate x p] ∨ ∃ h, pre = [.allocate x p, .objectNew x h]

namespace AllocCalls

variable {x : ObjId} {p : Option ObjId} {pre : List Event}

theorem no_free (h : AllocCalls x p pre) : pre.filter isObjectFree = [] := by
  rcases h with rfl | ⟨_, rfl⟩ <;> rfl

theorem allocate_mem (h : AllocCalls x p pre) : Event.allocate x p ∈ pre := by
  rcases h with rfl | ⟨_, rfl⟩ <;> simp

theorem eq_of_allocate_mem (h : AllocCalls x p pre) {y : ObjId} {q : Option ObjId}
    (hm : Event.allocate y q ∈ pre) : y = x ∧ q = p := by
  rcases h with rfl | ⟨_, rfl⟩ <;> simp_all

theorem objectFree_not_mem (h : AllocCalls x p pre) {y : ObjId} {tg : FreeTarget}
    {hd : Option Handle} {ck ok : Bool} : Event.objectFree y tg hd ck ok ∉ pre := by
  rcases h with rfl | ⟨_, rfl⟩ <;> simp

end AllocCalls

/-- How a failed `dpiObject__allocate` from `s` ends: it frees record `s.nextObj`
from state `u`, where the record `r` is pending after the calls `pre`, has not
started closing, owns no separate indicator and was never given a slot. -/
structure Discard (s : State) (inst : Option Handle) (p : Option ObjId) (u : State) (r : Object)
    (pre : List Event) : Prop where
  pending : Pending s u r pre
  conn_eq : u.conn = s.conn
  closing_eq : r.closing = false
  freeIndicator_eq : r.freeIndicator = false
  dependsOnObj_eq : r.dependsOnObj = p
  openSlotNum_eq : r.openSlotNum = 0
  calls : AllocCalls s.nextObj p pre
  held : p = none → ∀ i, ((Event.allocate s.nextObj none ∈ pre ∧ inst = some i) ∨
    Event.objectNew s.nextObj i ∈ pre) ↔ r.instance = some i

/-- How a successful `dpiObject__allocate` from `s` ends: it returns record
`s.nextObj`, pending in state `u` with one reference and an instance, and,
when it has no parent, placed in the connection's list. -/
structure Built (s : State) (t : TypeId) (p : Option ObjId) (u : State) (r : Object)
    (pre : List Event) : Prop where
  pending : Pending s u r pre
  type_eq : r.type = t
  dependsOnObj_eq : r.dependsOnObj = p
  refCount_eq : r.refCount = 1
  closing_eq : r.closing = false
  freeIndicator_eq : r.freeIndicator = false
  instance_isSome : r.instance.isSome = true
  calls : AllocCalls s.nextObj p pre
  conn_closing : u.conn.closing = s.conn.closing
  registry : u.conn.objects =
    if p.isNone then (s.conn.objects.addHandle s.nextObj).1 else s.conn.objects
  slot : r.openSlotNum = if p.isNone then (s.conn.objects.addHandle s.nextObj).2 else 0
  instance_of_new : ∀ i, Event.objectNew s.nextObj i ∈ pre → r.instance = some i

theorem addHandle_of_ok (u : State) (x : ObjId) (h : u.callOk = true) :
    addHandle u x = ((u.afterCall.setObjects (u.conn.objects.addHandle x).1).modify x
      fun r => { r with openSlotNum := (u.conn.objects.addHandle x).2 }, true) := by
  simp [addHandle, h]

/-- Once `dpiGen__allocate` has succeeded, `dpiObject__allocate` either returns
its record or discards it with `dpiObject__free`. -/
theorem allocate_cases {s : State} {t : TypeId} {inst ind : Option Handle}
    {p : Option ObjId} (hpx : ∀ q, p = some q → q ≠ s.nextObj) (hg : s.callOk = true) :
    (∃ u r pre, allocate s t inst ind p = (u, some s.nextObj) ∧ Built s t p u r pre) ∨
    ∃ u r pre, allocate s t inst ind p = (free u s.nextObj, none) ∧ Discard s inst p u r pre := by
  have h₀ := create_pending s t inst ind p
  cases inst with
  | none =>
    cases hn : s.afterCall.callOk
    · have hA : allocate s t none ind p =
          (free (create s.afterCall t none ind p).afterCall s.nextObj, none) := by
        simp [allocate, hg,
          newInstance_of_new_fails (create s.afterCall t none ind p) s.nextObj (by simpa using hn)]
      exact .inr ⟨_, _, _, hA, h₀.afterCall, by simp, rfl, rfl, rfl, rfl, .inl rfl,
        by simp [fresh]⟩
    -- `dpiOci__objectNew` succeeded
    set u₀ := create s.afterCall t none ind p
    have hN := objectNew_of_ok u₀ s.nextObj (by simpa [u₀] using hn)
    set u₁ := (u₀.afterCall.newHandle.modify s.nextObj fun r =>
      { r with «instance» := some u₀.nextHandle }).log (.objectNew s.nextObj u₀.nextHandle)
    have h₁ := (h₀.afterCall.newHandle.modify hpx
      (fun r => { r with «instance» := some u₀.nextHandle }) rfl rfl).log
        (.objectNew s.nextObj u₀.nextHandle)
    have hm : ∀ i, Event.objectNew s.nextObj i ∈ [.allocate s.nextObj p,
        .objectNew s.nextObj u₀.nextHandle] ↔ some u₀.nextHandle = some i := by
      simp [eq_comm]
    cases hi : s.afterCall.afterCall.callOk
    · have hA : allocate s t none ind p = (free u₁.afterCall s.nextObj, none) := by
        simp [allocate, hg, newInstance, hN,
          objectGetInd_of_fails u₁ s.nextObj (by simpa [u₁, u₀, State.callOk] using hi)]
      exact .inr ⟨_, _, _, hA, h₁.afterCall, by simp [u₁, u₀], rfl, rfl, rfl, rfl, .inr ⟨_, rfl⟩,
        fun _ i => by simpa [fresh] using hm i⟩
    have hI := objectGetInd_of_ok u₁ s.nextObj (by simpa [u₁, u₀, State.callOk] using hi)
    set u₂ := u₁.afterCall.newHandle.modify s.nextObj fun r =>
      { r with indicator := some u₁.nextHandle }
    have h₂ := h₁.afterCall.newHandle.modify hpx
      (fun r => { r with indicator := some u₁.nextHandle }) rfl rfl
    have hx₂ := h₂.obj_self hpx
    have hconn₂ : u₂.conn = s.conn := by simp [u₂, u₁, u₀]
    have hconn₀ : u₀.conn = s.conn := by simp [u₀]
    cases hpn : p.isNone
    · have hA : allocate s t none ind p = (u₂, some s.nextObj) := by
        simp [allocate, hg, newInstance, hN, hI, hpn]
      exact .inl ⟨_, _, _, hA, h₂, rfl, rfl, rfl, rfl, rfl, rfl, .inr ⟨_, rfl⟩, by simp [hconn₂],
        by simp [hpn, hconn₂], by simp [hpn, fresh], fun i hi => (hm i).1 hi⟩
    have hc₂ : u₂.callOk = s.afterCall.afterCall.afterCall.callOk := by
      simp [u₂, u₁, u₀, State.callOk]
    cases ha : s.afterCall.afterCall.afterCall.callOk
    · have hA : allocate s t none ind p = (free u₂.afterCall s.nextObj, none) := by
        simp [allocate, hg, newInstance, hN, hI, hpn, hx₂,
          addHandle_of_fails u₂ s.nextObj (hc₂.trans ha)]
      exact .inr ⟨_, _, _, hA, h₂.afterCall, by simp [hconn₂], rfl, rfl, rfl, rfl, .inr ⟨_, rfl⟩,
        fun _ i => by simpa [fresh] using hm i⟩
    · have hH := addHandle_of_ok u₂ s.nextObj (hc₂.trans ha)
      have hA : allocate s t none ind p =
          ((u₂.afterCall.setObjects (u₂.conn.objects.addHandle s.nextObj).1).modify s.nextObj
            fun r => { r with openSlotNum := (u₂.conn.objects.addHandle s.nextObj).2 },
          some s.nextObj) := by
        simp [allocate, hg, newInstance, hN, hI, hpn, hx₂, hH]
      refine .inl ⟨_, _, _, hA,
        (h₂.afterCall.setObjects (u₂.conn.objects.addHandle s.nextObj).1).modify hpx
          (fun r => { r with openSlotNum := (u₂.conn.objects.addHandle s.nextObj).2 }) rfl rfl,
        rfl, rfl, rfl, rfl, rfl, rfl,
        .inr ⟨_, rfl⟩, by simp [hconn₂, hconn₀], by simp [hpn, hconn₂], by simp [hpn, hconn₂],
        fun i hi => (hm i).1 hi⟩
  | some i =>
    set u₀ := create s.afterCall t (some i) ind p
    have hx₀ := h₀.obj_self hpx
    have hconn₀ : u₀.conn = s.conn := by simp [u₀]
    cases hpn : p.isNone
    · have hA : allocate s t (some i) ind p = (u₀, some s.nextObj) := by
        simp [allocate, hg, hpn]
      exact .inl ⟨_, _, _, hA, h₀, rfl, rfl, rfl, rfl, rfl, rfl, .inl rfl, by simp [hconn₀],
        by simp [hpn, hconn₀], by simp [hpn, fresh], fun j hj => by simp at hj⟩
    cases ha : s.afterCall.callOk
    · have hA : allocate s t (some i) ind p = (free u₀.afterCall s.nextObj, none) := by
        simp [allocate, hg, hpn, hx₀, fresh,
          addHandle_of_fails u₀ s.nextObj (by simpa [u₀] using ha)]
      exact .inr ⟨_, _, _, hA, h₀.afterCall, by simp [u₀], rfl, rfl, rfl, rfl, .inl rfl,
        fun hn j => by subst hn; simp [fresh]⟩
    · have hH := addHandle_of_ok u₀ s.nextObj (by simpa [u₀] using ha)
      have hA : allocate s t (some i) ind p =
          ((u₀.afterCall.setObjects (u₀.conn.objects.addHandle s.nextObj).1).modify s.nextObj
            fun r => { r with openSlotNum := (u₀.conn.objects.addHandle s.nextObj).2 },
          some s.nextObj) := by
        simp [allocate, hg, hpn, hx₀, fresh, hH]
      refine .inl ⟨_, _, _, hA,
        (h₀.afterCall.setObjects (u₀.conn.objects.addHandle s.nextObj).1).modify hpx
          (fun r => { r with openSlotNum := (u₀.conn.objects.addHandle s.nextObj).2 }) rfl rfl,
        rfl, rfl, rfl, rfl, rfl, rfl,
        .inl rfl, by simp [hconn₀], by simp [hpn, hconn₀], by simp [hpn, hconn₀],
        fun j hj => by simp at hj⟩

/-- Every failure of `dpiObject__allocate` after `dpiGen__allocate` succeeded is
a `dpiObject__free` of the half-built record. -/
theorem allocate_failure_discards {s : State} {t : TypeId} {inst ind : Option Handle}
    {p : Option ObjId} (hpx : ∀ q, p = some q → q ≠ s.nextObj) (hg : s.callOk = true)
    (hfail : (allocate s t inst ind p).2 = none) :
    ∃ u r pre, allocate s t inst ind p = (free u s.nextObj, none) ∧ Discard s inst p u r pre := by
  rcases @allocate_cases _ t inst ind _ hpx hg with ⟨u, r, pre, hA, -⟩ | h
  · simp [hA] at hfail
  · exact h

/-- A successful `dpiObject__allocate` returns its new record. -/
theorem allocate_success_built {s : State} {t : TypeId} {inst ind : Option Handle}
    {p : Option ObjId} {y : ObjId} (hpx : ∀ q, p = some q → q ≠ s.nextObj)
    (hok : (allocate s t inst ind p).2 = some y) :
    y = s.nextObj ∧ ∃ r pre, Built s t p (allocate s t inst ind p).1 r pre := by
  cases hg : s.callOk
  · simp [allocate, hg] at hok
  rcases @allocate_cases _ t inst ind _ hpx hg with
    ⟨u, r, pre, hA, hB⟩ | ⟨u, r, pre, hA, -⟩
  · rw [hA] at hok ⊢
    exact ⟨(Option.some.inj hok).symm, r, pre, hB⟩
  · simp [hA] at hok

/-- The failure conclusion, once `allocate` is known to discard its record. -/
private theorem failure_of_discard {s u : State} {t : TypeId} {inst ind : Option Handle}
    {p : Option ObjId} {r : Object} {pre : List Event}
    (hA : allocate s t inst ind p = (free u s.nextObj, none)) (hD : Discard s inst p u r pre)
    (hx : s.objects s.nextObj = none)
    (hp : ∀ q, p = some q → q ≠ s.nextObj ∧ ∃ rq, s.objects q = some rq ∧ 0 < rq.refCount) :
    AllocateFailureOutcome s inst p (allocate s t inst ind p).1 := by
  obtain ⟨h, -, hc, hi, hrp, -, hcalls, hheld⟩ := hD
  have hpre := hcalls.no_free
  obtain ⟨ho, htc, htr', -⟩ := discard_restores h hx (hrp ▸ hp) hc hi
  simp only [AllocateFailureOutcome, hA]
  have hmem : ∀ e, (e = Event.allocate s.nextObj none ∨ ∃ i, e = .objectNew s.nextObj i) →
      (e ∈ pre ++ ((if ownsNative r then [Event.objectFree s.nextObj .instance r.instance false
        u.callOk] else []) ++ [.freeMemory s.nextObj]) ↔ e ∈ pre) := by
    rintro e (rfl | ⟨i, rfl⟩) <;> split <;> simp
  refine ⟨ho, htc, _, htr'.trans (List.append_assoc _ _ _), fun hs => ?_, fun hn i hh => ?_,
    fun hn hh => ?_⟩
  · obtain ⟨q, hq⟩ := Option.isSome_iff_exists.mp hs
    simp [hpre, ownsNative, hrp, hq, isObjectFree]
  · rw [hmem _ (Or.inl rfl), hmem _ (Or.inr ⟨i, rfl⟩)] at hh
    have hi := (hheld hn i).mp hh
    exact ⟨u.callOk, by simp [hpre, ownsNative, hrp, hn, hi, isObjectFree]⟩
  · have hnone : r.instance = none := by
      cases hri : r.instance with
      | none => rfl
      | some i =>
        refine absurd ?_ (hh i)
        rw [hmem _ (Or.inl rfl), hmem _ (Or.inr ⟨i, rfl⟩)]
        exact (hheld hn i).mpr hri
    simp [hpre, ownsNative, hnone, isObjectFree]

theorem allocate_failure_restores (s : State) (t : TypeId) (inst ind : Option Handle)
    (p : Option ObjId) (hfresh : s.objects s.nextObj = none)
    (hp : ∀ q, p = some q → ∃ r, s.objects q = some r ∧ 0 < r.refCount)
    (hfail : (allocate s t inst ind p).2 = none) :
    AllocateFailureOutcome s inst p (allocate s t inst ind p).1 := by
  have hpx : ∀ q, p = some q → q ≠ s.nextObj := by
    rintro q rfl rfl
    obtain ⟨r, hr, -⟩ := hp s.nextObj rfl
    simp [hfresh] at hr
  cases hg : s.callOk
  · simp only [AllocateFailureOutcome, allocate, hg, Bool.false_eq_true, if_false]
    exact ⟨rfl, rfl, [], by simp, by simp, by simp, by simp⟩
  obtain ⟨u, r, pre, hA, hD⟩ := allocate_failure_discards hpx hg hfail
  exact failure_of_discard hA hD hfresh fun q hq => ⟨hpx q hq, hp q hq⟩

/-- The successful instance frees among the calls a discard adds. -/
theorem mem_discard_calls {pre : List Event} (hpre : pre.filter isObjectFree = []) {x : ObjId}
    {o a : Bool} {h i : Option Handle} :
    Event.objectFree x .instance i false true ∈
        pre ++ ((if o then [.objectFree x .instance h false a] else []) ++ [.freeMemory x]) ↔
      o = true ∧ a = true ∧ i = h := by
  have hn : Event.objectFree x .instance i false true ∉ pre := fun hm => by
    simpa [isObjectFree] using List.filter_eq_nil_iff.mp hpre _ hm
  cases o <;> cases a <;> simp [hn, eq_comm]

/-- What a failed `dpiObject__allocate` does to the connection's list: when the
free of the discarded record's instance succeeds and the connection is not
tearing down, slot 0 is emptied and uncounted, though the record never had a
slot; otherwise the list is unchanged. -/
theorem allocate_failure_registry (s : State) (t : TypeId) (inst ind : Option Handle)
    (p : Option ObjId) (hfresh : s.objects s.nextObj = none)
    (hp : ∀ q, p = some q → ∃ r, s.objects q = some r ∧ 0 < r.refCount)
    (hfail : (allocate s t inst ind p).2 = none) :
    let s' := (allocate s t inst ind p).1
    ∃ new, s'.trace = s.trace ++ new ∧
      (s.conn.closing = false → (∃ i, Event.objectFree s.nextObj .instance i false true ∈ new) →
        s'.conn.objects = s.conn.objects.removeHandle 0) ∧
      (s.conn.closing = true ∨ (∀ i, Event.objectFree s.nextObj .instance i false true ∉ new) →
        s'.conn.objects = s.conn.objects) := by
  have hpx : ∀ q, p = some q → q ≠ s.nextObj := by
    rintro q rfl rfl
    obtain ⟨r, hr, -⟩ := hp s.nextObj rfl
    simp [hfresh] at hr
  cases hg : s.callOk
  · refine ⟨[], by simp [allocate, hg], fun _ ⟨i, hi⟩ => by simp at hi, fun _ => ?_⟩
    simp [allocate, hg]
  obtain ⟨u, r, pre, hA, hD⟩ := allocate_failure_discards hpx hg hfail
  obtain ⟨-, -, htr, hcn⟩ := discard_restores hD.pending hfresh
    (fun q hq => ⟨hpx q (hD.dependsOnObj_eq ▸ hq), hp q (hD.dependsOnObj_eq ▸ hq)⟩)
    hD.closing_eq hD.freeIndicator_eq
  simp only [hA]
  refine ⟨_, htr.trans (List.append_assoc _ _ _), fun hcl ⟨i, hi⟩ => ?_, fun h => ?_⟩
  · obtain ⟨ho, ha, -⟩ := (mem_discard_calls hD.calls.no_free).mp hi
    simp [hcn, hD.conn_eq, hD.openSlotNum_eq, ho, ha, hcl]
  · rw [hcn, hD.conn_eq]
    split_ifs with hc
    · simp only [Bool.and_eq_true, Bool.not_eq_true'] at hc
      obtain ⟨⟨ho, ha⟩, hcl⟩ := hc
      rcases h with h | h
      · simp [hD.conn_eq, hcl] at h
      · exact absurd ((mem_discard_calls hD.calls.no_free).mpr ⟨ho, ha, rfl⟩) (h _)
    · rfl

theorem allocate_failure_registry_at_new_failure :
    let r : Object := ⟨0, some 1, some 2, none, false, false, 0, 1⟩
    let s : State := { State.init [true, true, false, true] with
      objects := fun y => if y = 0 then some r else none, nextObj := 1, nextHandle := 3,
      typeRefCount := fun _ => 1, conn := ⟨false, ⟨[some 0], 1⟩⟩ }
    s.conn.objects.slot 0 = some 0 ∧ s.objects s.nextObj = none ∧
      (allocate s 0 none none none).2 = none ∧
      let s' := (allocate s 0 none none none).1
      ∃ new, s'.trace = s.trace ++ new ∧
        (s.conn.closing = false → (∃ i, Event.objectFree s.nextObj .instance i false true ∈ new) →
          s'.conn.objects = s.conn.objects.removeHandle 0) ∧
        (s.conn.closing = true ∨ (∀ i, Event.objectFree s.nextObj .instance i false true ∉ new) →
          s'.conn.objects = s.conn.objects) := by
  intro r s
  exact ⟨rfl, rfl, rfl, allocate_failure_registry s 0 none none none rfl (by simp) rfl⟩

theorem allocate_failure_restores_at_new_failure :
    let r : Object := ⟨0, some 1, some 2, none, false, false, 0, 1⟩
    let sp : State := { State.init [true, true, false, true] with
      objects := fun y => if y = 0 then some r else none, nextObj := 1, nextHandle := 3,
      typeRefCount := fun _ => 1 }
    let si := State.init [true, false, true]
    ((State.init [true, false]).objects 0 = none ∧
      (allocate (State.init [true, false]) 0 none none none).2 = none ∧
      AllocateFailureOutcome (State.init [true, false]) none none
        (allocate (State.init [true, false]) 0 none none none).1) ∧
    (sp.objects sp.nextObj = none ∧
      (∀ q, some 0 = some q → ∃ rq, sp.objects q = some rq ∧ 0 < rq.refCount) ∧
      (allocate sp 0 none none (some 0)).2 = none ∧
      AllocateFailureOutcome sp none (some 0) (allocate sp 0 none none (some 0)).1) ∧
    (si.objects si.nextObj = none ∧ (allocate si 0 (some 5) none none).2 = none ∧
      AllocateFailureOutcome si (some 5) none (allocate si 0 (some 5) none none).1) := by
  intro r sp si
  have hp : ∀ q, some 0 = some q → ∃ rq, sp.objects q = some rq ∧ 0 < rq.refCount := by
    rintro q ⟨⟩
    exact ⟨r, rfl, by decide⟩
  exact ⟨⟨rfl, rfl, allocate_failure_restores _ 0 none none none rfl (by simp) rfl⟩,
    ⟨rfl, hp, rfl, allocate_failure_restores sp 0 none none (some 0) rfl hp rfl⟩,
    ⟨rfl, rfl, allocate_failure_restores si 0 (some 5) none none rfl (by simp) rfl⟩⟩

/-- A caller-supplied instance, no parent, and a failed registration: the
discarded record's close frees the caller's instance. -/
theorem allocate_failure_frees_supplied_instance :
    (allocate (State.init [true, false, true]) 0 (some 5) none none).2 = none ∧
      Event.objectFree 0 .instance (some 5) false true ∈
        (allocate (State.init [true, false, true]) 0 (some 5) none none).1.trace := by
  have h := (create_pending (State.init [true, false, true]) 0 (some 5) none none).afterCall
  obtain ⟨-, -, ht, -⟩ := discard_restores h rfl (by simp [fresh]) rfl rfl
  refine ⟨by decide, ?_⟩
  show _ ∈ (free (create (State.init [true, false, true]).afterCall 0 (some 5) none none).afterCall
    (State.init [true, false, true]).nextObj).trace
  rw [ht]
  decide

/-- Record 0, registered in slot 0, and a copy of it whose `dpiOci__objectGetInd`
fails: discarding the copy, which was never given a slot, empties slot 0 and
uncounts it, while record 0 stays live with its instance. -/
theorem copy_failure_clears_slot_of_other :
    let r : Object := ⟨0, some 1, some 2, none, false, false, 0, 1⟩
    let s : State := { State.init [true, true, true, false, true] with
      objects := fun y => if y = 0 then some r else none, nextObj := 1, nextHandle := 3,
      typeRefCount := fun _ => 1, conn := ⟨false, ⟨[some 0], 1⟩⟩ }
    (copy s 0).2 = none ∧ s.conn.objects.slot 0 = some 0 ∧ (copy s 0).1.objects 0 = some r ∧
      (copy s 0).1.conn.objects.slot 0 = none ∧ (copy s 0).1.conn.objects.numUsedSlots = 0 := by
  intro r s
  let u := (newInstance (create s.afterCall.afterCall 0 none none none) 1).1
  have hA : copy s 0 = (free u 1, none) := rfl
  obtain ⟨ho, -, -, hc⟩ := free_discard (s := u) (x := 1)
    (r := ⟨0, some 3, none, none, false, false, 0, 1⟩) rfl rfl rfl (by simp)
  rw [hA]
  refine ⟨rfl, rfl, ?_, ?_, ?_⟩
  · rw [ho]; rfl
  · rw [hc]; decide
  · rw [hc]; decide

end Dpi.Object
