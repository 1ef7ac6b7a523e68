import DpiObject.Close

/-! `dpiObject__free`: its one-level unfolding, the case where the parent's
count does not reach zero, and what it does to the records. -/
namespace Dpi.Object

variable {s : State} {x : ObjId} {r : Object}

theorem free_eq (s : State) (x : ObjId) : free s x =
    let s₁ := (close s x false).1
    let r := s₁.obj x
    let s₂ := s₁.typeRelease r.type
    (match r.dependsOnObj with
      | none => s₂
      | some p =>
          let d := decRef s₂ p
          if _h : d.2 = true ∧ p < x then free d.1 p else d.1).freeMemory x :=
  free.eq_1 s x

@[simp] theorem free_nextObj (s : State) (x : ObjId) : (free s x).nextObj = s.nextObj := by
  induction s, x using free.induct with
  | case1 s x s₁ r s₂ ih =>
    have h₂ : s₂.nextObj = s.nextObj := (close_keeps false).nextObj
    rw [free_eq]
    simp only [State.freeMemory_nextObj]
    split
    · exact h₂
    · split
      · exact (ih _ ‹_›).trans h₂
      · exact h₂

theorem CloseKeeps.obj_keep {s' : State} (h : CloseKeeps s s' x) (hr : s.objects x = some r) :
    ∃ r', s'.objects x = some r' ∧ keep r' = keep r := by
  have hk := h.objects_self
  rw [hr] at hk
  cases hs : s'.objects x with
  | none => simp [hs] at hk
  | some r' => exact ⟨r', rfl, by simpa [hs] using hk⟩

/-- The record `x` still holds its type and parent once `close` has run. -/
theorem close_obj_keep (ck : Bool) (hr : s.objects x = some r) :
    ((close s x ck).1.obj x).type = r.type ∧
      ((close s x ck).1.obj x).dependsOnObj = r.dependsOnObj := by
  obtain ⟨r', hr', hk⟩ := (close_keeps ck).obj_keep hr
  simp only [keep, Prod.mk.injEq] at hk
  simp [State.obj_of_objects _ hr', hk.1, hk.2.1]

/-- `free` when the parent's count stays above zero: one decrement of the type
and of the parent, and the record is reclaimed. -/
theorem free_of_no_cascade (hr : s.objects x = some r)
    (hp : ∀ q, r.dependsOnObj = some q → (s.obj q).refCount ≠ 1 ∨ ¬ q < x) :
    free s x = (match r.dependsOnObj with
      | none => (close s x false).1.typeRelease r.type
      | some q => (decRef ((close s x false).1.typeRelease r.type) q).1).freeMemory x := by
  obtain ⟨ht, hd⟩ := close_obj_keep false hr
  rw [free_eq]
  simp only [ht, hd]
  cases hq : r.dependsOnObj with
  | none => rfl
  | some q =>
    simp only
    rw [dif_neg]
    rintro ⟨h1, h2⟩
    rcases hp q hq with h | h
    · have hq' : q ≠ x := Nat.ne_of_lt h2
      have hobj : ((close s x false).1.typeRelease r.type).obj q = s.obj q := by
        simp [State.obj, (close_keeps false).objects_ne q hq']
      simp [decRef, hobj, h] at h1
    · exact h h2

/-- The calls `close` makes on a record that has not started closing and owns
no separate indicator: at most the free of its instance. -/
theorem close_trace_of_plain (ck : Bool) (hr : s.objects x = some r) (hc : r.closing = false)
    (hi : r.freeIndicator = false) :
    (close s x ck).1.trace = s.trace ++
      (if ownsNative r then [.objectFree x .instance r.instance ck s.callOk] else []) := by
  cases ho : ownsNative r
  · rw [close_of_no_helper ck hr (Or.inr ho)]; simp
  cases ha : s.callOk
  · rw [close_of_instance_fails ck hr hc ho ha]; simp
  · rw [close_of_helper_succeeds ck hr hc ho ha (by simp [hi])]; simp [hi]

/-- What `close` does to the connection's list on a record that has not
started closing and owns no separate indicator: it removes slot `openSlotNum`
when the instance free succeeds and the connection is not tearing down. -/
theorem close_registry_of_plain (ck : Bool) (hr : s.objects x = some r) (hc : r.closing = false)
    (hi : r.freeIndicator = false) :
    (close s x ck).1.conn.objects =
      if ownsNative r && s.callOk && !s.conn.closing then
        s.conn.objects.removeHandle r.openSlotNum
      else s.conn.objects := by
  cases ho : ownsNative r
  · rw [close_of_no_helper ck hr (Or.inr ho)]; simp
  cases ha : s.callOk
  · rw [close_of_instance_fails ck hr hc ho ha]; simp
  · rw [close_of_helper_succeeds ck hr hc ho ha (by simp [hi])]
    cases hcl : s.conn.closing <;> simp [hi, deregister_conn_objects, hcl, hr]

/-- The parent's count after a decrement. -/
def parentDec (o : ObjId → Option Object) : Option ObjId → ObjId → Option Object
  | none => o
  | some q => Function.update o q ((o q).map fun r => { r with refCount := r.refCount - 1 })

/-- `free` on a record that has not started closing and owns no separate
indicator, when its parent's count stays above zero: the record is gone, the
type and the parent lose one reference, the only native call is the free of
the instance, made when the record owns it, and a successful free removes
slot `openSlotNum` from the connection's list. -/
theorem free_discard (hr : s.objects x = some r) (hc : r.closing = false)
    (hi : r.freeIndicator = false)
    (hp : ∀ q, r.dependsOnObj = some q → (s.obj q).refCount ≠ 1 ∨ ¬ q < x) :
    (free s x).objects = Function.update (parentDec s.objects r.dependsOnObj) x none ∧
    (free s x).typeRefCount =
      Function.update s.typeRefCount r.type (s.typeRefCount r.type - 1) ∧
    (free s x).trace = s.trace ++
      (if ownsNative r then [.objectFree x .instance r.instance false s.callOk] else []) ++
        [.freeMemory x] ∧
    (free s x).conn.objects =
      if ownsNative r && s.callOk && !s.conn.closing then
        s.conn.objects.removeHandle r.openSlotNum
      else s.conn.objects := by
  rw [free_of_no_cascade hr hp]
  have hk := close_keeps (s := s) (x := x) false
  refine ⟨?_, ?_, ?_, ?_⟩
  · funext y
    by_cases hy : y = x
    · subst hy; cases r.dependsOnObj <;> simp [decRef]
    · cases hq : r.dependsOnObj with
      | none => simp [parentDec, Function.update_noteq hy, hk.objects_ne y hy]
      | some q =>
        by_cases hyq : y = q
        · subst hyq
          simp [parentDec, decRef, State.modify, Function.update_noteq hy, hk.objects_ne y hy]
        · simp [parentDec, decRef, State.modify_objects_of_ne _ _ hyq, Function.update_noteq hy,
            Function.update_noteq hyq, hk.objects_ne y hy]
  · cases r.dependsOnObj <;> simp [decRef, hk.typeRefCount]
  · cases r.dependsOnObj <;> simp [decRef, close_trace_of_plain false hr hc hi]
  · cases r.dependsOnObj <;> simp [decRef, close_registry_of_plain false hr hc hi]

end Dpi.Object
