import DpiObject.Lifecycle

/-! What one sequential call of `dpiObject__close` does: every path, with the
record, the connection's list and the calls it leaves behind. -/
namespace Dpi.Object

variable {s : State} {x : ObjId} {r : Object} (ck : Bool)

theorem modify_eq_self {f : Object → Object} (hr : s.objects x = some r) (hf : f r = r) :
    s.modify x f = s := by
  have h : Function.update s.objects x ((s.objects x).map f) = s.objects := by
    rw [hr, Option.map_some', hf, ← hr, Function.update_eq_self]
  unfold State.modify
  rw [h]

/-- `close` finds the flag set, or nothing to free: it only sets the flag. -/
theorem close_of_no_helper (hr : s.objects x = some r)
    (h : r.closing = true ∨ ownsNative r = false) :
    close s x ck = (s.modify x fun r => { r with closing := true }, true) := by
  have hm : ((s.modify x fun r => { r with closing := true }).obj x) =
      { r with closing := true } := s.modify_obj_self _ hr
  have ho : ownsNative { r with closing := true } = ownsNative r := rfl
  simp only [close, markClosing, s.obj_of_objects hr, hm, ho]
  rcases h with h | h <;> simp [h]

/-- `close` runs the helper and the instance free fails: the closing flag is
cleared again and the record is as it was. -/
theorem close_of_instance_fails (hr : s.objects x = some r) (hc : r.closing = false)
    (ho : ownsNative r = true) (ha : s.callOk = false) :
    close s x ck = (s.afterCall.log (.objectFree x .instance r.instance ck false), false) := by
  have hm : ((s.modify x fun r => { r with closing := true }).obj x) =
      { r with closing := true } := s.modify_obj_self _ hr
  have ho' : ownsNative { r with closing := true } = true := ho
  simp only [close, markClosing, s.obj_of_objects hr, hm, ho', hc, closeHelper, freeInstance,
    Oci.objectFree, State.modify_callOk, ha, resetClosing, State.modify_afterCall,
    State.modify_log, State.modify_modify, Bool.false_eq_true, if_false, if_true]
  refine Prod.ext (modify_eq_self (r := r) hr ?_) rfl
  cases r; simp_all

/-- The instance free succeeds and the indicator free fails: the instance is
already gone, the closing flag is cleared, and the list is untouched. -/
theorem close_of_indicator_fails (hr : s.objects x = some r) (hc : r.closing = false)
    (ho : ownsNative r = true) (ha : s.callOk = true) (hi : r.freeIndicator = true)
    (hb : s.afterCall.callOk = false) :
    close s x ck =
      (((s.afterCall.log (.objectFree x .instance r.instance ck true)).afterCall.log
        (.objectFree x .indicator r.indicator ck false)).modify x
          fun r => { r with «instance» := none }, false) := by
  have ho' : ownsNative { r with closing := true } = true := ho
  simp only [close, markClosing, closeHelper, freeInstance, Oci.objectFree, clearInstance,
    freeIndicatorHandle, resetClosing, State.obj_modify_self, State.modify_callOk,
    State.modify_afterCall, State.modify_log, State.modify_modify, State.log_objects,
    State.afterCall_objects, State.log_callOk, s.obj_of_objects hr, hr, Option.map_some',
    Option.getD_some, Function.comp_apply, ho', hc, ha, Bool.false_eq_true, if_false, if_true]
  simp only [hi, hb, if_true, Bool.false_eq_true, if_false, State.modify_modify]
  refine Prod.ext (State.modify_congr _ (r := r) (by simpa using hr) ?_) rfl
  cases r; simp_all

/-- Both frees succeed: the record keeps no native handle and stays marked
closing, and its slot leaves the list unless the connection is tearing down. -/
theorem close_of_helper_succeeds (hr : s.objects x = some r) (hc : r.closing = false)
    (ho : ownsNative r = true) (ha : s.callOk = true)
    (hb : r.freeIndicator = true → s.afterCall.callOk = true) :
    close s x ck =
      (deregister ((if r.freeIndicator then
          (s.afterCall.log (.objectFree x .instance r.instance ck true)).afterCall.log
            (.objectFree x .indicator r.indicator ck true)
        else s.afterCall.log (.objectFree x .instance r.instance ck true)).modify x
          fun r => { r with «instance» := none, indicator := none, closing := true }) x, true) := by
  have ho' : ownsNative { r with closing := true } = true := ho
  simp only [close, markClosing, closeHelper, freeInstance, Oci.objectFree, clearInstance,
    freeIndicatorHandle, clearIndicator, State.obj_modify_self, State.modify_callOk,
    State.modify_afterCall, State.modify_log, State.modify_modify, State.log_objects,
    State.afterCall_objects, State.log_callOk, s.obj_of_objects hr, hr, Option.map_some',
    Option.getD_some, Function.comp_apply, ho', hc, ha, Bool.false_eq_true, if_false, if_true]
  cases hi : r.freeIndicator
  · simp only [if_false, if_true, Bool.false_eq_true, State.modify_modify]
    rfl
  · simp only [hb hi, if_true, State.modify_modify]
    rfl

theorem modify_of_dead {f : Object → Object} (hx : s.objects x = none) : s.modify x f = s := by
  have h : Function.update s.objects x ((s.objects x).map f) = s.objects := by
    rw [hx, Option.map_none', ← hx, Function.update_eq_self]
  unfold State.modify
  rw [h]

/-- `close` on an address that holds no record does nothing. -/
theorem close_of_dead (hx : s.objects x = none) : close s x ck = (s, true) := by
  have hd : s.obj x = default := by simp [State.obj, hx]
  simp [close, markClosing, hd, modify_of_dead hx, ownsNative, default]

/-- The fields `dpiObject__close` never writes. -/
def keep (r : Object) : TypeId × Option ObjId × Nat × Nat × Bool :=
  (r.type, r.dependsOnObj, r.refCount, r.openSlotNum, r.freeIndicator)

/-- What `dpiObject__close` leaves as it was: every other record, the fields of
`x` it never writes, whether `x` is live, and everything outside the records,
the list and the calls. -/
structure CloseKeeps (s s' : State) (x : ObjId) : Prop where
  objects_ne : ∀ y, y ≠ x → s'.objects y = s.objects y
  objects_self : (s'.objects x).map keep = (s.objects x).map keep
  nextObj : s'.nextObj = s.nextObj
  typeRefCount : s'.typeRefCount = s.typeRefCount
  nextHandle : s'.nextHandle = s.nextHandle
  types : s'.types = s.types
  lobs : s'.lobs = s.lobs
  env : s'.env = s.env
  conn_closing : s'.conn.closing = s.conn.closing

namespace CloseKeeps

theorem refl (s : State) (x : ObjId) : CloseKeeps s s x :=
  ⟨fun _ _ => rfl, rfl, rfl, rfl, rfl, rfl, rfl, rfl, rfl⟩

theorem trans {s₁ s₂ s₃ : State} (h₁ : CloseKeeps s₁ s₂ x) (h₂ : CloseKeeps s₂ s₃ x) :
    CloseKeeps s₁ s₃ x :=
  ⟨fun y hy => (h₂.objects_ne y hy).trans (h₁.objects_ne y hy),
    h₂.objects_self.trans h₁.objects_self, h₂.nextObj.trans h₁.nextObj,
    h₂.typeRefCount.trans h₁.typeRefCount, h₂.nextHandle.trans h₁.nextHandle,
    h₂.types.trans h₁.types, h₂.lobs.trans h₁.lobs, h₂.env.trans h₁.env,
    h₂.conn_closing.trans h₁.conn_closing⟩

theorem modify (s : State) (f : Object → Object) (hf : ∀ r, keep (f r) = keep r) :
    CloseKeeps s (s.modify x f) x :=
  ⟨fun _ hy => s.modify_objects_of_ne f hy, by cases h : s.objects x <;> simp [h, hf], rfl, rfl,
    rfl, rfl, rfl, rfl, rfl⟩

theorem afterCall (s : State) : CloseKeeps s s.afterCall x :=
  ⟨fun _ _ => rfl, rfl, rfl, rfl, rfl, rfl, rfl, rfl, rfl⟩

theorem log (s : State) (e : Event) : CloseKeeps s (s.log e) x :=
  ⟨fun _ _ => rfl, rfl, rfl, rfl, rfl, rfl, rfl, rfl, rfl⟩

theorem deregister (s : State) : CloseKeeps s (Object.deregister s x) x := by
  unfold Object.deregister
  split
  · exact refl s x
  · exact ⟨fun _ _ => rfl, rfl, rfl, rfl, rfl, rfl, rfl, rfl, rfl⟩

end CloseKeeps

theorem close_keeps : CloseKeeps s (close s x ck).1 x := by
  cases hx : s.objects x with
  | none => rw [close_of_dead ck hx]; exact .refl s x
  | some r =>
    by_cases hn : r.closing = true ∨ ownsNative r = false
    · rw [close_of_no_helper ck hx hn]
      exact .modify s _ fun _ => by rfl
    simp only [not_or, Bool.not_eq_true, Bool.not_eq_false] at hn
    obtain ⟨hc, ho⟩ := hn
    cases ha : s.callOk
    · rw [close_of_instance_fails ck hx hc ho ha]
      exact (CloseKeeps.afterCall s).trans (.log _ _)
    cases hi : r.freeIndicator
    · rw [close_of_helper_succeeds ck hx hc ho ha (by simp [hi])]
      simp only [hi, Bool.false_eq_true, if_false]
      exact (((CloseKeeps.afterCall s).trans (.log _ _)).trans (.modify _ _ fun _ => by rfl)).trans
        (.deregister _)
    cases hb : s.afterCall.callOk
    · rw [close_of_indicator_fails ck hx hc ho ha hi hb]
      exact ((((CloseKeeps.afterCall s).trans (.log _ _)).trans (.afterCall _)).trans
        (.log _ _)).trans (.modify _ _ fun _ => by rfl)
    · rw [close_of_helper_succeeds ck hx hc ho ha (fun _ => hb)]
      simp only [hi, if_true]
      exact (((((CloseKeeps.afterCall s).trans (.log _ _)).trans (.afterCall _)).trans
        (.log _ _)).trans (.modify _ _ fun _ => by rfl)).trans (.deregister _)

/-- The calls `close` makes: frees of `x`'s own handles, made only when `x`
owns its instance. -/
theorem close_calls : ∃ new, (close s x ck).1.trace = s.trace ++ new ∧
    ∀ e ∈ new, ownsNative (s.obj x) = true ∧ ∃ tg h ok, e = .objectFree x tg h ck ok := by
  cases hx : s.objects x with
  | none => rw [close_of_dead ck hx]; exact ⟨[], by simp, by simp⟩
  | some r =>
    have hr : s.obj x = r := s.obj_of_objects hx
    by_cases hn : r.closing = true ∨ ownsNative r = false
    · rw [close_of_no_helper ck hx hn]; exact ⟨[], by simp, by simp⟩
    simp only [not_or, Bool.not_eq_true, Bool.not_eq_false] at hn
    obtain ⟨hc, ho⟩ := hn
    cases ha : s.callOk
    · rw [close_of_instance_fails ck hx hc ho ha]
      exact ⟨[.objectFree x .instance r.instance ck false], by simp, by simp [hr, ho]⟩
    cases hi : r.freeIndicator
    · rw [close_of_helper_succeeds ck hx hc ho ha (by simp [hi])]
      exact ⟨[.objectFree x .instance r.instance ck true], by simp [hi], by simp [hr, ho]⟩
    cases hb : s.afterCall.callOk
    · rw [close_of_indicator_fails ck hx hc ho ha hi hb]
      exact ⟨[.objectFree x .instance r.instance ck true,
        .objectFree x .indicator r.indicator ck false], by simp, by simp [hr, ho]⟩
    · rw [close_of_helper_succeeds ck hx hc ho ha (fun _ => hb)]
      exact ⟨[.objectFree x .instance r.instance ck true,
        .objectFree x .indicator r.indicator ck true], by simp [hi], by simp [hr, ho]⟩

/-- One sequential call of `dpiObject__close` on the live record `r` at `x`:
records other than `x` are untouched, and the call takes one of five paths.
The flag is already set: success, and nothing changes. The record owns no
native instance: success, and only the flag is set. The instance free fails:
failure, that free is the only call, and the record and the connection are as
they were. The instance free succeeds and the indicator free, made only when
`freeIndicator` is set, fails: failure, with the instance freed and NULL and
the connection and the cleared flag as they were; a retried close (`ck'`) then
returns success at once, only setting the flag. Both succeed: success, the
record keeps no native handle and stays marked closing, and its slot leaves
the list unless the connection is tearing down. -/
def CloseOutcome (s : State) (x : ObjId) (ck ck' : Bool) (r : Object) : Prop :=
  let c := close s x ck
  (∀ y, y ≠ x → c.1.objects y = s.objects y) ∧
  (c.2 = true →
    (r.closing = true ∧ c.1 = s) ∨
    (r.closing = false ∧ ownsNative r = false ∧
      c.1 = s.modify x fun r => { r with closing := true }) ∨
    (r.closing = false ∧ ownsNative r = true ∧
      c.1.objects x = some { r with «instance» := none, indicator := none, closing := true } ∧
      c.1.conn.closing = s.conn.closing ∧
      c.1.conn.objects = (if s.conn.closing then s.conn.objects
        else s.conn.objects.removeHandle r.openSlotNum) ∧
      c.1.trace = s.trace ++ .objectFree x .instance r.instance ck true ::
        if r.freeIndicator then [.objectFree x .indicator r.indicator ck true] else [])) ∧
  (c.2 = false →
    r.closing = false ∧ ownsNative r = true ∧ c.1.conn = s.conn ∧
    ((c.1.objects x = some r ∧ c.1.trace = s.trace ++ [.objectFree x .instance r.instance ck false]) ∨
      (r.freeIndicator = true ∧ c.1.objects x = some { r with «instance» := none } ∧
        c.1.trace = s.trace ++
          [.objectFree x .instance r.instance ck true, .objectFree x .indicator r.indicator ck false] ∧
        close c.1 x ck' = (c.1.modify x fun r => { r with closing := true }, true))))

private theorem closeOutcome_of_helper_succeeds {ck' : Bool} (hr : s.objects x = some r)
    (hc : r.closing = false) (ho : ownsNative r = true) {t : State}
    (h : close s x ck = (deregister (t.modify x
      fun r => { r with «instance» := none, indicator := none, closing := true }) x, true))
    (hto : t.objects = s.objects) (htc : t.conn = s.conn)
    (htt : t.trace = s.trace ++ .objectFree x .instance r.instance ck true ::
      if r.freeIndicator then [.objectFree x .indicator r.indicator ck true] else []) :
    CloseOutcome s x ck ck' r := by
  rw [CloseOutcome, h]
  refine ⟨fun y hy => by simp [State.modify_objects_of_ne _ _ hy, hto], fun _ => ?_, by simp⟩
  refine Or.inr (Or.inr ⟨hc, ho, by simp [hto, hr], by simp [htc], ?_, by simp [htt]⟩)
  simp [deregister_conn_objects, htc, hto, hr]

end Dpi.Object