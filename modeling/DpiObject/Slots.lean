import DpiObject.Registry

/-! The connection's list of open objects over every run of the public API,
whatever the collaborators answer. A slot holds a live record that owns its
native instance, has not started closing and was given that slot, with two
exceptions: a `dpiOci__objectFree` of the record failed, after which
`dpiObject__free` reclaims the record anyway and leaves its slot pointing at
reclaimed memory; or the connection is tearing down, and
`dpiObject__closeHelper` leaves the list alone. The failures of
`dpiObject__allocate` can empty the slot of another record, but they never
make a slot point at a reclaimed record. -/
namespace Dpi.Object

/-- A `dpiOci__objectFree` of one of record `y`'s handles failed in the calls `l`. -/
def FreeFailed (y : ObjId) (l : List Event) : Prop :=
  ∃ tg hd ck, Event.objectFree y tg hd ck false ∈ l

theorem FreeFailed.mono {y : ObjId} {l l' : List Event} (h : FreeFailed y l)
    (hl : ∀ e ∈ l, e ∈ l') : FreeFailed y l' :=
  let ⟨tg, hd, ck, he⟩ := h
  ⟨tg, hd, ck, hl _ he⟩

/-- What the list reads of a record it holds. -/
def slotView (r : Object) : Bool × Bool × Nat := (ownsNative r, r.closing, r.openSlotNum)

/-- Slot `i` may hold record `y`: `y` is live, owns its native instance, has not
started closing and was given slot `i`; or a free of one of `y`'s handles
failed; or the connection is tearing down. -/
def SlotOk (s : State) (i : Nat) (y : ObjId) : Prop :=
  (s.objects y).map slotView = some (true, false, i) ∨ FreeFailed y s.trace ∨ s.conn.closing = true

/-- Every slot of the list holds a record it may hold. -/
def SlotsSound (s : State) : Prop := ∀ i y, s.conn.objects.slot i = some y → SlotOk s i y

/-- A step after which the list holds no entry it did not hold, every earlier
call is still among the calls, and the connection is as near teardown as it was. -/
structure Shrinks (s u : State) : Prop where
  slot : ∀ i y, u.conn.objects.slot i = some y → s.conn.objects.slot i = some y
  trace : ∀ e ∈ s.trace, e ∈ u.trace
  closing : u.conn.closing = s.conn.closing

namespace Shrinks

variable {s u v : State}

theorem refl (s : State) : Shrinks s s := ⟨fun _ _ h => h, fun _ h => h, rfl⟩

theorem trans (h₁ : Shrinks s u) (h₂ : Shrinks u v) : Shrinks s v :=
  ⟨fun i y h => h₁.slot i y (h₂.slot i y h), fun e he => h₂.trace e (h₁.trace e he),
    h₂.closing.trans h₁.closing⟩

/-- A step that keeps the connection and only adds calls. -/
theorem of_conn (hc : u.conn = s.conn) {new : List Event} (ht : u.trace = s.trace ++ new) :
    Shrinks s u :=
  ⟨fun i y h => by rwa [hc] at h, fun e he => by rw [ht]; exact List.mem_append_left _ he,
    by rw [hc]⟩

theorem afterCall (s : State) : Shrinks s s.afterCall := of_conn rfl (List.append_nil _).symm

theorem freeMemory (s : State) (x : ObjId) : Shrinks s (s.freeMemory x) := of_conn rfl rfl

end Shrinks

namespace SlotOk

variable {s u : State} {i : Nat} {y : ObjId}

/-- Without the first case, only a failed free or a teardown is left, and both
outlive any later step. -/
theorem failed (h : SlotOk s i y) (hv : (s.objects y).map slotView ≠ some (true, false, i)) :
    FreeFailed y s.trace ∨ s.conn.closing = true :=
  h.resolve_left hv

theorem failed_later (h : FreeFailed y s.trace ∨ s.conn.closing = true)
    (ht : ∀ e ∈ s.trace, e ∈ u.trace) (hcl : u.conn.closing = s.conn.closing) :
    FreeFailed y u.trace ∨ u.conn.closing = true :=
  h.imp (fun h => h.mono ht) fun h => hcl.trans h

/-- A slot may still hold `y` after a step that keeps what the list reads of `y`. -/
theorem later (h : SlotOk s i y) (ht : ∀ e ∈ s.trace, e ∈ u.trace)
    (hcl : u.conn.closing = s.conn.closing)
    (hv : (u.objects y).map slotView = (s.objects y).map slotView) : SlotOk u i y := by
  rcases h with h | h
  · exact .inl (hv.trans h)
  · exact .inr (failed_later h ht hcl)

end SlotOk

namespace SlotsSound

variable {s u : State}

/-- A step that only empties slots and keeps what the list reads of every
record but `x`, whose slots it accounts for. -/
theorem of_shrinks_except (hS : SlotsSound s) (hsh : Shrinks s u) {x : ObjId}
    (hv : ∀ y, y ≠ x → (u.objects y).map slotView = (s.objects y).map slotView)
    (hx : ∀ i, u.conn.objects.slot i = some x → SlotOk u i x) : SlotsSound u := fun i y hy => by
  by_cases hyx : y = x
  · subst hyx; exact hx i hy
  · exact (hS i y (hsh.slot i y hy)).later hsh.trace hsh.closing (hv y hyx)

theorem of_shrinks (hS : SlotsSound s) (hsh : Shrinks s u)
    (hv : ∀ y, (u.objects y).map slotView = (s.objects y).map slotView) : SlotsSound u :=
  fun i y hy => (hS i y (hsh.slot i y hy)).later hsh.trace hsh.closing (hv y)

theorem afterCall (hS : SlotsSound s) : SlotsSound s.afterCall :=
  hS.of_shrinks (.afterCall s) fun _ => rfl

theorem decRef (hS : SlotsSound s) (p : ObjId) : SlotsSound (Object.decRef s p).1 :=
  hS.of_shrinks (.of_conn rfl (List.append_nil _).symm) (decRef_map (g := slotView) (fun _ => rfl) s p)

theorem incRef (hS : SlotsSound s) (p : ObjId) : SlotsSound (Object.incRef s p) :=
  hS.of_shrinks (.of_conn rfl (List.append_nil _).symm) (incRef_map (g := slotView) (fun _ => rfl) s p)

theorem of_frame {x : ObjId} (hS : SlotsSound s) (hf : Frame x s u) : SlotsSound u :=
  let ⟨_, ht, _⟩ := hf.calls
  hS.of_shrinks (.of_conn hf.conn ht) fun y => by rw [hf.objects]

end SlotsSound

/-! ### `dpiObject__close` and `dpiObject__free` -/

section Free

variable {s : State} {x : ObjId} {r : Object}

/-- The helper's last step, from a state `S` that kept the list of `s`: only
the slot `x` was given leaves the list, unless the connection is tearing down. -/
theorem deregister_shrinks {S : State} (hSc : S.conn = s.conn) {new : List Event}
    (hSt : S.trace = s.trace ++ new) :
    Shrinks s (deregister S x) ∧ ∀ i, (deregister S x).conn.objects.slot i = some x →
      s.conn.objects.slot i = some x ∧ (s.conn.closing = true ∨ i ≠ (S.obj x).openSlotNum) := by
  have hslot : ∀ i y, (deregister S x).conn.objects.slot i = some y →
      s.conn.objects.slot i = some y ∧ (s.conn.closing = true ∨ i ≠ (S.obj x).openSlotNum) := by
    intro i y h
    rw [deregister_conn_objects, hSc] at h
    cases hcl : s.conn.closing
    · rw [hcl, if_neg (by simp), HandleList.removeHandle_slot] at h
      split_ifs at h with hi
      exact ⟨h, .inr hi⟩
    · rw [hcl, if_pos rfl] at h
      exact ⟨h, .inl rfl⟩
  exact ⟨⟨fun i y h => (hslot i y h).1, fun e he => by simp [hSt, he],
    by rw [deregister_conn_closing, hSc]⟩, fun i => hslot i x⟩

/-- `dpiObject__close` only empties slots, and a slot that still holds `x`
after it holds `x` because a free of `x` failed or the connection is tearing
down. -/
theorem close_slots (hS : SlotsSound s) (x : ObjId) (ck : Bool) :
    Shrinks s (close s x ck).1 ∧ SlotsSound (close s x ck).1 ∧
      ∀ i, (close s x ck).1.conn.objects.slot i = some x →
        FreeFailed x (close s x ck).1.trace ∨ (close s x ck).1.conn.closing = true := by
  -- a step that keeps every other record and accounts for the slots of `x`
  have fin : ∀ {u : State}, Shrinks s u → (∀ y, y ≠ x → u.objects y = s.objects y) →
      (∀ i, u.conn.objects.slot i = some x → FreeFailed x u.trace ∨ u.conn.closing = true) →
      Shrinks s u ∧ SlotsSound u ∧ ∀ i, u.conn.objects.slot i = some x →
        FreeFailed x u.trace ∨ u.conn.closing = true := fun hsh ho hx =>
    ⟨hsh, hS.of_shrinks_except hsh (fun y hy => by rw [ho y hy]) fun i hi => .inr (hx i hi), hx⟩
  cases hxo : s.objects x with
  | none =>
    rw [close_of_dead ck hxo]
    exact fin (.refl s) (fun _ _ => rfl) fun i hi => (hS i x hi).failed (by simp [hxo])
  | some r =>
    -- what a slot holding `x` says of it
    have hview : ∀ i, s.conn.objects.slot i = some x →
        (ownsNative r = true ∧ r.closing = false ∧ r.openSlotNum = i) ∨
          FreeFailed x s.trace ∨ s.conn.closing = true := fun i hi => by
      simpa [SlotOk, hxo, slotView] using hS i x hi
    -- a free of `x` that failed is logged
    have hlogged : ∀ {u : State} {new : List Event} {tg : FreeTarget} {hd : Option Handle},
        u.conn = s.conn → u.trace = s.trace ++ new → Event.objectFree x tg hd ck false ∈ new →
        (∀ y, y ≠ x → u.objects y = s.objects y) →
        Shrinks s u ∧ SlotsSound u ∧ ∀ i, u.conn.objects.slot i = some x →
          FreeFailed x u.trace ∨ u.conn.closing = true := fun hc ht he ho =>
      fin (.of_conn hc ht) ho fun _ _ => .inl ⟨_, _, _, by rw [ht]; exact List.mem_append_right _ he⟩
    -- the helper ran to its end and left the list
    have hsucc : ∀ {S : State} {new : List Event}, S.conn = s.conn → S.trace = s.trace ++ new →
        (∀ y, y ≠ x → S.objects y = s.objects y) → (S.obj x).openSlotNum = r.openSlotNum →
        Shrinks s (deregister S x) ∧ SlotsSound (deregister S x) ∧
          ∀ i, (deregister S x).conn.objects.slot i = some x →
            FreeFailed x (deregister S x).trace ∨ (deregister S x).conn.closing = true := by
      intro S new hSc hSt hSo hSx
      obtain ⟨hsh, hx⟩ := deregister_shrinks (x := x) hSc hSt
      refine fin hsh (fun y hy => by rw [deregister_objects, hSo y hy]) fun i hi => ?_
      obtain ⟨hi', hcl | hne⟩ := hx i hi
      · exact .inr (hsh.closing.trans hcl)
      · rw [hSx] at hne
        exact SlotOk.failed_later ((hview i hi').resolve_left fun h => hne h.2.2.symm) hsh.trace
          hsh.closing
    by_cases hn : r.closing = true ∨ ownsNative r = false
    · rw [close_of_no_helper ck hxo hn]
      have hsh : Shrinks s (s.modify x fun r => { r with closing := true }) :=
        .of_conn rfl (List.append_nil _).symm
      refine fin hsh (fun y hy => State.modify_objects_of_ne _ _ hy) fun i hi => ?_
      refine SlotOk.failed_later ((hview i (hsh.slot i x hi)).resolve_left ?_) hsh.trace hsh.closing
      rintro ⟨h₁, h₂, -⟩
      rcases hn with hn | hn
      · cases hn.symm.trans h₂
      · cases hn.symm.trans h₁
    simp only [not_or, Bool.not_eq_true, Bool.not_eq_false] at hn
    obtain ⟨hc, ho⟩ := hn
    cases ha : s.callOk
    · rw [close_of_instance_fails ck hxo hc ho ha]
      exact hlogged rfl rfl (List.mem_singleton_self _) fun _ _ => rfl
    cases hi : r.freeIndicator
    · rw [close_of_helper_succeeds ck hxo hc ho ha (by simp [hi]), if_neg (by simp [hi])]
      exact hsucc rfl rfl (fun y hy => State.modify_objects_of_ne _ _ hy) (by simp [hxo])
    cases hb : s.afterCall.callOk
    · rw [close_of_indicator_fails ck hxo hc ho ha hi hb]
      exact hlogged rfl (List.append_assoc _ _ _) (List.mem_append_right _ (List.mem_singleton_self _))
        fun y hy => State.modify_objects_of_ne _ _ hy
    · rw [close_of_helper_succeeds ck hxo hc ho ha (fun _ => hb), if_pos hi]
      exact hsucc rfl (List.append_assoc _ _ _) (fun y hy => State.modify_objects_of_ne _ _ hy)
        (by simp [hxo])

/-- `dpiObject__free` only empties slots, whatever its collaborators answer: a
slot of a record it reclaims still holds it only when a free of the record
failed or the connection is tearing down. -/
theorem free_slots (s : State) (x : ObjId) :
    SlotsSound s → Shrinks s (free s x) ∧ SlotsSound (free s x) := by
  induction s, x using free.induct with
  | case1 s x s₁ r₁ s₂ ih =>
    intro hS
    obtain ⟨hsh₁, hS₁, hx₁⟩ := close_slots hS x false
    -- the reclaim of `x`, whose slots `close_slots` accounts for
    have fin : ∀ s₃ : State, Shrinks s₁ s₃ ∧ SlotsSound s₃ →
        Shrinks s (s₃.freeMemory x) ∧ SlotsSound (s₃.freeMemory x) := fun s₃ ⟨hsh, hS₃⟩ =>
      have hsh' := hsh.trans (.freeMemory s₃ x)
      ⟨hsh₁.trans hsh', hS₃.of_shrinks_except (.freeMemory s₃ x)
        (fun y hy => by rw [freeMemory_objects_of_ne hy]) fun i hi =>
          .inr (SlotOk.failed_later (hx₁ i (hsh'.slot i x hi)) hsh'.trace hsh'.closing)⟩
    rw [free_eq]
    refine fin _ ?_
    have hS₂ : SlotsSound s₂ := hS₁.of_shrinks (.of_conn rfl (List.append_nil _).symm) fun _ => rfl
    cases r₁.dependsOnObj with
    | none => exact ⟨.of_conn rfl (List.append_nil _).symm, hS₂⟩
    | some p =>
      have hd : Shrinks s₁ (decRef s₂ p).1 := .of_conn rfl (List.append_nil _).symm
      dsimp only
      split
      · rename_i hc
        obtain ⟨h₁, h₂⟩ := ih p hc (hS₂.decRef p)
        exact ⟨hd.trans h₁, h₂⟩
      · exact ⟨hd, hS₂.decRef p⟩

end Free

/-! ### The calls -/

section Calls

variable {s : State}

/-- While `dpiObject__allocate` holds its record pending, a slot of `s` still
holds a record it may hold: a slot that held the address of the new record
held it because a free failed or the connection is tearing down. -/
theorem Pending.slotOk {u : State} {r : Object} {pre : List Event} (h : Pending s u r pre)
    (hS : SlotsSound s) (hx : s.objects s.nextObj = none) (hcl : u.conn.closing = s.conn.closing)
    {i : Nat} {y : ObjId} (hy : s.conn.objects.slot i = some y) : SlotOk u i y := by
  have ht : ∀ e ∈ s.trace, e ∈ u.trace := fun e he => by
    rw [h.trace_eq]; exact List.mem_append_left _ he
  by_cases hyx : y = s.nextObj
  · subst hyx
    exact .inr (SlotOk.failed_later ((hS i _ hy).failed (by simp [hx])) ht hcl)
  · refine (hS i y hy).later ht hcl ?_
    rw [h.objects_eq, parentInc_map (g := slotView) (fun _ => rfl), Function.update_noteq hyx]

/-- `dpiObject__allocate`, whatever its collaborators answer: a record it
returns without a parent takes the slot the list hands out, and one it
discards is freed. -/
theorem allocate_slots (hS : SlotsSound s) (hx : s.objects s.nextObj = none) (t : TypeId)
    (inst ind : Option Handle) {p : Option ObjId} (hpx : ∀ q, p = some q → q ≠ s.nextObj) :
    SlotsSound (allocate s t inst ind p).1 := by
  cases hg : s.callOk
  · simp only [allocate, hg, Bool.false_eq_true, if_false]; exact hS.afterCall
  rcases @allocate_cases _ t inst ind _ hpx hg with ⟨u, r, pre, hA, hB⟩ | ⟨u, r, pre, hA, hD⟩
  · rw [hA]
    have hp : ∀ q, r.dependsOnObj = some q → q ≠ s.nextObj := hB.dependsOnObj_eq ▸ hpx
    intro i y hy
    rw [hB.registry] at hy
    cases p with
    | some q => exact hB.pending.slotOk hS hx hB.conn_closing hy
    | none =>
      by_cases hi : i = (s.conn.objects.addHandle s.nextObj).2
      · subst hi
        rw [if_pos Option.isNone_none, HandleList.addHandle_slot_self, Option.some.injEq] at hy
        subst hy
        refine .inl ?_
        rw [hB.pending.objects_eq, parentInc_apply_self hp]
        simp [slotView, ownsNative, hB.instance_isSome, hB.dependsOnObj_eq, hB.closing_eq, hB.slot]
      · rw [if_pos Option.isNone_none, HandleList.addHandle_slot_of_ne _ _ hi] at hy
        exact hB.pending.slotOk hS hx hB.conn_closing hy
  · rw [hA]
    refine (free_slots u s.nextObj fun i y hy => ?_).2
    rw [hD.conn_eq] at hy
    exact hD.pending.slotOk hS hx (by rw [hD.conn_eq]) hy

theorem copy_slots (hR : Rooted s) (hS : SlotsSound s) (x : ObjId) : SlotsSound (copy s x).1 := by
  unfold copy check
  dsimp only
  split
  · have hA := allocate_slots hS.afterCall hR.fresh (s.afterCall.obj x).type none none (p := none)
      (by simp)
    cases (allocate s.afterCall (s.afterCall.obj x).type none none none).2 with
    | none => exact hA
    | some y =>
      dsimp only
      split
      · exact hA.afterCall
      · exact (free_slots _ y hA.afterCall).2
  · exact hS.afterCall

theorem addRef_slots (hS : SlotsSound s) (x : ObjId) : SlotsSound (addRef s x).1 := by
  unfold addRef check
  dsimp only
  split
  · exact hS.afterCall.incRef x
  · exact hS.afterCall

theorem release_slots (hS : SlotsSound s) (x : ObjId) : SlotsSound (release s x).1 := by
  unfold release check
  dsimp only
  split
  · dsimp only
    split
    · exact (free_slots _ x (hS.afterCall.decRef x)).2
    · exact hS.afterCall.decRef x
  · exact hS.afterCall

/-- Every legal call on a record's lifetime. -/
theorem Call.slots {h : Held} (hR : Rooted s) (hS : SlotsSound s)
    (hheld : ∀ y, 0 < h.obj y → s.Live y) (c : Call) (hc : c.Legal h) : SlotsSound (c.run s h).1 := by
  cases c with
  | allocate t inst ind p =>
    exact allocate_slots hS hR.fresh t inst ind fun q hq => Nat.ne_of_lt (hR.lt (hheld q (hc q hq)))
  | copy x => exact copy_slots hR hS x
  | addRef x => exact addRef_slots hS x
  | release x => exact release_slots hS x

/-- A reader with a live `x`: the record the conversion back makes has a parent. -/
theorem SlotsSound.of_readPath (hR : Rooted s) (hS : SlotsSound s) {H : Helpers} {x : ObjId}
    (hx : s.Live x) {N : NativeTypeNum} {got : Fetched}
    {r : State × Except DpiError (Option DataBuffer)} (hp : ReadPath H x N got s r) :
    SlotsSound r.1 := by
  obtain ⟨u, hu, ⟨e, rfl⟩ | ⟨typeInfo, rfl⟩⟩ := hp
  all_goals have hSu : SlotsSound u := hS.of_frame hu
  · exact hSu
  have hxu : x < u.nextObj := hu.nextObj ▸ hR.lt hx
  rcases fromOracleValue_cases H u x typeInfo got.value got.isNull got.indicator N with
    ⟨r, hr, -⟩ | hr | ⟨t, -, -, hr⟩ <;> rw [hr]
  · exact hSu
  · exact hSu.of_frame (fromLob_frame u x)
  · have ha := allocate_slots hSu (hR.of_frame hu).fresh t
      (if (u.types t).isCollection && !(u.types (u.obj x).type).isCollection then got.value.collection
        else got.value.raw) got.indicator (p := some x) fun q hq => by cases hq; exact Nat.ne_of_lt hxu
    unfold fromObject
    dsimp only
    split <;> exact ha

end Calls

/-- Every legal call of the public API, whatever its collaborators answer. -/
theorem RefInv.api_slots {s : State} {h : Held} (hI : RefInv s h fun _ => false)
    (hS : SlotsSound s) (H : Helpers) (c : ApiCall) (hc : c.Legal h) :
    SlotsSound (c.run H s h).1 := by
  rcases c.run_cases H s h with ⟨c, rfl, hr⟩ | ⟨x, N, got, r, hx, hp, hr⟩ | ⟨x, -, hf, -⟩
  · rw [hr]; exact Call.slots hI.rooted hS (fun y hy => (hI.held_live y hy).1) c hc
  · rw [hr]; exact hS.of_readPath hI.rooted (hI.held_live x (hc.held hx)).1 hp
  · exact hS.of_frame hf

/-- The states, with the references their callers hold, that runs of legal
calls of the public API reach from a connection with no records and no
occupied slot, with whatever its collaborators answer. -/
inductive ListReachable (H : Helpers) : State → Held → Prop
  | start (s : State) (hs : ∀ y, s.objects y = none) (ht : s.trace = [])
      (hl : ∀ i, s.conn.objects.slot i = none) : ListReachable H s ⟨fun _ => 0, s.typeRefCount⟩
  | call {s : State} {h : Held} (c : ApiCall) : ListReachable H s h → c.Legal h →
      ListReachable H (c.run H s h).1 (c.run H s h).2

theorem ListReachable.api {H : Helpers} {s : State} {h : Held} (hR : ListReachable H s h) :
    ApiReachable H s h := by
  induction hR with
  | start s hs ht => exact .start s hs ht
  | call c _ hc ih => exact .call c ih hc

theorem ListReachable.slotsSound {H : Helpers} {s : State} {h : Held} (hR : ListReachable H s h) :
    SlotsSound s := by
  induction hR with
  | start s hs ht hl => exact fun i y hy => by simp [hl i] at hy
  | call c hR hc ih => exact hR.api.refInv.api_slots ih _ c hc

/-- Over every run of the public API, whatever its collaborators answer, a
slot of the connection's list of open objects holds a live record that owns its
native instance, has not started closing and was given that slot; or else a
`dpiOci__objectFree` of one of the record's handles failed, after which
`dpiObject__free` reclaimed the record and left the slot pointing at it; or
the connection is tearing down. -/
theorem list_reachable_slots {H : Helpers} {s : State} {h : Held} (hR : ListReachable H s h)
    {i : Nat} {y : ObjId} (hy : s.conn.objects.slot i = some y) :
    (s.Live y ∧ ownsNative (s.obj y) = true ∧ (s.obj y).closing = false ∧
        (s.obj y).openSlotNum = i) ∨
      (∃ tg hd ck, Event.objectFree y tg hd ck false ∈ s.trace) ∨ s.conn.closing = true := by
  rcases hR.slotsSound i y hy with hv | hf
  · refine .inl ?_
    obtain ⟨r, hr, hv⟩ := Option.map_eq_some'.1 hv
    simp only [slotView, Prod.mk.injEq] at hv
    exact ⟨(State.live_iff _).2 ⟨r, hr⟩, by simpa [s.obj_of_objects hr] using hv⟩
  · exact .inr hf

theorem list_reachable_slots_after_failed_free :
    let s₀ := State.init [true, true, true, true, true, false]
    let r₁ := (ApiCall.lifetime (.allocate 0 none none none)).run Helpers.exact s₀
      ⟨fun _ => 0, s₀.typeRefCount⟩
    let r₂ := (ApiCall.lifetime (.release 0)).run Helpers.exact r₁.1 r₁.2
    ListReachable Helpers.exact r₂.1 r₂.2 ∧ r₂.1.conn.objects.slot 0 = some 0 ∧ ¬ r₂.1.Live 0 ∧
      ((r₂.1.Live 0 ∧ ownsNative (r₂.1.obj 0) = true ∧ (r₂.1.obj 0).closing = false ∧
        (r₂.1.obj 0).openSlotNum = 0) ∨
      (∃ tg hd ck, Event.objectFree 0 tg hd ck false ∈ r₂.1.trace) ∨ r₂.1.conn.closing = true) := by
  intro s₀ r₁ r₂
  have hR : ListReachable Helpers.exact r₂.1 r₂.2 :=
    .call _ (.call _ (.start _ (fun _ => rfl) rfl fun _ => rfl) fun _ h => by cases h)
      (by show 0 < _; decide)
  have hr₂ : r₂.1 = free (decRef r₁.1.afterCall 0).1 0 := rfl
  have hy : r₂.1.conn.objects.slot 0 = some 0 := by
    rw [hr₂, free_eq]
    decide
  refine ⟨hR, hy, ?_, list_reachable_slots hR hy⟩
  rw [hr₂]
  simp [State.Live, free_objects_self]

end Dpi.Object
