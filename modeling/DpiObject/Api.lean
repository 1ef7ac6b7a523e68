import DpiObject.Access
import DpiObject.RefCount

/-! Runs of the whole public API of `dpiObject.c`: the calls on a record's
lifetime of the reference-count model, and the calls that write, read or walk
the values of an object or collection, each with what its collaborators hand
back. Writing and walking change no record; a read that converts an object
value makes a record depending on the one read, and hands it to its caller.
Over every run of calls on records the caller holds, from a connection with no
records, the reference counts stay exact. -/
namespace Dpi

/-- Whether a call makes a record or frees one of its handles: the calls the
reference-count invariant reads in the trace. -/
def Event.isRecordCall : Event → Bool
  | .allocate .. | .objectNew .. | .objectFree .. | .freeMemory .. => true
  | _ => false

namespace Object

/-- A step from `s` to `u` that changes no record, no type count and not
`nextObj`, and whose only calls are on scratch resources and OCI calls on
record `x`'s instance. -/
structure Frame (x : ObjId) (s u : State) : Prop where
  objects : u.objects = s.objects
  nextObj : u.nextObj = s.nextObj
  typeRefCount : u.typeRefCount = s.typeRefCount
  conn : u.conn = s.conn
  calls : ∃ new, u.trace = s.trace ++ new ∧ ∀ e ∈ new, e.isScratch = true ∨ ∃ c, e = .oci x c

theorem isRecordCall_of_frame {e : Event} {x : ObjId}
    (he : e.isScratch = true ∨ ∃ c, e = .oci x c) : e.isRecordCall = false := by
  rcases he with he | ⟨c, rfl⟩
  · cases e <;> simp_all [Event.isScratch, Event.isRecordCall]
  · rfl

namespace Frame

variable {x : ObjId} {s u v : State}

theorem refl : Frame x s s := ⟨rfl, rfl, rfl, rfl, [], by simp, by simp⟩

theorem trans (h₁ : Frame x s u) (h₂ : Frame x u v) : Frame x s v := by
  obtain ⟨o₁, n₁, t₁, c₁, l₁, r₁, e₁⟩ := h₁
  obtain ⟨o₂, n₂, t₂, c₂, l₂, r₂, e₂⟩ := h₂
  refine ⟨o₂.trans o₁, n₂.trans n₁, t₂.trans t₁, c₂.trans c₁, l₁ ++ l₂,
    by rw [r₂, r₁, List.append_assoc], ?_⟩
  intro e he
  rcases List.mem_append.1 he with he | he
  exacts [e₁ e he, e₂ e he]

theorem afterCall : Frame x s s.afterCall := ⟨rfl, rfl, rfl, rfl, [], by simp, by simp⟩

theorem newHandle : Frame x s s.newHandle := ⟨rfl, rfl, rfl, rfl, [], by simp, by simp⟩

theorem log {e : Event} (he : e.isScratch = true ∨ ∃ c, e = .oci x c) : Frame x s (s.log e) :=
  ⟨rfl, rfl, rfl, rfl, [e], rfl, by simpa⟩

theorem andThen {α : Type} {c : State × Except DpiError Unit} {k : State → State × Except DpiError α}
    (hc : Frame x s c.1) (hk : c.2 = .ok () → Frame x c.1 (k c.1).1) :
    Frame x s (Dpi.andThen c k).1 := by
  rcases andThen_cases c k with ⟨h, hr⟩ | ⟨e, -, hr⟩ <;> rw [hr]
  · exact hc.trans (hk h)
  · exact hc

end Frame

/-! ### The writers and the walkers change no record -/

section Frames

variable (H : Helpers) (s : State) (x : ObjId) (N : NativeTypeNum) (data : Data)

theorem checkObject_frame : Frame x s (checkObject s x).1 := .afterCall

theorem checkIsCollection_frame : Frame x s (checkIsCollection s x).1 := by
  rw [checkIsCollection_fst]; exact .afterCall

theorem checkAttr_frame (attr : ObjectAttr) (action : String) :
    Frame x s (checkAttr s x attr action).1 := by
  rw [checkAttr_fst]; exact .afterCall

theorem onRecord_frame (c : OciCall) : Frame x s (Oci.onRecord c s x).1 :=
  Frame.afterCall.trans (.log (.inr ⟨c, rfl⟩))

theorem releaseScratch_frame (p : Option (Option Handle)) (k : Scratch) :
    Frame x s (releaseScratch s p k) := by
  unfold releaseScratch
  split
  · exact .log (.inl rfl)
  · exact .refl

theorem clearOracleValue_frame (buffer : Option (Option Handle)) (lob : Option Handle)
    (T : OracleTypeNum) : Frame x s (clearOracleValue s buffer lob T) := by
  unfold clearOracleValue
  split <;> first | exact releaseScratch_frame .. | exact .refl

theorem toOracleValue_frame (dataTypeInfo : DataTypeInfo) :
    Frame x s (toOracleValue H s dataTypeInfo N data).1 := by
  obtain ⟨ho, hn, ht, hc⟩ := toOracleValue_keeps H s dataTypeInfo N data
  rcases toOracleValue_clears_scratch H s dataTypeInfo N data with ⟨htr, -⟩ | ⟨h, k, htr, -⟩
  · exact ⟨ho, hn, ht, hc, [], by simpa using htr, by simp⟩
  · exact ⟨ho, hn, ht, hc, [_], htr, by simp [Event.isScratch]⟩

theorem convertAndStore_frame (dataTypeInfo : DataTypeInfo)
    (store : State → ToOracle → State × Except DpiError Unit)
    (hstore : ∀ u t, Frame x u (store u t).1) :
    Frame x s (convertAndStore H s dataTypeInfo N data store).1 :=
  ((toOracleValue_frame H s x N data dataTypeInfo).trans (Frame.andThen .refl fun _ => hstore _ _)).trans
    (clearOracleValue_frame ..)

theorem storeElement_frame (fn : String) (scalar : ToOracle → Option Bool) :
    Frame x s (storeElement H s x N data (Oci.store fn scalar)).1 :=
  Frame.andThen (checkIsCollection_frame s x) fun _ =>
    convertAndStore_frame H _ x N data _ _ fun u _ => onRecord_frame u x _

theorem setAttributeValue_frame (attr : ObjectAttr) :
    Frame x s (setAttributeValue H s x attr N data).1 :=
  Frame.andThen (checkObject_frame s x) fun _ => Frame.andThen (checkAttr_frame _ x attr _) fun _ =>
    Frame.andThen .refl fun _ => convertAndStore_frame H _ x N data _ _ fun u _ => onRecord_frame u x _

theorem deleteElementByIndex_frame : Frame x s (deleteElementByIndex s x).1 :=
  Frame.andThen (checkIsCollection_frame s x) fun _ => onRecord_frame _ x _

theorem trim_frame : Frame x s (trim s x).1 :=
  Frame.andThen (checkIsCollection_frame s x) fun _ => onRecord_frame _ x _

theorem readCollection_frame {α : Type} (c : OciCall) (out : α) :
    Frame x s (readCollection s x (Oci.onRecord c) out).1 :=
  Frame.andThen (checkIsCollection_frame s x) fun _ =>
    Frame.andThen (onRecord_frame _ x c) fun _ => .refl

theorem getEndIndex_frame (c : OciCall) (size index : Int) :
    Frame x s (getEndIndex s x (Oci.onRecord c) size index).1 :=
  Frame.andThen (checkIsCollection_frame s x) fun _ => Frame.andThen (onRecord_frame _ x _) fun _ => by
    split
    · exact Frame.andThen (onRecord_frame _ x c) fun _ => .refl
    · exact .refl

theorem fromLob_frame : Frame x s (fromLob s).1 := by
  dsimp only [fromLob]
  split_ifs
  · exact ((Frame.afterCall.trans .newHandle).trans (.log (.inl (by rfl)))).trans .afterCall
  · exact (((Frame.afterCall.trans .newHandle).trans (.log (.inl (by rfl)))).trans .afterCall).trans
      (.log (.inl (by rfl)))
  · exact .afterCall

end Frames

/-! ### The readers -/

/-- What a reader can do: stop with an error after steps that change no
record, or convert the value it fetched for `x` from the state those steps
leave. -/
def ReadPath (H : Helpers) (x : ObjId) (N : NativeTypeNum) (got : Fetched) (s : State)
    (r : State × Except DpiError (Option DataBuffer)) : Prop :=
  ∃ u, Frame x s u ∧ ((∃ e, r = (u, .error e)) ∨
    ∃ typeInfo, r = fromOracleValue H u x typeInfo got.value got.isNull got.indicator N)

section Readers

variable (H : Helpers) (s : State) (x : ObjId) (N : NativeTypeNum) (got : Fetched)

theorem ReadPath.andThen {H : Helpers} {x : ObjId} {N : NativeTypeNum} {got : Fetched} {s : State}
    {c : State × Except DpiError Unit} {k : State → State × Except DpiError (Option DataBuffer)}
    (hc : Frame x s c.1) (hk : c.2 = .ok () → ReadPath H x N got c.1 (k c.1)) :
    ReadPath H x N got s (Dpi.andThen c k) := by
  rcases andThen_cases c k with ⟨h, hr⟩ | ⟨e, -, hr⟩ <;> rw [hr]
  · obtain ⟨u, hu, hres⟩ := hk h
    exact ⟨u, hc.trans hu, hres⟩
  · exact ⟨c.1, hc, .inl ⟨e, rfl⟩⟩

theorem getAttributeValue_path (attr : ObjectAttr) :
    ReadPath H x N got s (getAttributeValue H s x attr N got) :=
  .andThen (checkObject_frame s x) fun _ => .andThen (checkAttr_frame _ x attr _) fun _ =>
    .andThen (onRecord_frame _ x _) fun _ => .andThen .refl fun _ => ⟨_, .refl, .inr ⟨_, rfl⟩⟩

theorem getElementValueByIndex_path (index : Int) (found : Bool) :
    ReadPath H x N got s (getElementValueByIndex H s x index N found got) :=
  .andThen (checkIsCollection_frame s x) fun _ => .andThen (onRecord_frame _ x _) fun _ =>
    .andThen .refl fun _ => ⟨_, .refl, .inr ⟨_, rfl⟩⟩

end Readers

/-! ### The reference-count invariant over the whole API -/

/-- What the callers hold after a read that answered `r`: a record handed back
is theirs. -/
def Held.receive (h : Held) : Except DpiError (Option DataBuffer) → Held
  | .ok (some (.asObject y)) => h.give y
  | _ => h

/-- The LOB case hands back no record. -/
theorem receive_fromLob (h : Held) (s : State) : h.receive (fromLob s).2 = h := by
  dsimp only [fromLob]
  split_ifs <;> rfl

namespace RefInv

variable {s u : State} {h : Held} {E : ObjId → Bool}

/-- A step that changes no record keeps the invariant. -/
theorem of_frame {x : ObjId} (hI : RefInv s h E) (hf : Frame x s u) : RefInv u h E := by
  obtain ⟨ho, hn, ht, -, new, htr, hnew⟩ := hf
  have hmem : ∀ e, e.isRecordCall = true → (e ∈ u.trace ↔ e ∈ s.trace) := fun e he => by
    rw [htr, List.mem_append]
    exact ⟨fun hm => hm.resolve_right fun hm => by simp [isRecordCall_of_frame (hnew e hm)] at he, .inl⟩
  have hlive : ∀ y, u.Live y ↔ s.Live y := fun y => by simp only [State.Live, ho]
  have hc : ∀ f, countLive u E f = countLive s E f := fun _ => countLive_congr hn (by simp [ho])
  refine ⟨fun y hy => ho ▸ hI.bound y (hn ▸ hy), fun y r hr hE p hp => ?_, fun y hy => ?_,
    fun t => ?_, fun y r hr hE => ?_, fun y r hr => ?_, fun y p hm => ?_,
    ?_, fun y tg hd ck ok hm => ?_⟩
  · obtain ⟨h₁, h₂, h₃⟩ := hI.parent y r (ho ▸ hr) hE p hp
    exact ⟨h₁, (hlive p).2 h₂, h₃⟩
  · obtain ⟨h₁, h₂⟩ := hI.held_live y hy
    exact ⟨(hlive y).2 h₁, h₂⟩
  · rw [ht, typeUsers, hc]; exact hI.type_count t
  · rw [dependents, hc]; exact hI.ref_count y r (ho ▸ hr) hE
  · exact (hmem _ (by rfl)).2 (hI.alloc_logged y r (ho ▸ hr))
  · exact hn ▸ hI.alloc_bound y p ((hmem _ (by rfl)).1 hm)
  · rw [htr, allocIds_append_of_none fun e he => by
      rcases hnew e he with h | ⟨c, rfl⟩
      · cases e <;> simp_all [Event.isScratch, allocId]
      · rfl]
    exact hI.alloc_nodup
  · exact (hmem _ (by rfl)).2 (hI.frees_top y tg hd ck ok ((hmem _ (by rfl)).1 hm))

/-- The conversion back keeps the invariant: the object case makes a record
depending on `x`, which the caller holds, and no other case changes a record. -/
theorem fromOracleValue_step (hI : RefInv s h fun _ => false) {x : ObjId} (hx : 0 < h.obj x)
    (H : Helpers) (typeInfo : DataTypeInfo) (value : OracleData) (isNull : Bool)
    (indicator : Option Handle) (N : NativeTypeNum) :
    RefInv (fromOracleValue H s x typeInfo value isNull indicator N).1
      (h.receive (fromOracleValue H s x typeInfo value isNull indicator N).2) fun _ => false := by
  rcases fromOracleValue_cases H s x typeInfo value isNull indicator N with
    ⟨r, hr, hno⟩ | hr | ⟨t, -, -, hr⟩ <;> rw [hr]
  · have hh : h.receive r = h := by
      rcases r with e | _ | v
      · rfl
      · rfl
      · cases v <;> first | rfl | exact absurd rfl (hno _)
    rw [hh]; exact hI
  · rw [receive_fromLob]; exact hI.of_frame (fromLob_frame s x)
  · have ha := hI.allocate_step rfl t
      (if (s.types t).isCollection && !(s.types (s.obj x).type).isCollection then value.collection
        else value.raw) indicator (p := some x) fun q hq => by cases hq; exact hx
    unfold fromObject
    dsimp only
    split <;> rename_i hs <;> rw [hs] at ha
    · exact ha
    · exact ha

/-- A reader keeps the invariant, with the record it hands back held by its
caller. -/
theorem of_readPath (hI : RefInv s h fun _ => false) {x : ObjId} (hx : 0 < h.obj x)
    {H : Helpers} {N : NativeTypeNum} {got : Fetched} {r : State × Except DpiError (Option DataBuffer)}
    (hp : ReadPath H x N got s r) : RefInv r.1 (h.receive r.2) fun _ => false := by
  obtain ⟨u, hu, ⟨e, rfl⟩ | ⟨typeInfo, rfl⟩⟩ := hp
  · exact hI.of_frame hu
  · exact (hI.of_frame hu).fromOracleValue_step hx H typeInfo _ _ _ N

end RefInv

/-- A call of the public API, with what its collaborators hand back. -/
inductive ApiCall
  /-- A call on a record's lifetime. -/
  | lifetime (c : Call)
  | appendElement (x : ObjId) (N : NativeTypeNum) (data : Data)
  | setElementValueByIndex (x : ObjId) (N : NativeTypeNum) (data : Data)
  | setAttributeValue (x : ObjId) (attr : ObjectAttr) (N : NativeTypeNum) (data : Data)
  | getAttributeValue (x : ObjId) (attr : ObjectAttr) (N : NativeTypeNum) (got : Fetched)
  | getElementValueByIndex (x : ObjId) (index : Int) (N : NativeTypeNum) (found : Bool)
      (got : Fetched)
  | deleteElementByIndex (x : ObjId)
  | trim (x : ObjId)
  | getElementExistsByIndex (x : ObjId) (found : Bool)
  | getFirstIndex (x : ObjId) (size index : Int)
  | getLastIndex (x : ObjId) (size index : Int)
  | getNextIndex (x : ObjId) (next : Option Int)
  | getPrevIndex (x : ObjId) (prev : Option Int)
  | getSize (x : ObjId) (size : Int)

namespace ApiCall

/-- The record a call works on, for the calls that are not on a lifetime. -/
def target : ApiCall → Option ObjId
  | lifetime _ => none
  | appendElement x .. | setElementValueByIndex x .. | setAttributeValue x .. => some x
  | getAttributeValue x .. | getElementValueByIndex x .. => some x
  | deleteElementByIndex x | trim x | getElementExistsByIndex x _ => some x
  | getFirstIndex x .. | getLastIndex x .. | getNextIndex x _ | getPrevIndex x _ | getSize x _ => some x

/-- Whether the callers hold the references the call uses. -/
def Legal (h : Held) : ApiCall → Prop
  | lifetime c => c.Legal h
  | c => ∀ x, c.target = some x → 0 < h.obj x

/-- The call, and what the callers hold afterwards. -/
def run (H : Helpers) (s : State) (h : Held) : ApiCall → State × Held
  | lifetime c => c.run s h
  | appendElement x N data => ((Object.appendElement H s x N data).1, h)
  | setElementValueByIndex x N data => ((Object.setElementValueByIndex H s x N data).1, h)
  | setAttributeValue x attr N data => ((Object.setAttributeValue H s x attr N data).1, h)
  | getAttributeValue x attr N got =>
    let r := Object.getAttributeValue H s x attr N got
    (r.1, h.receive r.2)
  | getElementValueByIndex x index N found got =>
    let r := Object.getElementValueByIndex H s x index N found got
    (r.1, h.receive r.2)
  | deleteElementByIndex x => ((Object.deleteElementByIndex s x).1, h)
  | trim x => ((Object.trim s x).1, h)
  | getElementExistsByIndex x found => ((Object.getElementExistsByIndex s x found).1, h)
  | getFirstIndex x size index => ((Object.getFirstIndex s x size index).1, h)
  | getLastIndex x size index => ((Object.getLastIndex s x size index).1, h)
  | getNextIndex x next => ((Object.getNextIndex s x next).1, h)
  | getPrevIndex x prev => ((Object.getPrevIndex s x prev).1, h)
  | getSize x size => ((Object.getSize s x size).1, h)

/-- The callers hold the record a legal call works on. -/
theorem Legal.held {h : Held} {c : ApiCall} (hc : c.Legal h) {x : ObjId} (hx : c.target = some x) :
    0 < h.obj x := by
  cases c <;> first | exact hc x hx | cases hx

/-- What a call of the public API can do: a call on a record's lifetime; a
reader of the record it works on, which hands the record it makes to its
caller; or a step that changes no record and whose only OCI calls are on the
record it works on. -/
theorem run_cases (H : Helpers) (s : State) (h : Held) (c : ApiCall) :
    (∃ c', c = lifetime c' ∧ c.run H s h = c'.run s h) ∨
    (∃ x N got r, c.target = some x ∧ ReadPath H x N got s r ∧ c.run H s h = (r.1, h.receive r.2)) ∨
    ∃ x, c.target = some x ∧ Frame x s (c.run H s h).1 ∧ (c.run H s h).2 = h := by
  cases c with
  | lifetime c => exact .inl ⟨c, rfl, rfl⟩
  | getAttributeValue x attr N got =>
    exact .inr (.inl ⟨x, N, got, _, rfl, getAttributeValue_path H s x N got attr, rfl⟩)
  | getElementValueByIndex x index N found got =>
    exact .inr (.inl ⟨x, N, got, _, rfl, getElementValueByIndex_path H s x N got index found, rfl⟩)
  | appendElement x N data => exact .inr (.inr ⟨x, rfl, storeElement_frame H s x N data _ _, rfl⟩)
  | setElementValueByIndex x N data =>
    exact .inr (.inr ⟨x, rfl, storeElement_frame H s x N data _ _, rfl⟩)
  | setAttributeValue x attr N data =>
    exact .inr (.inr ⟨x, rfl, setAttributeValue_frame H s x N data attr, rfl⟩)
  | deleteElementByIndex x => exact .inr (.inr ⟨x, rfl, deleteElementByIndex_frame s x, rfl⟩)
  | trim x => exact .inr (.inr ⟨x, rfl, trim_frame s x, rfl⟩)
  | getElementExistsByIndex x found => exact .inr (.inr ⟨x, rfl, readCollection_frame s x _ found, rfl⟩)
  | getFirstIndex x size index => exact .inr (.inr ⟨x, rfl, getEndIndex_frame s x _ size index, rfl⟩)
  | getLastIndex x size index => exact .inr (.inr ⟨x, rfl, getEndIndex_frame s x _ size index, rfl⟩)
  | getNextIndex x next => exact .inr (.inr ⟨x, rfl, readCollection_frame s x _ next, rfl⟩)
  | getPrevIndex x prev => exact .inr (.inr ⟨x, rfl, readCollection_frame s x _ prev, rfl⟩)
  | getSize x size => exact .inr (.inr ⟨x, rfl, readCollection_frame s x _ size, rfl⟩)

end ApiCall

/-- Every legal call of the public API keeps the invariant. -/
theorem RefInv.api_call {s : State} {h : Held} (hI : RefInv s h fun _ => false) (H : Helpers)
    (c : ApiCall) (hc : c.Legal h) : RefInv (c.run H s h).1 (c.run H s h).2 fun _ => false := by
  rcases c.run_cases H s h with ⟨c, rfl, hr⟩ | ⟨x, N, got, r, hx, hp, hr⟩ | ⟨x, hx, hf, hh⟩
  · rw [hr]; exact hI.call c hc
  · rw [hr]; exact hI.of_readPath (hc.held hx) hp
  · rw [hh]; exact hI.of_frame hf

/-- The states, with the references their callers hold, that runs of legal
calls of the public API reach from a connection with no records. -/
inductive ApiReachable (H : Helpers) : State → Held → Prop
  | start (s : State) (hs : ∀ y, s.objects y = none) (ht : s.trace = []) :
      ApiReachable H s ⟨fun _ => 0, s.typeRefCount⟩
  | call {s : State} {h : Held} (c : ApiCall) : ApiReachable H s h → c.Legal h →
      ApiReachable H (c.run H s h).1 (c.run H s h).2

/-- The runs of the lifetime calls are runs of the public API. -/
theorem Reachable.api (H : Helpers) {s : State} {h : Held} (hR : Reachable s h) :
    ApiReachable H s h := by
  induction hR with
  | start s hs ht => exact .start s hs ht
  | call c _ hc ih => exact .call (.lifetime c) ih hc

/-- Every state a run of the public API reaches keeps the reference counts
exact, with nothing set aside. -/
theorem ApiReachable.refInv {H : Helpers} {s : State} {h : Held} (hR : ApiReachable H s h) :
    RefInv s h fun _ => false := by
  induction hR with
  | start s hs ht => exact RefInv.start hs ht
  | call c _ hc ih => exact ih.api_call H c hc

/-- Over every run of the public API, with whatever its collaborators answer
and hand back, the type and record counts are the references held outside
plus the live records and dependents, every dependent's parent is live, and
`dpiOci__objectFree` is only called on records created without a parent. -/
theorem api_reachable_refcounts {H : Helpers} {s : State} {h : Held} (hR : ApiReachable H s h) :
    RefCounts s h := by
  have hI := hR.refInv
  exact ⟨hI.type_count, fun y r hr => hI.ref_count y r hr rfl,
    fun y r p hr hp => (hI.parent y r hr rfl p hp).2.1, hI.frees_top, hI.alloc_nodup⟩

theorem api_reachable_refcounts_after_read :
    let s₀ := State.init []
    let r₁ := (ApiCall.lifetime (.allocate 0 none none none)).run Helpers.exact s₀
      ⟨fun _ => 0, s₀.typeRefCount⟩
    let r₂ := (ApiCall.getAttributeValue 0 ⟨"A", 0, ⟨.object, 0, some 0⟩⟩ .object
      ⟨.asObject (some 7) (some 7), false, none⟩).run Helpers.exact r₁.1 r₁.2
    ApiReachable Helpers.exact r₂.1 r₂.2 ∧ RefCounts r₂.1 r₂.2 :=
  have hR := ApiReachable.call (.getAttributeValue 0 ⟨"A", 0, ⟨.object, 0, some 0⟩⟩ .object
      ⟨.asObject (some 7) (some 7), false, none⟩)
    (ApiReachable.call (.lifetime (.allocate 0 none none none)) (.start _ (fun _ => rfl) rfl)
      fun _ h => by cases h) fun x hx => by cases hx; decide
  ⟨hR, api_reachable_refcounts hR⟩

end Object

end Dpi
