import DpiObject.Leak

/-! The connection's list of open objects over runs in which every collaborator
call succeeds and the connection is not tearing down. Then the list is exact:
slot `i` holds record `y` exactly when `y` is live, owns its native instance
and was given slot `i`, and the count of used slots is the number of occupied
ones. `dpiObject__allocate` adds each record it makes without a parent, and
`dpiObject__close`, reached through the cascade of `dpiObject__free`, removes
each record that owned its instance. A failed collaborator call can break
this, as the failures of `dpiObject__allocate` and `dpiObject__close` show. -/
namespace Dpi.Object

/-- What the list reads of a record: whether it owns its native instance, and
its slot. -/
def regView (r : Object) : Bool × Nat := (ownsNative r, r.openSlotNum)

/-- The list is exact. -/
structure Registered (s : State) : Prop where
  slot_iff : ∀ i y, s.conn.objects.slot i = some y ↔ (s.objects y).map regView = some (true, i)
  count : s.conn.objects.numUsedSlots = s.conn.objects.occupied

/-- The live records below `x` have not started closing. -/
def OpenBelow (x : ObjId) (s : State) : Prop :=
  ∀ y r, y < x → s.objects y = some r → r.closing = false

/-- No live record has started closing. -/
def Open (s : State) : Prop := ∀ y r, s.objects y = some r → r.closing = false

section Writers

variable {s u : State}

theorem parentInc_map {α : Type} {g : Object → α}
    (hg : ∀ r, g { r with refCount := r.refCount + 1 } = g r) (o : ObjId → Option Object)
    (p : Option ObjId) (y : ObjId) : (parentInc o p y).map g = (o y).map g := by
  cases p with
  | none => rfl
  | some q =>
    by_cases hy : y = q
    · subst hy; cases hy : o y <;> simp [parentInc, hy, hg]
    · simp [parentInc, Function.update_noteq hy]

theorem Registered.congr (hreg : Registered s) (hc : u.conn.objects = s.conn.objects)
    (hv : ∀ y, (u.objects y).map regView = (s.objects y).map regView) : Registered u :=
  ⟨fun i y => by rw [hc, hv]; exact hreg.slot_iff i y, by rw [hc]; exact hreg.count⟩

theorem Open.closing_of_map (hop : Open s) {y : ObjId} {r : Object}
    (hv : (u.objects y).map Object.closing = (s.objects y).map Object.closing)
    (hr : u.objects y = some r) : r.closing = false := by
  rw [hr] at hv
  obtain ⟨r₀, h₀, hc⟩ := Option.map_eq_some'.1 hv.symm
  exact hc ▸ hop y r₀ h₀

theorem Open.congr (hop : Open s)
    (hv : ∀ y, (u.objects y).map Object.closing = (s.objects y).map Object.closing) : Open u :=
  fun _ _ hr => hop.closing_of_map (hv _) hr

/-- A record that owned slot `k` gives up its instance, and the slot is emptied. -/
theorem Registered.remove (hreg : Registered s) {x : ObjId} {k : Nat}
    (hx : (s.objects x).map regView = some (true, k))
    (hc : u.conn.objects = s.conn.objects.removeHandle k)
    (hv : ∀ y, y ≠ x → (u.objects y).map regView = (s.objects y).map regView)
    (hvx : ∀ i, (u.objects x).map regView ≠ some (true, i)) : Registered u := by
  have hk : s.conn.objects.slot k = some x := (hreg.slot_iff k x).2 hx
  refine ⟨fun i y => ?_, ?_⟩
  · rw [hc, HandleList.removeHandle_slot]
    by_cases hy : y = x
    · subst hy
      refine iff_of_false ?_ (hvx i)
      split_ifs with hi
      · exact not_false
      · rw [hreg.slot_iff, hx]
        exact fun h => hi (Prod.ext_iff.1 (Option.some.inj h)).2.symm
    · rw [hv y hy]
      split_ifs with hi
      · subst hi
        refine iff_of_false not_false fun h => hy ?_
        exact Option.some.inj (((hreg.slot_iff i y).2 h).symm.trans hk)
      · exact hreg.slot_iff i y
  · have ho := HandleList.removeHandle_occupied s.conn.objects k
    rw [hk, Option.isSome_some, if_pos rfl] at ho
    have := hreg.count
    rw [hc, HandleList.removeHandle_numUsedSlots]
    omega

/-- A new record at a free address that owns its instance takes the slot the
list hands out. -/
theorem Registered.add (hreg : Registered s) {x : ObjId} (hx : s.objects x = none)
    (hc : u.conn.objects = (s.conn.objects.addHandle x).1)
    (hvx : (u.objects x).map regView = some (true, (s.conn.objects.addHandle x).2))
    (hv : ∀ y, y ≠ x → (u.objects y).map regView = (s.objects y).map regView) : Registered u := by
  have hfree : ∀ i, s.conn.objects.slot i ≠ some x := fun i h => by
    simpa [hx] using (hreg.slot_iff i x).1 h
  refine ⟨fun i y => ?_, by rw [hc, HandleList.addHandle_numUsedSlots,
    HandleList.addHandle_occupied, hreg.count]; push_cast; rfl⟩
  rw [hc]
  by_cases hi : i = (s.conn.objects.addHandle x).2
  · subst hi
    rw [HandleList.addHandle_slot_self]
    by_cases hy : y = x
    · subst hy; simp [hvx]
    · refine iff_of_false (fun h => hy (Option.some.inj h).symm) fun h => ?_
      rw [hv y hy, ← hreg.slot_iff, HandleList.addHandle_slot_was_free] at h
      cases h
  · rw [HandleList.addHandle_slot_of_ne _ _ hi]
    by_cases hy : y = x
    · subst hy
      refine iff_of_false (hfree i) ?_
      rw [hvx]
      exact fun h => hi (Prod.ext_iff.1 (Option.some.inj h)).2.symm
    · rw [hv y hy]; exact hreg.slot_iff i y

/-- A change of records that keeps the list, where the one record changed
owns no slot before or after. -/
theorem Registered.of_unowned (hreg : Registered s) {x : ObjId} (hc : u.conn.objects = s.conn.objects)
    (hold : ∀ i, (s.objects x).map regView ≠ some (true, i))
    (hnew : ∀ i, (u.objects x).map regView ≠ some (true, i))
    (hv : ∀ y, y ≠ x → (u.objects y).map regView = (s.objects y).map regView) : Registered u := by
  refine ⟨fun i y => ?_, by rw [hc]; exact hreg.count⟩
  rw [hc]
  by_cases hy : y = x
  · subst hy
    exact iff_of_false (fun h => hold i ((hreg.slot_iff i y).1 h)) (hnew i)
  · rw [hv y hy]; exact hreg.slot_iff i y

theorem OpenBelow.congr {x : ObjId} (hop : OpenBelow x s)
    (hv : ∀ y, y < x → (u.objects y).map Object.closing = (s.objects y).map Object.closing) :
    OpenBelow x u := fun y r hy hr => by
  have := hv y hy
  rw [hr] at this
  obtain ⟨r₀, h₀, hc⟩ := Option.map_eq_some'.1 this.symm
  exact hc ▸ hop y r₀ hy h₀

theorem decRef_map {α : Type} {g : Object → α}
    (hg : ∀ r, g { r with refCount := r.refCount - 1 } = g r) (s : State) (p y : ObjId) :
    ((decRef s p).1.objects y).map g = (s.objects y).map g :=
  modify_map (f := fun r => { r with refCount := r.refCount - 1 }) hg p y

theorem incRef_map {α : Type} {g : Object → α}
    (hg : ∀ r, g { r with refCount := r.refCount + 1 } = g r) (s : State) (p y : ObjId) :
    ((incRef s p).objects y).map g = (s.objects y).map g :=
  modify_map (f := fun r => { r with refCount := r.refCount + 1 }) hg p y

end Writers

/-! ### `dpiObject__close` and `dpiObject__free` -/

section Free

variable {s : State} {x : ObjId} {r : Object}

/-- The helper's last step: the record keeps no native handle, and its slot
leaves the list. -/
theorem deregister_registered (hreg : Registered s) (hr : s.objects x = some r)
    (ho : ownsNative r = true) {S : State} (hSo : S.objects = s.objects) (hSc : S.conn = s.conn)
    (hcl : s.conn.closing = false) :
    let u := deregister (S.modify x fun r =>
      { r with «instance» := none, indicator := none, closing := true }) x
    Registered u ∧ ∀ i, (u.objects x).map regView ≠ some (true, i) := by
  intro u
  have hux : u.objects x = some { r with «instance» := none, indicator := none, closing := true } := by
    simp [u, hSo, hr]
  have hnew : ∀ i, (u.objects x).map regView ≠ some (true, i) := fun i => by
    simp [hux, regView, ownsNative]
  refine ⟨hreg.remove (k := r.openSlotNum) (by simp [hr, regView, ho]) ?_ (fun y hy => ?_) hnew, hnew⟩
  · simp [u, deregister_conn_objects, hSc, hcl, State.obj, hSo, hr]
  · simp [u, State.modify_objects_of_ne _ _ hy, hSo]

/-- A successful `dpiObject__close` of a record that has not started closing:
the record then owns no slot, and the list stays exact. -/
theorem close_registered (ck : Bool) (hreg : Registered s) (hr : s.objects x = some r)
    (hc : r.closing = false) (ha : s.answers = []) (hcl : s.conn.closing = false) :
    Registered (close s x ck).1 ∧ (∀ i, ((close s x ck).1.objects x).map regView ≠ some (true, i)) ∧
      (close s x ck).1.answers = [] := by
  by_cases ho : ownsNative r = true
  · rw [close_of_helper_succeeds ck hr hc ho (s.callOk_of_answers_nil ha)
      fun _ => by simp [State.callOk, ha]]
    have hd := deregister_registered hreg hr ho (S := if r.freeIndicator then
        (s.afterCall.log (.objectFree x .instance r.instance ck true)).afterCall.log
          (.objectFree x .indicator r.indicator ck true)
      else s.afterCall.log (.objectFree x .instance r.instance ck true))
      (by split <;> rfl) (by split <;> rfl) hcl
    exact ⟨hd.1, hd.2, by simp only [deregister_answers, State.modify_answers]; split <;> simp [ha]⟩
  · rw [close_of_no_helper ck hr (.inr (by simpa using ho))]
    have hold : ∀ i, (s.objects x).map regView ≠ some (true, i) := fun i => by
      simp [hr, regView, ho]
    have hv := modify_map (s := s) (g := regView) (f := fun r => { r with closing := true })
      (fun _ => rfl) x
    refine ⟨hreg.congr rfl hv, fun i => ?_, by simp [ha]⟩
    rw [hv]
    exact hold i

/-- `dpiObject__free` of a live record that has not started closing, when
every collaborator call succeeds: the record, and each parent it frees in
turn, leaves the list, which stays exact; the records below it that remain
have not started closing. -/
theorem free_registered (s : State) (x : ObjId) : Rooted s → s.Live x → s.answers = [] →
    s.conn.closing = false → Registered s → OpenBelow (x + 1) s →
    Registered (free s x) ∧ OpenBelow x (free s x) := by
  induction s, x using free.induct with
  | case1 s x s₁ r₁ s₂ ih =>
    intro hR hx ha hcl hreg hop
    obtain ⟨-, hR₂, -, hpar⟩ := free_prefix hR hx
    obtain ⟨r, hr⟩ := (State.live_iff _).1 hx
    obtain ⟨hreg₁, hx₁, ha₁⟩ := close_registered false hreg hr (hop x r (Nat.lt_succ_self x) hr) ha hcl
    have hk : ∀ y, y ≠ x → s₂.objects y = s.objects y := (close_keeps false).objects_ne
    have hop₂ : OpenBelow x s₂ := fun y r' hy hr' =>
      hop y r' (Nat.lt_succ_of_lt hy) ((hk y (Nat.ne_of_lt hy)).symm.trans hr')
    -- the reclaim of `x`, which no slot holds
    have fin : ∀ s₃ : State, Registered s₃ ∧ (∀ i, (s₃.objects x).map regView ≠ some (true, i)) ∧
        OpenBelow x s₃ → Registered (s₃.freeMemory x) ∧ OpenBelow x (s₃.freeMemory x) :=
      fun s₃ ⟨h₁, h₂, h₃⟩ =>
        ⟨h₁.of_unowned rfl h₂ (fun i => by simp) fun y hy => by rw [freeMemory_objects_of_ne hy],
          h₃.congr fun y hy => by rw [freeMemory_objects_of_ne (Nat.ne_of_lt hy)]⟩
    rw [free_eq]
    refine fin _ ?_
    cases hp : r₁.dependsOnObj with
    | none => exact ⟨hreg₁.congr rfl fun _ => rfl, hx₁, hop₂⟩
    | some p =>
      obtain ⟨hpx, hp₂⟩ := hpar p hp
      have hshd := decRef_map_shape s₂ p
      have hvd : ∀ y, ((decRef s₂ p).1.objects y).map regView = (s₂.objects y).map regView :=
        decRef_map (g := regView) (fun _ => rfl) s₂ p
      have hxd : ∀ i, ((decRef s₂ p).1.objects x).map regView ≠ some (true, i) := fun i => by
        rw [hvd]; exact hx₁ i
      have hopd : OpenBelow x (decRef s₂ p).1 :=
        hop₂.congr fun y _ => decRef_map (g := Object.closing) (fun _ => rfl) s₂ p y
      dsimp only
      split
      · rename_i hc
        have hpd : (decRef s₂ p).1.Live p := (live_of_shape hshd p).2 hp₂
        have hRd : Rooted (decRef s₂ p).1 := hR₂.of_shape rfl hshd
        obtain ⟨hregc, hopc⟩ := ih p hc hRd hpd ha₁ ((close_keeps false).conn_closing.trans hcl)
          (hreg₁.congr rfl hvd) fun y r' hy hr' => hopd y r' (Nat.lt_of_lt_of_le hy hpx) hr'
        have hfr := (free_positive _ p hRd hpd).1
        refine ⟨hregc, fun i => by rw [hfr x hpx]; exact hxd i, fun y r' hy hr' => ?_⟩
        rcases Nat.lt_trichotomy y p with hyp | rfl | hyp
        · exact hopc y r' hyp hr'
        · rw [free_objects_self] at hr'
          cases hr'
        · exact hopd y r' hy ((hfr y hyp).symm.trans hr')
      · exact ⟨hreg₁.congr rfl hvd, hxd, hopd⟩

end Free

/-! ### The calls -/

section Calls

variable {s : State}

theorem newInstance_of_ok {u : State} (x : ObjId) (ha : u.answers = []) :
    (newInstance u x).2 = true ∧ (newInstance u x).1.answers = [] := by
  simp [newInstance, Oci.objectNew, Oci.objectGetInd, State.callOk, ha]

theorem addHandle_of_answers {u : State} (x : ObjId) (ha : u.answers = []) :
    (addHandle u x).2 = true ∧ (addHandle u x).1.answers = [] := by
  simp [addHandle, State.callOk, ha]

/-- When every collaborator call succeeds, `dpiObject__allocate` returns its
record. -/
theorem allocate_of_ok (t : TypeId) (inst ind : Option Handle) (p : Option ObjId)
    (ha : s.answers = []) :
    (allocate s t inst ind p).2 = some s.nextObj ∧ (allocate s t inst ind p).1.answers = [] := by
  have h₁ : (create s.afterCall t inst ind p).answers = [] := by simp [ha]
  obtain ⟨n, hn, hna, hN⟩ : ∃ n : State × Bool, n.2 = true ∧ n.1.answers = [] ∧
      (if inst.isNone then newInstance (create s.afterCall t inst ind p) s.nextObj
        else (create s.afterCall t inst ind p, true)) = n := by
    split
    · exact ⟨_, (newInstance_of_ok _ h₁).1, (newInstance_of_ok _ h₁).2, rfl⟩
    · exact ⟨_, rfl, h₁, rfl⟩
  unfold allocate
  simp only [s.callOk_of_answers_nil ha, if_true]
  rw [hN, if_pos hn]
  split
  · obtain ⟨h₂, h₃⟩ := addHandle_of_answers s.nextObj hna
    rw [if_pos h₂]
    exact ⟨rfl, h₃⟩
  · exact ⟨rfl, hna⟩

theorem allocate_conn_closing_of_ok (t : TypeId) (inst ind : Option Handle) {p : Option ObjId}
    (hpx : ∀ q, p = some q → q ≠ s.nextObj) (ha : s.answers = []) :
    (allocate s t inst ind p).1.conn.closing = s.conn.closing := by
  rcases @allocate_cases _ t inst ind _ hpx (s.callOk_of_answers_nil ha) with
    ⟨u, r, pre, hA, hB⟩ | ⟨u, r, pre, hA, -⟩
  · rw [hA]; exact hB.conn_closing
  · have := (allocate_of_ok t inst ind p ha).1
    rw [hA] at this
    cases this

/-- When every collaborator call succeeds, `dpiObject_copy` of a live record
consumes every answer and leaves the connection's closing flag as it was. -/
theorem copy_of_ok {x : ObjId} (hx : s.Live x) (ha : s.answers = []) :
    (copy s x).1.answers = [] ∧ (copy s x).1.conn.closing = s.conn.closing := by
  have ha' : s.afterCall.answers = [] := by simp [ha]
  have hok := allocate_of_ok (s.afterCall.obj x).type none none none ha'
  have hcl := allocate_conn_closing_of_ok (s.afterCall.obj x).type none none (p := none)
    (by simp) ha'
  unfold copy check
  simp only [decide_eq_true hx, s.callOk_of_answers_nil ha, Bool.and_self, if_true]
  rw [hok.1]
  dsimp only
  rw [if_pos (State.callOk_of_answers_nil _ hok.2)]
  exact ⟨by rw [State.afterCall_answers, hok.2, List.tail_nil], hcl⟩

theorem ApiCall.run_copy_fst (H : Helpers) (h : Held) (x : ObjId) :
    ((ApiCall.lifetime (.copy x)).run H s h).1 = (copy s x).1 := rfl

/-- `dpiObject__allocate` with a live parent, or with none when every
collaborator call succeeds: a record made without a parent takes the slot the
list hands out, one made with a parent takes none, and a failure with a parent
puts the records and the list back. -/
theorem allocate_registered (hR : Rooted s) (hP : Positive s) (hreg : Registered s) (hop : Open s)
    (t : TypeId) (inst ind : Option Handle) {p : Option ObjId} (hp : ∀ q, p = some q → s.Live q)
    (hok : p = none → s.answers = []) :
    Registered (allocate s t inst ind p).1 ∧ Open (allocate s t inst ind p).1 := by
  have hpx : ∀ q, p = some q → q ≠ s.nextObj := fun q hq => Nat.ne_of_lt (hR.lt (hp q hq))
  cases hg : s.callOk
  · simp only [allocate, hg, Bool.false_eq_true, if_false]
    exact ⟨hreg.congr rfl fun _ => rfl, hop⟩
  rcases @allocate_cases _ t inst ind _ hpx hg with ⟨u, r, pre, hA, hB⟩ | ⟨u, r, pre, hA, hD⟩
  · rw [hA]
    have hux : u.objects s.nextObj = some r := by
      rw [hB.pending.objects_eq, parentInc_apply_self fun q hq => hpx q (hB.dependsOnObj_eq ▸ hq)]
    have hv : ∀ {α : Type} {g : Object → α}, (∀ r, g { r with refCount := r.refCount + 1 } = g r) →
        ∀ y, y ≠ s.nextObj → (u.objects y).map g = (s.objects y).map g := fun hg y hy => by
      rw [hB.pending.objects_eq, parentInc_map hg, Function.update_noteq hy]
    have hopu : Open u := fun y r' hr' => by
      by_cases hy : y = s.nextObj
      · subst hy
        rw [hux, Option.some.injEq] at hr'
        exact hr' ▸ hB.closing_eq
      · exact hop.closing_of_map (hv (g := Object.closing) (fun _ => rfl) y hy) hr'
    have hvr := fun y => hv (g := regView) (fun _ => rfl) y
    cases p with
    | none =>
      refine ⟨hreg.add hR.fresh (by rw [hB.registry]; rfl) ?_ hvr, hopu⟩
      rw [hux]
      simp [regView, ownsNative, hB.instance_isSome, hB.dependsOnObj_eq, hB.slot]
    | some q =>
      refine ⟨hreg.of_unowned (by rw [hB.registry]; rfl) (fun i => by simp [hR.fresh]) (fun i => ?_) hvr,
        hopu⟩
      rw [hux]
      simp [regView, ownsNative, hB.dependsOnObj_eq]
  · rw [hA]
    cases p with
    | none =>
      have := (allocate_of_ok t inst ind none (hok rfl)).1
      rw [hA] at this
      cases this
    | some q =>
      have hq : q ≠ s.nextObj ∧ ∃ rq, s.objects q = some rq ∧ 0 < rq.refCount := by
        obtain ⟨rq, hrq⟩ := (State.live_iff _).1 (hp q rfl)
        exact ⟨hpx q rfl, rq, hrq, hP q rq hrq⟩
      obtain ⟨ho, -, -, hc⟩ := discard_restores hD.pending hR.fresh
        (fun q' hq' => by rw [hD.dependsOnObj_eq, Option.some.injEq] at hq'; exact hq' ▸ hq)
        hD.closing_eq hD.freeIndicator_eq
      refine ⟨hreg.congr ?_ fun y => by rw [ho], hop.congr fun y => by rw [ho]⟩
      rw [hc, hD.conn_eq]
      simp [ownsNative, hD.dependsOnObj_eq]

theorem copy_registered (hR : Rooted s) (hP : Positive s) (hreg : Registered s) (hop : Open s)
    (ha : s.answers = []) (x : ObjId) : Registered (copy s x).1 ∧ Open (copy s x).1 := by
  have ha' : s.afterCall.answers = [] := by simp [ha]
  unfold copy check
  dsimp only
  split
  · have hR' : Rooted s.afterCall := hR.of_shape rfl fun _ => rfl
    have hreg' : Registered s.afterCall := hreg.congr rfl fun _ => rfl
    have hA := allocate_registered hR' (hP.of_objects rfl) hreg' hop (s.afterCall.obj x).type
      none none (p := none) (by simp) fun _ => ha'
    have hok := allocate_of_ok (s.afterCall.obj x).type none none none ha'
    rw [hok.1]
    dsimp only
    rw [if_pos (State.callOk_of_answers_nil _ hok.2)]
    exact ⟨hA.1.congr rfl fun _ => rfl, hA.2⟩
  · exact ⟨hreg.congr rfl fun _ => rfl, hop⟩

theorem addRef_registered (hreg : Registered s) (hop : Open s) (x : ObjId) :
    Registered (addRef s x).1 ∧ Open (addRef s x).1 := by
  unfold addRef check
  dsimp only
  split
  · exact ⟨hreg.congr rfl (incRef_map (g := regView) (fun _ => rfl) _ x),
      hop.congr (incRef_map (g := Object.closing) (fun _ => rfl) _ x)⟩
  · exact ⟨hreg.congr rfl fun _ => rfl, hop⟩

theorem release_registered (hR : Rooted s) (hreg : Registered s) (hop : Open s)
    (ha : s.answers = []) (hcl : s.conn.closing = false) (x : ObjId) :
    Registered (release s x).1 ∧ Open (release s x).1 := by
  unfold release check
  dsimp only
  split
  · rename_i hc
    have hx : s.Live x := by
      simp only [Bool.and_eq_true, decide_eq_true_eq] at hc
      exact hc.1
    have hsh := decRef_map_shape s.afterCall x
    have hRd : Rooted (decRef s.afterCall x).1 := hR.of_shape rfl hsh
    have hxd : (decRef s.afterCall x).1.Live x := (live_of_shape hsh x).2 hx
    have hregd : Registered (decRef s.afterCall x).1 :=
      hreg.congr rfl (decRef_map (g := regView) (fun _ => rfl) s.afterCall x)
    have hopd : Open (decRef s.afterCall x).1 :=
      hop.congr (decRef_map (g := Object.closing) (fun _ => rfl) s.afterCall x)
    dsimp only
    split
    · obtain ⟨h₁, h₂⟩ := free_registered _ x hRd hxd (by simp [decRef, ha]) hcl hregd
        fun y r _ hr => hopd y r hr
      refine ⟨h₁, fun y r hr => ?_⟩
      rcases Nat.lt_trichotomy y x with hy | rfl | hy
      · exact h₂ y r hy hr
      · rw [free_objects_self] at hr
        cases hr
      · exact hopd y r (((free_positive _ x hRd hxd).1 y hy).symm.trans hr)
    · exact ⟨hregd, hopd⟩
  · exact ⟨hreg.congr rfl fun _ => rfl, hop⟩

/-- Every legal call on a record's lifetime, when every collaborator call
succeeds and the connection is not tearing down. -/
theorem Call.registered {h : Held} (hR : Rooted s) (hP : Positive s) (hreg : Registered s)
    (hop : Open s) (ha : s.answers = []) (hcl : s.conn.closing = false)
    (hheld : ∀ y, 0 < h.obj y → s.Live y) (c : Call) (hc : c.Legal h) :
    Registered (c.run s h).1 ∧ Open (c.run s h).1 := by
  cases c with
  | allocate t inst ind p =>
    exact allocate_registered hR hP hreg hop t inst ind (fun q hq => hheld q (hc q hq)) fun _ => ha
  | copy x => exact copy_registered hR hP hreg hop ha x
  | addRef x => exact addRef_registered hreg hop x
  | release x => exact release_registered hR hreg hop ha hcl x

/-- A reader with a live `x` keeps the list exact, whatever its collaborators
answer: the record it makes has a parent. -/
theorem Registered.of_readPath (hR : Rooted s) (hP : Positive s) (hreg : Registered s)
    (hop : Open s) {H : Helpers} {x : ObjId} (hx : s.Live x) {N : NativeTypeNum} {got : Fetched}
    {r : State × Except DpiError (Option DataBuffer)} (hp : ReadPath H x N got s r) :
    Registered r.1 ∧ Open r.1 := by
  obtain ⟨u, hu, ⟨e, rfl⟩ | ⟨typeInfo, rfl⟩⟩ := hp
  all_goals
    have hregu : Registered u := hreg.congr (by rw [hu.conn]) fun y => by rw [hu.objects]
    have hopu : Open u := hop.congr fun y => by rw [hu.objects]
  · exact ⟨hregu, hopu⟩
  have hxu : u.Live x := by simp only [State.Live, hu.objects]; exact hx
  rcases fromOracleValue_cases H u x typeInfo got.value got.isNull got.indicator N with
    ⟨r, hr, -⟩ | hr | ⟨t, -, -, hr⟩ <;> rw [hr]
  · exact ⟨hregu, hopu⟩
  · have hf := fromLob_frame u x
    exact ⟨hregu.congr (by rw [hf.conn]) fun y => by rw [hf.objects], hopu.congr fun y => by rw [hf.objects]⟩
  · have ha := allocate_registered (hR.of_frame hu) (hP.of_objects hu.objects) hregu hopu t
      (if (u.types t).isCollection && !(u.types (u.obj x).type).isCollection then got.value.collection
        else got.value.raw) got.indicator (p := some x) (fun q hq => by cases hq; exact hxu)
      fun h => nomatch h
    unfold fromObject
    dsimp only
    split <;> exact ha

end Calls

/-- Every legal call of the public API keeps the list exact, when every
collaborator call succeeds and the connection is not tearing down. -/
theorem RefInv.api_registered {s : State} {h : Held} (hI : RefInv s h fun _ => false)
    (hP : Positive s) (hreg : Registered s) (hop : Open s) (ha : s.answers = [])
    (hcl : s.conn.closing = false) (H : Helpers) (c : ApiCall) (hc : c.Legal h) :
    Registered (c.run H s h).1 ∧ Open (c.run H s h).1 := by
  rcases c.run_cases H s h with ⟨c, rfl, hr⟩ | ⟨x, N, got, r, hx, hp, hr⟩ | ⟨x, -, hf, -⟩
  · rw [hr]
    exact Call.registered hI.rooted hP hreg hop ha hcl (fun y hy => (hI.held_live y hy).1) c hc
  · rw [hr]; exact hreg.of_readPath hI.rooted hP hop (hI.held_live x (hc.held hx)).1 hp
  · exact ⟨hreg.congr (by rw [hf.conn]) fun y => by rw [hf.objects], hop.congr fun y => by rw [hf.objects]⟩

/-- The states, with the references their callers hold, that runs of legal
calls of the public API reach from a connection with no records and an empty
list of open objects, when every collaborator call succeeds and the connection
is not tearing down. -/
inductive OkReachable (H : Helpers) : State → Held → Prop
  | start (s : State) (hs : ∀ y, s.objects y = none) (ht : s.trace = [])
      (hl : s.conn.objects = ⟨[], 0⟩) : OkReachable H s ⟨fun _ => 0, s.typeRefCount⟩
  | call {s : State} {h : Held} (c : ApiCall) : OkReachable H s h → s.answers = [] →
      s.conn.closing = false → c.Legal h → OkReachable H (c.run H s h).1 (c.run H s h).2

/-- Over every run of the public API in which every collaborator call succeeds
and the connection is not tearing down, the connection's list of open objects
is exact: slot `i` holds record `y` exactly when `y` is live, owns its native
instance and was given slot `i`; and the count of used slots is the number of
occupied slots. -/
theorem ok_reachable_registry {H : Helpers} {s : State} {h : Held} (hR : OkReachable H s h) :
    (∀ i y, s.conn.objects.slot i = some y ↔
      s.Live y ∧ ownsNative (s.obj y) = true ∧ (s.obj y).openSlotNum = i) ∧
    s.conn.objects.numUsedSlots = s.conn.objects.occupied := by
  have hU : RefInv s h (fun _ => false) ∧ Positive s ∧ Registered s ∧ Open s := by
    induction hR with
    | start s hs ht hl =>
      refine ⟨RefInv.start hs ht, fun y r hr => by simp [hs y] at hr,
        ⟨fun i y => by simp [hl, hs y, HandleList.slot], by simp [hl, HandleList.occupied]⟩,
        fun y r hr => by simp [hs y] at hr⟩
    | call c _ ha hcl hc ih =>
      obtain ⟨hI, hP, hreg, hop⟩ := ih
      exact ⟨hI.api_call H c hc, hI.api_positive hP H c hc, hI.api_registered hP hreg hop ha hcl H c hc⟩
  refine ⟨fun i y => ?_, hU.2.2.1.count⟩
  rw [hU.2.2.1.slot_iff]
  cases hy : s.objects y with
  | none => simp [State.Live, hy]
  | some r => simp [State.Live, hy, s.obj_of_objects hy, regView]

theorem ok_reachable_registry_after_copy :
    let s₀ := State.init []
    let r₁ := (ApiCall.lifetime (.allocate 0 none none none)).run Helpers.exact s₀
      ⟨fun _ => 0, s₀.typeRefCount⟩
    let r₂ := (ApiCall.lifetime (.copy 0)).run Helpers.exact r₁.1 r₁.2
    let r₃ := (ApiCall.lifetime (.release 0)).run Helpers.exact r₂.1 r₂.2
    OkReachable Helpers.exact r₃.1 r₃.2 ∧
      ((∀ i y, r₃.1.conn.objects.slot i = some y ↔
        r₃.1.Live y ∧ ownsNative (r₃.1.obj y) = true ∧ (r₃.1.obj y).openSlotNum = i) ∧
      r₃.1.conn.objects.numUsedSlots = r₃.1.conn.objects.occupied) := by
  intro s₀ r₁ r₂ r₃
  have h₂ : r₂.1.answers = [] ∧ r₂.1.conn.closing = r₁.1.conn.closing := by
    rw [show r₂.1 = (copy r₁.1 0).1 from ApiCall.run_copy_fst _ _ _]
    exact copy_of_ok (by decide) rfl
  have hR : OkReachable Helpers.exact r₃.1 r₃.2 :=
    .call _ (.call _ (.call _ (.start _ (fun _ => rfl) rfl rfl) rfl rfl fun _ h => by cases h)
      rfl rfl (by show 0 < _; decide)) h₂.1 (h₂.2.trans rfl) (by show 0 < _; decide)
  exact ⟨hR, ok_reachable_registry hR⟩

end Dpi.Object
