import DpiObject.Memory

/-! No record is leaked, and none is freed while something needs it. Over every
run of the public API, the live records are exactly the records the callers
hold and their ancestors. What makes this hold is that every live record keeps
a positive count: `dpiObject_release`, and the cascade of `dpiObject__free`,
free a record when its count reaches zero, and a failed allocation or copy
leaves every other record as it found it. -/
namespace Dpi.Object

/-- Record `z` is `y`, or depends on `y` through the parents of live records. -/
inductive DependsOn (s : State) (y : ObjId) : ObjId → Prop
  | self : DependsOn s y y
  | child {z p : ObjId} {r : Object} : DependsOn s y p → s.objects z = some r →
      r.dependsOnObj = some p → DependsOn s y z

theorem DependsOn.trans {s : State} {y z w : ObjId} (h₁ : DependsOn s y z) (h₂ : DependsOn s z w) :
    DependsOn s y w := by
  induction h₂ with
  | self => exact h₁
  | child _ hr hp ih => exact .child ih hr hp

/-- The records below `x` have positive counts. -/
def PositiveBelow (x : ObjId) (s : State) : Prop :=
  ∀ y r, y < x → s.objects y = some r → 0 < r.refCount

/-- Every live record has a positive count. -/
def Positive (s : State) : Prop := ∀ y r, s.objects y = some r → 0 < r.refCount

section Counts

variable {s u : State}

theorem Positive.of_objects (hP : Positive s) (h : u.objects = s.objects) : Positive u :=
  fun y r hr => hP y r (h ▸ hr)

theorem Positive.modify (hP : Positive s) (x : ObjId) {f : Object → Object}
    (hf : ∀ r, s.objects x = some r → 0 < (f r).refCount) : Positive (s.modify x f) := by
  intro y r hr
  by_cases hy : y = x
  · subst hy
    rw [State.modify_objects_self] at hr
    obtain ⟨r₀, h₀, rfl⟩ := Option.map_eq_some'.1 hr
    exact hf r₀ h₀
  · exact hP y r ((s.modify_objects_of_ne f hy).symm.trans hr)

/-- A decrement that does not bring the count to zero keeps it positive. -/
theorem decRef_refCount_pos {p : ObjId} {r : Object} (h1 : (s.obj p).refCount ≠ 1)
    (hpos : ∀ r₀, s.objects p = some r₀ → 0 < r₀.refCount) (hr : (decRef s p).1.objects p = some r) :
    0 < r.refCount := by
  simp only [decRef, State.modify_objects_self] at hr
  obtain ⟨r₀, h₀, rfl⟩ := Option.map_eq_some'.1 hr
  have h₁ : r₀.refCount ≠ 1 := s.obj_of_objects h₀ ▸ h1
  have h₂ := hpos r₀ h₀
  show 0 < r₀.refCount - 1
  omega

theorem freeMemory_objects_of_ne {x y : ObjId} (h : y ≠ x) : (s.freeMemory x).objects y = s.objects y :=
  Function.update_noteq h _ _

theorem free_objects_self (s : State) (x : ObjId) : (free s x).objects x = none := by
  rw [free_eq]; simp

end Counts

/-- `dpiObject__free` of a live record leaves every record above it as it was,
and keeps the counts below it positive: a parent whose count it brings to zero
is freed in turn. -/
theorem free_positive (s : State) (x : ObjId) : Rooted s → s.Live x →
    (∀ y, x < y → (free s x).objects y = s.objects y) ∧
      (PositiveBelow x s → PositiveBelow x (free s x)) := by
  induction s, x using free.induct with
  | case1 s x s₁ r₁ s₂ ih =>
    intro hR hx
    obtain ⟨-, hR₂, -, hpar⟩ := free_prefix hR hx
    have hk : ∀ y, y ≠ x → s₂.objects y = s.objects y := (close_keeps false).objects_ne
    -- the reclaim of `x` changes no other record
    have fin : ∀ s₃ : State, (∀ y, x < y → s₃.objects y = s.objects y) ∧
        (PositiveBelow x s → PositiveBelow x s₃) →
        (∀ y, x < y → (s₃.freeMemory x).objects y = s.objects y) ∧
          (PositiveBelow x s → PositiveBelow x (s₃.freeMemory x)) := fun s₃ ⟨h₁, h₂⟩ =>
      ⟨fun y hy => (freeMemory_objects_of_ne (Nat.ne_of_gt hy)).trans (h₁ y hy),
        fun hP y r hy hr => h₂ hP y r hy ((freeMemory_objects_of_ne (Nat.ne_of_lt hy)).symm.trans hr)⟩
    rw [free_eq]
    refine fin _ ?_
    cases hp : r₁.dependsOnObj with
    | none =>
      exact ⟨fun y hy => hk y (Nat.ne_of_gt hy),
        fun hP y r hy hr => hP y r hy ((hk y (Nat.ne_of_lt hy)).symm.trans hr)⟩
    | some p =>
      obtain ⟨hpx, hp₂⟩ := hpar p hp
      have hd : ∀ y, y ≠ p → y ≠ x → (decRef s₂ p).1.objects y = s.objects y := fun y h₁ h₂ =>
        (s₂.modify_objects_of_ne _ h₁).trans (hk y h₂)
      dsimp only
      split
      · rename_i hc
        obtain ⟨ih₁, ih₂⟩ := ih p hc (hR₂.of_shape rfl (decRef_map_shape s₂ p))
          ((live_of_shape (decRef_map_shape s₂ p) p).2 hp₂)
        refine ⟨fun y hy => (ih₁ y (Nat.lt_trans hpx hy)).trans
          (hd y (Nat.ne_of_gt (Nat.lt_trans hpx hy)) (Nat.ne_of_gt hy)), fun hP y r hy hr => ?_⟩
        rcases Nat.lt_trichotomy y p with hyp | rfl | hyp
        · refine ih₂ (fun y' r' hy' hr' => hP y' r' (Nat.lt_trans hy' hpx) ?_) y r hyp hr
          exact (hd y' (Nat.ne_of_lt hy') (Nat.ne_of_lt (Nat.lt_trans hy' hpx))).symm.trans hr'
        · rw [free_objects_self] at hr
          cases hr
        · exact hP y r hy (((ih₁ y hyp).trans (hd y (Nat.ne_of_gt hyp) (Nat.ne_of_lt hy))).symm.trans hr)
      · rename_i hc
        -- the parent lies below `x`, so its count did not reach zero
        have h1 : (s₂.obj p).refCount ≠ 1 := fun h1 => hc ⟨by simp [decRef, h1], hpx⟩
        refine ⟨fun y hy => hd y (Nat.ne_of_gt (Nat.lt_trans hpx hy)) (Nat.ne_of_gt hy),
          fun hP y r hy hr => ?_⟩
        by_cases hyp : y = p
        · subst hyp
          exact decRef_refCount_pos h1 (fun r₀ h₀ => hP y r₀ hy ((hk y (Nat.ne_of_lt hy)).symm.trans h₀)) hr
        · exact hP y r hy ((hd y hyp (Nat.ne_of_lt hy)).symm.trans hr)

/-! ### Every call keeps the counts positive -/

section Calls

variable {s : State}

theorem Rooted.fresh (hR : Rooted s) : s.objects s.nextObj = none :=
  Option.not_isSome_iff_eq_none.1 (hR.bound _ (Nat.le_refl _))

theorem Pending.positive {u : State} {r : Object} {pre : List Event} (h : Pending s u r pre)
    (hP : Positive s) (hr : 0 < r.refCount) : Positive u := by
  intro y r' hr'
  rw [h.objects_eq] at hr'
  cases hq : r.dependsOnObj with
  | none =>
    rw [hq, parentInc] at hr'
    by_cases hy : y = s.nextObj
    · subst hy; rw [Function.update_same, Option.some.injEq] at hr'; exact hr' ▸ hr
    · exact hP y r' ((Function.update_noteq hy _ _).symm.trans hr')
  | some q =>
    rw [hq, parentInc] at hr'
    by_cases hyq : y = q
    · subst hyq
      rw [Function.update_same] at hr'
      obtain ⟨r₀, -, rfl⟩ := Option.map_eq_some'.1 hr'
      exact Nat.succ_pos _
    · rw [Function.update_noteq hyq] at hr'
      by_cases hy : y = s.nextObj
      · subst hy; rw [Function.update_same, Option.some.injEq] at hr'; exact hr' ▸ hr
      · exact hP y r' ((Function.update_noteq hy _ _).symm.trans hr')

/-- `dpiObject__allocate` with a live parent, or none: the new record has one
reference and the parent one more, and a failure puts the records back. -/
theorem allocate_positive (hR : Rooted s) (hP : Positive s) (t : TypeId) (inst ind : Option Handle)
    {p : Option ObjId} (hp : ∀ q, p = some q → s.Live q) :
    Positive (allocate s t inst ind p).1 := by
  have hpx : ∀ q, p = some q → q ≠ s.nextObj := fun q hq => Nat.ne_of_lt (hR.lt (hp q hq))
  cases hg : s.callOk
  · simp only [allocate, hg, Bool.false_eq_true, if_false]; exact hP.of_objects rfl
  rcases @allocate_cases _ t inst ind _ hpx hg with ⟨u, r, pre, hA, hB⟩ | ⟨u, r, pre, hA, hD⟩
  · rw [hA]; exact hB.pending.positive hP (by rw [hB.refCount_eq]; exact Nat.one_pos)
  · rw [hA]
    refine hP.of_objects (discard_restores hD.pending hR.fresh (fun q hq => ?_) hD.closing_eq
      hD.freeIndicator_eq).1
    rw [hD.dependsOnObj_eq] at hq
    obtain ⟨rq, hrq⟩ := (State.live_iff _).1 (hp q hq)
    exact ⟨hpx q hq, rq, hrq, hP q rq hrq⟩

theorem copy_positive (hR : Rooted s) (hP : Positive s) (x : ObjId) : Positive (copy s x).1 := by
  have hR' : Rooted s.afterCall := hR.of_shape rfl fun _ => rfl
  have hP' : Positive s.afterCall := hP.of_objects rfl
  unfold copy check
  dsimp only
  split
  · have hA := allocate_positive hR' hP' (s.afterCall.obj x).type none none (p := none) (by simp)
    cases ho : (allocate s.afterCall (s.afterCall.obj x).type none none none).2 with
    | none => exact hA
    | some y =>
      obtain ⟨rfl, r, pre, hB⟩ := allocate_success_built (by simp) ho
      dsimp only
      split
      · exact hA.of_objects rfl
      · exact hP'.of_objects (discard_restores hB.pending.afterCall hR'.fresh
          (fun q hq => by simp [hB.dependsOnObj_eq] at hq) hB.closing_eq hB.freeIndicator_eq).1
  · exact hP'

theorem release_positive (hR : Rooted s) (hP : Positive s) (x : ObjId) : Positive (release s x).1 := by
  unfold release check
  dsimp only
  split
  · rename_i hc
    have hx : s.Live x := by
      simp only [Bool.and_eq_true, decide_eq_true_eq] at hc
      exact hc.1
    have hsh := decRef_map_shape s.afterCall x
    have hd : ∀ y, y ≠ x → (decRef s.afterCall x).1.objects y = s.objects y := fun y hy =>
      s.afterCall.modify_objects_of_ne _ hy
    dsimp only
    split
    · obtain ⟨hfr, hpos⟩ := free_positive (decRef s.afterCall x).1 x (hR.of_shape rfl hsh)
        ((live_of_shape hsh x).2 hx)
      intro y r hr
      rcases Nat.lt_trichotomy y x with hy | rfl | hy
      · exact hpos (fun y' r' hy' hr' => hP y' r' ((hd y' (Nat.ne_of_lt hy')).symm.trans hr')) y r hy hr
      · rw [free_objects_self] at hr
        cases hr
      · exact hP y r (((hfr y hy).trans (hd y (Nat.ne_of_gt hy))).symm.trans hr)
    · rename_i h1
      have h1 : (s.afterCall.obj x).refCount ≠ 1 := fun h => h1 (by simpa [decRef] using h)
      intro y r hr
      by_cases hy : y = x
      · subst hy; exact decRef_refCount_pos h1 (hP y) hr
      · exact hP y r ((hd y hy).symm.trans hr)
  · exact hP.of_objects rfl

theorem addRef_positive (hP : Positive s) (x : ObjId) : Positive (addRef s x).1 := by
  unfold addRef check
  dsimp only
  split
  · exact (hP.of_objects rfl).modify x fun _ _ => Nat.succ_pos _
  · exact hP.of_objects rfl

/-- Every legal call on a record's lifetime. -/
theorem Call.positive {h : Held} (hR : Rooted s) (hP : Positive s)
    (hheld : ∀ y, 0 < h.obj y → s.Live y) (c : Call) (hc : c.Legal h) : Positive (c.run s h).1 := by
  cases c with
  | allocate t inst ind p => exact allocate_positive hR hP t inst ind fun q hq => hheld q (hc q hq)
  | copy x => exact copy_positive hR hP x
  | addRef x => exact addRef_positive hP x
  | release x => exact release_positive hR hP x

/-- A reader with a live `x` keeps the counts positive. -/
theorem Positive.of_readPath (hR : Rooted s) (hP : Positive s) {H : Helpers} {x : ObjId}
    (hx : s.Live x) {N : NativeTypeNum} {got : Fetched}
    {r : State × Except DpiError (Option DataBuffer)} (hp : ReadPath H x N got s r) :
    Positive r.1 := by
  obtain ⟨u, hu, ⟨e, rfl⟩ | ⟨typeInfo, rfl⟩⟩ := hp
  · exact hP.of_objects hu.objects
  have hRu := hR.of_frame hu
  have hPu := hP.of_objects hu.objects
  have hxu : u.Live x := by simp only [State.Live, hu.objects]; exact hx
  rcases fromOracleValue_cases H u x typeInfo got.value got.isNull got.indicator N with
    ⟨r, hr, -⟩ | hr | ⟨t, -, -, hr⟩ <;> rw [hr]
  · exact hPu
  · exact hPu.of_objects (fromLob_frame u x).objects
  · have ha := allocate_positive hRu hPu t
      (if (u.types t).isCollection && !(u.types (u.obj x).type).isCollection then got.value.collection
        else got.value.raw) got.indicator (p := some x) fun q hq => by cases hq; exact hxu
    unfold fromObject
    dsimp only
    split <;> exact ha

end Calls

/-- Every legal call of the public API keeps every count positive. -/
theorem RefInv.api_positive {s : State} {h : Held} (hI : RefInv s h fun _ => false)
    (hP : Positive s) (H : Helpers) (c : ApiCall) (hc : c.Legal h) : Positive (c.run H s h).1 := by
  rcases c.run_cases H s h with ⟨c, rfl, hr⟩ | ⟨x, N, got, r, hx, hp, hr⟩ | ⟨x, -, hf, -⟩
  · rw [hr]; exact Call.positive hI.rooted hP (fun y hy => (hI.held_live y hy).1) c hc
  · rw [hr]; exact hP.of_readPath hI.rooted (hI.held_live x (hc.held hx)).1 hp
  · exact hP.of_objects hf.objects

/-! ### Whole runs -/

section Runs

variable {s : State} {h : Held}

/-- A live record nobody holds has a live dependent. -/
theorem RefInv.held_or_dependent (hI : RefInv s h fun _ => false) (hP : Positive s) {y : ObjId}
    {r : Object} (hr : s.objects y = some r) :
    0 < h.obj y ∨ ∃ z rz, s.objects z = some rz ∧ rz.dependsOnObj = some y := by
  have hc := hI.ref_count y r hr rfl
  have hpos := hP y r hr
  by_cases hy : 0 < h.obj y
  · exact .inl hy
  right
  have hd : 0 < dependents s (fun _ => false) y := by omega
  obtain ⟨z, -, hz⟩ := List.countP_pos_iff.1 hd
  cases hrz : s.objects z with
  | none => simp [hrz] at hz
  | some rz => exact ⟨z, rz, hrz, by simpa [hrz, shape] using hz⟩

/-- Following dependents from a live record ends at a record a caller holds. -/
theorem RefInv.held_descendant (hI : RefInv s h fun _ => false) (hP : Positive s) :
    ∀ n y, s.nextObj ≤ y + n → s.Live y → ∃ z, 0 < h.obj z ∧ DependsOn s y z
  | 0, y, hn, hy => absurd hy (hI.rooted.bound y hn)
  | n + 1, y, hn, hy => by
    obtain ⟨r, hr⟩ := (State.live_iff _).1 hy
    rcases hI.held_or_dependent hP hr with hh | ⟨z, rz, hz, hdep⟩
    · exact ⟨y, hh, .self⟩
    have hyz : y < z := (hI.parent z rz hz rfl y hdep).1
    have hn' : s.nextObj ≤ z + n := Nat.le_trans hn (by
      rw [Nat.add_comm n 1, ← Nat.add_assoc]; exact Nat.add_le_add_right hyz n)
    obtain ⟨w, hw, hzw⟩ := hI.held_descendant hP n z hn' ((State.live_iff _).2 ⟨rz, hz⟩)
    exact ⟨w, hw, (DependsOn.self.child hz hdep).trans hzw⟩

/-- A record something live depends on is live. -/
theorem RefInv.live_of_dependsOn (hI : RefInv s h fun _ => false) {y z : ObjId}
    (hd : DependsOn s y z) (hz : s.Live z) : s.Live y := by
  induction hd with
  | self => exact hz
  | child _ hr hp ih => exact ih (hI.parent _ _ hr rfl _ hp).2.1

/-- Over every run of the public API, with whatever its collaborators answer
and hand back, a record is live exactly when a caller holds it or a record
that depends on it: nothing is leaked, and nothing is freed while a caller
can still reach it. -/
theorem api_reachable_live_iff {H : Helpers} (hR : ApiReachable H s h) (y : ObjId) :
    s.Live y ↔ ∃ z, 0 < h.obj z ∧ DependsOn s y z := by
  have hU : RefInv s h (fun _ => false) ∧ Positive s := by
    induction hR with
    | start s hs ht => exact ⟨RefInv.start hs ht, fun y r hr => by simp [hs y] at hr⟩
    | call c _ hc ih => exact ⟨ih.1.api_call H c hc, ih.1.api_positive ih.2 H c hc⟩
  refine ⟨fun hy => hU.1.held_descendant hU.2 s.nextObj y (Nat.le_add_left _ _) hy, ?_⟩
  rintro ⟨z, hz, hd⟩
  exact hU.1.live_of_dependsOn hd (hU.1.held_live z hz).1

end Runs

theorem api_reachable_live_iff_after_read :
    let s₀ := State.init []
    let r₁ := (ApiCall.lifetime (.allocate 0 none none none)).run Helpers.exact s₀
      ⟨fun _ => 0, s₀.typeRefCount⟩
    let r₂ := (ApiCall.getAttributeValue 0 ⟨"A", 0, ⟨.object, 0, some 0⟩⟩ .object
      ⟨.asObject (some 7) (some 7), false, none⟩).run Helpers.exact r₁.1 r₁.2
    let r₃ := (ApiCall.lifetime (.release 0)).run Helpers.exact r₂.1 r₂.2
    ApiReachable Helpers.exact r₃.1 r₃.2 ∧
      (r₃.1.Live 0 ↔ ∃ z, 0 < r₃.2.obj z ∧ DependsOn r₃.1 0 z) :=
  have hR := ApiReachable.call (.lifetime (.release 0))
    (ApiReachable.call (.getAttributeValue 0 ⟨"A", 0, ⟨.object, 0, some 0⟩⟩ .object
        ⟨.asObject (some 7) (some 7), false, none⟩)
      (ApiReachable.call (.lifetime (.allocate 0 none none none)) (.start _ (fun _ => rfl) rfl)
        fun _ h => by cases h) fun x hx => by cases hx; decide)
    (by show 0 < _; decide)
  ⟨hR, api_reachable_live_iff hR 0⟩

end Dpi.Object
