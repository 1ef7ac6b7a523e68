import DpiObject.Registry

/-! What a call of the public API may change in a record that outlives it:
only its reference count. The type, the instance and indicator, the parent,
the slot and the closing flag of a record are set while `dpiObject__allocate`
makes it, and `dpiObject__close` changes them only on the way to the reclaim
in `dpiObject__free`, so no caller ever sees them change. -/
namespace Dpi.Object

/-- A record without its reference count. -/
def fixedView (r : Object) : Object := { r with refCount := 0 }

/-- A step from `s` to `u` after which every record made before it that is
still live has the fields it had, but for its reference count. -/
structure Settled (s u : State) : Prop where
  nextObj_le : s.nextObj ≤ u.nextObj
  keep : ∀ y r', y < s.nextObj → u.objects y = some r' →
    ∃ r, s.objects y = some r ∧ fixedView r' = fixedView r

namespace Settled

variable {s u v : State}

theorem refl (s : State) : Settled s s := ⟨Nat.le_refl _, fun _ r' _ h => ⟨r', h, rfl⟩⟩

theorem trans (h₁ : Settled s u) (h₂ : Settled u v) : Settled s v := by
  refine ⟨Nat.le_trans h₁.nextObj_le h₂.nextObj_le, fun y r' hy hr' => ?_⟩
  obtain ⟨r₁, hr₁, he₁⟩ := h₂.keep y r' (Nat.lt_of_lt_of_le hy h₁.nextObj_le) hr'
  obtain ⟨r, hr, he⟩ := h₁.keep y r₁ hy hr₁
  exact ⟨r, hr, he₁.trans he⟩

/-- A step that keeps what `fixedView` reads of every record, and `nextObj`. -/
theorem of_map (hn : u.nextObj = s.nextObj)
    (hv : ∀ y, (u.objects y).map fixedView = (s.objects y).map fixedView) : Settled s u := by
  refine ⟨Nat.le_of_eq hn.symm, fun y r' _ hr' => ?_⟩
  have h := hv y
  rw [hr'] at h
  obtain ⟨r, hr, he⟩ := Option.map_eq_some'.1 h.symm
  exact ⟨r, hr, he.symm⟩

theorem of_objects (hn : u.nextObj = s.nextObj) (ho : u.objects = s.objects) : Settled s u :=
  of_map hn fun y => by rw [ho]

theorem afterCall (s : State) : Settled s s.afterCall := of_objects rfl rfl

theorem decRef (s : State) (p : ObjId) : Settled s (decRef s p).1 :=
  of_map rfl (decRef_map (g := fixedView) (fun _ => rfl) s p)

theorem incRef (s : State) (p : ObjId) : Settled s (incRef s p) :=
  of_map rfl (incRef_map (g := fixedView) (fun _ => rfl) s p)

theorem of_frame {x : ObjId} (hf : Frame x s u) : Settled s u := of_objects hf.nextObj hf.objects

end Settled

/-! ### `dpiObject__free` and `dpiObject__allocate` -/

section Calls

variable {s : State}

theorem keep_of_map {u : State} {y : ObjId} {r' : Object}
    (hv : (u.objects y).map fixedView = (s.objects y).map fixedView) (hr' : u.objects y = some r') :
    ∃ r, s.objects y = some r ∧ fixedView r' = fixedView r := by
  rw [hr'] at hv
  obtain ⟨r, hr, he⟩ := Option.map_eq_some'.1 hv.symm
  exact ⟨r, hr, he.symm⟩

/-- Every record live after `dpiObject__free` was live before it, with the
same fields but for its reference count: the records whose fields
`dpiObject__close` changed are reclaimed. -/
theorem free_keep (s : State) (x : ObjId) : ∀ y r', (free s x).objects y = some r' →
    ∃ r, s.objects y = some r ∧ fixedView r' = fixedView r := by
  induction s, x using free.induct with
  | case1 s x s₁ r₁ s₂ ih =>
    intro y r' hr'
    rw [free_eq] at hr'
    have hy : y ≠ x := fun h => by simp [h] at hr'
    rw [State.freeMemory_objects, Function.update_noteq hy] at hr'
    rw [← (close_keeps false).objects_ne y hy]
    show ∃ r, s₂.objects y = some r ∧ fixedView r' = fixedView r
    revert hr'
    cases r₁.dependsOnObj with
    | none => exact fun hr' => ⟨r', hr', rfl⟩
    | some p =>
      have hd : ∀ r₁, (decRef s₂ p).1.objects y = some r₁ →
          ∃ r, s₂.objects y = some r ∧ fixedView r₁ = fixedView r :=
        fun r₁ h => keep_of_map (decRef_map (g := fixedView) (fun _ => rfl) s₂ p y) h
      dsimp only
      split
      · rename_i hc
        intro hr'
        obtain ⟨r₁, h₁, he₁⟩ := ih p hc y r' hr'
        obtain ⟨r, h, he⟩ := hd r₁ h₁
        exact ⟨r, h, he₁.trans he⟩
      · exact hd r'

theorem free_settled (s : State) (x : ObjId) : Settled s (free s x) :=
  ⟨Nat.le_of_eq (free_nextObj s x).symm, fun y r' _ hr' => free_keep s x y r' hr'⟩

/-- The record `dpiObject__allocate` makes is new; every other record keeps
its fields, and the parent gains a reference. -/
theorem Pending.settled {u : State} {r : Object} {pre : List Event} (h : Pending s u r pre) :
    Settled s u := by
  refine ⟨by rw [h.nextObj_eq]; exact Nat.le_succ _, fun y r' hy hr' => keep_of_map ?_ hr'⟩
  rw [h.objects_eq, parentInc_map (g := fixedView) (fun _ => rfl),
    Function.update_noteq (Nat.ne_of_lt hy)]

theorem allocate_settled (t : TypeId) (inst ind : Option Handle) {p : Option ObjId}
    (hpx : ∀ q, p = some q → q ≠ s.nextObj) : Settled s (allocate s t inst ind p).1 := by
  cases hg : s.callOk
  · simp only [allocate, hg, Bool.false_eq_true, if_false]; exact .afterCall s
  rcases @allocate_cases _ t inst ind _ hpx hg with ⟨u, r, pre, hA, hB⟩ | ⟨u, r, pre, hA, hD⟩
  · rw [hA]; exact hB.pending.settled
  · rw [hA]; exact hD.pending.settled.trans (free_settled u _)

theorem copy_settled (x : ObjId) : Settled s (copy s x).1 := by
  unfold copy check
  dsimp only
  split
  · have hA := (Settled.afterCall s).trans
      (allocate_settled (s := s.afterCall) (s.afterCall.obj x).type none none (p := none) (by simp))
    cases (allocate s.afterCall (s.afterCall.obj x).type none none none).2 with
    | none => exact hA
    | some y =>
      dsimp only
      split
      · exact hA.trans (.afterCall _)
      · exact hA.trans ((Settled.afterCall _).trans (free_settled _ y))
  · exact .afterCall s

theorem addRef_settled (x : ObjId) : Settled s (addRef s x).1 := by
  unfold addRef check
  dsimp only
  split
  · exact (Settled.afterCall s).trans (.incRef _ x)
  · exact .afterCall s

theorem release_settled (x : ObjId) : Settled s (release s x).1 := by
  unfold release check
  dsimp only
  split
  · have hd := (Settled.afterCall s).trans (.decRef s.afterCall x)
    dsimp only
    split
    · exact hd.trans (free_settled _ x)
    · exact hd
  · exact .afterCall s

/-- Every legal call on a record's lifetime. -/
theorem Call.settled {h : Held} (hR : Rooted s) (hheld : ∀ y, 0 < h.obj y → s.Live y) (c : Call)
    (hc : c.Legal h) : Settled s (c.run s h).1 := by
  cases c with
  | allocate t inst ind p =>
    exact allocate_settled t inst ind fun q hq => Nat.ne_of_lt (hR.lt (hheld q (hc q hq)))
  | copy x => exact copy_settled x
  | addRef x => exact addRef_settled x
  | release x => exact release_settled x

/-- A reader: the conversion back makes at most a record that depends on `x`. -/
theorem Settled.of_readPath (H : Helpers) (hR : Rooted s) {x : ObjId} (hx : s.Live x)
    {N : NativeTypeNum} {got : Fetched} {r : State × Except DpiError (Option DataBuffer)}
    (hp : ReadPath H x N got s r) : Settled s r.1 := by
  obtain ⟨u, hu, ⟨e, rfl⟩ | ⟨typeInfo, rfl⟩⟩ := hp
  · exact .of_frame hu
  have hxu : x < u.nextObj := hu.nextObj ▸ hR.lt hx
  refine (Settled.of_frame hu).trans ?_
  rcases fromOracleValue_cases H u x typeInfo got.value got.isNull got.indicator N with
    ⟨r, hr, -⟩ | hr | ⟨t, -, -, hr⟩ <;> rw [hr]
  · exact .refl u
  · exact .of_frame (fromLob_frame u x)
  · have ha := allocate_settled (s := u) t
      (if (u.types t).isCollection && !(u.types (u.obj x).type).isCollection then got.value.collection
        else got.value.raw) got.indicator (p := some x) fun q hq => by cases hq; exact Nat.ne_of_lt hxu
    unfold fromObject
    dsimp only
    split <;> exact ha

end Calls

/-- Every legal call of the public API. -/
theorem RefInv.api_settled {s : State} {h : Held} (hI : RefInv s h fun _ => false) (H : Helpers)
    (c : ApiCall) (hc : c.Legal h) : Settled s (c.run H s h).1 := by
  rcases c.run_cases H s h with ⟨c, rfl, hr⟩ | ⟨x, N, got, r, hx, hp, hr⟩ | ⟨x, -, hf, -⟩
  · rw [hr]; exact Call.settled hI.rooted (fun y hy => (hI.held_live y hy).1) c hc
  · rw [hr]; exact .of_readPath H hI.rooted (hI.held_live x (hc.held hx)).1 hp
  · exact .of_frame hf

/-- In every state a run of the public API reaches, no legal call, with
whatever its collaborators answer and hand back, changes a record that
outlives it, but for its reference count. -/
theorem api_call_keeps_fields {H : Helpers} {s : State} {h : Held} (hR : ApiReachable H s h)
    (c : ApiCall) (hc : c.Legal h) {y : ObjId} {r r' : Object} (hr : s.objects y = some r)
    (hr' : (c.run H s h).1.objects y = some r') : r' = { r with refCount := r'.refCount } := by
  have hI := hR.refInv
  obtain ⟨r₀, h₀, he⟩ := (hI.api_settled H c hc).keep y r'
    (hI.rooted.lt ((State.live_iff _).2 ⟨r, hr⟩)) hr'
  rw [hr, Option.some.injEq] at h₀
  subst h₀
  cases r; cases r'
  simp_all [fixedView]

theorem api_call_keeps_fields_on_read :
    let s₀ := State.init []
    let r₁ := (ApiCall.lifetime (.allocate 0 none none none)).run Helpers.exact s₀
      ⟨fun _ => 0, s₀.typeRefCount⟩
    let c := ApiCall.getAttributeValue 0 ⟨"A", 0, ⟨.object, 0, some 0⟩⟩ .object
      ⟨.asObject (some 7) (some 7), false, none⟩
    let u := (c.run Helpers.exact r₁.1 r₁.2).1
    ApiReachable Helpers.exact r₁.1 r₁.2 ∧ c.Legal r₁.2 ∧ r₁.1.objects 0 = some (r₁.1.obj 0) ∧
      u.objects 0 = some (u.obj 0) ∧ u.obj 0 = { r₁.1.obj 0 with refCount := (u.obj 0).refCount } :=
  have hR := ApiReachable.call (H := Helpers.exact) (.lifetime (.allocate 0 none none none))
    (.start _ (fun _ => rfl) rfl) fun _ h => by cases h
  have hc : (ApiCall.getAttributeValue 0 ⟨"A", 0, ⟨.object, 0, some 0⟩⟩ .object
      ⟨.asObject (some 7) (some 7), false, none⟩).Legal _ := fun x hx => by cases hx; decide
  ⟨hR, hc, rfl, rfl, api_call_keeps_fields hR _ hc (y := 0) rfl rfl⟩

end Dpi.Object
