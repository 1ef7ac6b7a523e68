import DpiObject.Api

/-! The memory of the records over whole runs of the public API. Once
`dpiUtils__freeMemory` has reclaimed a record, no later logged call is made on
it (an OCI call on its instance, a free of its handles, a second reclaim), no
new record is made at its address and none depends on it. Each step makes calls
only on records live when it starts or made during it, reclaims each record at
most once and leaves it dead. The hard step is `dpiObject__free`: it runs
through the parents whose count it brings to zero, which are live ancestors of
the record with smaller addresses, and the record itself stays live until its
own reclaim, which comes after theirs. -/
namespace Dpi

/-- Whether an event touches the memory of record `y`: the record it is a call
on, and for an allocation also the parent whose count it raises. -/
def Event.touches (y : ObjId) : Event → Bool
  | .allocate x p => x == y || p == some y
  | .objectNew x _ | .objectFree x .. | .freeMemory x | .oci x _ => x == y
  | .scratchAlloc .. | .scratchFree .. => false

/-- After the reclaim of a record no event touches it: no use after free, no
second free, and no new record at its address. -/
def NoUseAfterFree (l : List Event) : Prop :=
  ∀ y l₁ l₂, l = l₁ ++ .freeMemory y :: l₂ → ∀ e ∈ l₂, e.touches y = false

namespace NoUseAfterFree

variable {l l' : List Event}

theorem of_no_free (h : ∀ y, Event.freeMemory y ∉ l) : NoUseAfterFree l := by
  rintro y l₁ l₂ rfl
  exact absurd (by simp) (h y)

theorem freeMemory (x : ObjId) : NoUseAfterFree [.freeMemory x] := by
  intro y l₁ l₂ h e he
  cases l₁ with
  | nil =>
    obtain ⟨-, rfl⟩ := List.cons_eq_cons.1 h
    simp at he
  | cons a l₁ => simp at h

/-- Two lists of calls, the second touching nothing the first reclaimed. -/
theorem append (h : NoUseAfterFree l) (h' : NoUseAfterFree l')
    (hx : ∀ y, Event.freeMemory y ∈ l → ∀ e ∈ l', e.touches y = false) :
    NoUseAfterFree (l ++ l') := by
  intro y l₁ l₂ heq e he
  rcases List.append_eq_append_iff.1 heq with ⟨a, rfl, rfl⟩ | ⟨c, rfl, hc⟩
  · exact h' y a l₂ rfl e he
  · rcases List.cons_eq_append_iff.1 hc with ⟨rfl, rfl⟩ | ⟨a, rfl, rfl⟩
    · exact h' y [] l₂ rfl e he
    · rcases List.mem_append.1 he with he | he
      · exact h y l₁ a rfl e he
      · exact hx y (by simp) e he

end NoUseAfterFree

namespace Object

/-! ### Liveness through the steps of a call -/

section Liveness

variable {s u : State}

theorem live_of_shape (h : ∀ y, (u.objects y).map shape = (s.objects y).map shape) (y : ObjId) :
    u.Live y ↔ s.Live y := by
  simp only [State.Live, isSome_of_map_shape (h y)]

/-- A change of one record that keeps what `g` reads of it. -/
theorem modify_map {α : Type} {g : Object → α} {f : Object → Object} (hf : ∀ r, g (f r) = g r)
    (x y : ObjId) : ((s.modify x f).objects y).map g = (s.objects y).map g := by
  rw [State.modify_objects]
  split <;> simp [Option.map_map, Function.comp_def, hf]

theorem close_map_shape (x : ObjId) (ck : Bool) (y : ObjId) :
    ((close s x ck).1.objects y).map shape = (s.objects y).map shape := by
  have hk := close_keeps (s := s) (x := x) ck
  by_cases hy : y = x
  · subst hy; exact map_shape_of_map_keep hk.objects_self
  · rw [hk.objects_ne y hy]

theorem decRef_map_shape (s : State) (p y : ObjId) :
    ((decRef s p).1.objects y).map shape = (s.objects y).map shape :=
  modify_map (g := shape) (f := fun r => { r with refCount := r.refCount - 1 }) (fun _ => rfl) p y

theorem incRef_map_shape (s : State) (p y : ObjId) :
    ((incRef s p).objects y).map shape = (s.objects y).map shape :=
  modify_map (g := shape) (f := fun r => { r with refCount := r.refCount + 1 }) (fun _ => rfl) p y

theorem freeMemory_live_of_ne {x y : ObjId} (h : y ≠ x) : (s.freeMemory x).Live y ↔ s.Live y := by
  simp [State.Live, Function.update_noteq h]

end Liveness

/-- Every record lies below `nextObj`, and the parent of every live record is
a live record with a smaller address. -/
structure Rooted (s : State) : Prop where
  bound : ∀ y, s.nextObj ≤ y → ¬ s.Live y
  parent : ∀ y r p, s.objects y = some r → r.dependsOnObj = some p → p < y ∧ s.Live p

namespace Rooted

variable {s u : State}

theorem lt (hR : Rooted s) {y : ObjId} (hy : s.Live y) : y < s.nextObj :=
  Nat.lt_of_not_le fun h => hR.bound y h hy

/-- A step that keeps every record's type and parent, and `nextObj`. -/
theorem of_shape (hR : Rooted s) (hn : u.nextObj = s.nextObj)
    (hsh : ∀ y, (u.objects y).map shape = (s.objects y).map shape) : Rooted u := by
  refine ⟨fun y hy => by rw [live_of_shape hsh]; exact hR.bound y (hn ▸ hy), fun y r p hr hp => ?_⟩
  obtain ⟨r₀, hr₀, hs⟩ := exists_of_map_shape (hsh y) hr
  have hp₀ : r₀.dependsOnObj = some p := by
    simp only [shape, Prod.mk.injEq] at hs
    rw [← hs.2, hp]
  obtain ⟨h₁, h₂⟩ := hR.parent y r₀ p hr₀ hp₀
  exact ⟨h₁, (live_of_shape hsh p).2 h₂⟩

theorem of_frame {x : ObjId} (hR : Rooted s) (hf : Frame x s u) : Rooted u :=
  hR.of_shape hf.nextObj fun y => by rw [hf.objects]

end Rooted

theorem RefInv.rooted {s : State} {h : Held} (hI : RefInv s h fun _ => false) : Rooted s :=
  ⟨fun y hy hl => by simp [State.Live, hI.bound y hy] at hl,
    fun y r p hr hp => (hI.parent y r hr rfl p hp).imp_right And.left⟩

/-! ### Steps that touch only what is live -/

/-- A step from `s` to `u` that keeps dead the records dead in `s`, and whose
calls touch only records live in `s` or made during the step, reclaim each
record at most once and leave dead the records they reclaim. -/
structure CleanStep (s u : State) : Prop where
  nextObj_le : s.nextObj ≤ u.nextObj
  stays_dead : ∀ y, y < s.nextObj → ¬ s.Live y → ¬ u.Live y
  calls : ∃ new, u.trace = s.trace ++ new ∧ NoUseAfterFree new ∧
    (∀ e ∈ new, ∀ y, e.touches y = true → s.Live y ∨ s.nextObj ≤ y) ∧
    ∀ y, Event.freeMemory y ∈ new → ¬ u.Live y ∧ y < u.nextObj

namespace CleanStep

variable {s u v : State}

/-- A record live after a step was live before it, or made by it. -/
theorem live_or_fresh (hC : CleanStep s u) {y : ObjId} (hy : u.Live y) :
    s.Live y ∨ s.nextObj ≤ y := by
  by_cases hs : s.Live y
  · exact .inl hs
  · exact .inr (Nat.le_of_not_lt fun hlt => hC.stays_dead y hlt hs hy)

theorem trans (h₁ : CleanStep s u) (h₂ : CleanStep u v) : CleanStep s v := by
  obtain ⟨new₁, t₁, c₁, a₁, f₁⟩ := h₁.calls
  obtain ⟨new₂, t₂, c₂, a₂, f₂⟩ := h₂.calls
  refine ⟨Nat.le_trans h₁.nextObj_le h₂.nextObj_le,
    fun y hy hs => h₂.stays_dead y (Nat.lt_of_lt_of_le hy h₁.nextObj_le) (h₁.stays_dead y hy hs),
    new₁ ++ new₂, by rw [t₂, t₁, List.append_assoc], ?_, fun e he y hy => ?_, fun y hy => ?_⟩
  · -- what the first part reclaimed is dead and not fresh when the second starts
    refine c₁.append c₂ fun y hy e he => Bool.eq_false_iff.2 fun ht => ?_
    rcases a₂ e he y ht with hl | hl
    exacts [(f₁ y hy).1 hl, Nat.not_le.2 (f₁ y hy).2 hl]
  · rcases List.mem_append.1 he with he | he
    · exact a₁ e he y hy
    rcases a₂ e he y hy with hl | hl
    · exact h₁.live_or_fresh hl
    · exact .inr (Nat.le_trans h₁.nextObj_le hl)
  · rcases List.mem_append.1 hy with hy | hy
    · exact ⟨h₂.stays_dead y (f₁ y hy).2 (f₁ y hy).1, Nat.lt_of_lt_of_le (f₁ y hy).2 h₂.nextObj_le⟩
    · exact f₂ y hy

/-- A step that keeps which records are live and `nextObj`, and makes calls
on live records only, none of them a reclaim. -/
theorem of_quiet (hn : u.nextObj = s.nextObj) (hl : ∀ y, u.Live y ↔ s.Live y) {new : List Event}
    (ht : u.trace = s.trace ++ new) (ha : ∀ e ∈ new, ∀ y, e.touches y = true → s.Live y)
    (hf : ∀ y, Event.freeMemory y ∉ new) : CleanStep s u :=
  ⟨Nat.le_of_eq hn.symm, fun y _ hs hu => hs ((hl y).1 hu), new, ht, .of_no_free hf,
    fun e he y hy => .inl (ha e he y hy), fun y hy => absurd hy (hf y)⟩

theorem refl : CleanStep s s := of_quiet rfl (fun _ => .rfl) (List.append_nil _).symm (by simp) (by simp)

theorem of_shape (hn : u.nextObj = s.nextObj)
    (hsh : ∀ y, (u.objects y).map shape = (s.objects y).map shape) (ht : u.trace = s.trace) :
    CleanStep s u :=
  of_quiet hn (live_of_shape hsh) (ht.trans (List.append_nil _).symm) (by simp) (by simp)

theorem afterCall : CleanStep s s.afterCall := of_shape rfl (fun _ => rfl) rfl

/-- A step that changes no record and makes OCI calls only on `x`, which is live. -/
theorem of_frame {x : ObjId} (hf : Frame x s u) (hx : s.Live x) : CleanStep s u := by
  obtain ⟨ho, hn, -, -, new, ht, hnew⟩ := hf
  refine of_quiet hn (fun y => by simp only [State.Live, ho]) ht (fun e he y hy => ?_) fun y hy => ?_
  · rcases hnew e he with hs | ⟨c, rfl⟩
    · cases e <;> simp [Event.isScratch] at hs <;> simp [Event.touches] at hy
    · simp only [Event.touches, beq_iff_eq] at hy
      exact hy ▸ hx
  · rcases hnew _ hy with h | ⟨c, h⟩ <;> simp [Event.isScratch] at h

end CleanStep

/-! ### `dpiObject__free` and `dpiObject__allocate` -/

section Free

variable {s : State} {x : ObjId}

theorem close_clean (ck : Bool) (hx : s.Live x) : CleanStep s (close s x ck).1 := by
  obtain ⟨new, ht, hnew⟩ := close_calls (s := s) (x := x) ck
  refine .of_quiet (close_keeps ck).nextObj (live_of_shape (close_map_shape x ck)) ht
    (fun e he y hy => ?_) fun y hy => ?_
  · obtain ⟨-, tg, hd, ok, rfl⟩ := hnew e he
    simp only [Event.touches, beq_iff_eq] at hy
    exact hy ▸ hx
  · obtain ⟨-, tg, hd, ok, h⟩ := hnew _ hy
    cases h

theorem freeMemory_clean (hx : s.Live x) (hb : x < s.nextObj) : CleanStep s (s.freeMemory x) := by
  refine ⟨le_refl _, fun y _ hs hu => ?_, [.freeMemory x], rfl, .freeMemory x,
    fun e he y hy => ?_, fun y hy => ?_⟩
  · by_cases h : y = x
    · exact hs (h ▸ hx)
    · exact hs ((freeMemory_live_of_ne h).1 hu)
  · obtain rfl := List.mem_singleton.1 he
    simp only [Event.touches, beq_iff_eq] at hy
    exact .inl (hy ▸ hx)
  · obtain rfl : y = x := by simpa using hy
    exact ⟨by simp [State.Live], hb⟩

/-- `dpiObject__free` of `x` leaves every record above `x` as live as it was:
the parents it frees in turn have smaller addresses. -/
theorem free_live_of_lt (s : State) (x : ObjId) : ∀ y, x < y → ((free s x).Live y ↔ s.Live y) := by
  induction s, x using free.induct with
  | case1 s x s₁ r₁ s₂ ih =>
    intro y hy
    have h₂ : s₂.Live y ↔ s.Live y := live_of_shape (close_map_shape x false) y
    rw [free_eq]
    refine (freeMemory_live_of_ne (Nat.ne_of_gt hy)).trans ?_
    show (match r₁.dependsOnObj with
      | none => s₂
      | some p =>
          let d := decRef s₂ p
          if _h : d.2 = true ∧ p < x then free d.1 p else d.1).Live y ↔ s.Live y
    cases r₁.dependsOnObj with
    | none => exact h₂
    | some p =>
      have hd : (decRef s₂ p).1.Live y ↔ s₂.Live y := live_of_shape (decRef_map_shape s₂ p) y
      dsimp only
      split
      · rename_i hc
        exact (ih p hc y (Nat.lt_trans hc.2 hy)).trans (hd.trans h₂)
      · exact hd.trans h₂

/-- What `dpiObject__free` of a live record finds once it has closed the record
and released its type: the same live records and parents, the record still
there, and its parent live below it. -/
theorem free_prefix (hR : Rooted s) (hx : s.Live x) :
    let s₁ := (close s x false).1
    let s₂ := s₁.typeRelease (s₁.obj x).type
    (∀ y, (s₂.objects y).map shape = (s.objects y).map shape) ∧ Rooted s₂ ∧
      s₂.objects x = some (s₁.obj x) ∧
      ∀ p, (s₁.obj x).dependsOnObj = some p → p < x ∧ s₂.Live p := by
  intro s₁ s₂
  have hsh₂ : ∀ y, (s₂.objects y).map shape = (s.objects y).map shape := close_map_shape x false
  have hR₂ : Rooted s₂ := hR.of_shape (close_keeps false).nextObj hsh₂
  have hr₁ : s₂.objects x = some (s₁.obj x) := by
    obtain ⟨r', hr'⟩ := (State.live_iff _).1 ((live_of_shape hsh₂ x).2 hx)
    exact hr'.trans (congrArg some (s₁.obj_of_objects hr').symm)
  exact ⟨hsh₂, hR₂, hr₁, fun p hp => hR₂.parent x _ p hr₁ hp⟩

/-- `dpiObject__free` of a live record touches only that record and the
ancestors it frees in turn, reclaims each once, and leaves them dead. -/
theorem free_clean (s : State) (x : ObjId) : Rooted s → s.Live x → CleanStep s (free s x) := by
  induction s, x using free.induct with
  | case1 s x s₁ r₁ s₂ ih =>
    intro hR hx
    obtain ⟨hsh₂, hR₂, -, hpar⟩ := free_prefix hR hx
    have hn₂ : s₂.nextObj = s.nextObj := (close_keeps false).nextObj
    have hC₂ : CleanStep s s₂ := (close_clean false hx).trans (.of_shape rfl (fun _ => rfl) rfl)
    have hx₂ : s₂.Live x := (live_of_shape hsh₂ x).2 hx
    -- the reclaim of `x` ends every branch
    have fin : ∀ s₃ : State, CleanStep s₂ s₃ → s₃.Live x → s₃.nextObj = s.nextObj →
        CleanStep s (s₃.freeMemory x) := fun s₃ hC h₃ hn₃ =>
      (hC₂.trans hC).trans (freeMemory_clean h₃ (hn₃ ▸ hR.lt hx))
    rw [free_eq]
    show CleanStep s ((match r₁.dependsOnObj with
      | none => s₂
      | some p =>
          let d := decRef s₂ p
          if _h : d.2 = true ∧ p < x then free d.1 p else d.1).freeMemory x)
    cases hp : r₁.dependsOnObj with
    | none => exact fin s₂ .refl hx₂ hn₂
    | some p =>
      have hshd := decRef_map_shape s₂ p
      have hd : CleanStep s₂ (decRef s₂ p).1 := .of_shape rfl hshd rfl
      have hxd : (decRef s₂ p).1.Live x := (live_of_shape hshd x).2 hx₂
      dsimp only
      split
      · rename_i hc
        have hpd : (decRef s₂ p).1.Live p := (live_of_shape hshd p).2 (hpar p hp).2
        exact fin _ (hd.trans (ih p hc (hR₂.of_shape rfl hshd) hpd))
          ((free_live_of_lt _ p x hc.2).2 hxd) (by rw [free_nextObj]; exact hn₂)
      · exact fin _ hd hxd hn₂

end Free

namespace AllocCalls

variable {x : ObjId} {p : Option ObjId} {pre : List Event}

theorem touches (h : AllocCalls x p pre) {e : Event} (he : e ∈ pre) {y : ObjId}
    (hy : e.touches y = true) : y = x ∨ p = some y := by
  have he' : e = .allocate x p ∨ ∃ i, e = .objectNew x i := by
    rcases h with rfl | ⟨i, rfl⟩
    · exact .inl (List.mem_singleton.1 he)
    · simp only [List.mem_cons, List.mem_singleton, List.not_mem_nil, or_false] at he
      exact he.imp_right fun h => ⟨i, h⟩
  rcases he' with rfl | ⟨i, rfl⟩ <;> simp only [Event.touches, Bool.or_eq_true, beq_iff_eq] at hy
  · exact hy.imp_left Eq.symm
  · exact .inl hy.symm

theorem freeMemory_not_mem (h : AllocCalls x p pre) (y : ObjId) : Event.freeMemory y ∉ pre := by
  rcases h with rfl | ⟨_, rfl⟩ <;> simp

end AllocCalls

namespace Pending

variable {s u : State} {r : Object} {pre : List Event}

theorem live_iff (h : Pending s u r pre) {y : ObjId} (hy : y ≠ s.nextObj) : u.Live y ↔ s.Live y := by
  simp only [State.Live, h.objects_eq, isSome_of_map_shape (parentInc_map_shape _ _ y),
    Function.update_noteq hy]

theorem live_self (h : Pending s u r pre) : u.Live s.nextObj := by
  simp only [State.Live, h.objects_eq, isSome_of_map_shape (parentInc_map_shape _ _ _),
    Function.update_same, Option.isSome_some]

/-- The calls of `dpiObject__allocate` so far touch the new record and its
parent. -/
theorem clean {p : Option ObjId} (h : Pending s u r pre) (hc : AllocCalls s.nextObj p pre)
    (hp : ∀ q, p = some q → s.Live q) : CleanStep s u := by
  refine ⟨by rw [h.nextObj_eq]; exact Nat.le_succ _, fun y hy hs hu => hs ((h.live_iff
    (Nat.ne_of_lt hy)).1 hu), pre, h.trace_eq, .of_no_free hc.freeMemory_not_mem,
    fun e he y hy => ?_, fun y hy => absurd hy (hc.freeMemory_not_mem y)⟩
  rcases hc.touches he hy with rfl | hq
  · exact .inr (le_refl _)
  · exact .inl (hp y hq)

theorem rooted (h : Pending s u r pre) (hR : Rooted s) (hp : ∀ q, r.dependsOnObj = some q → s.Live q) :
    Rooted u := by
  refine ⟨fun y hy hu => ?_, fun y r' q hr' hq => ?_⟩
  · rw [h.nextObj_eq] at hy
    exact hR.bound y (Nat.le_of_succ_le hy) ((h.live_iff (Nat.ne_of_lt (Nat.lt_of_succ_le hy)).symm).1 hu)
  by_cases hy : y = s.nextObj
  · subst hy
    have hne : ∀ q, r.dependsOnObj = some q → q ≠ s.nextObj := fun q hq => Nat.ne_of_lt (hR.lt (hp q hq))
    rw [h.objects_eq, parentInc_apply_self hne, Option.some.injEq] at hr'
    subst hr'
    exact ⟨hR.lt (hp q hq), (h.live_iff (hne q hq)).2 (hp q hq)⟩
  · have hsh : (u.objects y).map shape = (s.objects y).map shape := by
      rw [h.objects_eq, parentInc_map_shape, Function.update_noteq hy]
    obtain ⟨r₀, hr₀, hs⟩ := exists_of_map_shape hsh hr'
    have hq₀ : r₀.dependsOnObj = some q := by
      simp only [shape, Prod.mk.injEq] at hs
      rw [← hs.2, hq]
    obtain ⟨h₁, h₂⟩ := hR.parent y r₀ q hr₀ hq₀
    exact ⟨h₁, (h.live_iff (Nat.ne_of_lt (hR.lt h₂))).2 h₂⟩

end Pending

/-- `dpiObject__allocate` with a live parent, or none: it touches the new
record and the parent, and a failure frees the new record again. -/
theorem allocate_clean {s : State} (hR : Rooted s) (t : TypeId) (inst ind : Option Handle)
    {p : Option ObjId} (hp : ∀ q, p = some q → s.Live q) :
    CleanStep s (allocate s t inst ind p).1 := by
  have hpx : ∀ q, p = some q → q ≠ s.nextObj := fun q hq => Nat.ne_of_lt (hR.lt (hp q hq))
  cases hg : s.callOk
  · simp only [allocate, hg, Bool.false_eq_true, if_false]; exact .afterCall
  rcases @allocate_cases _ t inst ind _ hpx hg with ⟨u, r, pre, hA, hB⟩ | ⟨u, r, pre, hA, hD⟩
  · rw [hA]; exact hB.pending.clean hB.calls hp
  · rw [hA]
    exact (hD.pending.clean hD.calls hp).trans (free_clean u _
      (hD.pending.rooted hR fun q hq => hp q (hD.dependsOnObj_eq ▸ hq)) hD.pending.live_self)

/-! ### The calls on a record's lifetime -/

section Lifetime

variable {s : State}

theorem copy_clean (hR : Rooted s) (x : ObjId) : CleanStep s (copy s x).1 := by
  have hR' : Rooted s.afterCall := hR.of_shape rfl fun _ => rfl
  unfold copy check
  dsimp only
  split
  · have hA := allocate_clean hR' (s.afterCall.obj x).type none none (p := none) (by simp)
    cases ho : (allocate s.afterCall (s.afterCall.obj x).type none none none).2 with
    | none => exact CleanStep.afterCall.trans hA
    | some y =>
      obtain ⟨rfl, r, pre, hB⟩ := allocate_success_built (by simp) ho
      dsimp only
      split
      · exact (CleanStep.afterCall.trans hA).trans .afterCall
      · have hRa := hB.pending.rooted hR' fun q hq => by simp [hB.dependsOnObj_eq] at hq
        exact (CleanStep.afterCall.trans hA).trans (CleanStep.afterCall.trans
          (free_clean _ _ (hRa.of_shape rfl fun _ => rfl) hB.pending.live_self))
  · exact .afterCall

theorem addRef_clean (x : ObjId) : CleanStep s (addRef s x).1 := by
  unfold addRef check
  dsimp only
  split
  · exact CleanStep.afterCall.trans (.of_shape rfl (incRef_map_shape _ x) rfl)
  · exact .afterCall

theorem release_clean (hR : Rooted s) (x : ObjId) : CleanStep s (release s x).1 := by
  unfold release check
  dsimp only
  split
  · rename_i hc
    have hx : s.Live x := by
      simp only [Bool.and_eq_true, decide_eq_true_eq] at hc
      exact hc.1
    have hsh := decRef_map_shape s.afterCall x
    have hd : CleanStep s (decRef s.afterCall x).1 := CleanStep.afterCall.trans (.of_shape rfl hsh rfl)
    dsimp only
    split
    · exact hd.trans (free_clean _ x (hR.of_shape rfl hsh) ((live_of_shape hsh x).2 hx))
    · exact hd
  · exact .afterCall

/-- Every legal call on a record's lifetime. -/
theorem Call.clean {h : Held} (hR : Rooted s) (hheld : ∀ y, 0 < h.obj y → s.Live y) (c : Call)
    (hc : c.Legal h) : CleanStep s (c.run s h).1 := by
  cases c with
  | allocate t inst ind p => exact allocate_clean hR t inst ind fun q hq => hheld q (hc q hq)
  | copy x => exact copy_clean hR x
  | addRef x => exact addRef_clean x
  | release x => exact release_clean hR x

end Lifetime

/-! ### The readers -/

section Readers

variable (H : Helpers) {s : State} {x : ObjId}

/-- The conversion back touches `x`, and the record it makes for an object
value. -/
theorem fromOracleValue_clean (hR : Rooted s) (hx : s.Live x) (typeInfo : DataTypeInfo)
    (value : OracleData) (isNull : Bool) (indicator : Option Handle) (N : NativeTypeNum) :
    CleanStep s (fromOracleValue H s x typeInfo value isNull indicator N).1 := by
  rcases fromOracleValue_cases H s x typeInfo value isNull indicator N with
    ⟨r, hr, -⟩ | hr | ⟨t, -, -, hr⟩ <;> rw [hr]
  · exact .refl
  · exact .of_frame (fromLob_frame s x) hx
  · have ha := allocate_clean hR t
      (if (s.types t).isCollection && !(s.types (s.obj x).type).isCollection then value.collection
        else value.raw) indicator (p := some x) fun q hq => by cases hq; exact hx
    unfold fromObject
    dsimp only
    split <;> exact ha

/-- A reader touches `x`, and the record it makes for an object value. -/
theorem CleanStep.of_readPath (hR : Rooted s) (hx : s.Live x) {N : NativeTypeNum} {got : Fetched}
    {r : State × Except DpiError (Option DataBuffer)} (hp : ReadPath H x N got s r) :
    CleanStep s r.1 := by
  obtain ⟨u, hu, ⟨e, rfl⟩ | ⟨typeInfo, rfl⟩⟩ := hp
  · exact .of_frame hu hx
  · have hxu : u.Live x := by simp only [State.Live, hu.objects]; exact hx
    exact (CleanStep.of_frame hu hx).trans (fromOracleValue_clean H (hR.of_frame hu) hxu typeInfo _ _ _ N)

end Readers

/-- Every legal call of the public API touches only what is live or what it
makes. -/
theorem RefInv.api_clean {s : State} {h : Held} (hI : RefInv s h fun _ => false) (H : Helpers)
    (c : ApiCall) (hc : c.Legal h) : CleanStep s (c.run H s h).1 := by
  rcases c.run_cases H s h with ⟨c, rfl, hr⟩ | ⟨x, N, got, r, hx, hp, hr⟩ | ⟨x, hx, hf, -⟩
  · rw [hr]; exact Call.clean hI.rooted (fun y hy => (hI.held_live y hy).1) c hc
  · rw [hr]; exact .of_readPath H hI.rooted (hI.held_live x (hc.held hx)).1 hp
  · exact .of_frame hf (hI.held_live x (hc.held hx)).1

/-! ### Whole runs -/

/-- No call so far touched a record after its reclaim, and every reclaimed
record is dead, below `nextObj`. -/
structure Reclaimed (s : State) : Prop where
  trace : NoUseAfterFree s.trace
  freed : ∀ y, Event.freeMemory y ∈ s.trace → ¬ s.Live y ∧ y < s.nextObj

theorem Reclaimed.step {s u : State} (hU : Reclaimed s) (hC : CleanStep s u) : Reclaimed u := by
  obtain ⟨new, ht, hn, ha, hf⟩ := hC.calls
  refine ⟨?_, fun y hy => ?_⟩
  · rw [ht]
    refine hU.trace.append hn fun y hy e he => Bool.eq_false_iff.2 fun hab => ?_
    rcases ha e he y hab with hl | hl
    exacts [(hU.freed y hy).1 hl, Nat.not_le.2 (hU.freed y hy).2 hl]
  · rw [ht, List.mem_append] at hy
    rcases hy with hy | hy
    · exact ⟨hC.stays_dead y (hU.freed y hy).2 (hU.freed y hy).1,
        Nat.lt_of_lt_of_le (hU.freed y hy).2 hC.nextObj_le⟩
    · exact hf y hy

/-- Over every run of the public API, with whatever its collaborators answer
and hand back, no call touches a record after `dpiUtils__freeMemory` has
reclaimed it: no call on it, no second reclaim, no new record at its address
and no new dependent of it; and every reclaimed record stays reclaimed. -/
theorem api_reachable_no_use_after_free {H : Helpers} {s : State} {h : Held}
    (hR : ApiReachable H s h) :
    NoUseAfterFree s.trace ∧ ∀ y, Event.freeMemory y ∈ s.trace → s.objects y = none := by
  have hU : RefInv s h (fun _ => false) ∧ Reclaimed s := by
    induction hR with
    | start s hs ht => exact ⟨RefInv.start hs ht, ht ▸ .of_no_free (by simp), by simp [ht]⟩
    | call c _ hc ih => exact ⟨ih.1.api_call H c hc, ih.2.step (ih.1.api_clean H c hc)⟩
  exact ⟨hU.2.trace, fun y hy => by simpa [State.Live] using (hU.2.freed y hy).1⟩

theorem api_reachable_no_use_after_free_cascade :
    let s₀ := State.init []
    let r₁ := (ApiCall.lifetime (.allocate 0 none none none)).run Helpers.exact s₀
      ⟨fun _ => 0, s₀.typeRefCount⟩
    let r₂ := (ApiCall.getAttributeValue 0 ⟨"A", 0, ⟨.object, 0, some 0⟩⟩ .object
      ⟨.asObject (some 7) (some 7), false, none⟩).run Helpers.exact r₁.1 r₁.2
    let r₃ := (ApiCall.lifetime (.release 0)).run Helpers.exact r₂.1 r₂.2
    let r₄ := (ApiCall.lifetime (.release 1)).run Helpers.exact r₃.1 r₃.2
    ApiReachable Helpers.exact r₄.1 r₄.2 ∧ NoUseAfterFree r₄.1.trace ∧
      ∀ y, Event.freeMemory y ∈ r₄.1.trace → r₄.1.objects y = none :=
  have hR := ApiReachable.call (.lifetime (.release 1))
    (ApiReachable.call (.lifetime (.release 0))
      (ApiReachable.call (.getAttributeValue 0 ⟨"A", 0, ⟨.object, 0, some 0⟩⟩ .object
          ⟨.asObject (some 7) (some 7), false, none⟩)
        (ApiReachable.call (.lifetime (.allocate 0 none none none)) (.start _ (fun _ => rfl) rfl)
          fun _ h => by cases h) fun x hx => by cases hx; decide)
      (by show 0 < _; decide))
    (by show 0 < _; decide)
  ⟨hR, api_reachable_no_use_after_free hR⟩

end Object

end Dpi
