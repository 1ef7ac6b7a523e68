import DpiObject.Allocate

/-! Reference counts over whole runs of `dpiObject__allocate`, `dpiObject_copy`,
`dpiObject_addRef` and `dpiObject_release`. A type's count is the references
held outside this file plus the live records of that type; a record's count is
the references held outside plus its live dependents; every dependent's parent
is live; and `dpiOci__objectFree` is only called on records created without a
parent. Inside `dpiObject__free` a parent is freed while the record that
released it is still allocated: the invariant leaves such records, the set
`E`, out of its counts. -/
namespace Dpi.Object

/-- The references the callers of this file hold, on records and on types. -/
structure Held where
  obj : ObjId → Nat
  type : TypeId → Nat

namespace Held

/-- One more reference on record `x`. -/
def give (h : Held) (x : ObjId) : Held := { h with obj := Function.update h.obj x (h.obj x + 1) }

/-- One reference on record `x` given back. -/
def drop (h : Held) (x : ObjId) : Held := { h with obj := Function.update h.obj x (h.obj x - 1) }

/-- No reference on record `x` any more. -/
def clear (h : Held) (x : ObjId) : Held := { h with obj := Function.update h.obj x 0 }

variable (h : Held) (x : ObjId)

@[simp] theorem give_type : (h.give x).type = h.type := rfl
@[simp] theorem drop_type : (h.drop x).type = h.type := rfl
@[simp] theorem clear_type : (h.clear x).type = h.type := rfl
@[simp] theorem give_obj_self : (h.give x).obj x = h.obj x + 1 := by simp [give]
@[simp] theorem drop_obj_self : (h.drop x).obj x = h.obj x - 1 := by simp [drop]
@[simp] theorem clear_obj_self : (h.clear x).obj x = 0 := by simp [clear]

variable {h x}

theorem give_obj_of_ne {y : ObjId} (hy : y ≠ x) : (h.give x).obj y = h.obj y := by
  simp [give, Function.update_noteq hy]

theorem drop_obj_of_ne {y : ObjId} (hy : y ≠ x) : (h.drop x).obj y = h.obj y := by
  simp [drop, Function.update_noteq hy]

theorem clear_obj_of_ne {y : ObjId} (hy : y ≠ x) : (h.clear x).obj y = h.obj y := by
  simp [clear, Function.update_noteq hy]

theorem clear_give (hx : h.obj x = 0) : (h.give x).clear x = h := by
  cases h
  simp only [give, clear, mk.injEq, and_true, Function.update_idem]
  exact Function.update_eq_self_iff.mpr hx.symm

theorem clear_of_zero (hx : h.obj x = 0) : h.clear x = h := by
  cases h
  simp only [clear, mk.injEq, and_true]
  exact Function.update_eq_self_iff.mpr hx.symm

end Held

/-! ### Counting live records -/

/-- The fields of a record the counts look at: its type and its parent. -/
def shape (r : Object) : TypeId × Option ObjId := (r.type, r.dependsOnObj)

/-- `E` with `x` added. -/
def insertE (E : ObjId → Bool) (x : ObjId) : ObjId → Bool := fun y => E y || y == x

/-- The live records below `s.nextObj`, outside `E`, whose shape satisfies `f`. -/
def countLive (s : State) (E : ObjId → Bool) (f : TypeId × Option ObjId → Bool) : Nat :=
  (List.range s.nextObj).countP fun y => !E y && ((s.objects y).map shape).any f

/-- The live records of type `t`. -/
def typeUsers (s : State) (E : ObjId → Bool) (t : TypeId) : Nat :=
  countLive s E fun sh => sh.1 == t

/-- The live records whose parent is `x`. -/
def dependents (s : State) (E : ObjId → Bool) (x : ObjId) : Nat :=
  countLive s E fun sh => sh.2 == some x

/-- Two predicates on `range n` that differ only at `x`, where the second is false. -/
theorem countP_range_eq_add {p q : Nat → Bool} {x : Nat} (hx : ∀ y, y ≠ x → p y = q y)
    (hq : q x = false) : ∀ n, (List.range n).countP p =
      (List.range n).countP q + if x < n ∧ p x = true then 1 else 0
  | 0 => rfl
  | n + 1 => by
    simp only [List.range_succ, List.countP_append, countP_range_eq_add hx hq n,
      List.countP_singleton]
    by_cases hn : n = x
    · subst hn; simp [hq]
    · rw [hx n hn]
      have : x < n + 1 ↔ x < n := by omega
      simp only [this]
      omega

section Counting

variable {s s' : State} {E : ObjId → Bool} {f : TypeId × Option ObjId → Bool}

theorem countLive_congr (hn : s'.nextObj = s.nextObj)
    (h : ∀ y, (s'.objects y).map shape = (s.objects y).map shape) :
    countLive s' E f = countLive s E f := by
  simp only [countLive, hn, h]

/-- Leaving `x` out of the count. -/
theorem countLive_insertE (x : ObjId) :
    countLive s E f = countLive s (insertE E x) f +
      if x < s.nextObj ∧ (!E x && ((s.objects x).map shape).any f) = true then 1 else 0 :=
  countP_range_eq_add (fun y hy => by simp [insertE, beq_false_of_ne hy]) (by simp [insertE]) _

/-- A reclaimed record counts as one left out. -/
theorem countLive_freeMemory (x : ObjId) :
    countLive (s.freeMemory x) E f = countLive s (insertE E x) f := by
  unfold countLive
  congr 1
  funext y
  by_cases hy : y = x
  · subst hy; simp [insertE]
  · simp [insertE, beq_false_of_ne hy, Function.update_noteq hy]

/-- One more address, holding the record `s'` has there. -/
theorem countLive_succ (hn : s'.nextObj = s.nextObj + 1)
    (h : ∀ y, y < s.nextObj → (s'.objects y).map shape = (s.objects y).map shape) :
    countLive s' E f = countLive s E f +
      if (!E s.nextObj && ((s'.objects s.nextObj).map shape).any f) = true then 1 else 0 := by
  unfold countLive
  rw [hn, List.range_succ, List.countP_append, List.countP_singleton]
  congr 1
  exact List.countP_congr fun y hy => by rw [h y (List.mem_range.mp hy)]

theorem countLive_eq_zero (h : ∀ y r, y < s.nextObj → s.objects y = some r → E y = false →
    f (shape r) = false) : countLive s E f = 0 := by
  refine List.countP_eq_zero.mpr fun y hy => ?_
  cases hr : s.objects y with
  | none => simp
  | some r =>
    cases hE : E y
    · simp [h y r (List.mem_range.mp hy) hr hE]
    · simp

end Counting

theorem dependents_pos {s : State} {E : ObjId → Bool} {x y : ObjId} {r : Object}
    (hy : y < s.nextObj) (hr : s.objects y = some r) (hE : E y = false)
    (hp : r.dependsOnObj = some x) : 0 < dependents s E x :=
  List.countP_pos_iff.mpr ⟨y, List.mem_range.mpr hy, by simp [hr, hE, hp, shape]⟩

/-- Leaving out a record whose parent is `p` takes one dependent from `p`. -/
theorem dependents_insertE {s : State} {E : ObjId → Bool} {x p : ObjId} {r : Object}
    (hx : x < s.nextObj) (hr : s.objects x = some r) (hE : E x = false)
    (hp : r.dependsOnObj = some p) :
    dependents s E p = dependents s (insertE E x) p + 1 := by
  rw [dependents, countLive_insertE x]
  simp [hx, hr, hE, hp, shape, dependents]

/-- Leaving out a record changes no count it is not part of. -/
theorem countLive_insertE_of_not {s : State} {E : ObjId → Bool} {f : TypeId × Option ObjId → Bool}
    {x : ObjId} {r : Object} (hr : s.objects x = some r) (hf : f (shape r) = false) :
    countLive s E f = countLive s (insertE E x) f := by
  rw [countLive_insertE x]
  simp [hr, hf]

theorem map_shape_of_map_keep {o o' : Option Object} (h : o'.map keep = o.map keep) :
    o'.map shape = o.map shape := by
  have := congrArg (Option.map fun k => (k.1, k.2.1)) h
  simpa only [Option.map_map] using this

theorem exists_of_map_keep {o o' : Option Object} (h : o'.map keep = o.map keep) {r' : Object}
    (hr' : o' = some r') : ∃ r, o = some r ∧ keep r' = keep r := by
  subst hr'
  cases o with
  | none => simp at h
  | some r => exact ⟨r, rfl, by simpa using h⟩

theorem isSome_of_map_shape {o o' : Option Object} (h : o'.map shape = o.map shape) :
    o'.isSome = o.isSome := by
  cases o <;> cases o' <;> simp_all

theorem parentDec_map_shape (o : ObjId → Option Object) (p : Option ObjId) (y : ObjId) :
    (parentDec o p y).map shape = (o y).map shape := by
  cases p with
  | none => rfl
  | some q =>
    by_cases hy : y = q
    · subst hy; cases hy : o y <;> simp [parentDec, shape, hy]
    · simp [parentDec, Function.update_noteq hy]

theorem exists_of_map_shape {o o' : Option Object} (h : o'.map shape = o.map shape)
    {r' : Object} (hr' : o' = some r') : ∃ r, o = some r ∧ shape r' = shape r := by
  subst hr'
  cases o with
  | none => simp at h
  | some r => exact ⟨r, rfl, by simpa using h⟩

@[simp] theorem insertE_eq_false {E : ObjId → Bool} {x y : ObjId} :
    insertE E x y = false ↔ E y = false ∧ y ≠ x := by
  simp [insertE]

theorem parentInc_map_shape (o : ObjId → Option Object) (p : Option ObjId) (y : ObjId) :
    (parentInc o p y).map shape = (o y).map shape := by
  cases p with
  | none => rfl
  | some q =>
    by_cases hy : y = q
    · subst hy; cases hy : o y <;> simp [parentInc, shape, hy]
    · simp [parentInc, Function.update_noteq hy]

/-! ### The invariant -/

/-- The record an event creates, if it is a creation. -/
def allocId : Event → Option ObjId
  | .allocate y _ => some y
  | _ => none

/-- The records whose creation the calls `l` log, in order. -/
def allocIds (l : List Event) : List ObjId := l.filterMap allocId

@[simp] theorem allocIds_nil : allocIds [] = [] := rfl

@[simp] theorem allocIds_append (l l' : List Event) :
    allocIds (l ++ l') = allocIds l ++ allocIds l' :=
  List.filterMap_append ..

theorem mem_allocIds {l : List Event} {y : ObjId} :
    y ∈ allocIds l ↔ ∃ p, Event.allocate y p ∈ l := by
  simp only [allocIds, List.mem_filterMap]
  constructor
  · rintro ⟨e, he, hy⟩
    cases e <;> simp only [allocId, Option.some.injEq, reduceCtorEq] at hy
    exact ⟨_, hy ▸ he⟩
  · rintro ⟨p, hp⟩
    exact ⟨_, hp, rfl⟩

/-- Calls that create no record add no creation. -/
theorem allocIds_append_of_none {l l' : List Event} (h : ∀ e ∈ l', allocId e = none) :
    allocIds (l ++ l') = allocIds l := by
  rw [allocIds_append, List.append_right_eq_self, allocIds, List.filterMap_eq_nil_iff]
  exact h

theorem AllocCalls.allocIds_eq {x : ObjId} {p : Option ObjId} {pre : List Event}
    (h : AllocCalls x p pre) : allocIds pre = [x] := by
  rcases h with rfl | ⟨_, rfl⟩ <;> rfl

/-- What holds of every reachable state, with the records of `E` (those whose
`dpiObject__free` is under way) left out of the counts: records live only below
`nextObj`; a counted record's parent is an older live counted record; held
references are on live counted records; the two counts; and the calls: every
live record's creation is logged, no record is created twice, and every
`dpiOci__objectFree` is on a record created without a parent. -/
structure RefInv (s : State) (h : Held) (E : ObjId → Bool) : Prop where
  bound : ∀ y, s.nextObj ≤ y → s.objects y = none
  parent : ∀ y r, s.objects y = some r → E y = false → ∀ p, r.dependsOnObj = some p →
    p < y ∧ s.Live p ∧ E p = false
  held_live : ∀ y, 0 < h.obj y → s.Live y ∧ E y = false
  type_count : ∀ t, s.typeRefCount t = h.type t + typeUsers s E t
  ref_count : ∀ y r, s.objects y = some r → E y = false →
    r.refCount = h.obj y + dependents s E y
  alloc_logged : ∀ y r, s.objects y = some r → Event.allocate y r.dependsOnObj ∈ s.trace
  alloc_bound : ∀ y p, Event.allocate y p ∈ s.trace → y < s.nextObj
  alloc_nodup : (allocIds s.trace).Nodup
  frees_top : ∀ y tg hd ck ok, Event.objectFree y tg hd ck ok ∈ s.trace →
    Event.allocate y none ∈ s.trace

namespace RefInv

variable {s s' : State} {h : Held} {E : ObjId → Bool}

/-- The next address has not been created yet, so creating it keeps the
creations distinct. -/
theorem nodup_fresh (hI : RefInv s h E) : (allocIds s.trace ++ [s.nextObj]).Nodup :=
  List.pairwise_append.2 ⟨hI.alloc_nodup, List.pairwise_singleton _ _, fun a ha b hb => by
    obtain ⟨p, hp⟩ := mem_allocIds.1 ha
    rw [List.mem_singleton.1 hb]
    exact Nat.ne_of_lt (hI.alloc_bound a p hp)⟩

theorem lt_nextObj (hI : RefInv s h E) {y : ObjId} {r : Object} (hr : s.objects y = some r) :
    y < s.nextObj :=
  Nat.lt_of_not_le fun hy => by simp [hI.bound y hy] at hr

/-- A step that keeps every record's type and parent and `nextObj`, whose calls
only free handles of records created without a parent, and after which the
counts match the references the callers hold. -/
theorem of_shape (hI : RefInv s h E) (h' : Held) (hn : s'.nextObj = s.nextObj)
    (hsh : ∀ y, (s'.objects y).map shape = (s.objects y).map shape)
    (new : List Event) (htr : s'.trace = s.trace ++ new)
    (hnew : ∀ e ∈ new, ∃ y tg hd ck ok, e = .objectFree y tg hd ck ok ∧
      Event.allocate y none ∈ s.trace)
    (hheld : ∀ y, 0 < h'.obj y → s.Live y ∧ E y = false)
    (htype : ∀ t, s'.typeRefCount t = h'.type t + typeUsers s E t)
    (href : ∀ y r', s'.objects y = some r' → E y = false →
      r'.refCount = h'.obj y + dependents s E y) :
    RefInv s' h' E := by
  have hlive : ∀ y, s'.Live y ↔ s.Live y := fun y => by
    simp only [State.Live, isSome_of_map_shape (hsh y)]
  have hallocs : ∀ y p, Event.allocate y p ∈ s'.trace ↔ Event.allocate y p ∈ s.trace := by
    intro y p
    rw [htr, List.mem_append]
    refine ⟨fun h' => h'.resolve_right fun hm => ?_, Or.inl⟩
    obtain ⟨_, _, _, _, _, he, -⟩ := hnew _ hm
    cases he
  have hdep : ∀ y r', s'.objects y = some r' → ∃ r, s.objects y = some r ∧
      r'.dependsOnObj = r.dependsOnObj := fun y r' hr' => by
    obtain ⟨r, hr, hs⟩ := exists_of_map_shape (hsh y) hr'
    exact ⟨r, hr, congrArg Prod.snd hs⟩
  refine ⟨fun y hy => ?_, fun y r' hr' hE p hp => ?_, fun y hy => ?_, fun t => ?_,
    fun y r' hr' hE => ?_, fun y r' hr' => ?_, fun y p hm => ?_, ?_,
    fun y tg hd ck ok hm => ?_⟩
  · have := hsh y
    rw [hI.bound y (hn ▸ hy)] at this
    simpa using this
  · obtain ⟨r, hr, hd⟩ := hdep y r' hr'
    obtain ⟨h1, h2, h3⟩ := hI.parent y r hr hE p (hd ▸ hp)
    exact ⟨h1, (hlive p).mpr h2, h3⟩
  · obtain ⟨h1, h2⟩ := hheld y hy
    exact ⟨(hlive y).mpr h1, h2⟩
  · rw [htype, typeUsers, typeUsers, countLive_congr hn hsh]
  · rw [href y r' hr' hE, dependents, dependents, countLive_congr hn hsh]
  · obtain ⟨r, hr, hd⟩ := hdep y r' hr'
    rw [hd, htr]
    exact List.mem_append_left _ (hI.alloc_logged y r hr)
  · exact hn ▸ hI.alloc_bound y p ((hallocs y p).mp hm)
  · rw [htr, allocIds_append_of_none fun e he => by
      obtain ⟨_, _, _, _, _, rfl, -⟩ := hnew e he
      rfl]
    exact hI.alloc_nodup
  · rw [hallocs]
    rw [htr, List.mem_append] at hm
    rcases hm with hm | hm
    · exact hI.frees_top y tg hd ck ok hm
    · obtain ⟨y', _, _, _, _, he, ha⟩ := hnew _ hm
      cases he
      exact ha

/-- A step that keeps every record's type, parent and count, the type counts
and `nextObj`, and whose calls only free handles of records created without a
parent. -/
theorem of_keep (hI : RefInv s h E) (hn : s'.nextObj = s.nextObj)
    (ho : ∀ y, (s'.objects y).map keep = (s.objects y).map keep)
    (ht : s'.typeRefCount = s.typeRefCount) (new : List Event) (htr : s'.trace = s.trace ++ new)
    (hnew : ∀ e ∈ new, ∃ y tg hd ck ok, e = .objectFree y tg hd ck ok ∧
      Event.allocate y none ∈ s.trace) :
    RefInv s' h E :=
  hI.of_shape h hn (fun y => map_shape_of_map_keep (ho y)) new htr hnew hI.held_live
    (fun t => ht ▸ hI.type_count t) fun y r' hr' hE => by
      obtain ⟨r, hr, hk⟩ := exists_of_map_keep (ho y) hr'
      rw [show r'.refCount = r.refCount from congrArg (fun k => k.2.2.1) hk]
      exact hI.ref_count y r hr hE

/-- `dpiObject__close` keeps the invariant. -/
theorem close (hI : RefInv s h E) (x : ObjId) (ck : Bool) : RefInv (Object.close s x ck).1 h E := by
  have hk := close_keeps (s := s) (x := x) ck
  obtain ⟨new, htr, hnew⟩ := close_calls (s := s) (x := x) ck
  refine hI.of_keep hk.nextObj (fun y => ?_) hk.typeRefCount new htr fun e he => ?_
  · by_cases hy : y = x
    · subst hy; exact hk.objects_self
    · rw [hk.objects_ne y hy]
  · obtain ⟨ho, tg, hd, ok, rfl⟩ := hnew e he
    refine ⟨x, tg, hd, ck, ok, rfl, ?_⟩
    cases hx : s.objects x with
    | none => simp [ownsNative, State.obj, hx, default] at ho
    | some r =>
      have := hI.alloc_logged x r hx
      simp only [ownsNative, s.obj_of_objects hx, Bool.and_eq_true, Option.isNone_iff_eq_none] at ho
      rwa [ho.2] at this

end RefInv

namespace RefInv

variable {s s' : State} {h : Held} {E : ObjId → Bool}

/-- Dropping the references record `x` holds on its type and its parent, once
nothing counted depends on `x`: the invariant holds with `x` left out. -/
theorem detach (hI : RefInv s h E) {x : ObjId} {r : Object} (hr : s.objects x = some r)
    (hE : E x = false) (hd : dependents s E x = 0) (hn : s'.nextObj = s.nextObj)
    (ho : s'.objects = parentDec s.objects r.dependsOnObj)
    (ht : s'.typeRefCount = Function.update s.typeRefCount r.type (s.typeRefCount r.type - 1))
    (htr : s'.trace = s.trace) :
    RefInv s' (h.clear x) (insertE E x) := by
  have hsh : ∀ y, (s'.objects y).map shape = (s.objects y).map shape := fun y => by
    rw [ho]; exact parentDec_map_shape _ _ y
  have hlive : ∀ y, s'.Live y ↔ s.Live y := fun y => by
    simp only [State.Live, isSome_of_map_shape (hsh y)]
  have hx := hI.lt_nextObj hr
  have hcount : ∀ f, countLive s' (insertE E x) f = countLive s (insertE E x) f :=
    fun f => countLive_congr hn hsh
  refine ⟨fun y hy => ?_, fun y r' hr' hyE p hp => ?_, fun y hy => ?_, fun t => ?_,
    fun y r' hr' hyE => ?_, fun y r' hr' => ?_, fun y p hm => ?_, ?_,
    fun y tg hd ck ok hm => ?_⟩
  · have := hsh y
    rw [hI.bound y (hn ▸ hy)] at this
    simpa using this
  · obtain ⟨hyE', hyx⟩ := insertE_eq_false.mp hyE
    obtain ⟨r₀, hr₀, hs⟩ := exists_of_map_shape (hsh y) hr'
    have hp₀ : r₀.dependsOnObj = some p := by
      rw [← hp]; exact (congrArg Prod.snd hs).symm
    obtain ⟨h1, h2, h3⟩ := hI.parent y r₀ hr₀ hyE' p hp₀
    have hpx : p ≠ x := by
      rintro rfl
      have := dependents_pos (hI.lt_nextObj hr₀) hr₀ hyE' hp₀
      omega
    exact ⟨h1, (hlive p).mpr h2, insertE_eq_false.mpr ⟨h3, hpx⟩⟩
  · have hyx : y ≠ x := by rintro rfl; simp at hy
    have hy' : 0 < h.obj y := by rwa [Held.clear_obj_of_ne hyx] at hy
    obtain ⟨h1, h2⟩ := hI.held_live y hy'
    exact ⟨(hlive y).mpr h1, insertE_eq_false.mpr ⟨h2, hyx⟩⟩
  · rw [ht, typeUsers, hcount, Held.clear_type]
    by_cases htt : t = r.type
    · subst htt
      have := countLive_insertE (s := s) (E := E) (f := fun sh => sh.1 == r.type) x
      rw [if_pos (by simp [hx, hE, hr, shape])] at this
      rw [Function.update_same, hI.type_count, typeUsers, this]
      omega
    · rw [Function.update_noteq htt, hI.type_count, typeUsers,
        countLive_insertE_of_not hr (by simpa [shape] using Ne.symm htt)]
  · obtain ⟨hyE', hyx⟩ := insertE_eq_false.mp hyE
    obtain ⟨r₀, hr₀, -⟩ := exists_of_map_shape (hsh y) hr'
    have hc := hI.ref_count y r₀ hr₀ hyE'
    rw [dependents, hcount, Held.clear_obj_of_ne hyx]
    rw [ho] at hr'
    cases hp : r.dependsOnObj with
    | some p =>
      by_cases hyp : y = p
      · subst hyp
        have hdep := dependents_insertE hx hr hE hp
        simp only [parentDec, hp, Function.update_same, hr₀, Option.map_some',
          Option.some.injEq] at hr'
        rw [← hr']
        simp only [dependents] at hdep hc
        dsimp only
        omega
      · simp only [parentDec, hp, Function.update_noteq hyp, hr₀, Option.some.injEq] at hr'
        rw [← hr', hc, dependents,
          countLive_insertE_of_not hr (by simpa [shape, hp] using Ne.symm hyp)]
    | none =>
      simp only [parentDec, hp, hr₀, Option.some.injEq] at hr'
      rw [← hr', hc, dependents, countLive_insertE_of_not hr (by simp [shape, hp])]
  · obtain ⟨r₀, hr₀, hs⟩ := exists_of_map_shape (hsh y) hr'
    have hd₀ : r'.dependsOnObj = r₀.dependsOnObj := congrArg Prod.snd hs
    rw [htr, hd₀]
    exact hI.alloc_logged y r₀ hr₀
  · exact hn ▸ hI.alloc_bound y p (htr ▸ hm)
  · exact htr ▸ hI.alloc_nodup
  · rw [htr] at hm ⊢
    exact hI.frees_top y tg hd ck ok hm

/-- Reclaiming a record left out of the counts: the invariant holds without it. -/
theorem freeMemory {x : ObjId} (hI : RefInv s h (insertE E x)) : RefInv (s.freeMemory x) h E := by
  have hobj : ∀ y r, (s.freeMemory x).objects y = some r → y ≠ x ∧ s.objects y = some r := by
    intro y r hy
    by_cases hyx : y = x
    · subst hyx; simp at hy
    · simpa [Function.update_noteq hyx, hyx] using hy
  have hlive : ∀ y, y ≠ x → s.Live y → (s.freeMemory x).Live y := fun y hyx hy => by
    simpa [State.Live, Function.update_noteq hyx] using hy
  refine ⟨fun y hy => ?_, fun y r hr hyE p hp => ?_, fun y hy => ?_, fun t => ?_,
    fun y r hr hyE => ?_, fun y r hr => ?_, fun y p hm => ?_, ?_,
    fun y tg hd ck ok hm => ?_⟩
  · by_cases hyx : y = x
    · subst hyx; simp
    · simp [Function.update_noteq hyx, hI.bound y hy]
  · obtain ⟨hyx, hr⟩ := hobj y r hr
    obtain ⟨h1, h2, h3⟩ := hI.parent y r hr (insertE_eq_false.mpr ⟨hyE, hyx⟩) p hp
    obtain ⟨h3, hpx⟩ := insertE_eq_false.mp h3
    exact ⟨h1, hlive p hpx h2, h3⟩
  · obtain ⟨h1, h2⟩ := hI.held_live y hy
    obtain ⟨h2, hyx⟩ := insertE_eq_false.mp h2
    exact ⟨hlive y hyx h1, h2⟩
  · rw [State.freeMemory_typeRefCount, hI.type_count, typeUsers, typeUsers,
      countLive_freeMemory]
  · obtain ⟨hyx, hr⟩ := hobj y r hr
    rw [hI.ref_count y r hr (insertE_eq_false.mpr ⟨hyE, hyx⟩), dependents, dependents,
      countLive_freeMemory]
  · obtain ⟨-, hr⟩ := hobj y r hr
    simpa using hI.alloc_logged y r hr
  · simp only [State.freeMemory_trace, List.mem_append, List.mem_singleton] at hm
    rcases hm with hm | hm
    · exact hI.alloc_bound y p hm
    · cases hm
  · rw [State.freeMemory_trace, allocIds_append_of_none (by simp [allocId])]
    exact hI.alloc_nodup
  · simp only [State.freeMemory_trace, List.mem_append, List.mem_singleton] at hm ⊢
    rcases hm with hm | hm
    · exact Or.inl (hI.frees_top y tg hd ck ok hm)
    · cases hm

end RefInv

/-- `dpiObject__free` of a live record that nothing counted depends on keeps the
invariant, through every parent it frees in turn, and the callers hold no
reference on the record any more. -/
theorem free_refInv (s : State) (x : ObjId) : ∀ (h : Held) (E : ObjId → Bool) (r : Object),
    RefInv s h E → s.objects x = some r → E x = false → dependents s E x = 0 →
    RefInv (free s x) (h.clear x) E := by
  induction s, x using free.induct with
  | case1 s x s₁ r₁ s₂ ih =>
    intro h E r hI hr hE hd
    have hk := close_keeps (s := s) (x := x) false
    have hkeep : ∀ y, (s₁.objects y).map keep = (s.objects y).map keep := fun y => by
      by_cases hy : y = x
      · subst hy; exact hk.objects_self
      · rw [hk.objects_ne y hy]
    have hI₁ : RefInv s₁ h E := hI.close x false
    obtain ⟨r', hr', -⟩ := hk.obj_keep hr
    have hr₁ : r₁ = r' := s₁.obj_of_objects hr'
    have hd₁ : dependents s₁ E x = 0 := by
      rwa [dependents, countLive_congr hk.nextObj fun y => map_shape_of_map_keep (hkeep y)]
    have hD : ∀ s' : State, s'.nextObj = s₁.nextObj →
        s'.objects = parentDec s₁.objects r'.dependsOnObj →
        s'.typeRefCount = Function.update s₁.typeRefCount r'.type (s₁.typeRefCount r'.type - 1) →
        s'.trace = s₁.trace → RefInv s' (h.clear x) (insertE E x) :=
      fun s' hn ho ht htr => hI₁.detach hr' hE hd₁ hn ho ht htr
    rw [free_eq]
    refine RefInv.freeMemory ?_
    show RefInv (match r₁.dependsOnObj with
      | none => s₂
      | some p =>
          let d := decRef s₂ p
          if _h : d.2 = true ∧ p < x then free d.1 p else d.1) (h.clear x) (insertE E x)
    subst hr₁
    cases hp : r₁.dependsOnObj with
    | none => exact hD s₂ rfl (by simp [hp, parentDec, s₂]) rfl rfl
    | some p =>
      have hD₂ := hD (decRef s₂ p).1 rfl (by simp [hp, parentDec, decRef, s₂, State.modify]) rfl rfl
      obtain ⟨hpx, hplive, hpE⟩ := hI₁.parent x r₁ hr' hE p hp
      obtain ⟨rp, hrp⟩ := s₁.live_iff.mp hplive
      dsimp only
      split
      · rename_i hc
        have h1 : rp.refCount = 1 := by
          simpa [decRef, s₂, State.obj, hrp] using hc.1
        have hdep := dependents_insertE (hI₁.lt_nextObj hr') hr' hE hp
        have hcnt := hI₁.ref_count p rp hrp hpE
        have hdp : dependents (decRef s₂ p).1 (insertE E x) p = 0 := by
          rw [dependents, countLive_congr (show (decRef s₂ p).1.nextObj = s₁.nextObj from rfl)
            fun y => by
            by_cases hy : y = p
            · subst hy; simp [decRef, s₂, State.modify, hrp, shape]
            · simp [decRef, s₂, State.modify_objects_of_ne _ _ hy]]
          simp only [dependents] at hdep hcnt
          omega
        have hhp : (h.clear x).obj p = 0 := by
          rw [Held.clear_obj_of_ne (Nat.ne_of_lt hpx)]
          simp only [dependents] at hdep hcnt
          omega
        have := ih p hc (h.clear x) (insertE E x) { rp with refCount := rp.refCount - 1 } hD₂
          (by simp [decRef, s₂, State.modify, hrp])
          (insertE_eq_false.mpr ⟨hpE, Nat.ne_of_lt hpx⟩) hdp
        rwa [Held.clear_of_zero hhp] at this
      · exact hD₂

/-! ### One call at a time -/

namespace RefInv

variable {s : State} {h : Held} {E : ObjId → Bool}

theorem afterCall (hI : RefInv s h E) : RefInv s.afterCall h E :=
  ⟨hI.1, hI.2, hI.3, hI.4, hI.5, hI.6, hI.7, hI.8, hI.9⟩

theorem live_lt (hI : RefInv s h E) {y : ObjId} (hy : s.Live y) : y < s.nextObj := by
  obtain ⟨r, hr⟩ := s.live_iff.mp hy
  exact hI.lt_nextObj hr

/-- No record depends on the newest address or a later one. -/
theorem dependents_of_le (hI : RefInv s h E) {x : ObjId} (hx : s.nextObj ≤ x + 1) :
    dependents s E x = 0 :=
  countLive_eq_zero fun y r hy hr hE => by
    cases hp : r.dependsOnObj with
    | none => simp [shape, hp]
    | some q =>
      have : q ≠ x := Nat.ne_of_lt (Nat.lt_of_lt_of_le (hI.parent y r hr hE q hp).1
        (Nat.le_of_lt_succ (Nat.lt_of_lt_of_le hy hx)))
      simp [shape, hp, this]

/-- Setting a live counted record's count to the references held on it plus
its dependents. -/
theorem setCount (hI : RefInv s h E) {x : ObjId} {r : Object} (hr : s.objects x = some r)
    (hE : E x = false) (h' : Held) (hobj : ∀ y, y ≠ x → h'.obj y = h.obj y)
    (htype : h'.type = h.type) :
    RefInv (s.modify x fun r => { r with refCount := h'.obj x + dependents s E x }) h' E := by
  refine hI.of_shape h' rfl (fun y => ?_) [] (by simp) (by simp) (fun y hy => ?_)
    (fun t => by rw [State.modify_typeRefCount, htype]; exact hI.type_count t)
    (fun y r' hr' hyE => ?_)
  · by_cases hy : y = x
    · subst hy; simp [hr, shape]
    · rw [State.modify_objects_of_ne _ _ hy]
  · by_cases hy' : y = x
    · subst hy'; exact ⟨s.live_iff.mpr ⟨r, hr⟩, hE⟩
    · exact hI.held_live y (by rwa [← hobj y hy'])
  · by_cases hy : y = x
    · subst hy
      simp only [State.modify_objects_self, hr, Option.map_some', Option.some.injEq] at hr'
      rw [← hr']
    · rw [State.modify_objects_of_ne _ _ hy] at hr'
      rw [hobj y hy]; exact hI.ref_count y r' hr' hyE

/-- `dpiGen__setRefCount(obj, error, 1)` for a caller taking one more reference. -/
theorem incRef (hI : RefInv s h E) {x : ObjId} {r : Object} (hr : s.objects x = some r)
    (hE : E x = false) : RefInv (Object.incRef s x) (h.give x) E := by
  have hc := hI.ref_count x r hr hE
  rw [Object.incRef, s.modify_congr hr (g := fun r =>
    { r with refCount := (h.give x).obj x + dependents s E x }) (by simp [hc]; omega)]
  exact hI.setCount hr hE _ (fun y hy => Held.give_obj_of_ne hy) rfl

/-- `dpiGen__setRefCount(obj, error, -1)` for a caller giving one reference back. -/
theorem decRef (hI : RefInv s h E) {x : ObjId} {r : Object} (hr : s.objects x = some r)
    (hE : E x = false) (hx : 0 < h.obj x) : RefInv (Object.decRef s x).1 (h.drop x) E := by
  have hc := hI.ref_count x r hr hE
  rw [Object.decRef, s.modify_congr hr (g := fun r =>
    { r with refCount := (h.drop x).obj x + dependents s E x }) (by simp [hc]; omega)]
  exact hI.setCount hr hE _ (fun y hy => Held.drop_obj_of_ne hy) rfl

end RefInv

namespace RefInv

variable {s u : State} {h : Held} {E : ObjId → Bool}

/-- A successful `dpiObject__allocate`: the new record is counted, and the
callers hold its one reference. -/
theorem built (hI : RefInv s h E) {t : TypeId} {p : Option ObjId} {r : Object}
    {pre : List Event} (hB : Built s t p u r pre) (hEn : E s.nextObj = false)
    (hp : ∀ q, p = some q → 0 < h.obj q) : RefInv u (h.give s.nextObj) E := by
  have hP := hB.pending
  have hq : ∀ q, r.dependsOnObj = some q → q < s.nextObj ∧ s.Live q ∧ E q = false :=
    fun q hq => by
      obtain ⟨h1, h2⟩ := hI.held_live q (hp q (hB.dependsOnObj_eq ▸ hq))
      exact ⟨hI.live_lt h1, h1, h2⟩
  have hqn : ∀ q, r.dependsOnObj = some q → q ≠ s.nextObj := fun q h' => Nat.ne_of_lt (hq q h').1
  have hun : u.objects s.nextObj = some r := by rw [hP.objects_eq, parentInc_apply_self hqn]
  have hold : ∀ y, y ≠ s.nextObj → u.objects y = parentInc s.objects r.dependsOnObj y :=
    fun y hy => by rw [hP.objects_eq, parentInc_update_of_ne hqn, Function.update_noteq hy]
  have hsh : ∀ y, y ≠ s.nextObj → (u.objects y).map shape = (s.objects y).map shape :=
    fun y hy => by rw [hold y hy, parentInc_map_shape]
  have hcnt : ∀ f, countLive u E f = countLive s E f + if f (shape r) = true then 1 else 0 :=
    fun f => by
      rw [countLive_succ hP.nextObj_eq fun y hy => hsh y (Nat.ne_of_lt hy), hun]
      simp [hEn]
  have hlive : ∀ y, s.Live y → u.Live y := fun y hy => by
    have := isSome_of_map_shape (hsh y (Nat.ne_of_lt (hI.live_lt hy)))
    simp only [State.Live] at hy ⊢
    rw [this]; exact hy
  have hh0 : h.obj s.nextObj = 0 := Nat.eq_zero_of_not_pos fun h' =>
    Nat.lt_irrefl _ (hI.live_lt (hI.held_live _ h').1)
  have htr := hP.trace_eq
  refine ⟨fun y hy => ?_, fun y r' hr' hyE p' hp' => ?_, fun y hy => ?_, fun t' => ?_,
    fun y r' hr' hyE => ?_, fun y r' hr' => ?_, fun y p' hm => ?_, ?_,
    fun y tg hd ck ok hm => ?_⟩
  · rw [hP.nextObj_eq] at hy
    have := hsh y (Nat.ne_of_gt hy)
    rw [hI.bound y (Nat.le_of_succ_le hy)] at this
    simpa using this
  · by_cases hyn : y = s.nextObj
    · subst hyn
      rw [hun, Option.some.injEq] at hr'
      subst hr'
      obtain ⟨h1, h2, h3⟩ := hq p' hp'
      exact ⟨h1, hlive p' h2, h3⟩
    · obtain ⟨r₀, hr₀, hs⟩ := exists_of_map_shape (hsh y hyn) hr'
      obtain ⟨h1, h2, h3⟩ :=
        hI.parent y r₀ hr₀ hyE p' (by rw [← hp']; exact (congrArg Prod.snd hs).symm)
      exact ⟨h1, hlive p' h2, h3⟩
  · by_cases hyn : y = s.nextObj
    · subst hyn; exact ⟨u.live_iff.mpr ⟨r, hun⟩, hEn⟩
    · obtain ⟨h1, h2⟩ := hI.held_live y (by rwa [Held.give_obj_of_ne hyn] at hy)
      exact ⟨hlive y h1, h2⟩
  · rw [hP.typeRefCount_eq, Held.give_type, typeUsers, hcnt]
    by_cases ht : t' = r.type
    · subst ht
      rw [Function.update_same, hI.type_count, typeUsers]
      simp [shape]; omega
    · rw [Function.update_noteq ht, hI.type_count, typeUsers]
      simp [shape, Ne.symm ht]
  · rw [dependents, hcnt]
    by_cases hyn : y = s.nextObj
    · subst hyn
      rw [hun, Option.some.injEq] at hr'
      subst hr'
      have := hI.dependents_of_le (Nat.le_succ s.nextObj)
      simp only [dependents] at this
      rw [hB.refCount_eq, Held.give_obj_self, hh0, this]
      cases hd : r.dependsOnObj with
      | none => simp [shape, hd]
      | some q => simp [shape, hd, hqn q hd]
    · rw [Held.give_obj_of_ne hyn]
      rw [hold y hyn] at hr'
      cases hd : r.dependsOnObj with
      | none =>
        simp only [hd, parentInc] at hr'
        rw [hI.ref_count y r' hr' hyE]; simp [shape, hd, dependents]
      | some q =>
        by_cases hyq : y = q
        · subst hyq
          obtain ⟨r₀, hr₀⟩ := s.live_iff.mp (hq y hd).2.1
          simp only [hd, parentInc, Function.update_same, hr₀, Option.map_some',
            Option.some.injEq] at hr'
          subst hr'
          rw [hI.ref_count y r₀ hr₀ hyE]; simp [shape, hd, dependents]; omega
        · simp only [hd, parentInc, Function.update_noteq hyq] at hr'
          rw [hI.ref_count y r' hr' hyE]; simp [shape, hd, dependents, Ne.symm hyq]
  · rw [htr]
    by_cases hyn : y = s.nextObj
    · subst hyn
      rw [hun, Option.some.injEq] at hr'
      subst hr'
      rw [hB.dependsOnObj_eq]
      exact List.mem_append_right _ hB.calls.allocate_mem
    · obtain ⟨r₀, hr₀, hs⟩ := exists_of_map_shape (hsh y hyn) hr'
      rw [show r'.dependsOnObj = r₀.dependsOnObj from congrArg Prod.snd hs]
      exact List.mem_append_left _ (hI.alloc_logged y r₀ hr₀)
  · rw [htr, List.mem_append] at hm
    rw [hP.nextObj_eq]
    rcases hm with hm | hm
    · exact Nat.lt_succ_of_lt (hI.alloc_bound y p' hm)
    · rw [(hB.calls.eq_of_allocate_mem hm).1]; exact Nat.lt_succ_self _
  · rw [htr, allocIds_append, hB.calls.allocIds_eq]
    exact hI.nodup_fresh
  · rw [htr, List.mem_append] at hm ⊢
    rcases hm with hm | hm
    · exact Or.inl (hI.frees_top y tg hd ck ok hm)
    · exact absurd hm hB.calls.objectFree_not_mem

/-- A failed `dpiObject__allocate` after its record was created: the records
and counts are as before, and only the fresh address is used up. -/
theorem discard (hI : RefInv s h E) {inst : Option Handle} {p : Option ObjId} {r : Object}
    {pre : List Event} (hD : Discard s inst p u r pre) (hp : ∀ q, p = some q → 0 < h.obj q) :
    RefInv (free u s.nextObj) h E := by
  have hP := hD.pending
  have hx : s.objects s.nextObj = none := hI.bound _ (Nat.le_refl _)
  have hp' : ∀ q, r.dependsOnObj = some q →
      q ≠ s.nextObj ∧ ∃ rq, s.objects q = some rq ∧ 0 < rq.refCount := fun q hq => by
    have hq' := hp q (hD.dependsOnObj_eq ▸ hq)
    obtain ⟨h1, h2⟩ := hI.held_live q hq'
    obtain ⟨rq, hrq⟩ := s.live_iff.mp h1
    refine ⟨Nat.ne_of_lt (hI.live_lt h1), rq, hrq, ?_⟩
    rw [hI.ref_count q rq hrq h2]; omega
  obtain ⟨ho, htc, htr, -⟩ := discard_restores hP hx hp' hD.closing_eq hD.freeIndicator_eq
  have hn : (free u s.nextObj).nextObj = s.nextObj + 1 := by rw [free_nextObj, hP.nextObj_eq]
  have hcnt : ∀ f, countLive (free u s.nextObj) E f = countLive s E f := fun f => by
    rw [countLive_succ hn fun y _ => by rw [ho], ho, hx]; simp
  have hlive : ∀ y, (free u s.nextObj).Live y ↔ s.Live y := fun y => by
    simp only [State.Live, ho]
  have hmem : ∀ e, e ∈ (free u s.nextObj).trace → e ∈ s.trace ∨ e ∈ pre ∨
      (ownsNative r = true ∧ e = .objectFree s.nextObj .instance r.instance false u.callOk) ∨
      e = .freeMemory s.nextObj := fun e he => by
    rw [htr] at he
    simp only [List.mem_append] at he
    rcases he with (he | he) | he | he
    · exact .inl he
    · exact .inr (.inl he)
    · split at he
      · exact .inr (.inr (.inl ⟨‹_›, List.mem_singleton.mp he⟩))
      · cases he
    · exact .inr (.inr (.inr (List.mem_singleton.mp he)))
  have hsub : ∀ e, e ∈ s.trace → e ∈ (free u s.nextObj).trace := fun e he => by
    rw [htr]; exact List.mem_append_left _ (List.mem_append_left _ he)
  have hpre : ∀ e, e ∈ pre → e ∈ (free u s.nextObj).trace := fun e he => by
    rw [htr]; exact List.mem_append_left _ (List.mem_append_right _ he)
  have halloc : ∀ y q, Event.allocate y q ∈ (free u s.nextObj).trace →
      Event.allocate y q ∈ s.trace ∨ (y = s.nextObj ∧ q = p) := fun y q hm => by
    rcases hmem _ hm with hm | hm | ⟨-, hm⟩ | hm
    · exact .inl hm
    · exact .inr (hD.calls.eq_of_allocate_mem hm)
    · cases hm
    · cases hm
  refine ⟨fun y hy => ?_, fun y r' hr' hyE p' hp' => ?_, fun y hy => ?_, fun t => ?_,
    fun y r' hr' hyE => ?_, fun y r' hr' => ?_, fun y p' hm => ?_, ?_,
    fun y tg hd ck ok hm => ?_⟩
  · rw [hn] at hy; rw [ho]; exact hI.bound y (Nat.le_of_succ_le hy)
  · rw [ho] at hr'
    obtain ⟨h1, h2, h3⟩ := hI.parent y r' hr' hyE p' hp'
    exact ⟨h1, (hlive p').mpr h2, h3⟩
  · obtain ⟨h1, h2⟩ := hI.held_live y hy
    exact ⟨(hlive y).mpr h1, h2⟩
  · rw [htc, hI.type_count, typeUsers, typeUsers, hcnt]
  · rw [ho] at hr'
    rw [hI.ref_count y r' hr' hyE, dependents, dependents, hcnt]
  · rw [ho] at hr'; exact hsub _ (hI.alloc_logged y r' hr')
  · rw [hn]
    rcases halloc y p' hm with hm | ⟨rfl, -⟩
    · exact Nat.lt_succ_of_lt (hI.alloc_bound y p' hm)
    · exact Nat.lt_succ_self _
  · rw [htr, allocIds_append_of_none (by split <;> simp [allocId]), allocIds_append,
      hD.calls.allocIds_eq]
    exact hI.nodup_fresh
  · rcases hmem _ hm with hm | hm | ⟨ho', hm⟩ | hm
    · exact hsub _ (hI.frees_top y tg hd ck ok hm)
    · exact absurd hm hD.calls.objectFree_not_mem
    · cases hm
      have hnone : p = none := by
        rw [← hD.dependsOnObj_eq]
        simp only [ownsNative, Bool.and_eq_true, Option.isNone_iff_eq_none] at ho'
        exact ho'.2
      exact hpre _ (hnone ▸ hD.calls.allocate_mem)
    · cases hm

end RefInv

/-! ### Runs of calls -/

/-- A call the callers of this file make. -/
inductive Call
  /-- `dpiObject__allocate`, called directly or by a nested read, with the
  object read as the parent. -/
  | allocate (t : TypeId) (inst ind : Option Handle) (p : Option ObjId)
  /-- `dpiObject_copy`. -/
  | copy (x : ObjId)
  /-- `dpiObject_addRef`. -/
  | addRef (x : ObjId)
  /-- `dpiObject_release`. -/
  | release (x : ObjId)
  deriving DecidableEq, Repr

namespace Call

/-- Whether the callers hold the references the call uses: the parent of a
nested read, and the record for the other calls. -/
def Legal (h : Held) : Call → Prop
  | allocate _ _ _ p => ∀ q, p = some q → 0 < h.obj q
  | copy x | addRef x | release x => 0 < h.obj x

/-- The call, and what the callers hold afterwards: a record returned to them
is theirs, `dpiObject_addRef` adds one reference and `dpiObject_release` gives
one back. -/
def run (s : State) (h : Held) : Call → State × Held
  | allocate t inst ind p =>
    let a := Object.allocate s t inst ind p
    (a.1, match a.2 with | some y => h.give y | none => h)
  | copy x =>
    let a := Object.copy s x
    (a.1, match a.2 with | some y => h.give y | none => h)
  | addRef x => let a := Object.addRef s x; (a.1, if a.2 then h.give x else h)
  | release x => let a := Object.release s x; (a.1, if a.2 then h.drop x else h)

end Call

namespace RefInv

variable {s : State} {h : Held}

theorem allocate_step {E : ObjId → Bool} (hI : RefInv s h E) (hEn : E s.nextObj = false)
    (t : TypeId) (inst ind : Option Handle) {p : Option ObjId}
    (hp : ∀ q, p = some q → 0 < h.obj q) :
    RefInv (allocate s t inst ind p).1
      (match (allocate s t inst ind p).2 with | some y => h.give y | none => h) E := by
  have hpx : ∀ q, p = some q → q ≠ s.nextObj := fun q hq =>
    Nat.ne_of_lt (hI.live_lt (hI.held_live q (hp q hq)).1)
  cases hg : s.callOk
  · simp only [allocate, hg, Bool.false_eq_true, if_false]; exact hI.afterCall
  rcases @allocate_cases _ t inst ind _ hpx hg with
    ⟨u, r, pre, hA, hB⟩ | ⟨u, r, pre, hA, hD⟩
  · rw [hA]; exact hI.built hB hEn hp
  · rw [hA]; exact hI.discard hD hp

theorem copy_step (hI : RefInv s h fun _ => false) (x : ObjId) :
    RefInv (copy s x).1 (match (copy s x).2 with | some y => h.give y | none => h)
      fun _ => false := by
  have hI' := hI.afterCall
  unfold copy check
  dsimp only
  split
  · have hA := hI'.allocate_step rfl (s.afterCall.obj x).type none none (p := none) (by simp)
    cases ho : (allocate s.afterCall (s.afterCall.obj x).type none none none).2 with
    | none => rw [ho] at hA; exact hA
    | some y =>
      obtain ⟨rfl, r, pre, hB⟩ := allocate_success_built (by simp) ho
      rw [ho] at hA
      dsimp only at hA ⊢
      split
      · exact hA.afterCall
      · have hh0 : h.obj s.afterCall.nextObj = 0 := Nat.eq_zero_of_not_pos fun h' =>
          Nat.lt_irrefl _ (hI.live_lt (hI.held_live _ h').1)
        have := free_refInv _ _ _ _ r hA.afterCall
          (by rw [State.afterCall_objects, hB.pending.objects_eq]
              exact parentInc_apply_self (by simp [hB.dependsOnObj_eq]) r)
          rfl (hA.dependents_of_le (Nat.le_of_eq hB.pending.nextObj_eq))
        rwa [Held.clear_give hh0] at this
  · exact hI'

theorem addRef_step (hI : RefInv s h fun _ => false) {x : ObjId} (hx : 0 < h.obj x) :
    RefInv (addRef s x).1 (if (addRef s x).2 then h.give x else h) fun _ => false := by
  obtain ⟨r, hr⟩ := s.live_iff.mp (hI.held_live x hx).1
  unfold addRef check
  dsimp only
  split
  · exact hI.afterCall.incRef hr rfl
  · exact hI.afterCall

theorem release_step (hI : RefInv s h fun _ => false) {x : ObjId} (hx : 0 < h.obj x) :
    RefInv (release s x).1 (if (release s x).2 then h.drop x else h) fun _ => false := by
  obtain ⟨r, hr⟩ := s.live_iff.mp (hI.held_live x hx).1
  have hI' := hI.afterCall
  have hd := hI'.decRef hr rfl hx
  unfold release check
  dsimp only
  split
  · dsimp only
    split
    · rename_i h1
      have hc := hI.ref_count x r hr rfl
      have h1 : r.refCount = 1 := by simpa [Object.decRef, State.obj, hr] using h1
      have hdx : dependents (Object.decRef s.afterCall x).1 (fun _ => false) x = 0 := by
        rw [dependents, countLive_congr
          (show (Object.decRef s.afterCall x).1.nextObj = s.nextObj from rfl) fun y => by
            by_cases hy : y = x
            · subst hy; simp [Object.decRef, State.modify, hr, shape]
            · simp [Object.decRef, State.modify_objects_of_ne _ _ hy]]
        simp only [dependents] at hc
        omega
      have := free_refInv _ x _ _ { r with refCount := r.refCount - 1 } hd
        (by simp [Object.decRef, State.modify, hr]) rfl hdx
      rwa [Held.clear_of_zero (by simp; omega)] at this
    · exact hd
  · exact hI'

/-- Every legal call keeps the invariant. -/
theorem call (hI : RefInv s h fun _ => false) (c : Call) (hc : c.Legal h) :
    RefInv (c.run s h).1 (c.run s h).2 fun _ => false := by
  cases c with
  | allocate t inst ind p => exact hI.allocate_step rfl t inst ind hc
  | copy x => exact hI.copy_step x
  | addRef x => exact hI.addRef_step hc
  | release x => exact hI.release_step hc

/-- A connection with no records and no calls made. -/
theorem start {s : State} (hs : ∀ y, s.objects y = none) (ht : s.trace = []) :
    RefInv s ⟨fun _ => 0, s.typeRefCount⟩ fun _ => false := by
  have hz : ∀ f, countLive s (fun _ => false) f = 0 :=
    fun f => countLive_eq_zero fun y r _ hr => by simp [hs y] at hr
  refine ⟨fun y _ => hs y, fun y r hr => by simp [hs y] at hr, fun y hy => by simp at hy,
    fun t => by simp [typeUsers, hz], fun y r hr => by simp [hs y] at hr,
    fun y r hr => by simp [hs y] at hr, ?_, ?_, ?_⟩ <;> simp [ht]

end RefInv

/-- The states, with the references their callers hold, that runs of legal
calls reach from a connection with no records: the callers hold the type
references the connection started with, and nothing else. -/
inductive Reachable : State → Held → Prop
  | start (s : State) (hs : ∀ y, s.objects y = none) (ht : s.trace = []) :
      Reachable s ⟨fun _ => 0, s.typeRefCount⟩
  | call {s : State} {h : Held} (c : Call) : Reachable s h → c.Legal h →
      Reachable (c.run s h).1 (c.run s h).2

theorem Reachable.refInv {s : State} {h : Held} (hR : Reachable s h) :
    RefInv s h fun _ => false := by
  induction hR with
  | start s hs ht => exact RefInv.start hs ht
  | call c _ hc ih => exact ih.call c hc

/-- Each type's count is the references held outside plus its live records,
and each record's count is the references held outside plus its live
dependents; every live dependent's parent is live; every
`dpiOci__objectFree` so far was on a record created without a parent; and no
record was created twice. -/
def RefCounts (s : State) (h : Held) : Prop :=
  (∀ t, s.typeRefCount t = h.type t + typeUsers s (fun _ => false) t) ∧
  (∀ y r, s.objects y = some r → r.refCount = h.obj y + dependents s (fun _ => false) y) ∧
  (∀ y r p, s.objects y = some r → r.dependsOnObj = some p → s.Live p) ∧
  (∀ y tg hd ck ok, Event.objectFree y tg hd ck ok ∈ s.trace →
    Event.allocate y none ∈ s.trace) ∧
  (allocIds s.trace).Nodup

theorem reachable_refcounts {s : State} {h : Held} (hR : Reachable s h) : RefCounts s h := by
  have hI := hR.refInv
  exact ⟨hI.type_count, fun y r hr => hI.ref_count y r hr rfl,
    fun y r p hr hp => (hI.parent y r hr rfl p hp).2.1, hI.frees_top, hI.alloc_nodup⟩

theorem reachable_refcounts_after_addRef :
    let s₀ := State.init []
    let r₁ := (Call.allocate 0 none none none).run s₀ ⟨fun _ => 0, s₀.typeRefCount⟩
    let r₂ := (Call.addRef 0).run r₁.1 r₁.2
    Reachable r₂.1 r₂.2 ∧ RefCounts r₂.1 r₂.2 :=
  have hR := Reachable.call (.addRef 0) (Reachable.call (.allocate 0 none none none)
    (Reachable.start _ (fun _ => rfl) rfl) fun _ h => by cases h) (by unfold Call.Legal; decide)
  ⟨hR, reachable_refcounts hR⟩

end Dpi.Object
