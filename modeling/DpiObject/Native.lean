import DpiObject.Registry

/-! The native instances over whole runs of the public API. `dpiOci__objectFree`
is called on a record's instance at most once, and never while the record is
live; and when `dpiOci__objectNew` made the instance of a record without a
parent, the instance has been freed exactly once by the time the record is
reclaimed, whether or not OCI reported success. No instance this file makes
for a record of its own is leaked or freed twice. The step that matters is
`dpiObject__free`: a live record has not started closing, so
`dpiObject__close` runs its helper, and the helper's only native call is the
free of the instance, as no record of this file owns a separate indicator. -/
namespace Dpi

/-- Whether an event is a `dpiOci__objectFree` of record `y`'s instance. -/
def Event.freesInstance (y : ObjId) : Event → Bool
  | .objectFree x .instance .. => x == y
  | _ => false

/-- Whether an event is one the ledger of record `y`'s instance reads: the
allocation of `y`, the creation of its instance, or a free of that instance. -/
def Event.ledgerFor (y : ObjId) : Event → Bool
  | .allocate x _ | .objectNew x _ => x == y
  | e => e.freesInstance y

namespace Event

variable {y : ObjId} {e : Event}

theorem ledgerFor_of_touches (h : e.touches y = false) : e.ledgerFor y = false := by
  rcases e with _ | _ | ⟨_, _ | _⟩ | _ | _ | _ | _ <;> simp_all [touches, ledgerFor, freesInstance]

theorem ledgerFor_of_isScratch (h : e.isScratch = true) : e.ledgerFor y = false ∧ e.touches y = false := by
  cases e <;> first | exact ⟨rfl, rfl⟩ | simp [isScratch] at h

theorem ledgerFor_eq_false (h : e.ledgerFor y = false) :
    e.freesInstance y = false ∧ (∀ i, e ≠ .objectNew y i) ∧ ∀ p, e ≠ .allocate y p := by
  rcases e with _ | _ | ⟨_, _ | _⟩ | _ | _ | _ | _ <;> simp_all [ledgerFor, freesInstance]

end Event

namespace Object

/-- What the ledger reads of a record. -/
def ledgerView (r : Object) : Option Handle × Option ObjId × Bool × Bool :=
  (r.instance, r.dependsOnObj, r.closing, r.freeIndicator)

/-- What the calls so far say of record `y`'s native instance. While `y` is
live it has not freed its instance, holds the instance `dpiOci__objectNew`
made for it when it has no parent, keeps the parent it was made with, has not
started closing and owns no separate indicator. Once it is reclaimed it has
freed its instance at most once, and exactly once when it was made without a
parent and `dpiOci__objectNew` made its instance. Before it is made no call
touches it. -/
structure LedgerAt (s : State) (y : ObjId) : Prop where
  live : ∀ r, s.objects y = some r → s.trace.filter (Event.freesInstance y) = [] ∧
    (∀ i, Event.objectNew y i ∈ s.trace → Event.allocate y none ∈ s.trace →
      r.instance = some i) ∧
    (∀ p, Event.allocate y p ∈ s.trace → r.dependsOnObj = p) ∧
    r.closing = false ∧ r.freeIndicator = false
  dead : s.objects y = none → (s.trace.filter (Event.freesInstance y)).length ≤ 1 ∧
    ∀ i, Event.objectNew y i ∈ s.trace → Event.allocate y none ∈ s.trace →
      ∃ ok, s.trace.filter (Event.freesInstance y) = [.objectFree y .instance (some i) false ok]
  fresh : s.nextObj ≤ y → ∀ e ∈ s.trace, e.touches y = false

/-- The ledger of every record. -/
def Ledger (s : State) : Prop := ∀ y, LedgerAt s y

namespace LedgerAt

variable {s u : State} {y : ObjId}

/-- A step whose calls the ledger of `y` does not read, and which keeps what
it reads of `y`. -/
theorem of_quiet (hL : LedgerAt s y) (hn : s.nextObj ≤ u.nextObj)
    (hv : (u.objects y).map ledgerView = (s.objects y).map ledgerView) {new : List Event}
    (ht : u.trace = s.trace ++ new) (hq : ∀ e ∈ new, e.ledgerFor y = false)
    (hf : u.nextObj ≤ y → ∀ e ∈ new, e.touches y = false) : LedgerAt u y := by
  have hnf : new.filter (Event.freesInstance y) = [] :=
    List.filter_eq_nil_iff.2 fun e he => by simp [(Event.ledgerFor_eq_false (hq e he)).1]
  have hfi : u.trace.filter (Event.freesInstance y) = s.trace.filter (Event.freesInstance y) := by
    rw [ht, List.filter_append, hnf, List.append_nil]
  have hmem : ∀ e, e.ledgerFor y = true → (e ∈ u.trace ↔ e ∈ s.trace) := fun e he => by
    rw [ht, List.mem_append, or_iff_left fun h => by simp [hq e h] at he]
  have hnew : ∀ i, Event.objectNew y i ∈ u.trace ↔ Event.objectNew y i ∈ s.trace :=
    fun i => hmem _ (by simp [Event.ledgerFor])
  have hall : ∀ p, Event.allocate y p ∈ u.trace ↔ Event.allocate y p ∈ s.trace :=
    fun p => hmem _ (by simp [Event.ledgerFor])
  refine ⟨fun r hr => ?_, fun hr => ?_, fun hy e he => ?_⟩
  · rw [hr] at hv
    obtain ⟨r₀, h₀, hv₀⟩ := Option.map_eq_some'.1 hv.symm
    obtain ⟨h₁, h₂, h₃, h₄, h₅⟩ := hL.live r₀ h₀
    simp only [ledgerView, Prod.mk.injEq] at hv₀
    refine ⟨hfi ▸ h₁, fun i hi ha => ?_, fun p hp => ?_, hv₀.2.2.1 ▸ h₄, hv₀.2.2.2 ▸ h₅⟩
    · rw [← hv₀.1]; exact h₂ i ((hnew i).1 hi) ((hall none).1 ha)
    · rw [← hv₀.2.1]; exact h₃ p ((hall p).1 hp)
  · simp only [hr, Option.map_none'] at hv
    obtain ⟨h₁, h₂⟩ := hL.dead (Option.map_eq_none'.1 hv.symm)
    exact ⟨hfi ▸ h₁, fun i hi ha => hfi ▸ h₂ i ((hnew i).1 hi) ((hall none).1 ha)⟩
  · rw [ht, List.mem_append] at he
    rcases he with he | he
    exacts [hL.fresh (Nat.le_trans hn hy) e he, hf hy e he]

/-- A step that makes no call and keeps what the ledger reads of `y`. -/
theorem of_silent (hL : LedgerAt s y) (hn : u.nextObj = s.nextObj)
    (hv : (u.objects y).map ledgerView = (s.objects y).map ledgerView) (ht : u.trace = s.trace) :
    LedgerAt u y :=
  hL.of_quiet (Nat.le_of_eq hn.symm) hv (ht.trans (List.append_nil _).symm) (by simp) (by simp)

/-- A step that changes no record and makes OCI calls only on the record `x`. -/
theorem of_frame {x : ObjId} (hL : LedgerAt s y) (hf : Frame x s u) (hx : x < s.nextObj) :
    LedgerAt u y := by
  obtain ⟨new, ht, hnew⟩ := hf.calls
  have hc : ∀ e ∈ new, e.ledgerFor y = false ∧ (e.touches y = true → y = x) := fun e he => by
    rcases hnew e he with h | ⟨c, rfl⟩
    · exact ⟨(Event.ledgerFor_of_isScratch h).1, fun h' => by simp [(Event.ledgerFor_of_isScratch h).2] at h'⟩
    · refine ⟨rfl, fun h => ?_⟩
      simp only [Event.touches, beq_iff_eq] at h
      exact h.symm
  refine hL.of_quiet (Nat.le_of_eq hf.nextObj.symm) (by rw [hf.objects]) ht (fun e he => (hc e he).1)
    fun hy e he => Bool.eq_false_iff.2 fun h => ?_
  rw [hf.nextObj, (hc e he).2 h] at hy
  exact Nat.lt_irrefl _ (Nat.lt_of_lt_of_le hx hy)

end LedgerAt

/-! ### `dpiObject__free` -/

section Free

variable {s : State} {x : ObjId}

/-- The calls of `dpiObject__free` of `x` touch `x` and the ancestors it frees
in turn, all at or below `x`. -/
theorem free_touches (s : State) (x : ObjId) :
    ∃ new, (free s x).trace = s.trace ++ new ∧ ∀ e ∈ new, ∀ y, e.touches y = true → y ≤ x := by
  induction s, x using free.induct with
  | case1 s x s₁ r₁ s₂ ih =>
    obtain ⟨E, hE, hEx⟩ := close_calls (s := s) (x := x) false
    -- the calls up to the reclaim of `x`, then the reclaim
    have fin : ∀ s₃ : State, (∃ C, s₃.trace = s₂.trace ++ C ∧ ∀ e ∈ C, ∀ y, e.touches y = true → y ≤ x) →
        ∃ new, (s₃.freeMemory x).trace = s.trace ++ new ∧
          ∀ e ∈ new, ∀ y, e.touches y = true → y ≤ x := fun s₃ ⟨C, hC, hCx⟩ => by
      refine ⟨E ++ C ++ [.freeMemory x], by simp [hC, s₂, s₁, hE], fun e he y hy => ?_⟩
      simp only [List.mem_append, List.mem_singleton] at he
      rcases he with (he | he) | rfl
      · obtain ⟨-, tg, h, ok, rfl⟩ := hEx e he
        simp only [Event.touches, beq_iff_eq] at hy
        exact Nat.le_of_eq hy.symm
      · exact hCx e he y hy
      · simp only [Event.touches, beq_iff_eq] at hy
        exact Nat.le_of_eq hy.symm
    rw [free_eq]
    refine fin _ ?_
    cases r₁.dependsOnObj with
    | none => exact ⟨[], by simp [s₂], by simp⟩
    | some p =>
      dsimp only
      split
      · rename_i hc
        obtain ⟨C, hC, hCx⟩ := ih p hc
        exact ⟨C, by rw [hC]; rfl, fun e he y hy => Nat.le_trans (hCx e he y hy) (Nat.le_of_lt hc.2)⟩
      · exact ⟨[], by simp [decRef, s₂], by simp⟩

namespace LedgerAt

/-- `dpiObject__free` of a live record leaves the ledger of every record above
it as it was. -/
theorem free_above {y : ObjId} (hL : LedgerAt s y) (hR : Rooted s) (hx : s.Live x) (hy : x < y) :
    LedgerAt (free s x) y := by
  obtain ⟨new, ht, hnew⟩ := free_touches s x
  have hf : ∀ e ∈ new, e.touches y = false := fun e he =>
    Bool.eq_false_iff.2 fun h => Nat.lt_irrefl _ (Nat.lt_of_lt_of_le hy (hnew e he y h))
  exact hL.of_quiet (Nat.le_of_eq (free_nextObj s x).symm)
    (by rw [(free_positive s x hR hx).1 y hy]) ht
    (fun e he => Event.ledgerFor_of_touches (hf e he)) fun _ => hf

/-- The reclaim of `x` leaves the ledger of every record below it as it was. -/
theorem freeMemory_below {y : ObjId} (hL : LedgerAt s y) (hy : y < x) :
    LedgerAt (s.freeMemory x) y := by
  have hnx : Event.touches y (.freeMemory x) = false := Bool.eq_false_iff.2 fun h => by
    simp only [Event.touches, beq_iff_eq] at h
    exact Nat.ne_of_lt hy h.symm
  have hq : ∀ e ∈ [Event.freeMemory x], e.touches y = false := fun e he => by
    rw [List.mem_singleton.1 he]; exact hnx
  exact hL.of_quiet (Nat.le_refl _) (by rw [freeMemory_objects_of_ne (Nat.ne_of_lt hy)])
    (State.freeMemory_trace _ _) (fun e he => Event.ledgerFor_of_touches (hq e he)) fun _ => hq

end LedgerAt

/-- The one call `dpiObject__close` makes on a record that has not started
closing and owns no separate indicator. -/
theorem eq_of_mem_instanceFree {r : Object} {ok : Bool} {e : Event}
    (he : e ∈ if ownsNative r then [Event.objectFree x .instance r.instance false ok] else []) :
    e = .objectFree x .instance r.instance false ok := by
  split at he
  · exact List.mem_singleton.1 he
  · exact absurd he (List.not_mem_nil e)

/-- The reclaim of a live record `x` after `dpiObject__close` made its one
call and the free of its parent made calls `C` on records below it: `x` has
freed its instance once if it owns it, and that instance when
`dpiOci__objectNew` made it. -/
theorem LedgerAt.freeMemory_self {s₃ : State} {r : Object} {ok : Bool} {C : List Event}
    (hL : LedgerAt s x) (hr : s.objects x = some r) (hx : x < s.nextObj) (hn : s₃.nextObj = s.nextObj)
    (ht : s₃.trace = s.trace ++
      (if ownsNative r then [.objectFree x .instance r.instance false ok] else []) ++ C)
    (hC : ∀ e ∈ C, e.touches x = false) : LedgerAt (s₃.freeMemory x) x := by
  obtain ⟨h₁, h₂, h₃, -, -⟩ := hL.live r hr
  set E : List Event := if ownsNative r then [.objectFree x .instance r.instance false ok] else []
    with hE
  have htr : (s₃.freeMemory x).trace = s.trace ++ E ++ (C ++ [.freeMemory x]) := by
    rw [State.freeMemory_trace, ht, List.append_assoc, List.append_assoc]
  have hrest : ∀ e ∈ C ++ [Event.freeMemory x], e.ledgerFor x = false := fun e he => by
    rcases List.mem_append.1 he with he | he
    · exact Event.ledgerFor_of_touches (hC e he)
    · rw [List.mem_singleton.1 he]; rfl
  have hnil : (C ++ [Event.freeMemory x]).filter (Event.freesInstance x) = [] :=
    List.filter_eq_nil_iff.2 fun e he => by simp [(Event.ledgerFor_eq_false (hrest e he)).1]
  have hself : E.filter (Event.freesInstance x) = E :=
    List.filter_eq_self.2 fun e he => by simp [eq_of_mem_instanceFree he, Event.freesInstance]
  have hfil : (s₃.freeMemory x).trace.filter (Event.freesInstance x) = E := by
    rw [htr, List.filter_append, List.filter_append, h₁, hnil, hself, List.nil_append,
      List.append_nil]
  -- the allocation and the creation of the instance were logged before the free
  have hold : ∀ e, e.ledgerFor x = true → e.freesInstance x = false →
      e ∈ (s₃.freeMemory x).trace → e ∈ s.trace := by
    intro e hl hf he
    rw [htr, List.mem_append, List.mem_append] at he
    rcases he with (he | he) | he
    · exact he
    · rw [eq_of_mem_instanceFree he] at hf; simp [Event.freesInstance] at hf
    · simp [hrest e he] at hl
  refine ⟨fun _ h => by simp at h, fun _ => ⟨?_, fun i hi ha => ?_⟩, fun h => ?_⟩
  · rw [hfil, hE]; split <;> simp
  · have ha' := hold (.allocate x none) (by simp [Event.ledgerFor]) rfl ha
    have hri := h₂ i (hold (.objectNew x i) (by simp [Event.ledgerFor]) rfl hi) ha'
    exact ⟨ok, by rw [hfil, hE]; simp [ownsNative, hri, h₃ none ha']⟩
  · rw [State.freeMemory_nextObj, hn] at h
    exact absurd hx (Nat.not_lt.2 h)

/-- `dpiObject__free` of a live record: the record, and each ancestor it frees
in turn, frees its instance once if it owns it, and every record below it
keeps its ledger. -/
theorem free_ledger (s : State) (x : ObjId) : Rooted s → s.Live x →
    (∀ y, y ≤ x → LedgerAt s y) → ∀ y, y ≤ x → LedgerAt (free s x) y := by
  induction s, x using free.induct with
  | case1 s x s₁ r₁ s₂ ih =>
    intro hR hx hL
    obtain ⟨-, hR₂, -, hpar⟩ := free_prefix hR hx
    obtain ⟨r, hr⟩ := (State.live_iff _).1 hx
    obtain ⟨-, -, -, hc, hi⟩ := (hL x (Nat.le_refl x)).live r hr
    have ht₂ : s₂.trace = _ := close_trace_of_plain false hr hc hi
    have hL₂ : ∀ y, y < x → LedgerAt s₂ y := fun y hy => by
      have hEy : ∀ e ∈ (if ownsNative r then [Event.objectFree x .instance r.instance false s.callOk]
          else []), e.touches y = false := fun e he => by
        simp [eq_of_mem_instanceFree he, Event.touches, Nat.ne_of_gt hy]
      exact (hL y (Nat.le_of_lt hy)).of_quiet (Nat.le_of_eq (close_keeps false).nextObj.symm)
        (by rw [show s₂.objects y = s.objects y from (close_keeps false).objects_ne y (Nat.ne_of_lt hy)])
        ht₂ (fun e he => Event.ledgerFor_of_touches (hEy e he)) fun _ => hEy
    -- the reclaim of `x` ends every branch
    have fin : ∀ s₃ : State, s₃.nextObj = s.nextObj ∧
        (∃ C, s₃.trace = s₂.trace ++ C ∧ ∀ e ∈ C, ∀ y, e.touches y = true → y < x) ∧
        (∀ y, y < x → LedgerAt s₃ y) → ∀ y, y ≤ x → LedgerAt (s₃.freeMemory x) y := by
      rintro s₃ ⟨hn₃, ⟨C, hC, hCx⟩, hL₃⟩ y hy
      rcases Nat.lt_or_eq_of_le hy with hy | rfl
      · exact (hL₃ y hy).freeMemory_below hy
      · exact (hL y hy).freeMemory_self hr (hR.lt hx) hn₃ (by rw [hC, ht₂])
          fun e he => Bool.eq_false_iff.2 fun h => Nat.lt_irrefl _ (hCx e he y h)
    rw [free_eq]
    refine fin _ ?_
    cases hp : r₁.dependsOnObj with
    | none => exact ⟨(close_keeps false).nextObj, ⟨[], by simp [s₂], by simp⟩, hL₂⟩
    | some p =>
      obtain ⟨hpx, hp₂⟩ := hpar p hp
      have hLd : ∀ y, y < x → LedgerAt (decRef s₂ p).1 y := fun y hy =>
        (hL₂ y hy).of_silent rfl (decRef_map (g := ledgerView) (fun _ => rfl) s₂ p y) rfl
      dsimp only
      split
      · rename_i hc
        have hshd := decRef_map_shape s₂ p
        have hRd : Rooted (decRef s₂ p).1 := hR₂.of_shape rfl hshd
        have hpd : (decRef s₂ p).1.Live p := (live_of_shape hshd p).2 hp₂
        have hLc := ih p hc hRd hpd fun y hy => hLd y (Nat.lt_of_le_of_lt hy hpx)
        obtain ⟨C, hC, hCx⟩ := free_touches (decRef s₂ p).1 p
        refine ⟨by rw [free_nextObj]; exact (close_keeps false).nextObj,
          ⟨C, hC, fun e he y hy => Nat.lt_of_le_of_lt (hCx e he y hy) hpx⟩, fun y hy => ?_⟩
        rcases Nat.lt_or_ge p y with hpy | hpy
        · exact (hLd y hy).free_above hRd hpd hpy
        · exact hLc y hpy
      · exact ⟨(close_keeps false).nextObj, ⟨[], by simp [decRef, s₂], by simp⟩, hLd⟩

/-- `dpiObject__free` of a live record keeps every record's ledger. -/
theorem Ledger.free (hL : Ledger s) (hR : Rooted s) (hx : s.Live x) : Ledger (free s x) := fun y =>
  (Nat.lt_or_ge x y).elim (fun hy => (hL y).free_above hR hx hy)
    fun hy => free_ledger s x hR hx (fun y _ => hL y) y hy

end Free

/-! ### `dpiObject__allocate` and the calls on a record's lifetime -/

section Calls

variable {s : State}

namespace Ledger

theorem of_silent {u : State} (hL : Ledger s) (hn : u.nextObj = s.nextObj)
    (hv : ∀ y, (u.objects y).map ledgerView = (s.objects y).map ledgerView)
    (ht : u.trace = s.trace) : Ledger u := fun y => (hL y).of_silent hn (hv y) ht

theorem afterCall (hL : Ledger s) : Ledger s.afterCall := hL.of_silent rfl (fun _ => rfl) rfl

theorem of_frame {u : State} {x : ObjId} (hL : Ledger s) (hf : Frame x s u) (hx : x < s.nextObj) :
    Ledger u := fun y => (hL y).of_frame hf hx

end Ledger

/-- The record `dpiObject__allocate` has made so far, pending in `u`, with the
parent it was given, not closing, with no separate indicator, and holding the
instance `dpiOci__objectNew` made when it has no parent. -/
theorem Pending.ledger {u : State} {r : Object} {pre : List Event} {p : Option ObjId}
    (h : Pending s u r pre) (hL : Ledger s) (hc : AllocCalls s.nextObj p pre)
    (hp : r.dependsOnObj = p) (hpl : ∀ q, p = some q → q < s.nextObj) (hcl : r.closing = false)
    (hi : r.freeIndicator = false)
    (hn : ∀ i, Event.objectNew s.nextObj i ∈ pre → p = none → r.instance = some i) : Ledger u := by
  intro y
  by_cases hy : y = s.nextObj
  · subst hy
    -- no call before this one touched the new record
    have hold : ∀ e ∈ s.trace, e.touches s.nextObj = false := (hL s.nextObj).fresh (Nat.le_refl _)
    have hmem : ∀ e, e.touches s.nextObj = true → e ∈ u.trace → e ∈ pre := fun e he hu => by
      rw [h.trace_eq, List.mem_append] at hu
      exact hu.resolve_left fun h' => by simp [hold e h'] at he
    have hr : u.objects s.nextObj = some r := by
      rw [h.objects_eq, hp]; exact parentInc_apply_self (fun q hq => Nat.ne_of_lt (hpl q hq)) r
    have hall : ∀ q, Event.allocate s.nextObj q ∈ u.trace → q = p := fun q hq =>
      (hc.eq_of_allocate_mem (hmem _ (by simp [Event.touches]) hq)).2
    refine ⟨fun r' hr' => ?_, fun h' => by simp [hr] at h',
      fun h' => absurd (h.nextObj_eq ▸ h') (Nat.not_le.2 (Nat.lt_succ_self _))⟩
    obtain rfl : r' = r := Option.some.inj (hr'.symm.trans hr)
    refine ⟨List.filter_eq_nil_iff.2 fun e he hf => ?_, fun i hi ha => hn i
      (hmem _ (by simp [Event.touches]) hi) (hall none ha).symm, fun q hq => hp.trans (hall q hq).symm,
      hcl, hi⟩
    rcases e with _ | _ | ⟨z, _ | _, hd, ck, ok⟩ | _ | _ | _ | _ <;>
      simp only [Event.freesInstance, beq_iff_eq, Bool.false_eq_true] at hf
    subst hf
    exact hc.objectFree_not_mem (hmem _ (by simp [Event.touches]) he)
  · have hq : ∀ e ∈ pre, e.touches y = true → p = some y := fun e he h' =>
      (hc.touches he h').resolve_left hy
    refine (hL y).of_quiet (by rw [h.nextObj_eq]; exact Nat.le_succ _) ?_ h.trace_eq
      (fun e he => ?_) fun hny e he => Bool.eq_false_iff.2 fun h' => ?_
    · rw [h.objects_eq, parentInc_map (g := ledgerView) (fun _ => rfl), Function.update_noteq hy]
    · revert e
      rcases hc with rfl | ⟨i, rfl⟩ <;> simp [Event.ledgerFor, Ne.symm hy]
    · rw [h.nextObj_eq] at hny
      exact Nat.lt_irrefl _ (Nat.lt_trans (hpl y (hq e he h')) (Nat.lt_of_succ_le hny))

/-- `dpiObject__allocate` with a live parent, or none. -/
theorem allocate_ledger (hL : Ledger s) (hR : Rooted s) (t : TypeId) (inst ind : Option Handle)
    {p : Option ObjId} (hp : ∀ q, p = some q → s.Live q) : Ledger (allocate s t inst ind p).1 := by
  have hpl : ∀ q, p = some q → q < s.nextObj := fun q hq => hR.lt (hp q hq)
  cases hg : s.callOk
  · simp only [allocate, hg, Bool.false_eq_true, if_false]; exact hL.afterCall
  rcases @allocate_cases _ t inst ind _ (fun q hq => Nat.ne_of_lt (hpl q hq)) hg with
    ⟨u, r, pre, hA, hB⟩ | ⟨u, r, pre, hA, hD⟩
  · rw [hA]
    exact hB.pending.ledger hL hB.calls hB.dependsOnObj_eq hpl hB.closing_eq hB.freeIndicator_eq
      fun i hi _ => hB.instance_of_new i hi
  · rw [hA]
    have hLu := hD.pending.ledger hL hD.calls hD.dependsOnObj_eq hpl hD.closing_eq
      hD.freeIndicator_eq fun i hi hpn => (hD.held hpn i).1 (.inr hi)
    exact hLu.free (hD.pending.rooted hR fun q hq => hp q (hD.dependsOnObj_eq ▸ hq))
      hD.pending.live_self

theorem copy_ledger (hL : Ledger s) (hR : Rooted s) (x : ObjId) : Ledger (copy s x).1 := by
  have hR' : Rooted s.afterCall := hR.of_shape rfl fun _ => rfl
  unfold copy check
  dsimp only
  split
  · have hA := allocate_ledger hL.afterCall hR' (s.afterCall.obj x).type none none (p := none) (by simp)
    cases ho : (allocate s.afterCall (s.afterCall.obj x).type none none none).2 with
    | none => exact hA
    | some y =>
      obtain ⟨rfl, r, pre, hB⟩ := allocate_success_built (by simp) ho
      dsimp only
      split
      · exact hA.afterCall
      · have hRa := hB.pending.rooted hR' fun q hq => by simp [hB.dependsOnObj_eq] at hq
        exact hA.afterCall.free (hRa.of_shape rfl fun _ => rfl) hB.pending.live_self
  · exact hL.afterCall

theorem addRef_ledger (hL : Ledger s) (x : ObjId) : Ledger (addRef s x).1 := by
  unfold addRef check
  dsimp only
  split
  · exact hL.afterCall.of_silent rfl (incRef_map (g := ledgerView) (fun _ => rfl) _ x) rfl
  · exact hL.afterCall

theorem release_ledger (hL : Ledger s) (hR : Rooted s) (x : ObjId) : Ledger (release s x).1 := by
  unfold release check
  dsimp only
  split
  · rename_i hc
    have hx : s.Live x := by
      simp only [Bool.and_eq_true, decide_eq_true_eq] at hc
      exact hc.1
    have hsh := decRef_map_shape s.afterCall x
    have hd : Ledger (decRef s.afterCall x).1 :=
      hL.afterCall.of_silent rfl (decRef_map (g := ledgerView) (fun _ => rfl) _ x) rfl
    dsimp only
    split
    · exact hd.free (hR.of_shape rfl hsh) ((live_of_shape hsh x).2 hx)
    · exact hd
  · exact hL.afterCall

/-- Every legal call on a record's lifetime. -/
theorem Call.ledger {h : Held} (hL : Ledger s) (hR : Rooted s) (hheld : ∀ y, 0 < h.obj y → s.Live y)
    (c : Call) (hc : c.Legal h) : Ledger (c.run s h).1 := by
  cases c with
  | allocate t inst ind p => exact allocate_ledger hL hR t inst ind fun q hq => hheld q (hc q hq)
  | copy x => exact copy_ledger hL hR x
  | addRef x => exact addRef_ledger hL x
  | release x => exact release_ledger hL hR x

/-- A reader: the conversion back makes at most a record that depends on `x`. -/
theorem Ledger.of_readPath (H : Helpers) (hL : Ledger s) (hR : Rooted s) {x : ObjId} (hx : s.Live x)
    {N : NativeTypeNum} {got : Fetched} {r : State × Except DpiError (Option DataBuffer)}
    (hp : ReadPath H x N got s r) : Ledger r.1 := by
  obtain ⟨u, hu, ⟨e, rfl⟩ | ⟨typeInfo, rfl⟩⟩ := hp
  · exact hL.of_frame hu (hR.lt hx)
  have hLu := hL.of_frame hu (hR.lt hx)
  have hxu : u.Live x := by simp only [State.Live, hu.objects]; exact hx
  rcases fromOracleValue_cases H u x typeInfo got.value got.isNull got.indicator N with
    ⟨r, hr, -⟩ | hr | ⟨t, -, -, hr⟩ <;> rw [hr]
  · exact hLu
  · exact hLu.of_frame (fromLob_frame u x) ((hR.of_frame hu).lt hxu)
  · have ha := allocate_ledger hLu (hR.of_frame hu) t
      (if (u.types t).isCollection && !(u.types (u.obj x).type).isCollection then got.value.collection
        else got.value.raw) got.indicator (p := some x) fun q hq => by cases hq; exact hxu
    unfold fromObject
    dsimp only
    split <;> exact ha

end Calls

/-- Every legal call of the public API keeps every record's ledger. -/
theorem RefInv.api_ledger {s : State} {h : Held} (hI : RefInv s h fun _ => false) (hL : Ledger s)
    (H : Helpers) (c : ApiCall) (hc : c.Legal h) : Ledger (c.run H s h).1 := by
  rcases c.run_cases H s h with ⟨c, rfl, hr⟩ | ⟨x, N, got, r, hx, hp, hr⟩ | ⟨x, hx, hf, -⟩
  · rw [hr]; exact Call.ledger hL hI.rooted (fun y hy => (hI.held_live y hy).1) c hc
  · rw [hr]; exact hL.of_readPath H hI.rooted (hI.held_live x (hc.held hx)).1 hp
  · exact hL.of_frame hf (hI.rooted.lt (hI.held_live x (hc.held hx)).1)

/-- Over every run of the public API, with whatever its collaborators answer
and hand back, `dpiOci__objectFree` is called on a record's instance at most
once and never while the record is live; and once a record made without a
parent is reclaimed, the instance `dpiOci__objectNew` made for it has been
freed exactly once. -/
theorem api_reachable_instance_freed_once {H : Helpers} {s : State} {h : Held}
    (hR : ApiReachable H s h) (y : ObjId) :
    (s.trace.filter (Event.freesInstance y)).length ≤ 1 ∧
    (s.Live y → s.trace.filter (Event.freesInstance y) = []) ∧
    (¬ s.Live y → ∀ i, Event.objectNew y i ∈ s.trace → Event.allocate y none ∈ s.trace →
      ∃ ok, s.trace.filter (Event.freesInstance y) = [.objectFree y .instance (some i) false ok]) := by
  have hU : RefInv s h (fun _ => false) ∧ Ledger s := by
    induction hR with
    | start s hs ht =>
      refine ⟨RefInv.start hs ht, fun y => ⟨fun r hr => by simp [hs y] at hr, fun _ => ?_, ?_⟩⟩
      · simp [ht]
      · simp [ht]
    | call c _ hc ih => exact ⟨ih.1.api_call H c hc, ih.1.api_ledger ih.2 H c hc⟩
  have hL := hU.2 y
  cases hy : s.objects y with
  | none =>
    have hd := hL.dead hy
    exact ⟨hd.1, fun h => by simp [State.Live, hy] at h, fun _ => hd.2⟩
  | some r =>
    have hl := hL.live r hy
    exact ⟨by rw [hl.1]; exact Nat.zero_le _, fun _ => hl.1, fun h => absurd (by simp [State.Live, hy]) h⟩

theorem api_reachable_instance_freed_once_failed_free :
    let s₀ := State.init [true, true, true, true, true, false]
    let r₁ := (ApiCall.lifetime (.allocate 0 none none none)).run Helpers.exact s₀
      ⟨fun _ => 0, s₀.typeRefCount⟩
    let r₂ := (ApiCall.lifetime (.release 0)).run Helpers.exact r₁.1 r₁.2
    ApiReachable Helpers.exact r₂.1 r₂.2 ∧
      ((r₂.1.trace.filter (Event.freesInstance 0)).length ≤ 1 ∧
      (r₂.1.Live 0 → r₂.1.trace.filter (Event.freesInstance 0) = []) ∧
      (¬ r₂.1.Live 0 → ∀ i, Event.objectNew 0 i ∈ r₂.1.trace → Event.allocate 0 none ∈ r₂.1.trace →
        ∃ ok, r₂.1.trace.filter (Event.freesInstance 0) = [.objectFree 0 .instance (some i) false ok])) :=
  have hR := ApiReachable.call (.lifetime (.release 0))
    (ApiReachable.call (.lifetime (.allocate 0 none none none)) (.start _ (fun _ => rfl) rfl)
      fun _ h => by cases h)
    (by show 0 < _; decide)
  ⟨hR, api_reachable_instance_freed_once hR 0⟩

end Object

end Dpi
