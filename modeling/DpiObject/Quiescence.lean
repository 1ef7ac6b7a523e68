import DpiObject.Threaded

/-! Two more facts of every interleaving of `dpiObject__close` on one record.
No caller waits on another: the two lock sections are the only shared steps,
and every path through `dpiObject__close` and `dpiObject__closeHelper` has at
most seven statements, so a call returns after seven of its own statements
whatever the other callers do. And the closing flag never hides an instance:
whenever no caller is inside a call, a record whose flag is set owns no native
instance, so the close that a later `dpiObject__free` makes, which returns at
once on a set flag, leaks nothing. This holds although a caller that finds the
flag set returns success while the owner's free may still fail and clear the
flag again. -/
namespace Dpi.Object.Threaded

/-- The caller an entry of a schedule moves. -/
def Sched.caller : Sched → Nat
  | .start i _ | .next i => i

namespace Pc

/-- At most how many statements a caller at this position still runs before
its call of `dpiObject__close` returns: seven past a first lock section that
found the flag clear, when the helper runs to its end. -/
def left : Pc → Nat
  | idle | done _ => 0
  | checked _ true => 1
  | checked _ false => 7
  | test _ => 6
  | freeInst _ => 5
  | clearInst _ => 4
  | freeInd _ => 3
  | clearInd _ => 2
  | dereg _ | reset _ => 1

theorem left_le_seven (p : Pc) : p.left ≤ 7 := by
  cases p with
  | checked _ b => cases b <;> simp [left]
  | _ => simp [left]

theorem left_eq_zero {p : Pc} : p.left = 0 ↔ p.isIdle := by
  cases p with
  | checked _ b => cases b <;> simp [left, isIdle]
  | _ => simp [left, isIdle]

/-- Every statement a caller runs brings its call one statement nearer to
returning; a caller outside a call stays there. -/
theorem left_advance (x : ObjId) (s : State) (p : Pc) : (advance x s p).2.left ≤ p.left - 1 := by
  cases p with
  | checked _ b => cases b <;> simp [advance, left]
  | test _ =>
    simp only [advance]
    cases ownsNative (s.obj x) <;> simp [left]
  | freeInst _ =>
    simp only [advance, freeInstance_snd]
    cases s.callOk <;> simp [left]
  | freeInd ck =>
    simp only [advance]
    cases (freeIndicatorHandle s x ck).2 <;> simp [left]
  | _ => simp [advance, left]

/-- Past the successful free of the instance, and not yet returned. -/
def instCleared : Pc → Bool
  | freeInd _ | clearInd _ | dereg _ => true
  | _ => false

theorem owns_of_instCleared {p : Pc} (h : p.instCleared) : p.owns := by
  cases p <;> simp_all [instCleared, owns]

end Pc

/-- A step of another caller does not move caller `i`. -/
theorem step_pc_of_ne {x : ObjId} {c : Conf} {e : Sched} {i : Nat} (h : e.caller ≠ i) :
    (step x c e).pc i = c.pc i := by
  cases e with
  | start j ck =>
    simp only [step]
    split
    · exact Conf.move_pc_of_ne _ _ _ _ (Ne.symm h)
    · rfl
  | next j => exact Conf.move_pc_of_ne _ _ _ _ (Ne.symm h)

/-! ### Every call returns -/

/-- Over a schedule in which caller `i` starts no new call, each of its
statements brings its call nearer to returning, and no other caller's
statement moves it. -/
theorem run_left_le (x : ObjId) (i : Nat) (σ : List Sched) (hσ : ∀ ck, Sched.start i ck ∉ σ)
    (c : Conf) : ((run x c σ).pc i).left ≤ (c.pc i).left - σ.count (.next i) := by
  induction σ generalizing c with
  | nil => simp
  | cons e σ ih =>
    rw [run_cons]
    refine Nat.le_trans (ih (fun ck h => hσ ck (List.mem_cons_of_mem _ h)) _) ?_
    by_cases he : e = .next i
    · subst he
      have := Pc.left_advance x c.st (c.pc i)
      simp only [step, Conf.move_pc_self, List.count_cons_self]
      omega
    · have hc : e.caller ≠ i := by
        cases e with
        | start j ck => rintro rfl; exact hσ ck (List.mem_cons_self _ _)
        | next j => rintro rfl; exact he rfl
      exact Nat.le_of_eq (by rw [step_pc_of_ne hc, List.count_cons_of_ne (Ne.symm he)])

/-- `dpiObject__close` never waits on another caller: wherever a caller stands
in its call, it has returned once it has run seven more statements, whatever
the other callers do in between and whatever OCI answers. -/
theorem close_returns_within_seven (x : ObjId) (c : Conf) (i : Nat) (σ : List Sched)
    (hσ : ∀ ck, Sched.start i ck ∉ σ) (hn : 7 ≤ σ.count (.next i)) : ((run x c σ).pc i).isIdle := by
  have h := run_left_le x i σ hσ c
  have := (c.pc i).left_le_seven
  exact Pc.left_eq_zero.1 (by omega)

/-- Seven is needed: an owner whose helper frees the instance and the
indicator has not returned after six statements. -/
example :
    ((run 0 ⟨{ State.init [] with
        objects := fun y => if y = 0 then some ⟨0, some 1, some 2, none, true, false, 0, 1⟩ else none,
        nextObj := 1 }, fun _ => .idle⟩ (.start 0 true :: List.replicate 6 (.next 0))).pc 0).isIdle =
      false := by
  decide

/-! ### The flag at quiescence -/

section Flag

variable {x : ObjId} {t₀ new : List Event} {c : Conf} {i : Nat}

/-- What every run keeps of the closing flag: an owner past the free of the
instance has cleared it; and while no caller owns the record, a set flag
means the record owns no native instance. -/
structure FlagSound (x : ObjId) (c : Conf) : Prop where
  cleared : ∀ i, (c.pc i).instCleared → (c.st.obj x).instance = none
  settled : (∀ i, (c.pc i).owns = false) → (c.st.obj x).closing = true →
    ownsNative (c.st.obj x) = false

namespace FlagSound

theorem init (h₀ : ∀ i, (c.pc i).isIdle)
    (hf : (c.st.obj x).closing = true → ownsNative (c.st.obj x) = false) : FlagSound x c where
  cleared i hi := absurd (Pc.owns_of_instCleared hi) (by simp [Pc.not_owns_of_isIdle (h₀ i)])
  settled _ := hf

/-- While `i` owns the record, no other caller is past the free of the instance. -/
theorem cleared_move (hs : Safe x t₀ new c) (hi : (c.pc i).owns) {s : State} {q : Pc}
    (hq : q.instCleared → (s.obj x).instance = none) :
    ∀ j, ((c.move i s q).pc j).instCleared → ((c.move i s q).st.obj x).instance = none := by
  intro j hj
  by_cases hji : j = i
  · subst hji; exact hq (by simpa using hj)
  · rw [Conf.move_pc_of_ne _ _ _ _ hji] at hj
    exact absurd (hs.owner_unique j i (Pc.owns_of_instCleared hj) hi) hji

/-- The owner runs a statement and still owns the record. -/
theorem move_owner (hs : Safe x t₀ new c) (hi : (c.pc i).owns) {s : State} {q : Pc}
    (hq : q.owns) (hc : q.instCleared → (s.obj x).instance = none) :
    FlagSound x (c.move i s q) where
  cleared := cleared_move hs hi hc
  settled h := absurd (h i) (by simp [hq])

/-- The owner returns, leaving a state whose flag hides no instance. -/
theorem move_return (hs : Safe x t₀ new c) (hi : (c.pc i).owns) {s : State} {ok : Bool}
    (hsettle : (s.obj x).closing = true → ownsNative (s.obj x) = false) :
    FlagSound x (c.move i s (.done ok)) where
  cleared := cleared_move hs hi nofun
  settled _ := hsettle

/-- A caller that neither owns the record before nor after its step, and
leaves the shared state alone. -/
theorem move_other (hf : FlagSound x c) (hi : (c.pc i).owns = false) {q : Pc}
    (hq : q.owns = false) : FlagSound x (c.move i c.st q) where
  cleared j hj := by
    by_cases hji : j = i
    · subst hji
      exact absurd (Pc.owns_of_instCleared (by simpa using hj)) (by simp [hq])
    · exact hf.cleared j (by rwa [Conf.move_pc_of_ne _ _ _ _ hji] at hj)
  settled h := hf.settled fun j => by
    by_cases hji : j = i
    · subst hji; exact hi
    · simpa [Conf.move_pc_of_ne _ _ _ _ hji] using h j

/-- The first lock section of a caller that finds the flag clear: no caller
owned the record, so none was past the free of the instance. -/
theorem enter_owner (hs : Safe x t₀ new c) (ck : Bool) (hc : (c.st.obj x).closing = false) :
    FlagSound x (c.move i (markClosing c.st x).1 (.checked ck false)) where
  cleared j hj := by
    by_cases hji : j = i
    · subst hji; simp [Pc.instCleared] at hj
    · rw [Conf.move_pc_of_ne _ _ _ _ hji] at hj
      simpa [hc] using hs.owner_closing j (Pc.owns_of_instCleared hj)
  settled h := absurd (h i) (by simp [Pc.owns])

/-- Every statement a caller runs keeps the invariant. -/
theorem advance_keeps (hf : FlagSound x c) (hs : Safe x t₀ new c) (i : Nat) :
    FlagSound x (c.move i (advance x c.st (c.pc i)).1 (advance x c.st (c.pc i)).2) := by
  have hself := Conf.move_self c i
  have hl := obj_modify_of_live (x := x) (s := c.st)
  cases hp : c.pc i <;> simp only [advance] <;> rw [hp] at hself
  case idle | done => rw [hself]; exact hf
  case checked ck b =>
    cases b with
    | true => exact hf.move_other (by simp [hp, Pc.owns]) rfl
    | false => exact move_owner hs (by simp [hp, Pc.owns]) rfl nofun
  case test ck =>
    have hi : (c.pc i).owns := by simp [hp, Pc.owns]
    cases hn : ownsNative (c.st.obj x)
    · exact move_return hs hi fun _ => hn
    · exact move_owner hs hi rfl nofun
  case freeInst ck =>
    cases (freeInstance c.st x ck).2 <;> exact move_owner hs (by simp [hp, Pc.owns]) rfl nofun
  case clearInst ck =>
    exact move_owner hs (by simp [hp, Pc.owns]) rfl fun _ => by
      simp [clearInstance, hl _ hs.live]
  case freeInd ck =>
    have hin := hf.cleared i (by simp [hp, Pc.instCleared])
    have hobj : ((freeIndicatorHandle c.st x ck).1.obj x).instance = none := by
      rw [freeIndicatorHandle_eq]; split <;> simpa using hin
    cases (freeIndicatorHandle c.st x ck).2 <;>
      exact move_owner hs (by simp [hp, Pc.owns]) rfl fun _ => hobj
  case clearInd ck =>
    have hin := hf.cleared i (by simp [hp, Pc.instCleared])
    exact move_owner hs (by simp [hp, Pc.owns]) rfl fun _ => by
      simp [clearIndicator, hl _ hs.live, hin]
  case dereg ck =>
    have hin := hf.cleared i (by simp [hp, Pc.instCleared])
    exact move_return hs (by simp [hp, Pc.owns]) fun _ => by simp [ownsNative, hin]
  case reset ck =>
    exact move_return hs (by simp [hp, Pc.owns]) fun h => by
      simp [resetClosing, hl _ hs.live] at h

/-- Every entry of a schedule keeps the invariant. -/
theorem step_keeps (hf : FlagSound x c) (hs : Safe x t₀ new c) (e : Sched) :
    FlagSound x (step x c e) := by
  cases e with
  | next i => exact hf.advance_keeps hs i
  | start i ck =>
    by_cases hi : (c.pc i).isIdle
    · obtain ⟨r, hr⟩ := c.st.live_iff.1 hs.live
      cases hc : r.closing
      · have hc' : (c.st.obj x).closing = false := by simp [c.st.obj_of_objects hr, hc]
        simpa [step, hi, enter, hc'] using enter_owner hs ck hc'
      · rw [step_start_of_closing ck hi hr hc]
        exact hf.move_other (Pc.not_owns_of_isIdle hi) rfl
    · simpa [step, hi] using hf

/-- The invariant holds after every schedule. -/
theorem run_keeps (hf : FlagSound x c) (hs : Safe x t₀ new c) (σ : List Sched) :
    FlagSound x (run x c σ) := by
  induction σ generalizing c new with
  | nil => exact hf
  | cons e σ ih =>
    obtain ⟨new', hs'⟩ := hs.step_keeps e
    exact ih (hf.step_keeps hs e) hs'

end FlagSound

/-- A schedule does not move a caller it has no entry of. -/
theorem run_pc_of_not_mem (x : ObjId) (i : Nat) (σ : List Sched) (h : ∀ e ∈ σ, e.caller ≠ i)
    (c : Conf) : (run x c σ).pc i = c.pc i := by
  induction σ generalizing c with
  | nil => rfl
  | cons e σ ih =>
    rw [run_cons, ih (fun e' he' => h e' (List.mem_cons_of_mem _ he')),
      step_pc_of_ne (h e (List.mem_cons_self _ _))]

end Flag

/-- Over every schedule from a configuration where no caller is inside
`dpiObject__close`, the record is live and a set flag already meant no native
instance: once every caller that took part has returned, a set closing flag
means the record owns no native instance, whatever OCI answered. -/
theorem closed_at_quiescence (x : ObjId) (c₀ : Conf) (σ : List Sched)
    (h₀ : ∀ i, (c₀.pc i).isIdle) (hx : c₀.st.Live x)
    (hf : (c₀.st.obj x).closing = true → ownsNative (c₀.st.obj x) = false)
    (hq : ∀ e ∈ σ, ((run x c₀ σ).pc e.caller).isIdle)
    (hc : ((run x c₀ σ).st.obj x).closing = true) : ownsNative ((run x c₀ σ).st.obj x) = false := by
  have hidle : ∀ i, ((run x c₀ σ).pc i).isIdle := fun i => by
    by_cases hi : ∃ e ∈ σ, e.caller = i
    · obtain ⟨e, he, rfl⟩ := hi
      exact hq e he
    · rw [run_pc_of_not_mem x i σ (fun e he h => hi ⟨e, he, h⟩)]
      exact h₀ i
  exact ((FlagSound.init h₀ hf).run_keeps (Safe.init h₀ hx) σ).settled
    (fun i => Pc.not_owns_of_isIdle (hidle i)) hc

/-- The race of the retry: caller 1 finds the flag set and returns success
while caller 0's free of the instance is still to fail; caller 0 clears the
flag, and caller 1's second call closes the record. -/
theorem closed_at_quiescence_after_retry :
    let c₀ : Conf := ⟨{ State.init [false] with
        objects := fun y => if y = 0 then some ⟨0, some 1, some 2, none, true, false, 0, 1⟩ else none,
        nextObj := 1 }, fun _ => .idle⟩
    let σ : List Sched := [.start 0 true, .start 1 true, .next 1, .next 0, .next 0, .next 0, .next 0,
      .start 1 true, .next 1, .next 1, .next 1, .next 1, .next 1, .next 1, .next 1]
    (∀ i, (c₀.pc i).isIdle) ∧ c₀.st.Live 0 ∧
      ((c₀.st.obj 0).closing = true → ownsNative (c₀.st.obj 0) = false) ∧
      (∀ e ∈ σ, ((run 0 c₀ σ).pc e.caller).isIdle) ∧ ((run 0 c₀ σ).st.obj 0).closing = true ∧
      ownsNative ((run 0 c₀ σ).st.obj 0) = false :=
  ⟨fun _ => rfl, rfl, by decide, by decide, by decide,
    closed_at_quiescence _ _ _ (fun _ => rfl) rfl (by decide) (by decide) (by decide)⟩

end Dpi.Object.Threaded
