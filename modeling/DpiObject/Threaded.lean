import DpiObject.Close

/-! `dpiObject__close` called on one record by several threads of a threaded
environment. Each caller runs the function statement by statement; each of the
two mutex-guarded sections is one step. A schedule says which caller moves
next, and the answers of the state give the outcome of every
`dpiOci__objectFree`, so every interleaving and every outcome is one schedule
and one answer list. -/
namespace Dpi.Object.Threaded

/-- Where one caller of `dpiObject__close` stands: outside a call (`idle`, or
`done` with what its last call returned), or before the statement named, with
the `checkError` it was called with. -/
inductive Pc
  | idle
  | done (ok : Bool)
  /-- Past the first lock section, holding the flag it read there. -/
  | checked (checkError closing : Bool)
  /-- Before `if (obj->instance && !obj->dependsOnObj)`. -/
  | test (checkError : Bool)
  /-- Before the helper's `dpiOci__objectFree` of the instance. -/
  | freeInst (checkError : Bool)
  /-- Before `obj->instance = NULL`. -/
  | clearInst (checkError : Bool)
  /-- Before the helper's free of the indicator, when it owns one. -/
  | freeInd (checkError : Bool)
  /-- Before `obj->indicator = NULL`. -/
  | clearInd (checkError : Bool)
  /-- Before the helper leaves the connection's list. -/
  | dereg (checkError : Bool)
  /-- Before the second lock section, the helper having failed. -/
  | reset (checkError : Bool)
  deriving DecidableEq, Repr

namespace Pc

/-- Outside a call, so free to enter one. -/
def isIdle : Pc → Bool
  | idle | done _ => true
  | _ => false

/-- Inside `dpiObject__closeHelper`. -/
def inHelper : Pc → Bool
  | freeInst _ | clearInst _ | freeInd _ | clearInd _ | dereg _ => true
  | _ => false

/-- Past a first lock section that found the flag clear, and not returned yet:
the caller that is closing the record. -/
def owns : Pc → Bool
  | checked _ false | test _ | freeInst _ | clearInst _ | freeInd _ | clearInd _ | dereg _
  | reset _ => true
  | _ => false

/-- Between the successful free of the instance and `obj->instance = NULL`. -/
def instPending : Pc → Bool
  | clearInst _ => true
  | _ => false

/-- Past the successful free of the indicator. -/
def indFreed : Pc → Bool
  | clearInd _ | dereg _ => true
  | _ => false

theorem owns_of_inHelper {p : Pc} (h : p.inHelper) : p.owns := by
  cases p <;> simp_all [inHelper, owns]

theorem not_owns_of_isIdle {p : Pc} (h : p.isIdle) : p.owns = false := by
  cases p <;> simp_all [isIdle, owns]

theorem owns_of_instPending {p : Pc} (h : p.instPending) : p.owns := by
  cases p <;> simp_all [instPending, owns]

end Pc

/-- The shared state and the position of every caller. -/
structure Conf where
  st : State
  pc : Nat → Pc

namespace Conf

/-- Caller `i` ran a statement: the shared state is now `s` and the caller at `p`. -/
def move (c : Conf) (i : Nat) (s : State) (p : Pc) : Conf :=
  ⟨s, Function.update c.pc i p⟩

variable (c : Conf) (i : Nat) (s : State) (p : Pc)

@[simp] theorem move_st : (c.move i s p).st = s := rfl
@[simp] theorem move_pc_self : (c.move i s p).pc i = p := Function.update_same _ _ _

theorem move_pc_of_ne {j : Nat} (h : j ≠ i) : (c.move i s p).pc j = c.pc j :=
  Function.update_noteq h _ _

@[simp] theorem move_move (s' : State) (q : Pc) :
    (c.move i s p).move i s' q = c.move i s' q := by
  simp [move]

theorem move_self : c.move i c.st (c.pc i) = c := by
  simp [move]

end Conf

/-- One entry of a schedule: caller `i` enters `dpiObject__close(obj, checkError)`
and runs its first lock section, or caller `i` runs its next statement. -/
inductive Sched
  | start (i : Nat) (checkError : Bool)
  | next (i : Nat)
  deriving DecidableEq, Repr

/-- The first lock section: the flag read, and the caller's next position. -/
def enter (x : ObjId) (s : State) (checkError : Bool) : State × Pc :=
  let m := markClosing s x
  (m.1, .checked checkError m.2)

/-- The statement a caller at `p` runs next on the shared state `s`: the new
state and the caller's next position. A caller outside a call stays put. -/
def advance (x : ObjId) (s : State) : Pc → State × Pc
  | .idle => (s, .idle)
  | .done ok => (s, .done ok)
  | .checked _ true => (s, .done true)
  | .checked ck false => (s, .test ck)
  | .test ck => (s, bif ownsNative (s.obj x) then .freeInst ck else .done true)
  | .freeInst ck =>
    let a := freeInstance s x ck
    (a.1, bif a.2 then .clearInst ck else .reset ck)
  | .clearInst ck => (clearInstance s x, .freeInd ck)
  | .freeInd ck =>
    let b := freeIndicatorHandle s x ck
    (b.1, bif b.2 then .clearInd ck else .reset ck)
  | .clearInd ck => (clearIndicator s x, .dereg ck)
  | .dereg _ => (deregister s x, .done true)
  | .reset _ => (resetClosing s x, .done false)

/-- One step of a schedule on record `x`. A caller already inside a call does
not enter another. -/
def step (x : ObjId) (c : Conf) : Sched → Conf
  | .start i ck =>
    if (c.pc i).isIdle then c.move i (enter x c.st ck).1 (enter x c.st ck).2 else c
  | .next i => c.move i (advance x c.st (c.pc i)).1 (advance x c.st (c.pc i)).2

/-- A whole schedule. -/
def run (x : ObjId) (c : Conf) (σ : List Sched) : Conf := σ.foldl (step x) c

@[simp] theorem run_nil (x : ObjId) (c : Conf) : run x c [] = c := rfl

@[simp] theorem run_cons (x : ObjId) (c : Conf) (e : Sched) (σ : List Sched) :
    run x c (e :: σ) = run x (step x c e) σ := rfl

/-! ### The calls made on the record's handles -/

/-- Whether `e` is a `dpiOci__objectFree` of handle `tg` of record `x`. -/
def freesHandle (x : ObjId) (tg : FreeTarget) : Event → Bool
  | .objectFree y t _ _ _ => y == x && t == tg
  | _ => false

/-- Whether `e` is such a call that succeeded. -/
def freedHandle (x : ObjId) (tg : FreeTarget) : Event → Bool
  | .objectFree y t _ _ ok => y == x && t == tg && ok
  | _ => false

/-- In the calls `l`, no free of handle `tg` of `x` comes after one that succeeded. -/
def FreedOnce (x : ObjId) (tg : FreeTarget) (l : List Event) : Prop :=
  ∀ e e', List.Sublist [e, e'] l → freedHandle x tg e = true → freesHandle x tg e' = false

theorem freedOnce_append {x : ObjId} {tg : FreeTarget} {l : List Event} {d : Event}
    (hl : FreedOnce x tg l) (hd : freesHandle x tg d = true → l.any (freedHandle x tg) = false) :
    FreedOnce x tg (l ++ [d]) := by
  intro e e' hs he
  rw [← List.reverse_sublist, List.reverse_append] at hs
  rcases List.sublist_cons_iff.1 hs with hs | ⟨r, hr, hs⟩
  · exact hl e e' (List.reverse_sublist.1 hs) he
  · simp only [List.reverse_cons, List.reverse_nil, List.nil_append, List.singleton_append,
      List.cons.injEq] at hr
    obtain ⟨rfl, rfl⟩ := hr
    have hel : e ∈ l := by simpa using hs
    cases hf : freesHandle x tg e'
    · rfl
    · simp [List.any_eq_false.1 (hd hf) e hel] at he

theorem freedOnce_nil (x : ObjId) (tg : FreeTarget) : FreedOnce x tg [] := by
  intro e e' hs
  simpa using hs.length_le

/-! ### What a run keeps -/

theorem markClosing_of_closing {s : State} {x : ObjId} {r : Object}
    (hr : s.objects x = some r) (hc : r.closing = true) : markClosing s x = (s, true) := by
  have hf : { r with closing := true } = r := by cases r; simp_all
  have hu : Function.update s.objects x (some r) = s.objects := hr ▸ Function.update_eq_self x _
  simp only [markClosing, State.modify, State.obj, hr, Option.map_some', hf, hu, Option.getD_some, hc]

@[simp] theorem deregister_obj (s : State) (x y : ObjId) : (deregister s x).obj y = s.obj y := by
  simp [State.obj]

theorem obj_modify_of_live {s : State} {x : ObjId} (f : Object → Object) (h : s.Live x) :
    (s.modify x f).obj x = f (s.obj x) := by
  obtain ⟨r, hr⟩ := s.live_iff.1 h
  simp [s.modify_obj_self f hr, s.obj_of_objects hr]

theorem step_start_of_closing {x : ObjId} {c : Conf} {i : Nat} {r : Object} (ck : Bool)
    (hi : (c.pc i).isIdle) (hr : c.st.objects x = some r) (hc : r.closing = true) :
    step x c (.start i ck) = c.move i c.st (.checked ck true) := by
  simp [step, hi, enter, markClosing_of_closing hr hc]

theorem step_next_of_checked {x : ObjId} {c : Conf} {i : Nat} {ck : Bool}
    (hp : c.pc i = .checked ck true) : step x c (.next i) = c.move i c.st (.done true) := by
  simp [step, hp, advance]

section Safe

variable {x : ObjId} {t₀ new : List Event} {c : Conf} {i : Nat}

/-- What holds at every configuration reached from one where no caller is
inside `dpiObject__close`: `t₀` is the trace then and `new` the calls made
since. The owner is the caller whose lock section found the flag clear. -/
structure Safe (x : ObjId) (t₀ new : List Event) (c : Conf) : Prop where
  trace_eq : c.st.trace = t₀ ++ new
  live : c.st.Live x
  owner_unique : ∀ i j, (c.pc i).owns → (c.pc j).owns → i = j
  owner_closing : ∀ i, (c.pc i).owns → (c.st.obj x).closing = true
  inst_freed : new.any (freedHandle x .instance) →
    (c.st.obj x).instance = none ∨ ∃ i, (c.pc i).instPending
  inst_fresh : ∀ i ck, c.pc i = .freeInst ck → new.any (freedHandle x .instance) = false
  ind_freed : new.any (freedHandle x .indicator) →
    (c.st.obj x).closing = true ∧ ∀ i, (c.pc i).owns → (c.pc i).indFreed
  once : ∀ tg, FreedOnce x tg new

theorem Safe.init (h₀ : ∀ i, (c.pc i).isIdle) (hx : c.st.Live x) : Safe x c.st.trace [] c where
  trace_eq := by simp
  live := hx
  owner_unique i _ hi := by simp [Pc.not_owns_of_isIdle (h₀ i)] at hi
  owner_closing i hi := by simp [Pc.not_owns_of_isIdle (h₀ i)] at hi
  inst_freed h := by simp at h
  inst_fresh _ _ _ := rfl
  ind_freed h := by simp at h
  once := freedOnce_nil x

/-- Only the owner moves into or out of an owning position. -/
theorem Safe.owner_move (hs : Safe x t₀ new c) (hi : (c.pc i).owns) {s : State} {q : Pc}
    {j : Nat} (hj : ((c.move i s q).pc j).owns) : j = i ∧ q.owns := by
  by_cases hji : j = i
  · subst hji; simpa using hj
  · rw [Conf.move_pc_of_ne _ _ _ _ hji] at hj
    exact absurd (hs.owner_unique j i hj hi) hji

/-- The owner's own view of the instance once it was freed. -/
theorem Safe.inst_freed_at (hs : Safe x t₀ new c) (hi : (c.pc i).owns)
    (hf : new.any (freedHandle x .instance)) :
    (c.st.obj x).instance = none ∨ (c.pc i).instPending := by
  refine (hs.inst_freed hf).imp_right fun ⟨j, hj⟩ => ?_
  rwa [← hs.owner_unique j i (Pc.owns_of_instPending hj) hi]

theorem Safe.ind_freed_at (hs : Safe x t₀ new c) (hi : (c.pc i).owns)
    (hf : new.any (freedHandle x .indicator)) : (c.pc i).indFreed :=
  (hs.ind_freed hf).2 i hi

/-- Before the owner frees the indicator, no free of it has succeeded. -/
theorem Safe.ind_fresh (hs : Safe x t₀ new c) (hi : (c.pc i).owns)
    (hp : (c.pc i).indFreed = false) : new.any (freedHandle x .indicator) = false := by
  cases hf : new.any (freedHandle x .indicator)
  · rfl
  · simpa [hp] using hs.ind_freed_at hi hf

/-- Outside `clearInst`, an instance whose free succeeded is already cleared. -/
theorem Safe.inst_none (hs : Safe x t₀ new c) (hi : (c.pc i).owns)
    (hp : (c.pc i).instPending = false) (hf : new.any (freedHandle x .instance)) :
    (c.st.obj x).instance = none :=
  (hs.inst_freed_at hi hf).resolve_right (by simp [hp])

/-- An owner's step keeps the invariant when its new position and state keep
it for the owner alone. -/
theorem Safe.move (hs : Safe x t₀ new c) (hi : (c.pc i).owns) {s : State} {q : Pc}
    {l : List Event} (htr : s.trace = c.st.trace ++ l) (hl : s.Live x)
    (hcl : q.owns → (s.obj x).closing = true)
    (hin : (new ++ l).any (freedHandle x .instance) →
      (s.obj x).instance = none ∨ q.instPending)
    (hfr : ∀ ck, q = .freeInst ck → (new ++ l).any (freedHandle x .instance) = false)
    (hind : (new ++ l).any (freedHandle x .indicator) →
      (s.obj x).closing = true ∧ (q.owns → q.indFreed))
    (honce : ∀ tg, FreedOnce x tg (new ++ l)) :
    Safe x t₀ (new ++ l) (c.move i s q) where
  trace_eq := by simp [htr, hs.trace_eq]
  live := hl
  owner_unique j k hj hk := by
    rw [(hs.owner_move hi hj).1, (hs.owner_move hi hk).1]
  owner_closing j hj := hcl (hs.owner_move hi hj).2
  inst_freed hf := (hin hf).imp_right fun hq => ⟨i, by simpa using hq⟩
  inst_fresh j ck hj := by
    obtain ⟨rfl, -⟩ := hs.owner_move hi (by rw [hj]; rfl : ((c.move i s q).pc j).owns)
    exact hfr ck (by simpa using hj)
  ind_freed hf := ⟨(hind hf).1, fun j hj => by
    obtain ⟨rfl, hq⟩ := hs.owner_move hi hj
    simpa using (hind hf).2 hq⟩
  once := honce

/-- A step of a caller that neither owns the record before nor after it, and
leaves the shared state alone. -/
theorem Safe.move_other (hs : Safe x t₀ new c) (hi : (c.pc i).owns = false) {q : Pc}
    (hq : q.owns = false) : Safe x t₀ new (c.move i c.st q) := by
  have hpc : ∀ j, ((c.move i c.st q).pc j).owns → (c.move i c.st q).pc j = c.pc j := by
    intro j hj
    by_cases hji : j = i
    · subst hji; simp_all
    · exact Conf.move_pc_of_ne _ _ _ _ hji
  have hne : ∀ j, (c.pc j).owns → j ≠ i := by
    rintro j hj rfl; simp_all
  exact
    { trace_eq := hs.trace_eq
      live := hs.live
      owner_unique := fun j k hj hk => by
        rw [hpc j hj] at hj; rw [hpc k hk] at hk; exact hs.owner_unique j k hj hk
      owner_closing := fun j hj => by rw [hpc j hj] at hj; exact hs.owner_closing j hj
      inst_freed := fun hf => (hs.inst_freed hf).imp_right fun ⟨j, hj⟩ =>
        ⟨j, by rwa [Conf.move_pc_of_ne _ _ _ _ (hne j (Pc.owns_of_instPending hj))]⟩
      inst_fresh := fun j ck hj => hs.inst_fresh j ck (by
        rw [← hj, hpc j (by rw [hj]; rfl)])
      ind_freed := fun hf => ⟨(hs.ind_freed hf).1, fun j hj => by
        have e := hpc j hj
        rw [e] at hj ⊢; exact (hs.ind_freed hf).2 j hj⟩
      once := hs.once }

/-- The first lock section of a caller that finds the flag clear makes it the owner. -/
theorem Safe.enter_owner (hs : Safe x t₀ new c) (ck : Bool)
    (hc : (c.st.obj x).closing = false) :
    Safe x t₀ new (c.move i (markClosing c.st x).1 (.checked ck false)) := by
  obtain ⟨r, hr⟩ := c.st.live_iff.1 hs.live
  have hnone : ∀ j, (c.pc j).owns = false := fun j => by
    cases hj : (c.pc j).owns
    · rfl
    · simpa [hc] using hs.owner_closing j hj
  have hobj : ((markClosing c.st x).1.obj x) = { c.st.obj x with closing := true } := by
    simp [markClosing, State.obj, hr]
  have heq : ∀ j, ((c.move i (markClosing c.st x).1 (.checked ck false)).pc j).owns → j = i := by
    intro j hj
    by_contra hji
    simp [Conf.move_pc_of_ne _ _ _ _ hji, hnone] at hj
  exact
    { trace_eq := by simpa [markClosing] using hs.trace_eq
      live := by simpa [markClosing, State.Live] using hs.live
      owner_unique := fun j k hj hk => by rw [heq j hj, heq k hk]
      owner_closing := fun _ _ => by simp [hobj]
      inst_freed := fun hf => by
        rcases hs.inst_freed hf with h | ⟨j, hj⟩
        · exact .inl (by simpa [hobj] using h)
        · exact absurd (Pc.owns_of_instPending hj) (by simp [hnone j])
      inst_fresh := fun j ck' hj => by
        cases heq j (by rw [hj]; rfl); simp at hj
      ind_freed := fun hf => by simpa [hc] using (hs.ind_freed hf).1
      once := hs.once }

/-- An owner's step that makes no call and leaves the record's flag and
instance alone. -/
theorem Safe.move_quiet (hs : Safe x t₀ new c) (hi : (c.pc i).owns) {s : State} {q : Pc}
    (htr : s.trace = c.st.trace) (hl : s.Live x)
    (hobj : (s.obj x).closing = (c.st.obj x).closing ∧ (s.obj x).instance = (c.st.obj x).instance)
    (hpend : (c.pc i).instPending = false)
    (hfr : ∀ ck, q = .freeInst ck → (c.st.obj x).instance.isSome)
    (hmono : (c.pc i).indFreed → q.owns → q.indFreed) :
    Safe x t₀ new (c.move i s q) := by
  have hcl := hs.owner_closing i hi
  have hin := hs.inst_none hi hpend
  have hm := hs.move hi (by simpa using htr : s.trace = c.st.trace ++ []) hl
    (fun _ => hobj.1 ▸ hcl) (fun hf => .inl (hobj.2 ▸ hin (by simpa using hf)))
    (fun ck hq => by
      cases hf : new.any (freedHandle x .instance)
      · simp [hf]
      · simpa [hin hf] using hfr ck hq)
    (fun hf => ⟨hobj.1 ▸ hcl, hmono (hs.ind_freed_at hi (by simpa using hf))⟩)
    (by simpa using hs.once)
  simpa using hm

/-- Every statement a caller runs keeps the invariant. -/
theorem Safe.advance_keeps (hs : Safe x t₀ new c) (i : Nat) :
    ∃ new', Safe x t₀ new' (c.move i (advance x c.st (c.pc i)).1 (advance x c.st (c.pc i)).2) := by
  have hl := hs.live
  have hself := Conf.move_self c i
  cases hp : c.pc i <;> simp only [advance] <;> rw [hp] at hself
  case idle | done => exact ⟨new, by rw [hself]; exact hs⟩
  case checked ck b =>
    cases b with
    | true => exact ⟨new, hs.move_other (by simp [hp, Pc.owns]) rfl⟩
    | false =>
      exact ⟨new, hs.move_quiet (q := .test ck) (by simp [hp, Pc.owns]) rfl hl ⟨rfl, rfl⟩
        (by simp [hp, Pc.instPending]) (by simp) (by simp [hp, Pc.indFreed])⟩
  case test ck =>
    have hi : (c.pc i).owns := by simp [hp, Pc.owns]
    refine ⟨new, ?_⟩
    cases hn : ownsNative (c.st.obj x)
    · exact hs.move_quiet (q := .done true) hi rfl hl ⟨rfl, rfl⟩ (by simp [hp, Pc.instPending]) (by simp)
        (by simp [Pc.owns])
    · exact hs.move_quiet (q := .freeInst ck) hi rfl hl ⟨rfl, rfl⟩ (by simp [hp, Pc.instPending])
        (fun _ _ => by simp_all [ownsNative]) (by simp [hp, Pc.indFreed])
  case freeInst ck =>
    have hi : (c.pc i).owns := by simp [hp, Pc.owns]
    have hfresh := hs.inst_fresh i ck hp
    have hnoind := hs.ind_fresh hi (by simp [hp, Pc.indFreed])
    refine ⟨_, hs.move (l := [.objectFree x .instance (c.st.obj x).instance ck c.st.callOk]) hi
      (by simp) (by simpa [State.Live] using hl) (fun _ => by simpa using hs.owner_closing i hi)
      ?_ ?_ ?_ fun tg => freedOnce_append (hs.once tg) fun h => ?_⟩
    · cases hok : c.st.callOk <;> simp [hok, hfresh, freedHandle, Pc.instPending]
    · intro ck' h; cases hok : c.st.callOk <;> simp [hok] at h
    · intro hf; simp [hnoind, freedHandle] at hf
    · cases tg
      · exact hfresh
      · simp [freesHandle] at h
  case clearInst ck =>
    have hi : (c.pc i).owns := by simp [hp, Pc.owns]
    have hobj : ((clearInstance c.st x).obj x) = { c.st.obj x with «instance» := none } :=
      obj_modify_of_live _ hl
    refine ⟨_, hs.move (l := []) hi (by simp [clearInstance])
      (by simpa [clearInstance, State.Live] using hl) (fun _ => by simpa [hobj] using hs.owner_closing i hi)
      (fun _ => .inl (by simp [hobj])) (by simp) (fun hf => ?_) (by simpa using hs.once)⟩
    simp [hs.ind_fresh hi (by simp [hp, Pc.indFreed])] at hf
  case freeInd ck =>
    have hi : (c.pc i).owns := by simp [hp, Pc.owns]
    have hcl := hs.owner_closing i hi
    have hnoind := hs.ind_fresh hi (by simp [hp, Pc.indFreed])
    have hin := hs.inst_none hi (by simp [hp, Pc.instPending])
    cases hfi : (c.st.obj x).freeIndicator
    · rw [freeIndicatorHandle_eq, if_neg (by simp [hfi])]
      exact ⟨new, hs.move_quiet (q := .clearInd ck) hi rfl hl ⟨rfl, rfl⟩
        (by simp [hp, Pc.instPending]) (by simp) (fun _ _ => rfl)⟩
    · rw [freeIndicatorHandle_eq, if_pos hfi]
      refine ⟨_, hs.move (l := [.objectFree x .indicator (c.st.obj x).indicator ck c.st.callOk]) hi
        (by simp) (by simpa [State.Live] using hl) (fun _ => by simpa using hcl)
        (fun hf => .inl (by simpa using hin (by simpa [freedHandle] using hf))) ?_ ?_
        fun tg => freedOnce_append (hs.once tg) fun h => ?_⟩
      · intro ck' h; cases hok : c.st.callOk <;> simp [hok] at h
      · intro hf
        cases hok : c.st.callOk
        · simp [hok, hnoind, freedHandle] at hf
        · simp [hok, hcl, Pc.indFreed]
      · cases tg
        · simp [freesHandle] at h
        · exact hnoind
  case clearInd ck =>
    have hi : (c.pc i).owns := by simp [hp, Pc.owns]
    have hobj : ((clearIndicator c.st x).obj x) = { c.st.obj x with indicator := none } :=
      obj_modify_of_live _ hl
    exact ⟨new, hs.move_quiet (q := .dereg ck) hi (by simp [clearIndicator])
      (by simpa [clearIndicator, State.Live] using hl) (by simp [hobj])
      (by simp [hp, Pc.instPending]) (by simp) (fun _ _ => rfl)⟩
  case dereg ck =>
    have hi : (c.pc i).owns := by simp [hp, Pc.owns]
    exact ⟨new, hs.move_quiet (q := .done true) hi (by simp) (by simpa [State.Live] using hl)
      (by simp) (by simp [hp, Pc.instPending]) (by simp) (fun _ h => by simp [Pc.owns] at h)⟩
  case reset ck =>
    have hi : (c.pc i).owns := by simp [hp, Pc.owns]
    have hobj : ((resetClosing c.st x).obj x) = { c.st.obj x with closing := false } :=
      obj_modify_of_live _ hl
    have hin := hs.inst_none hi (by simp [hp, Pc.instPending])
    refine ⟨_, hs.move (l := []) hi (by simp [resetClosing])
      (by simpa [resetClosing, State.Live] using hl) (fun h => by simp [Pc.owns] at h)
      (fun hf => .inl (by simpa [hobj] using hin (by simpa using hf))) (by simp) (fun hf => ?_)
      (by simpa using hs.once)⟩
    simp [hs.ind_fresh hi (by simp [hp, Pc.indFreed])] at hf

/-- Every entry of a schedule keeps the invariant. -/
theorem Safe.step_keeps (hs : Safe x t₀ new c) (e : Sched) : ∃ new', Safe x t₀ new' (step x c e) := by
  cases e with
  | next i => exact hs.advance_keeps i
  | start i ck =>
    by_cases hi : (c.pc i).isIdle
    · obtain ⟨r, hr⟩ := c.st.live_iff.1 hs.live
      cases hc : r.closing
      · have hc' : (c.st.obj x).closing = false := by simp [c.st.obj_of_objects hr, hc]
        exact ⟨new, by simpa [step, hi, enter, hc'] using hs.enter_owner ck hc'⟩
      · rw [step_start_of_closing ck hi hr hc]
        exact ⟨new, hs.move_other (Pc.not_owns_of_isIdle hi) rfl⟩
    · exact ⟨new, by simpa [step, hi] using hs⟩

/-- The invariant holds after every schedule. -/
theorem Safe.run_keeps (hs : Safe x t₀ new c) (σ : List Sched) :
    ∃ new', Safe x t₀ new' (run x c σ) := by
  induction σ generalizing c new with
  | nil => exact ⟨new, hs⟩
  | cons e σ ih =>
    obtain ⟨new', hs'⟩ := hs.step_keeps e
    exact ih hs'

end Safe

/-- What the callers of `dpiObject__close` on record `x` keep at a configuration
`c` reached from `c₀`: at most one of them is inside `dpiObject__closeHelper`;
a caller whose lock section finds the flag set, and its return, change nothing
but its own position; and since `c₀` no free of a handle of `x` came after a
free of that handle that succeeded. -/
def CloseSafe (x : ObjId) (c₀ c : Conf) : Prop :=
  (∀ i j, (c.pc i).inHelper → (c.pc j).inHelper → i = j) ∧
  (∀ i ck, (c.pc i).isIdle → (c.st.obj x).closing →
    step x c (.start i ck) = c.move i c.st (.checked ck true)) ∧
  (∀ i ck, c.pc i = .checked ck true → step x c (.next i) = c.move i c.st (.done true)) ∧
  ∃ new, c.st.trace = c₀.st.trace ++ new ∧ ∀ tg, FreedOnce x tg new

theorem close_interleaving_safe (x : ObjId) (c₀ : Conf) (σ : List Sched)
    (h₀ : ∀ i, (c₀.pc i).isIdle) (hx : c₀.st.Live x) : CloseSafe x c₀ (run x c₀ σ) := by
  obtain ⟨new, hs⟩ := (Safe.init h₀ hx).run_keeps σ
  obtain ⟨r, hr⟩ := (run x c₀ σ).st.live_iff.1 hs.live
  refine ⟨fun i j hi hj => hs.owner_unique i j (Pc.owns_of_inHelper hi) (Pc.owns_of_inHelper hj),
    fun i ck hi hc => step_start_of_closing ck hi hr (by simpa [State.obj_of_objects _ hr] using hc),
    fun i ck hp => step_next_of_checked hp, new, hs.trace_eq, hs.once⟩

/-- Two callers race on a record that owns its instance and indicator: caller 1
finds the flag set and returns, caller 0's free of the instance fails and it
resets the flag, and caller 1 retries and closes the record. -/
theorem close_interleaving_safe_retry :
    (∀ i, ((⟨{ State.init [false] with
        objects := fun y => if y = 0 then some ⟨0, some 1, some 2, none, true, false, 0, 1⟩ else none,
        nextObj := 1 }, fun _ => .idle⟩ : Conf).pc i).isIdle) ∧
    ({ State.init [false] with
        objects := fun y => if y = 0 then some ⟨0, some 1, some 2, none, true, false, 0, 1⟩ else none,
        nextObj := 1 } : State).Live 0 ∧
    CloseSafe 0 ⟨{ State.init [false] with
        objects := fun y => if y = 0 then some ⟨0, some 1, some 2, none, true, false, 0, 1⟩ else none,
        nextObj := 1 }, fun _ => .idle⟩
      (run 0 ⟨{ State.init [false] with
        objects := fun y => if y = 0 then some ⟨0, some 1, some 2, none, true, false, 0, 1⟩ else none,
        nextObj := 1 }, fun _ => .idle⟩
        [.start 0 true, .start 1 true, .next 1, .next 0, .next 0, .next 0, .next 0,
          .start 1 true, .next 1, .next 1, .next 1, .next 1, .next 1, .next 1, .next 1, .next 1]) :=
  ⟨fun _ => rfl, rfl, close_interleaving_safe _ _ _ (fun _ => rfl) rfl⟩

example :
    (run 0 ⟨{ State.init [false] with
        objects := fun y => if y = 0 then some ⟨0, some 1, some 2, none, true, false, 0, 1⟩ else none,
        nextObj := 1 }, fun _ => .idle⟩
        [.start 0 true, .start 1 true, .next 1, .next 0, .next 0, .next 0, .next 0,
          .start 1 true, .next 1, .next 1, .next 1, .next 1, .next 1, .next 1, .next 1, .next 1]).st.trace =
      [.objectFree 0 .instance (some 1) true false, .objectFree 0 .instance (some 1) true true,
        .objectFree 0 .indicator (some 2) true true] := by
  decide

end Dpi.Object.Threaded

namespace Dpi.Object.Threaded

/-! ### One caller alone runs the sequential `dpiObject__close` -/

@[simp] theorem step_next_move (x : ObjId) (c : Conf) (i : Nat) (s : State) (p : Pc) :
    step x (c.move i s p) (.next i) = c.move i (advance x s p).1 (advance x s p).2 := by
  simp [step]

theorem run_next_succ (x : ObjId) (c : Conf) (i : Nat) (s : State) (p : Pc) (n : Nat) :
    run x (c.move i s p) (List.replicate (n + 1) (.next i)) =
      run x (c.move i (advance x s p).1 (advance x s p).2) (List.replicate n (.next i)) := by
  rw [List.replicate_succ, run_cons, step_next_move]

theorem run_done (x : ObjId) (c : Conf) (i : Nat) (s : State) (ok : Bool) (n : Nat) :
    run x (c.move i s (.done ok)) (List.replicate n (.next i)) = c.move i s (.done ok) := by
  induction n with
  | zero => rfl
  | succ n ih => rw [run_next_succ]; exact ih

/-- A caller that runs a whole call with no other caller moving computes what
the sequential `dpiObject__close` computes: the same state and the same result. -/
theorem run_alone_eq_close (x : ObjId) (c : Conf) (i : Nat) (ck : Bool) (hi : (c.pc i).isIdle) :
    run x c (.start i ck :: List.replicate 7 (.next i)) =
      c.move i (close c.st x ck).1 (.done (close c.st x ck).2) := by
  have hm : step x c (.start i ck) =
      c.move i (markClosing c.st x).1 (.checked ck (markClosing c.st x).2) := by
    simp [step, hi, enter]
  rw [run_cons, hm, close]
  generalize markClosing c.st x = m
  rcases m with ⟨s₁, _ | _⟩ <;> rw [run_next_succ] <;> simp only [advance]
  case true => exact run_done ..
  rw [run_next_succ]
  simp only [advance]
  generalize ownsNative (s₁.obj x) = o
  cases o
  · exact run_done ..
  rw [closeHelper, run_next_succ]
  simp only [advance, cond_true]
  generalize freeInstance s₁ x ck = a
  rcases a with ⟨s₂, _ | _⟩ <;> rw [run_next_succ] <;> simp only [advance, cond_true, cond_false]
  case false => exact run_done ..
  rw [run_next_succ]
  simp only [advance]
  generalize freeIndicatorHandle (clearInstance s₂ x) x ck = b
  rcases b with ⟨s₃, _ | _⟩ <;> rw [run_next_succ] <;> simp only [advance, cond_true, cond_false]
  case false => exact run_done ..
  rw [run_next_succ]
  simp only [advance]
  exact run_done ..

theorem run_alone_eq_close_owned :
    ((⟨{ State.init [true, false] with
        objects := fun y => if y = 0 then some ⟨0, some 1, some 2, none, true, false, 0, 1⟩ else none,
        nextObj := 1 }, fun _ => .idle⟩ : Conf).pc 0).isIdle ∧
    run 0 ⟨{ State.init [true, false] with
        objects := fun y => if y = 0 then some ⟨0, some 1, some 2, none, true, false, 0, 1⟩ else none,
        nextObj := 1 }, fun _ => .idle⟩ (.start 0 true :: List.replicate 7 (.next 0)) =
      Conf.move ⟨{ State.init [true, false] with
        objects := fun y => if y = 0 then some ⟨0, some 1, some 2, none, true, false, 0, 1⟩ else none,
        nextObj := 1 }, fun _ => .idle⟩ 0
        (close { State.init [true, false] with
          objects := fun y => if y = 0 then some ⟨0, some 1, some 2, none, true, false, 0, 1⟩ else none,
          nextObj := 1 } 0 true).1
        (.done (close { State.init [true, false] with
          objects := fun y => if y = 0 then some ⟨0, some 1, some 2, none, true, false, 0, 1⟩ else none,
          nextObj := 1 } 0 true).2) :=
  ⟨rfl, run_alone_eq_close 0 _ 0 true rfl⟩

end Dpi.Object.Threaded
