import DpiObject.Basic

/-! The connection's list of open objects. Its code is not part of the
repository's files; it is modelled from the spec's "add(instance)->slot,
remove(slot)": adding fills the first free slot (or a new one at the end) and
counts it, removing empties the given slot and uncounts it. -/
namespace Dpi.HandleList

/-- The object in slot `i`, if any. -/
def slot (l : HandleList) (i : Nat) : Option ObjId := l.handles.getD i none

/-- The number of occupied slots. -/
def occupied (l : HandleList) : Nat := l.handles.countP Option.isSome

/-- Put `obj` into the first free slot, or a new one at the end, and return
that slot's number. -/
def place (obj : ObjId) : List (Option ObjId) → List (Option ObjId) × Nat
  | [] => ([some obj], 0)
  | none :: hs => (some obj :: hs, 0)
  | some x :: hs => (some x :: (place obj hs).1, (place obj hs).2 + 1)

/-- Modelled from the spec: `dpiHandleList__addHandle`, "add(instance)->slot". -/
def addHandle (l : HandleList) (obj : ObjId) : HandleList × Nat :=
  ({ handles := (place obj l.handles).1, numUsedSlots := l.numUsedSlots + 1 },
    (place obj l.handles).2)

/-- Modelled from the spec: `dpiHandleList__removeHandle`, "remove(slot)".
The count is an integer: a removal at count 0 gives -1, where a C unsigned
counter would wrap; the counter's width is not in the repository's files, so
the wrap itself is not modelled. -/
def removeHandle (l : HandleList) (i : Nat) : HandleList :=
  { handles := l.handles.set i none, numUsedSlots := l.numUsedSlots - 1 }

section Place

variable (obj : ObjId)

theorem place_fills : ∀ hs : List (Option ObjId),
    (place obj hs).1.getD (place obj hs).2 none = some obj
  | [] => rfl
  | none :: _ => rfl
  | some _ :: hs => by simpa [place] using place_fills hs

theorem place_was_free : ∀ hs : List (Option ObjId), hs.getD (place obj hs).2 none = none
  | [] => rfl
  | none :: _ => rfl
  | some _ :: hs => by simpa [place] using place_was_free hs

theorem place_other : ∀ (hs : List (Option ObjId)) (i : Nat), i ≠ (place obj hs).2 →
    (place obj hs).1.getD i none = hs.getD i none
  | [], 0, h => absurd rfl h
  | [], _ + 1, _ => rfl
  | none :: _, 0, h => absurd rfl h
  | none :: _, _ + 1, _ => rfl
  | some _ :: _, 0, _ => rfl
  | some _ :: hs, i + 1, h => by
      simpa [place] using place_other hs i (by simpa [place] using h)

theorem place_countP : ∀ hs : List (Option ObjId),
    (place obj hs).1.countP Option.isSome = hs.countP Option.isSome + 1
  | [] => rfl
  | none :: _ => by simp [place]
  | some _ :: hs => by simp [place, place_countP hs]

end Place

@[simp] theorem addHandle_slot_self (l : HandleList) (obj : ObjId) :
    (l.addHandle obj).1.slot (l.addHandle obj).2 = some obj :=
  place_fills obj l.handles

theorem addHandle_slot_was_free (l : HandleList) (obj : ObjId) :
    l.slot (l.addHandle obj).2 = none :=
  place_was_free obj l.handles

theorem addHandle_slot_of_ne (l : HandleList) (obj : ObjId) {i : Nat}
    (h : i ≠ (l.addHandle obj).2) : (l.addHandle obj).1.slot i = l.slot i :=
  place_other obj l.handles i h

@[simp] theorem addHandle_occupied (l : HandleList) (obj : ObjId) :
    (l.addHandle obj).1.occupied = l.occupied + 1 :=
  place_countP obj l.handles

@[simp] theorem addHandle_numUsedSlots (l : HandleList) (obj : ObjId) :
    (l.addHandle obj).1.numUsedSlots = l.numUsedSlots + 1 := rfl

theorem getD_set_none : ∀ (hs : List (Option ObjId)) (i j : Nat),
    (hs.set i none).getD j none = if j = i then none else hs.getD j none
  | [], _, _ => by simp
  | _ :: _, 0, 0 => rfl
  | _ :: _, 0, _ + 1 => rfl
  | _ :: _, _ + 1, 0 => rfl
  | _ :: hs, i + 1, j + 1 => by simpa using getD_set_none hs i j

theorem countP_set_none : ∀ (hs : List (Option ObjId)) (i : Nat),
    (hs.set i none).countP Option.isSome + (if (hs.getD i none).isSome then 1 else 0) =
      hs.countP Option.isSome
  | [], _ => by simp
  | none :: _, 0 => by simp
  | some _ :: _, 0 => by simp
  | none :: hs, i + 1 => by simpa using countP_set_none hs i
  | some _ :: hs, i + 1 => by
      have := countP_set_none hs i
      simp only [List.set_cons_succ, List.countP_cons_of_pos, Option.isSome_some,
        List.getD_cons_succ]
      omega

theorem removeHandle_slot (l : HandleList) (i j : Nat) :
    (l.removeHandle i).slot j = if j = i then none else l.slot j :=
  getD_set_none l.handles i j

@[simp] theorem removeHandle_slot_self (l : HandleList) (i : Nat) :
    (l.removeHandle i).slot i = none := by
  simp [removeHandle_slot]

theorem removeHandle_occupied (l : HandleList) (i : Nat) :
    (l.removeHandle i).occupied + (if (l.slot i).isSome then 1 else 0) = l.occupied :=
  countP_set_none l.handles i

@[simp] theorem removeHandle_numUsedSlots (l : HandleList) (i : Nat) :
    (l.removeHandle i).numUsedSlots = l.numUsedSlots - 1 := rfl

end Dpi.HandleList
