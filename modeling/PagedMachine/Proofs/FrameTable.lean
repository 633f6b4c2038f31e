import PagedMachine.Memory.Frames
import Mathlib.Data.List.Nodup

/-!
# The laws of the frame table

Each operation on the frame table changes one frame, or the frames of one process, and keeps
the number of frames. Binding leaves the locks, locking and unlocking leave the owners, and
freeing unbinds and unlocks. The frame allocation takes is the lowest free, unlocked one, and
the victim of an eviction has an owner and no lock (`firstFree_spec`, `selectVictim_spec`).
-/

namespace PagedMachine

namespace FrameTable

variable (t : FrameTable)

/-- Binding a frame keeps the number of frames. -/
@[simp] theorem size_assign (f : Nat) (o : FrameOwner) : (t.assign f o).size = t.size :=
  Array.size_modify

/-- Locking a frame keeps the number of frames. -/
@[simp] theorem size_lock (f : Nat) : (t.lock f).size = t.size := Array.size_modify

/-- Unlocking a frame keeps the number of frames. -/
@[simp] theorem size_unlock (f : Nat) : (t.unlock f).size = t.size := Array.size_modify

/-- Freeing a frame keeps the number of frames. -/
@[simp] theorem size_deallocate (f : Nat) : (t.deallocate f).size = t.size := Array.size_modify

/-- Freeing the frames of a process keeps the number of frames. -/
@[simp] theorem size_releaseOwner (pid : Nat) : (t.releaseOwner pid).2.size = t.size := by
  unfold releaseOwner
  generalize (List.range t.size).filter _ = fs
  induction fs generalizing t with
  | nil => rfl
  | cons f rest ih => simp [ih]

/-- Locking a frame leaves every owner. -/
@[simp] theorem owner_lock (f g : Nat) : (t.lock f).owner g = t.owner g := by
  unfold owner lock
  rw [Array.getElem?_modify]
  split
  · cases t.frames[g]? <;> rfl
  · rfl

/-- Unlocking a frame leaves every owner. -/
@[simp] theorem owner_unlock (f g : Nat) : (t.unlock f).owner g = t.owner g := by
  unfold owner unlock
  rw [Array.getElem?_modify]
  split
  · cases t.frames[g]? <;> rfl
  · rfl

/-- Binding a frame leaves every lock. -/
@[simp] theorem isLocked_assign (f g : Nat) (o : FrameOwner) :
    (t.assign f o).isLocked g = t.isLocked g := by
  unfold isLocked assign
  rw [Array.getElem?_modify]
  split
  · cases t.frames[g]? <;> rfl
  · rfl

/-- Locking a frame inside the table locks it and leaves every other lock. -/
theorem isLocked_lock {f : Nat} (inside : f < t.size) (g : Nat) :
    (t.lock f).isLocked g = if f = g then true else t.isLocked g := by
  unfold isLocked lock
  rw [Array.getElem?_modify]
  split
  · rename_i same
    subst same
    have present : t.frames[f]? = some t.frames[f] := Array.getElem?_eq_getElem inside
    rw [present]
    rfl
  · rfl

/-- Unlocking a frame unlocks it and leaves every other lock. -/
theorem isLocked_unlock (f g : Nat) :
    (t.unlock f).isLocked g = if f = g then false else t.isLocked g := by
  unfold isLocked unlock
  rw [Array.getElem?_modify]
  split
  · cases t.frames[g]? <;> rfl
  · rfl

/-- Freeing a frame unlocks it and leaves every other lock. -/
theorem isLocked_deallocate (f g : Nat) :
    (t.deallocate f).isLocked g = if f = g then false else t.isLocked g := by
  unfold isLocked deallocate
  rw [Array.getElem?_modify]
  split
  · cases t.frames[g]? <;> rfl
  · rfl

/-- Freeing frames one after another unlocks them and leaves every other lock. -/
theorem isLocked_foldl_deallocate (fs : List Nat) (g : Nat) :
    (fs.foldl deallocate t).isLocked g = if g ∈ fs then false else t.isLocked g := by
  induction fs generalizing t with
  | nil => simp
  | cons f rest ih =>
    rw [List.foldl_cons, ih, isLocked_deallocate]
    by_cases later : g ∈ rest
    · simp [later]
    · by_cases same : f = g
      · simp [same]
      · simp [later, same, Ne.symm same]

/-- Releasing a process unlocks exactly the frames it held. -/
theorem isLocked_releaseOwner (pid g : Nat) :
    (t.releaseOwner pid).2.isLocked g =
      if (t.owner g).any (·.pid == pid) then false else t.isLocked g := by
  unfold releaseOwner
  simp only [isLocked_foldl_deallocate, List.mem_filter, List.mem_range]
  by_cases inside : g < t.size
  · simp [inside]
  · have free : t.owner g = none := by
      simp [owner, size] at inside ⊢
      simp [inside]
    simp [free]

/-- A frame that has an owner exists. -/
theorem lt_size_of_owner {f : Nat} {o : FrameOwner} (owned : t.owner f = some o) : f < t.size := by
  unfold owner at owned
  by_contra outside
  rw [Array.getElem?_eq_none (Nat.le_of_not_lt outside)] at owned
  cases owned

/-- The frame allocation takes exists, is free and is not locked. -/
theorem firstFree_spec {f : Nat} (found : t.firstFree = some f) :
    f < t.size ∧ t.owner f = none ∧ t.isLocked f = false := by
  obtain ⟨inside, free, _⟩ := Array.findIdx?_eq_some_iff_getElem.1 found
  have present : t.frames[f]? = some t.frames[f] := Array.getElem?_eq_getElem inside
  simp only [Bool.and_eq_true, Option.isNone_iff_eq_none, Bool.not_eq_true'] at free
  refine ⟨inside, ?_, ?_⟩
  · simp [owner, present, free.1]
  · simp [isLocked, present, free.2]

/-- Allocation binds the frame `firstFree` finds. -/
theorem allocate_some {o : FrameOwner} {f : Nat} {t' : FrameTable}
    (allocated : t.allocate o = (some f, t')) : t.firstFree = some f ∧ t' = t.assign f o := by
  unfold allocate at allocated
  split at allocated
  · rename_i found
    cases allocated
    exact ⟨found, rfl⟩
  · cases allocated

/-- The victim has an owner and is not locked. -/
theorem selectVictim_spec {v : Nat} (found : t.selectVictim = some v) :
    (t.owner v).isSome ∧ t.isLocked v = false := by
  obtain ⟨inside, bound, _⟩ := Array.findIdx?_eq_some_iff_getElem.1 found
  have present : t.frames[v]? = some t.frames[v] := Array.getElem?_eq_getElem inside
  simp only [Bool.and_eq_true, Bool.not_eq_true'] at bound
  refine ⟨?_, ?_⟩
  · simp [owner, present, bound.1]
  · simp [isLocked, present, bound.2]

end FrameTable

end PagedMachine
