import PagedMachine.Text.Align

/-!
# The frame table

Each physical frame is free or bound to one page of one process, and may be locked while a
transfer into it is in flight. Allocation takes the lowest frame that is free and unlocked.
When none is, a victim is chosen: the lowest frame that is bound and unlocked. Binding,
locking and unlocking name a frame directly and fail for a frame past the end; queries about a
frame past the end see a free, unlocked frame.

Main statements: binding a frame changes the owner of that frame alone (`owner_assign`), and
releasing a process frees exactly its frames (`owner_releaseOwner`).
-/

namespace PagedMachine

/-- The process page a frame holds. -/
structure FrameOwner where
  pid : Nat
  page : Nat
  deriving DecidableEq, Repr

/-- One frame: whom it holds, and whether a transfer into it is in flight. -/
structure Frame where
  owner : Option FrameOwner := none
  locked : Bool := false
  deriving DecidableEq, Repr

/-- The occupancy of one frame as it is reported. -/
structure FrameInfo where
  frame : Nat
  owner : Option FrameOwner
  locked : Bool
  deriving DecidableEq, Repr

/-- `frame F: pid P page G`, the pid right-aligned in three columns and ` (locked)` after a
locked frame; `frame F: free` for a free one. -/
def FrameInfo.render (i : FrameInfo) : String :=
  match i.owner with
  | some o =>
    s!"frame {i.frame}: pid {Text.alignRight 3 (toString o.pid)} page {o.page}" ++
      (if i.locked then " (locked)" else "")
  | none => s!"frame {i.frame}: free"

/-- All frames of physical memory, by index. -/
structure FrameTable where
  frames : Array Frame
  deriving Repr

namespace FrameTable

/-- A table of `count` free frames. -/
def new (count : Nat) : FrameTable := ⟨Array.replicate count {}⟩

/-- Number of frames. -/
def size (t : FrameTable) : Nat := t.frames.size

/-- The page frame `f` holds; none when it is free or past the end. -/
def owner (t : FrameTable) (f : Nat) : Option FrameOwner :=
  (t.frames[f]?).bind Frame.owner

/-- Whether frame `f` is locked; a frame past the end is not. -/
def isLocked (t : FrameTable) (f : Nat) : Bool :=
  (t.frames[f]?.map Frame.locked).getD false

/-- Binds frame `f` to `o`, replacing whoever held it. -/
def assign (t : FrameTable) (f : Nat) (o : FrameOwner) : FrameTable :=
  ⟨t.frames.modify f fun fr => { fr with owner := some o }⟩

/-- Locks frame `f`. -/
def lock (t : FrameTable) (f : Nat) : FrameTable :=
  ⟨t.frames.modify f fun fr => { fr with locked := true }⟩

/-- Unlocks frame `f`. -/
def unlock (t : FrameTable) (f : Nat) : FrameTable :=
  ⟨t.frames.modify f fun fr => { fr with locked := false }⟩

/-- Frees frame `f` and clears its lock; a frame past the end is ignored. -/
def deallocate (t : FrameTable) (f : Nat) : FrameTable :=
  ⟨t.frames.modify f fun _ => {}⟩

/-- `op` applied to a frame that exists; none for a frame past the end. -/
def checked (t : FrameTable) (f : Nat) (op : FrameTable → Nat → FrameTable) :
    Option FrameTable :=
  if f < t.size then some (op t f) else none

/-- The lowest frame that is free and unlocked. -/
def firstFree (t : FrameTable) : Option Nat :=
  t.frames.findIdx? fun fr => fr.owner.isNone && !fr.locked

/-- Binds the lowest free unlocked frame to `o`. -/
def allocate (t : FrameTable) (o : FrameOwner) : Option Nat × FrameTable :=
  match t.firstFree with
  | some f => (some f, t.assign f o)
  | none => (none, t)

/-- The lowest frame that is bound and unlocked, the one to evict next. -/
def selectVictim (t : FrameTable) : Option Nat :=
  t.frames.findIdx? fun fr => fr.owner.isSome && !fr.locked

/-- Frees every frame bound to `pid`, locked or not, and lists them in increasing order. -/
def releaseOwner (t : FrameTable) (pid : Nat) : List Nat × FrameTable :=
  let owned := (List.range t.size).filter fun f => (t.owner f).any (·.pid == pid)
  (owned, owned.foldl deallocate t)

/-- Number of frames that hold no page. -/
def freeCount (t : FrameTable) : Nat :=
  t.frames.countP fun fr => fr.owner.isNone

/-- The occupancy of every frame, in order. -/
def info (t : FrameTable) : List FrameInfo :=
  (t.frames.toList.zipIdx).map fun (fr, i) => ⟨i, fr.owner, fr.locked⟩

/-- Binding a frame inside the table changes its owner alone. -/
theorem owner_assign (t : FrameTable) (f g : Nat) (o : FrameOwner) (inside : f < t.size) :
    (t.assign f o).owner g = if f = g then some o else t.owner g := by
  unfold owner assign
  by_cases h : f = g
  · subst h
    simp [Array.getElem?_modify, size] at *
    simp [inside]
  · simp [Array.getElem?_modify, h]

/-- Freeing a frame unbinds it and leaves every other owner. -/
theorem owner_deallocate (t : FrameTable) (f g : Nat) :
    (t.deallocate f).owner g = if f = g then none else t.owner g := by
  unfold owner deallocate
  by_cases h : f = g
  · subst h
    simp only [Array.getElem?_modify, if_true]
    cases t.frames[f]? <;> rfl
  · simp [Array.getElem?_modify, h]

/-- Freeing frames one after another unbinds them and leaves every other owner. -/
theorem owner_foldl_deallocate (fs : List Nat) (t : FrameTable) (g : Nat) :
    (fs.foldl deallocate t).owner g = if g ∈ fs then none else t.owner g := by
  induction fs generalizing t with
  | nil => simp
  | cons f fs ih =>
    simp only [List.foldl_cons, ih, owner_deallocate, List.mem_cons]
    by_cases h1 : g ∈ fs
    · simp [h1]
    · by_cases h2 : f = g
      · simp [h1, h2]
      · have h3 : g ≠ f := fun e => h2 e.symm
        simp [h1, h2, h3]

/-- After releasing `pid`, a frame is bound exactly when it was bound to another process. -/
theorem owner_releaseOwner (t : FrameTable) (pid g : Nat) :
    (t.releaseOwner pid).2.owner g =
      if (t.owner g).any (·.pid == pid) then none else t.owner g := by
  unfold releaseOwner
  simp only [owner_foldl_deallocate, List.mem_filter, List.mem_range]
  by_cases hg : g < t.size
  · simp [hg]
  · have : t.owner g = none := by
      simp [owner, size] at hg ⊢
      simp [hg]
    simp [this]

end FrameTable

end PagedMachine
