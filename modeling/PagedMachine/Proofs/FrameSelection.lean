import PagedMachine.Proofs.Termination

/-!
# Choosing and freeing frames

The frame table answers two searches. Allocation takes the lowest frame that is free and
unlocked; the victim of an eviction is the lowest frame that is bound and unlocked. Both are a
first match over the table (`findIdx?`), and a first match is exactly the lowest frame where
the search's condition holds (`findIdx?_eq_some_iff`), or none when it holds nowhere.
Releasing a process lists the frames it holds in increasing order and frees and unlocks them.

The free count counts the frames with no owner, and allocation asks for a frame that is free
*and* unlocked. The two agree as long as no free frame is locked, which the kernel keeps; they
disagree exactly when there are free frames and every one of them is locked.

Main statement: `FrameTable.frame_selection_exact`.
-/

namespace PagedMachine

namespace FrameTable

variable {t : FrameTable}

/-- A first match of the table is the lowest frame at which `P` holds, when `P` is the search
read through the table. -/
theorem findIdx?_eq_some_iff {p : Frame → Bool} {P : Nat → Prop}
    (reads : ∀ g (inside : g < t.frames.size), P g ↔ p t.frames[g] = true) (f : Nat) :
    t.frames.findIdx? p = some f ↔ t.IsLowest P f := by
  rw [Array.findIdx?_eq_some_iff_getElem]
  constructor
  · rintro ⟨inside, accepted, before⟩
    exact ⟨inside, (reads f inside).2 accepted,
      fun g below holds => before g below ((reads g (by omega)).1 holds)⟩
  · rintro ⟨inside, holds, below⟩
    have inside' : f < t.frames.size := inside
    exact ⟨inside, (reads f inside).1 holds,
      fun g lower accepted => below g lower ((reads g (by omega)).2 accepted)⟩

/-- The search finds nothing exactly when `P` holds at no frame. -/
theorem findIdx?_eq_none_iff {p : Frame → Bool} {P : Nat → Prop}
    (reads : ∀ g (inside : g < t.frames.size), P g ↔ p t.frames[g] = true) :
    t.frames.findIdx? p = none ↔ ∀ g < t.size, ¬P g := by
  rw [Array.findIdx?_eq_none_iff]
  constructor
  · intro rejects g inside holds
    have accepted := (reads g inside).1 holds
    rw [rejects _ (Array.getElem_mem inside)] at accepted
    cases accepted
  · intro nowhere fr mem
    obtain ⟨g, inside, rfl⟩ := Array.mem_iff_getElem.1 mem
    cases accepted : p t.frames[g]
    · rfl
    · exact absurd ((reads g inside).2 accepted) (nowhere g inside)

variable (t)

/-- Allocation searches for a frame that is free and unlocked. -/
theorem readsFree (g : Nat) (inside : g < t.frames.size) :
    (t.owner g = none ∧ t.isLocked g = false) ↔
      (t.frames[g].owner.isNone && !t.frames[g].locked) = true := by
  rw [owner_of_lt t inside, isLocked_of_lt t inside]
  simp

/-- The victim search looks for a frame that is bound and unlocked. -/
theorem readsVictim (g : Nat) (inside : g < t.frames.size) :
    ((t.owner g).isSome ∧ t.isLocked g = false) ↔
      (t.frames[g].owner.isSome && !t.frames[g].locked) = true := by
  rw [owner_of_lt t inside, isLocked_of_lt t inside]
  simp

/-- Allocation finds the lowest frame that is free and unlocked. -/
theorem firstFree_eq_some_iff (f : Nat) :
    t.firstFree = some f ↔ t.IsLowest (fun g => t.owner g = none ∧ t.isLocked g = false) f :=
  findIdx?_eq_some_iff (readsFree t) f

/-- Allocation finds nothing exactly when every frame is bound or locked. -/
theorem firstFree_eq_none_iff :
    t.firstFree = none ↔ ∀ g < t.size, ¬(t.owner g = none ∧ t.isLocked g = false) :=
  findIdx?_eq_none_iff (readsFree t)

/-- The victim is the lowest frame that is bound and unlocked. -/
theorem selectVictim_eq_some_iff (v : Nat) :
    t.selectVictim = some v ↔
      t.IsLowest (fun g => (t.owner g).isSome ∧ t.isLocked g = false) v :=
  findIdx?_eq_some_iff (readsVictim t) v

/-- No victim is found exactly when every frame is free or locked. -/
theorem selectVictim_eq_none_iff :
    t.selectVictim = none ↔ ∀ g < t.size, ¬((t.owner g).isSome ∧ t.isLocked g = false) :=
  findIdx?_eq_none_iff (readsVictim t)

variable (o : FrameOwner)

/-- Allocation hands out the frame `firstFree` finds. -/
@[simp] theorem allocate_fst : (t.allocate o).1 = t.firstFree := by
  unfold allocate
  split <;> simp_all

/-- Allocation keeps the number of frames. -/
@[simp] theorem size_allocate : (t.allocate o).2.size = t.size := by
  unfold allocate
  split <;> simp

/-- Allocation binds the frame it returns to the new owner, and no other. -/
theorem owner_allocate (g : Nat) :
    (t.allocate o).2.owner g = if (t.allocate o).1 = some g then some o else t.owner g := by
  rw [allocate_fst]
  unfold allocate
  split
  · rename_i f found
    have inside := (t.firstFree_spec found).1
    rw [found, owner_assign t f g o inside]
    simp
  · rename_i found
    simp [found]

/-- Allocation locks and unlocks nothing. -/
theorem isLocked_allocate (g : Nat) : (t.allocate o).2.isLocked g = t.isLocked g := by
  unfold allocate
  split <;> simp

variable (pid : Nat)

/-- The frames a release reports: those bound to the process, in increasing order. -/
theorem releaseOwner_fst :
    (t.releaseOwner pid).1 = (List.range t.size).filter fun f => (t.owner f).any (·.pid == pid) :=
  rfl

/-- Releasing a process frees exactly the frames bound to its pages. -/
theorem mem_releaseOwner_fst (f : Nat) :
    f ∈ (t.releaseOwner pid).1 ↔ ∃ page, t.owner f = some ⟨pid, page⟩ := by
  rw [releaseOwner_fst, List.mem_filter, List.mem_range]
  constructor
  · rintro ⟨-, held⟩
    cases owned : t.owner f with
    | none => simp [owned] at held
    | some o =>
      obtain ⟨holder, page⟩ := o
      rw [owned] at held
      exact ⟨page, by simp_all⟩
  · rintro ⟨page, owned⟩
    exact ⟨lt_size_of_owner t owned, by simp [owned]⟩

/-- The frames a process releases are listed in increasing order. -/
theorem releaseOwner_fst_sorted : (t.releaseOwner pid).1.Pairwise (· < ·) := by
  rw [releaseOwner_fst]
  exact List.pairwise_lt_range.filter _

/-- After a release, a frame it reports is free and unlocked, and every other frame is as it
was. -/
theorem releaseOwner_frame (g : Nat) :
    (t.releaseOwner pid).2.owner g =
        (if g ∈ (t.releaseOwner pid).1 then none else t.owner g) ∧
      (t.releaseOwner pid).2.isLocked g =
        (if g ∈ (t.releaseOwner pid).1 then false else t.isLocked g) := by
  have listed : g ∈ (t.releaseOwner pid).1 ↔ (t.owner g).any (·.pid == pid) = true := by
    rw [mem_releaseOwner_fst]
    cases owned : t.owner g with
    | none => simp
    | some o =>
      obtain ⟨holder, page⟩ := o
      simp only [Option.some.injEq, FrameOwner.mk.injEq, Option.any_some, beq_iff_eq]
      constructor
      · rintro ⟨_, same, -⟩
        exact same
      · intro same
        exact ⟨page, same, rfl⟩
  rw [owner_releaseOwner, isLocked_releaseOwner]
  by_cases held : (t.owner g).any (·.pid == pid) = true
  · simp [held, listed.2 held]
  · simp [held, show g ∉ (t.releaseOwner pid).1 from fun mem => held (listed.1 mem)]

/-- No frame is free exactly when every frame has an owner. -/
theorem freeCount_eq_zero_iff : t.freeCount = 0 ↔ ∀ g < t.size, (t.owner g).isSome := by
  rw [freeCount_eq_countP, List.countP_eq_zero]
  simp [Option.isSome_iff_ne_none]

/-- Allocation fails exactly when the free count is zero, unless there are free frames and
every one of them is locked. -/
theorem allocate_fails_iff_full_iff :
    ¬((t.allocate o).1 = none ↔ t.freeCount = 0) ↔
      (∃ g < t.size, t.owner g = none) ∧ ∀ g < t.size, t.owner g = none → t.isLocked g = true := by
  rw [allocate_fst, firstFree_eq_none_iff, freeCount_eq_zero_iff]
  -- a table where every frame is bound has no free unlocked frame: only the converse can fail
  have fullNone : (∀ g < t.size, (t.owner g).isSome) →
      ∀ g < t.size, ¬(t.owner g = none ∧ t.isLocked g = false) := by
    intro full g inside both
    have bound := full g inside
    rw [both.1] at bound
    cases bound
  constructor
  · intro disagree
    have noneFree : ∀ g < t.size, ¬(t.owner g = none ∧ t.isLocked g = false) := by
      by_contra some
      exact disagree ⟨fun none => absurd none some, fun full => absurd (fullNone full) some⟩
    have notFull : ¬∀ g < t.size, (t.owner g).isSome :=
      fun full => disagree ⟨fun _ => full, fullNone⟩
    refine ⟨?_, fun g inside unowned => ?_⟩
    · simpa [Option.isSome_iff_ne_none] using notFull
    · by_contra unlocked
      exact noneFree g inside ⟨unowned, by simpa using unlocked⟩
  · rintro ⟨⟨g, inside, unowned⟩, locked⟩ agree
    have full := agree.1 fun h inside' both => by
      rw [locked h inside' both.1] at both
      cases both.2
    have bound := full g inside
    rw [unowned] at bound
    cases bound

/-- Frame selection and release are exact. Allocation returns the lowest frame that is free
and unlocked, or none when there is no such frame; it binds that frame to the new owner and
changes no other owner and no lock. The victim is the lowest frame that is bound and unlocked,
or none when there is none. A release reports, in increasing order, exactly the frames the
process held, leaves each of them free and unlocked and every other frame as it was. The free
count is the number of frames with no owner. Hence, when every locked frame is bound, allocation
fails exactly when the free count is zero; the two disagree exactly when there are free frames
and all of them are locked. -/
theorem frame_selection_exact (t : FrameTable) (o : FrameOwner) (pid : Nat) :
    (∀ f, (t.allocate o).1 = some f ↔
      t.IsLowest (fun g => t.owner g = none ∧ t.isLocked g = false) f) ∧
    ((t.allocate o).1 = none ↔ ∀ g < t.size, ¬(t.owner g = none ∧ t.isLocked g = false)) ∧
    (t.allocate o).2.size = t.size ∧
    (∀ g, (t.allocate o).2.owner g = (if (t.allocate o).1 = some g then some o else t.owner g) ∧
      (t.allocate o).2.isLocked g = t.isLocked g) ∧
    (∀ v, t.selectVictim = some v ↔
      t.IsLowest (fun g => (t.owner g).isSome ∧ t.isLocked g = false) v) ∧
    (t.selectVictim = none ↔ ∀ g < t.size, ¬((t.owner g).isSome ∧ t.isLocked g = false)) ∧
    (t.releaseOwner pid).1.Pairwise (· < ·) ∧
    (∀ f, f ∈ (t.releaseOwner pid).1 ↔ ∃ page, t.owner f = some ⟨pid, page⟩) ∧
    (t.releaseOwner pid).2.size = t.size ∧
    (∀ g, (t.releaseOwner pid).2.owner g =
        (if g ∈ (t.releaseOwner pid).1 then none else t.owner g) ∧
      (t.releaseOwner pid).2.isLocked g =
        (if g ∈ (t.releaseOwner pid).1 then false else t.isLocked g)) ∧
    t.freeCount = (List.range t.size).countP (fun f => (t.owner f).isNone) ∧
    ((∀ f, t.isLocked f = true → (t.owner f).isSome) →
      ((t.allocate o).1 = none ↔ t.freeCount = 0)) ∧
    (¬((t.allocate o).1 = none ↔ t.freeCount = 0) ↔
      (∃ g < t.size, t.owner g = none) ∧ ∀ g < t.size, t.owner g = none → t.isLocked g = true) := by
  have agreement := allocate_fails_iff_full_iff t o
  refine ⟨fun f => ?_, ?_, size_allocate t o, fun g => ⟨owner_allocate t o g,
    isLocked_allocate t o g⟩, selectVictim_eq_some_iff t, selectVictim_eq_none_iff t,
    releaseOwner_fst_sorted t pid, mem_releaseOwner_fst t pid, size_releaseOwner t pid,
    releaseOwner_frame t pid, freeCount_eq_countP t, fun lockedBound => ?_, agreement⟩
  · rw [allocate_fst, firstFree_eq_some_iff]
  · rw [allocate_fst, firstFree_eq_none_iff]
  · -- with every locked frame bound, no free frame is locked, so they cannot disagree
    by_contra disagree
    obtain ⟨⟨g, inside, unowned⟩, locked⟩ := agreement.1 disagree
    have bound := lockedBound g (locked g inside unowned)
    rw [unowned] at bound
    cases bound

end FrameTable

end PagedMachine
