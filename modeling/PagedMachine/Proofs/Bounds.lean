import PagedMachine.Proofs.Checked
import PagedMachine.Proofs.Loads

/-!
# What keeps the disk's cuts and the program counters in bounds

Two more facts every operation of the kernel keeps, beside the fit of memory and frames
(`MemoryManager.Fits`).

The disk cuts the page of a load from a process image out of that image. It can when the page
lies inside the pages a built-in program gets: its end does not pass 2^64
(`SwapDisk.imagePage?_isSome`). Every page of every process can be cut
(`Scheduler.Cuttable`), so every load the kernel queues can be carried out
(`DiskOperation.Cuttable`). Paging changes neither images nor numbers of pages, and queues only
such loads (`MemoryManager.CutsKept`); scheduling reads neither (`unscheduled_layout`).

The program counters live in contexts, on the processor and saved in control blocks. Paging
leaves them alone; scheduling only moves them between the processor and the control blocks
(`Scheduler.ContextsSatisfy`), so a bound every step keeps holds of all of them.
-/

namespace PagedMachine

/-- Changing an entry keeps the number of pages. -/
@[simp] theorem PageTable.size_modify (t : PageTable) (vpn : Nat) (f : PageEntry → PageEntry) :
    (t.modify vpn f).size = t.size :=
  Array.size_modify

/-- A page with an entry lies inside the page table. -/
theorem PageTable.lt_size_of_get? {t : PageTable} {vpn : Nat} {e : PageEntry}
    (found : t.get? vpn = some e) : vpn < t.size :=
  (Array.getElem?_eq_some_iff.1 found).1

/-- The built-in programs are small: image and words together stay below a hundred. -/
theorem Program.small_of_mem {program : Program} (builtIn : program ∈ Program.registry) :
    program.image.size + program.requiredWords ≤ 100 := by
  have small : ∀ p ∈ Program.registry, p.image.size + p.requiredWords ≤ 100 := by decide
  exact small program builtIn

namespace ControlBlock

/-- What the disk reads of a process: its image and its number of pages. -/
def layout (cb : ControlBlock) : Array Word × Nat := (cb.image, cb.pageTable.size)

/-- Every page of the process can be cut out of its image with pages of `ps` words. -/
def Cuttable (ps : Nat) (cb : ControlBlock) : Prop :=
  ∀ vpn < cb.pageTable.size, (SwapDisk.imagePage? ps vpn cb.image).isSome

/-- A process with the same image and number of pages can be cut as well. -/
theorem Cuttable.of_layout {ps : Nat} {cb cb' : ControlBlock} (cut : cb.Cuttable ps)
    (same : cb'.layout = cb.layout) : cb'.Cuttable ps := by
  simp only [layout, Prod.mk.injEq] at same
  intro vpn inside
  rw [same.1]
  exact cut vpn (same.2 ▸ inside)

/-- A new process of a built-in program has pages for its words alone, each of which can be
cut out of its image. -/
theorem cuttable_new (pid : Nat) {program : Program} (builtIn : program ∈ Program.registry)
    (ps : Nat) : (new pid program ps).Cuttable ps := by
  intro vpn inside
  have small : program.image.size + program.requiredWords < Text.unsignedBound :=
    Nat.lt_of_le_of_lt (Program.small_of_mem builtIn) (by decide)
  simp only [new, PageTable.new, PageTable.size, Array.size_replicate] at inside
  exact SwapDisk.imagePage?_isSome program.image small inside

end ControlBlock

namespace DiskOperation

/-- An operation that loads a page from an image can cut that page out of it. -/
def Cuttable (ps : Nat) (op : DiskOperation) : Prop :=
  ∀ image, op.kind = .load (.image image) → (SwapDisk.imagePage? ps op.page image).isSome

/-- Only loads cut images. -/
theorem cuttable_of_isLoad {ps : Nat} {op : DiskOperation} (save : op.isLoad = false) :
    op.Cuttable ps := by
  intro image loads
  simp [isLoad, loads] at save

end DiskOperation

/-- The disk carries out every operation whose image it can cut. -/
theorem SwapDisk.perform?_eq {d : SwapDisk} {op : DiskOperation} (cut : op.Cuttable d.pageSize) :
    d.perform? op = some (d.perform op) := by
  unfold perform
  rcases op with ⟨pid, page, frame, _ | source⟩
  · rfl
  · cases source with
    | slot n => rfl
    | image words =>
      obtain ⟨data, cutOut⟩ := Option.isSome_iff_exists.1 (cut words rfl)
      simp [perform?, load, cutOut]

namespace Scheduler

open MemoryManager

variable {s s' s'' : Scheduler}

/-- Every page of every process can be cut out of its image with pages of `ps` words. -/
def Cuttable (ps : Nat) (s : Scheduler) : Prop := ∀ q cb, s.get? q = some cb → cb.Cuttable ps

/-- Scheduling reads neither images nor page tables. -/
theorem unscheduled_layout : Unscheduled ControlBlock.layout := ⟨fun _ _ _ _ => rfl⟩

/-- A change that keeps every image and number of pages keeps every page cuttable. -/
theorem Cuttable.of_sameOn {ps : Nat} (cut : s.Cuttable ps) (same : SameOn ControlBlock.layout s s') :
    s'.Cuttable ps := by
  intro q cb' found'
  have view := same q
  rw [found', Option.map_some] at view
  obtain ⟨cb, found, keeps⟩ := Option.map_eq_some_iff.1 view.symm
  exact (cut q cb found).of_layout keeps.symm

/-- Inserting a process whose pages can be cut keeps every page cuttable. -/
theorem Cuttable.insert {ps : Nat} (cut : s.Cuttable ps) {cb : ControlBlock}
    (fresh : cb.Cuttable ps) : (s.insert cb).Cuttable ps := by
  intro q cb' found
  rw [get?_insert] at found
  split at found
  · cases found
    exact fresh
  · exact cut q cb' found

/-- Removing a process drops its control block and keeps every other. -/
theorem Cuttable.removeProcess {ps : Nat} (cut : s.Cuttable ps) (pid : Nat) (cause : Cause) :
    (s.removeProcess pid cause).2.Cuttable ps := by
  intro q cb found
  rw [get?_removeProcess] at found
  split at found
  · cases found
  · exact cut q cb found

/-- Every context the scheduler holds, the processor's and each saved one, satisfies `p`. It
reads the processor and the table alone, so a change of queues, log or flags keeps it. -/
def ContextsSatisfy (p : Context → Prop) (s : Scheduler) : Prop :=
  p s.cpu.context ∧ ∀ q cb, s.get? q = some cb → p cb.context

variable {p : Context → Prop}

/-- A change that keeps every saved context and the processor's keeps the property. -/
theorem ContextsSatisfy.of_sameOn (sat : s.ContextsSatisfy p)
    (same : SameOn ControlBlock.context s s') (cpu : s'.cpu.context = s.cpu.context) :
    s'.ContextsSatisfy p := by
  refine ⟨cpu ▸ sat.1, fun q cb' found' => ?_⟩
  have view := same q
  rw [found', Option.map_some] at view
  obtain ⟨cb, found, keeps⟩ := Option.map_eq_some_iff.1 view.symm
  rw [← keeps]
  exact sat.2 q cb found

/-- A status change keeps every context satisfying `p`. -/
theorem ContextsSatisfy.transition (sat : s.ContextsSatisfy p) (pid : Nat) (c : Cause)
    (t : TaskStatus) : (s.transition pid c t).ContextsSatisfy p :=
  sat.of_sameOn (sameOn_transition pid c t fun _ => rfl) (by rw [transition_cpu])

/-- A change that keeps every saved context keeps every context satisfying `p`. -/
theorem ContextsSatisfy.modify (sat : s.ContextsSatisfy p) (pid : Nat)
    {g : ControlBlock → ControlBlock} (keeps : ∀ cb, (g cb).context = cb.context) :
    (s.modify pid g).ContextsSatisfy p :=
  sat.of_sameOn (sameOn_modify pid g keeps) rfl

/-- Inserting a process whose context satisfies `p` keeps every context satisfying it. -/
theorem ContextsSatisfy.insert (sat : s.ContextsSatisfy p) {cb : ControlBlock}
    (fresh : p cb.context) : (s.insert cb).ContextsSatisfy p := by
  refine ⟨sat.1, fun q cb' found => ?_⟩
  rw [get?_insert] at found
  split at found
  · cases found
    exact fresh
  · exact sat.2 q cb' found

/-- Queueing a process as ready keeps every context satisfying `p`. -/
theorem ContextsSatisfy.addToReady (sat : s.ContextsSatisfy p) (pid : Nat) (cause : Cause) :
    (s.addToReady pid cause).ContextsSatisfy p := by
  unfold Scheduler.addToReady
  split
  · dsimp only
    -- the queues change around the transition; the table and processor only in it
    split
    all_goals
      show ContextsSatisfy p (Scheduler.transition _ pid cause .ready)
      refine ContextsSatisfy.transition ?_ pid cause .ready
      exact sat
  · exact sat

/-- Releasing a process keeps every context satisfying `p`. -/
theorem ContextsSatisfy.release (sat : s.ContextsSatisfy p) (pid : Nat) :
    (s.release pid).ContextsSatisfy p := by
  unfold Scheduler.release
  split
  · dsimp only
    split
    · refine ContextsSatisfy.addToReady ?_ pid .created
      exact sat
    · exact sat
  · exact sat

/-- Blocking a process keeps every context satisfying `p`. -/
theorem ContextsSatisfy.block (sat : s.ContextsSatisfy p) (pid : Nat) (reason : BlockReason)
    (cause : Cause) : (s.block pid reason cause).ContextsSatisfy p := by
  unfold Scheduler.block
  split
  · exact sat
  · split
    · exact sat
    · have marked := sat.modify pid (g := fun cb => { cb with blockedOn := cb.blockedOn.union reason })
        fun _ => rfl
      dsimp only
      split
      · show ContextsSatisfy p (Scheduler.transition _ pid cause .blocked)
        refine ContextsSatisfy.transition ?_ pid cause .blocked
        exact marked
      · exact marked

/-- Unblocking a process keeps every context satisfying `p`. -/
theorem ContextsSatisfy.unblock (sat : s.ContextsSatisfy p) (pid : Nat) (reason : BlockReason)
    (cause : Cause) : (s.unblock pid reason cause).2.ContextsSatisfy p := by
  unfold Scheduler.unblock
  split
  · exact sat
  · rename_i cb found
    have marked := sat.modify pid
      (g := fun cb' => { cb' with blockedOn := cb.blockedOn.diff reason }) fun _ => rfl
    dsimp only
    split
    · exact marked
    · exact marked.addToReady pid cause

/-- Taking the running process off the processor saves the processor's context. -/
theorem ContextsSatisfy.takeRunning (sat : s.ContextsSatisfy p) :
    s.takeRunning.2.ContextsSatisfy p := by
  unfold Scheduler.takeRunning
  split
  · rename_i pid running
    refine ⟨sat.1, fun q cb found => ?_⟩
    change (s.modify pid fun cb => { cb with context := s.cpu.context }).get? q = some cb at found
    rw [get?_modify] at found
    split at found
    · obtain ⟨_, _, rfl⟩ := Option.map_eq_some_iff.1 found
      exact sat.1
    · exact sat.2 q cb found
  · exact sat

/-- A dispatch loads a saved context onto the processor. -/
theorem ContextsSatisfy.dispatchNext (sat : s.ContextsSatisfy p) :
    s.dispatchNext.2.ContextsSatisfy p := by
  unfold Scheduler.dispatchNext
  split
  · exact sat
  · split
    · exact sat
    · split
      · exact sat
      · rename_i i _ _ pid _
        have moved : ({ s with ready := s.ready.eraseIdx i }.transition pid .dispatched
            .running).ContextsSatisfy p := by
          refine ContextsSatisfy.transition ?_ pid .dispatched .running
          exact sat
        dsimp only
        split
        · rename_i cb found
          exact ⟨by simpa using moved.2 pid cb found, moved.2⟩
        · exact moved

/-- A time slice running out keeps every context satisfying `p`. -/
theorem ContextsSatisfy.onTimerExpired (sat : s.ContextsSatisfy p) :
    s.onTimerExpired.ContextsSatisfy p := by
  unfold Scheduler.onTimerExpired
  have taken := sat.takeRunning
  split
  · rename_i pid s₁ took
    rw [took] at taken
    refine ContextsSatisfy.dispatchNext ?_
    show ContextsSatisfy p (Scheduler.transition _ pid .timeSliceExpired .ready)
    refine ContextsSatisfy.transition ?_ pid .timeSliceExpired .ready
    exact taken
  · rename_i s₁ took
    rw [took] at taken
    exact taken.dispatchNext

/-- Blocking the running process keeps every context satisfying `p`. -/
theorem ContextsSatisfy.blockRunning (sat : s.ContextsSatisfy p) (reason : BlockReason)
    (cause : Cause) : (s.blockRunning reason cause).ContextsSatisfy p := by
  unfold Scheduler.blockRunning
  have taken := sat.takeRunning
  split
  · rename_i pid s₁ took
    rw [took] at taken
    have marked := taken.modify pid
      (g := fun cb => { cb with blockedOn := cb.blockedOn.union reason }) fun _ => rfl
    refine ContextsSatisfy.dispatchNext ?_
    show ContextsSatisfy p (Scheduler.transition _ pid cause .blocked)
    refine ContextsSatisfy.transition ?_ pid cause .blocked
    exact marked
  · rename_i s₁ took
    rw [took] at taken
    exact taken.dispatchNext

/-- Removing a process keeps every context satisfying `p`. -/
theorem ContextsSatisfy.removeProcess (sat : s.ContextsSatisfy p) (pid : Nat) (cause : Cause) :
    (s.removeProcess pid cause).2.ContextsSatisfy p := by
  refine ⟨?_, fun q cb found => ?_⟩
  · unfold Scheduler.removeProcess
    split
    · simpa using sat.1
    · exact sat.1
  · rw [get?_removeProcess] at found
    split at found
    · cases found
    · exact sat.2 q cb found

end Scheduler

namespace MemoryManager

open Scheduler

variable {mm mm' mm'' : MemoryManager} {s s' s'' : Scheduler}

/-- What a paging operation from `mm` and `s` to `mm'` and `s'` keeps for the bounds: the
shape of the memory manager, every image with its number of pages, and every saved context;
and when every page of `s` can be cut, so can the page of every load it queues. -/
structure CutsKept (mm : MemoryManager) (s : Scheduler) (mm' : MemoryManager) (s' : Scheduler) :
    Prop where
  shape : ShapeKept mm mm'
  layout : SameOn ControlBlock.layout s s'
  contexts : SameOn ControlBlock.context s s'
  queued : s.Cuttable mm.swap.pageSize →
    ∃ ops, mm'.queue = mm.queue ++ ops ∧ ∀ op ∈ ops, op.Cuttable mm.swap.pageSize

/-- Doing nothing keeps the bounds. -/
theorem CutsKept.refl (mm : MemoryManager) (s : Scheduler) : CutsKept mm s mm s :=
  ⟨.refl mm, .refl _ s, .refl _ s, fun _ => ⟨[], by simp, by simp⟩⟩

/-- Keeping the bounds is transitive. -/
theorem CutsKept.trans (first : CutsKept mm s mm' s') (second : CutsKept mm' s' mm'' s'') :
    CutsKept mm s mm'' s'' := by
  refine ⟨first.shape.trans second.shape, first.layout.trans second.layout,
    first.contexts.trans second.contexts, fun cut => ?_⟩
  obtain ⟨ops, queue, cuts⟩ := first.queued cut
  have cut' : s'.Cuttable mm'.swap.pageSize := by
    rw [first.shape.diskPage]
    exact cut.of_sameOn first.layout
  obtain ⟨ops', queue', cuts'⟩ := second.queued cut'
  refine ⟨ops ++ ops', by rw [queue', queue, List.append_assoc], fun op mem => ?_⟩
  rcases List.mem_append.1 mem with old | new
  · exact cuts op old
  · rw [← first.shape.diskPage]
    exact cuts' op new

/-- A change that queues nothing and keeps images, pages and contexts. -/
theorem CutsKept.of_eq (shape : ShapeKept mm mm') (layout : SameOn ControlBlock.layout s s')
    (contexts : SameOn ControlBlock.context s s') (queue : mm'.queue = mm.queue) :
    CutsKept mm s mm' s' :=
  ⟨shape, layout, contexts, fun _ => ⟨[], by simp [queue], by simp⟩⟩

/-- Changing one page entry keeps images, numbers of pages and contexts. -/
theorem cutsKept_modifyEntry (mm : MemoryManager) (s : Scheduler) (pid vpn : Nat)
    (g : PageEntry → PageEntry) :
    CutsKept mm s mm (modifyEntry s pid vpn g) :=
  .of_eq (.refl mm) (sameOn_modify pid _ fun _ => by simp [ControlBlock.layout])
    (sameOn_modify pid _ fun _ => rfl) rfl

/-- An eviction marks a page absent and queues its save, which cuts nothing. -/
theorem cutsKept_evict (mm : MemoryManager) (s : Scheduler) (v : Nat) :
    CutsKept mm s (mm.evict s v).1 (mm.evict s v).2 := by
  have paged : CutsKept mm s mm (mm.evict s v).2 := by
    unfold evict
    split
    · exact .refl mm s
    · dsimp only
      split
      · exact .refl mm s
      · exact cutsKept_modifyEntry _ _ _ _ _
  refine ⟨shapeKept_evict mm s v, paged.layout, paged.contexts, fun _ => ?_⟩
  obtain ⟨saves, queue, noLoads, _⟩ := queue_evict (s := s) mm v
  refine ⟨saves, queue, fun op mem => DiskOperation.cuttable_of_isLoad ?_⟩
  have gone := List.filter_eq_nil_iff.1 noLoads op mem
  simpa using gone

/-- Starting a load finds a frame, evicting if it must, and queues the load of a page of a
live process: from its slot, or cut out of its image. -/
theorem cutsKept_startLoad (mm : MemoryManager) (s : Scheduler) (pid vpn : Nat) :
    CutsKept mm s (mm.startLoad s pid vpn).2.1 (mm.startLoad s pid vpn).2.2 := by
  unfold startLoad
  simp only []
  split
  · exact .refl mm s
  · rename_i f mm₁ s₁ found
    -- the frame is a free one bound to the page, or the victim evicted and bound
    have first : CutsKept mm s mm₁ s₁ := by
      split at found
      · rename_i f' frames allocated
        simp only [Option.some.injEq, Prod.mk.injEq] at found
        obtain ⟨rfl, rfl, rfl⟩ := found
        obtain ⟨_, rfl⟩ := FrameTable.allocate_some _ allocated
        exact .of_eq (.of_frames (FrameTable.size_assign _ _ _) rfl rfl rfl) (.refl _ s)
          (.refl _ s) rfl
      · split at found
        · cases found
        · simp only [Option.some.injEq, Prod.mk.injEq] at found
          obtain ⟨rfl, rfl, rfl⟩ := found
          exact (cutsKept_evict mm s _).trans (.of_eq (.of_frames (FrameTable.size_assign _ _ _)
            rfl rfl rfl) (.refl _ _) (.refl _ _) rfl)
    have locked : CutsKept mm s { mm₁ with frames := mm₁.frames.lock f } s₁ :=
      first.trans (.of_eq (.of_frames (FrameTable.size_lock _ _) rfl rfl rfl) (.refl _ _)
        (.refl _ _) rfl)
    split
    · exact locked
    · rename_i cb live
      split
      · exact locked
      · rename_i e page
        refine locked.trans ⟨.of_frames rfl rfl rfl rfl, (cutsKept_modifyEntry mm₁ s₁ pid vpn _).layout,
          (cutsKept_modifyEntry mm₁ s₁ pid vpn _).contexts, fun cut => ⟨[_], rfl, ?_⟩⟩
        intro op mem image loads
        rw [List.mem_singleton] at mem
        subst mem
        cases slot : e.slot with
        | some n => simp [slot] at loads
        | none =>
          simp only [slot, DiskOpKind.load.injEq, LoadSource.image.injEq] at loads
          subst loads
          exact cut pid cb live vpn (PageTable.lt_size_of_get? page)

/-- A translation touches a present page or starts a load. -/
theorem cutsKept_translate (mm : MemoryManager) (s : Scheduler) (pid : Nat) (va : Int32)
    (write : Bool) :
    CutsKept mm s (mm.translate s pid va write).2.1 (mm.translate s pid va write).2.2 := by
  have ticked : CutsKept mm s mm.tick.2 s := .of_eq (.of_frames rfl rfl rfl rfl) (.refl _ s)
    (.refl _ s) rfl
  unfold translate
  split
  · exact .refl mm s
  · simp only []
    split
    · exact ticked
    · split
      · exact ticked.trans (cutsKept_modifyEntry _ _ _ _ _)
      · split
        · exact ticked
        · have started := ticked.trans (cutsKept_startLoad mm.tick.2 s pid (va.toInt.toNat / mm.pageSize))
          split
          all_goals
            rename_i result
            rw [result] at started
            exact started

/-- Completing a load queues nothing for the disk. -/
theorem queue_completeLoad (mm : MemoryManager) (s : Scheduler) (pid page frame : Nat)
    (data : List Word) : (mm.completeLoad s pid page frame data).2.1.queue = mm.queue := by
  unfold completeLoad
  split
  · rfl
  · dsimp only
    split
    · rfl
    · split
      · rfl
      · split
        · split <;> rfl
        · rfl

/-- A completed load changes the entries of its page and nothing the bounds read. -/
theorem cutsKept_completeLoad (wf : s.TableWF) (mm : MemoryManager) (pid page frame : Nat)
    (data : List Word) :
    CutsKept mm s (mm.completeLoad s pid page frame data).2.1
      (mm.completeLoad s pid page frame data).2.2 := by
  refine .of_eq (shapeKept_completeLoad mm s pid page frame data) ?_ ?_
    (queue_completeLoad mm s pid page frame data)
  all_goals
    unfold completeLoad
    split
    · exact .refl _ s
    · dsimp only
      split
      · exact .refl _ s
      · rename_i cb found
        have keyed : s.get? cb.pid = some cb := by rw [wf.pid_eq found]; exact found
        split
        · exact .refl _ s
        · split
          · split
            · exact sameOn_insert _ (by rw [keyed]; simp [ControlBlock.layout])
            · exact sameOn_insert _ (by rw [keyed]; simp [ControlBlock.layout])
          · exact sameOn_insert _ (by rw [keyed]; simp [ControlBlock.layout])

/-- A completed save records a slot in a page entry. -/
theorem cutsKept_completeSave (mm : MemoryManager) (s : Scheduler) (pid page slot : Nat) :
    CutsKept mm s mm (completeSave s pid page slot) := by
  unfold completeSave
  split
  · split
    · exact cutsKept_modifyEntry _ _ _ _ _
    · exact .refl mm s
  · exact .refl mm s

/-- Writing a word keeps the bounds. -/
theorem cutsKept_write (mm : MemoryManager) (s : Scheduler) (pa : Nat) (w : Word) :
    CutsKept mm s (mm.write pa w) s :=
  .of_eq (shapeKept_write mm pa w) (.refl _ s) (.refl _ s) rfl

end MemoryManager

end PagedMachine
