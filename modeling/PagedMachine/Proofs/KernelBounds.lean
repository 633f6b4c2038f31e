import PagedMachine.Proofs.Bounds
import PagedMachine.Proofs.KernelSlots
import PagedMachine.Proofs.Watched

/-!
# Bounds over every run

`Kernel.Bounded` gathers what keeps every index and counter of the kernel in range: the memory
manager fits (`MemoryManager.Fits`), memory and the disk cut pages of the configured size,
every page of every process and every load still to be carried out, queued or held by the
disk, can be cut out of its image, and every program counter, on the processor or saved, is at
most 2^31.

A new kernel of a valid configuration has it (`Bounded.new`), and every call keeps it
(`Bounded.call`), interrupts of any kind and disk operations of any kind included, as does
every event of a served run (`Bounded.happen`).
-/

namespace PagedMachine

/-- Paging leaves the processor. -/
theorem Scheduler.Repaged.cpu_eq {s s' : Scheduler} (repaged : Repaged s s') : s'.cpu = s.cpu := by
  obtain ⟨t, rfl⟩ := repaged.only_table
  rfl

namespace Kernel

open Scheduler MemoryManager

variable {k : Kernel} {held : List DiskOperation}

/-- The bounds invariant of a kernel whose disk holds the operations `held`: the memory manager
fits, memory and the disk cut pages of the configured size, every page of every process and every load still to
be carried out can be cut, and every program counter is at most 2^31. -/
structure Bounded (held : List DiskOperation) (k : Kernel) : Prop where
  fits : k.mm.Fits
  pageSize : k.mm.pageSize = k.config.pageSize
  diskPage : k.mm.swap.pageSize = k.config.pageSize
  pages : k.sched.Cuttable k.config.pageSize
  images : ∀ op ∈ k.mm.queue ++ held, op.Cuttable k.config.pageSize
  pcs : k.sched.ContextsSatisfy fun cx => cx.pc ≤ Context.pcBound

/-- The invariant reads the configuration, the memory manager and the scheduler alone. -/
theorem Bounded.congr {k' : Kernel} (bounded : k.Bounded held) (config : k'.config = k.config)
    (mm : k'.mm = k.mm) (sched : k'.sched = k.sched) : k'.Bounded held := by
  obtain ⟨fits, pageSize, diskPage, pages, images, pcs⟩ := bounded
  rw [← config, ← mm, ← sched] at *
  exact ⟨fits, pageSize, diskPage, pages, images, pcs⟩

/-- A kernel within bounds has pages of at least one word. -/
theorem Bounded.page_pos (bounded : k.Bounded held) : 0 < k.config.pageSize :=
  bounded.pageSize ▸ bounded.fits.page_pos

/-- Paging that keeps the bounds keeps the invariant. -/
theorem Bounded.repage {mm : MemoryManager} {s : Scheduler} (bounded : k.Bounded held)
    (kept : CutsKept k.mm k.sched mm s) (cpu : s.cpu = k.sched.cpu) :
    ({ k with mm, sched := s } : Kernel).Bounded held := by
  have cut : k.sched.Cuttable k.mm.swap.pageSize := by
    rw [bounded.diskPage]
    exact bounded.pages
  obtain ⟨ops, queue, cuts⟩ := kept.queued cut
  refine ⟨bounded.fits.keep kept.shape, kept.shape.pageSize.trans bounded.pageSize,
    kept.shape.diskPage.trans bounded.diskPage, bounded.pages.of_sameOn kept.layout, fun op mem => ?_,
    bounded.pcs.of_sameOn kept.contexts (by rw [cpu])⟩
  simp only [queue, List.append_assoc, List.mem_append] at mem
  rcases mem with old | new | held
  · exact bounded.images op (List.mem_append_left _ old)
  · rw [← bounded.diskPage]
    exact cuts op new
  · exact bounded.images op (List.mem_append_right _ held)

/-- Scheduling changes no image, no number of pages and no disk operation; it keeps the
invariant when it keeps the program counters. -/
theorem Bounded.reschedule {s : Scheduler} (bounded : k.Bounded held)
    (layout : SameOn ControlBlock.layout k.sched s)
    (pcs : s.ContextsSatisfy fun cx => cx.pc ≤ Context.pcBound) :
    ({ k with sched := s } : Kernel).Bounded held :=
  ⟨bounded.fits, bounded.pageSize, bounded.diskPage, bounded.pages.of_sameOn layout, bounded.images,
    pcs⟩

/-- Halting keeps the bounds. -/
theorem Bounded.halt (bounded : k.Bounded held) (e : KernelError) : (k.halt e).Bounded held :=
  bounded.congr rfl rfl rfl

/-- A processor whose counter is in bounds keeps the invariant. -/
theorem Bounded.withCpu (bounded : k.Bounded held) {cpu : Cpu}
    (within : cpu.context.pc ≤ Context.pcBound) : (k.withCpu cpu).Bounded held :=
  bounded.reschedule (fun _ => rfl) ⟨within, bounded.pcs.2⟩

/-- Fewer operations held by the devices keep the invariant. -/
theorem Bounded.drop {held' : List DiskOperation} (bounded : k.Bounded held)
    (fewer : ∀ op ∈ held', op ∈ held) : k.Bounded held' := by
  refine ⟨bounded.fits, bounded.pageSize, bounded.diskPage, bounded.pages, fun op mem => ?_,
    bounded.pcs⟩
  rcases List.mem_append.1 mem with queued | kept
  · exact bounded.images op (List.mem_append_left _ queued)
  · exact bounded.images op (List.mem_append_right _ (fewer op kept))

/-- Ending a process gives back its frames and slots; nothing is queued. -/
theorem Bounded.terminate (bounded : k.Bounded held) (pid : Nat) (cause : Cause) :
    (k.terminate pid cause).Bounded held := by
  have released : ShapeKept k.mm (k.terminate pid cause).mm ∧
      (k.terminate pid cause).mm.queue = k.mm.queue := by
    unfold Kernel.terminate
    dsimp only
    split
    · exact ⟨shapeKept_release _ _, rfl⟩
    · exact ⟨.refl _, rfl⟩
  have sched : (k.terminate pid cause).sched = (k.sched.removeProcess pid cause).2.dispatchNext.2 :=
    rfl
  refine ⟨bounded.fits.keep released.1, released.1.pageSize.trans bounded.pageSize,
    released.1.diskPage.trans bounded.diskPage, ?_, ?_, ?_⟩
  · rw [sched]
    exact (bounded.pages.removeProcess pid cause).of_sameOn unscheduled_layout.dispatchNext
  · rw [released.2]
    exact bounded.images
  · rw [sched]
    exact (bounded.pcs.removeProcess pid cause).dispatchNext

/-- Ending the running process keeps the bounds. -/
theorem Bounded.endRunning (bounded : k.Bounded held) (cause : Cause) : (k.endRunning cause).Bounded held := by
  unfold Kernel.endRunning
  split
  · exact bounded.terminate _ cause
  · exact bounded

/-- Any disk completion keeps the invariant: a load installs a page, a save records a slot, a
lost page ends its process. -/
theorem Bounded.diskDone (sched : k.Scheduled) (bounded : k.Bounded held) (c : Completion) :
    (k.diskDone c).Bounded held := by
  unfold Kernel.diskDone
  split
  · rename_i data _
    have kept := cutsKept_completeLoad sched.agree.wf k.mm c.pid c.page c.frame data
    rcases loaded : k.mm.completeLoad k.sched c.pid c.page c.frame data with ⟨woken, mm, s⟩
    rw [loaded] at kept
    have installed := bounded.repage kept (repaged_of_completeLoad sched.agree.wf loaded).cpu_eq
    dsimp only
    split
    · exact installed.reschedule (unscheduled_layout.unblock _ _ _) (installed.pcs.unblock _ _ _)
    · exact installed
  · exact bounded.repage (cutsKept_completeSave k.mm k.sched _ _ _) (repaged_completeSave _ _ _).cpu_eq
  · split
    · exact bounded.terminate _ _
    · exact bounded

/-- Keeping a console value for an absent page changes neither images, pages nor contexts. -/
theorem cutsKept_deferInput (mm : MemoryManager) (s : Scheduler) (pid : Nat) (addr value : Int32) :
    CutsKept mm s mm (deferInput s pid addr value) := by
  unfold deferInput
  split
  · exact .refl mm s
  · exact .of_eq (.refl mm) (sameOn_modify pid _ fun _ => rfl) (sameOn_modify pid _ fun _ => rfl) rfl

/-- A translation keeps the invariant. -/
theorem Bounded.translate (bounded : k.Bounded held) {pid : Nat} {va : Int32} {write : Bool}
    {r : Except AccessFault Nat} {mm : MemoryManager} {s : Scheduler}
    (translated : k.mm.translate k.sched pid va write = (r, mm, s)) :
    ({ k with mm, sched := s } : Kernel).Bounded held := by
  have kept := cutsKept_translate k.mm k.sched pid va write
  rw [translated] at kept
  exact bounded.repage kept (repaged_of_translate translated).cpu_eq

/-- Any console completion keeps the invariant. -/
theorem Bounded.ioDone (bounded : k.Bounded held) (c : IoCompletion) :
    (k.ioDone c).Bounded held := by
  cases c with
  | write pid => exact bounded.reschedule (unscheduled_layout.unblock _ _ _) (bounded.pcs.unblock _ _ _)
  | read pid addr value =>
    simp only [Kernel.ioDone]
    split
    · exact bounded
    · split
      · rename_i pa mm s translated
        have paged := (bounded.translate translated).repage (cutsKept_write mm s pa (.data value)) rfl
        exact paged.reschedule (unscheduled_layout.unblock _ _ _) (paged.pcs.unblock _ _ _)
      · rename_i page mm s translated
        have paged := (bounded.translate translated).repage (cutsKept_deferInput mm s pid addr value)
          (repaged_deferInput s pid addr value).cpu_eq
        have blocked := paged.reschedule (unscheduled_layout.block pid BlockReason.pageFaultOnly .pageFault)
          (paged.pcs.block pid BlockReason.pageFaultOnly .pageFault)
        exact blocked.reschedule (unscheduled_layout.unblock _ _ _) (blocked.pcs.unblock _ _ _)
      · rename_i mm s translated
        exact (bounded.translate translated).terminate pid _
      · rename_i mm s translated
        exact (bounded.translate translated).halt _

/-- Any interrupt at all keeps the invariant. -/
theorem Bounded.handle (sched : k.Scheduled) (bounded : k.Bounded held) (irq : Interrupt) :
    (k.handle irq).Bounded held := by
  cases irq with
  | trap t =>
    cases t with
    | timer =>
      exact bounded.reschedule unscheduled_layout.onTimerExpired bounded.pcs.onTimerExpired
    | pageFault page =>
      simp only [Kernel.handle]
      split
      · exact bounded.reschedule (unscheduled_layout.blockRunning _ _) (bounded.pcs.blockRunning _ _)
      · exact bounded
    | ioWait => exact bounded.reschedule (unscheduled_layout.blockRunning _ _) (bounded.pcs.blockRunning _ _)
    | framesExhausted => exact bounded.halt _
    | invalidAddress | overflow | invalidInstruction | stop => exact bounded.endRunning _
  | diskDone c => exact bounded.diskDone sched c
  | ioDone c => exact bounded.ioDone c

/-- A read of the kernel's bus at a negative address fails. -/
theorem bus_read_negative (pid limit : Nat) (a : Int32) (k : Kernel) (negative : a.toInt < 0) :
    ∃ e k', (bus pid limit).read a k = (.error e, k') := by
  obtain ⟨config, mm, s, console, nextPid, halted⟩ := k
  simp only [bus, MemoryManager.translate, negative, if_true]
  exact ⟨_, _, rfl⟩

/-- Every access of an instruction keeps the invariant. -/
theorem bus_keeps_bounded (held : List DiskOperation) (pid limit : Nat) :
    Exec.Keeps (bus pid limit) (fun k => k.Bounded held) fun _ k => k.Bounded held := by
  refine bus_keeps pid limit (fun k _ _ pa mm s bounded translated => ?_)
    (fun k _ _ _ _ _ bounded translated => bounded.translate translated)
    fun k bounded => ⟨bounded, bounded, bounded, bounded⟩
  exact ⟨bounded.translate translated,
    fun w _ => (bounded.translate translated).repage (cutsKept_write mm s pa w) rfl⟩

/-- A console request of an instruction changes nothing the invariant reads. -/
theorem Bounded.requestIo (bounded : k.Bounded held) (pid limit : Nat) (kind : IoKind) :
    ((bus pid limit).requestIo kind k).Bounded held :=
  bounded.congr rfl rfl rfl

/-- A step keeps the invariant: the instruction's accesses page, its processor ends with the
counter in bounds, and its trap is an interrupt. -/
theorem Bounded.step (sched : k.Scheduled) (bounded : k.Bounded held) : k.step.2.Bounded held := by
  rw [step_eq]
  split
  · exact bounded
  · have ready : k.dispatched.Scheduled ∧ k.dispatched.Bounded held := by
      unfold dispatched
      split
      · exact ⟨sched.reschedule sched.agree.dispatchNext unscheduled_pageTable.dispatchNext,
          bounded.reschedule unscheduled_layout.dispatchNext bounded.pcs.dispatchNext⟩
      · exact ⟨sched, bounded⟩
    split
    · exact ready.2
    · rename_i pid current
      -- a console request changes neither the queues nor anything the bounds read
      have outcome := @Cpu.step_post _ _ _ (fun k => k.Scheduled ∧ k.Bounded held) _
        ((bus_keeps_scheduled pid (((k.dispatched.sched.get? pid).map (·.size)).getD 0)).and
          (bus_keeps_bounded held pid _))
        (fun kind k' h => ⟨⟨h.1.1.agree, h.1.1.issued⟩, h.2.requestIo pid _ kind⟩)
        k.dispatched.sched.cpu _ ⟨⟨ready.1, current⟩, ready.2⟩
      have within := Cpu.step_pc_le (bus pid (((k.dispatched.sched.get? pid).map (·.size)).getD 0))
        (fun a k' negative => bus_read_negative pid _ a k' negative) k.dispatched.sched.cpu
        ready.2.pcs.1 k.dispatched
      dsimp only
      generalize (k.dispatched.sched.cpu.step (bus pid _)).run k.dispatched = r at outcome within ⊢
      -- whatever the instruction did, the kernel it leaves keeps the invariant
      have after : r.2.Scheduled ∧ r.2.Bounded held := by
        rcases outcome with ⟨_, h⟩ | ⟨_, h⟩ | ⟨_, h⟩ | ⟨_, _, h⟩
        · exact ⟨h.1.1, h.2⟩
        · exact ⟨h.1.1, h.2⟩
        · exact h
        · exact h
      have placed := after.2.withCpu within
      split
      · exact placed.handle (after.1.withCpu _) _
      · exact placed

/-- Installing the first page of a new process changes neither its image, its number of pages
nor its context. -/
theorem layout_loadInitial (mm : MemoryManager) (cb : ControlBlock) :
    (mm.loadInitial cb).2.2.layout = cb.layout ∧ (mm.loadInitial cb).2.2.context = cb.context := by
  unfold loadInitial
  split
  · exact ⟨rfl, rfl⟩
  · dsimp only
    split
    · exact ⟨by simp [ControlBlock.layout], rfl⟩
    · exact ⟨rfl, rfl⟩

/-- A new process runs a built-in program, whose every page can be cut, from address 0. -/
theorem Bounded.createProcess (bounded : k.Bounded held) (name : String) :
    (k.createProcess name).2.Bounded held := by
  unfold Kernel.createProcess
  split
  · exact bounded
  · rename_i program found
    split
    · exact bounded
    · dsimp only
      have builtIn : program ∈ Program.registry := List.mem_of_find?_eq_some found
      have kept := shapeKept_loadInitial k.mm (ControlBlock.new k.nextPid program k.config.pageSize)
      have queue := (loadInitial_slots k.mm (ControlBlock.new k.nextPid program k.config.pageSize)).2.1
      have same := layout_loadInitial k.mm (ControlBlock.new k.nextPid program k.config.pageSize)
      rcases initial : k.mm.loadInitial (ControlBlock.new k.nextPid program k.config.pageSize)
        with ⟨_, mm, cb⟩
      rw [initial] at kept queue same
      refine ⟨bounded.fits.keep kept, kept.pageSize.trans bounded.pageSize,
        kept.diskPage.trans bounded.diskPage, ?_, ?_, ?_⟩
      · refine (Cuttable.insert bounded.pages ?_).of_sameOn (unscheduled_layout.addToReady _ _)
        exact (ControlBlock.cuttable_new _ builtIn _).of_layout same.1
      · show ∀ op ∈ mm.queue ++ held, _
        rw [queue]
        exact bounded.images
      · refine ContextsSatisfy.addToReady (bounded.pcs.insert ?_) _ _
        rw [same.2]
        exact Nat.zero_le _

/-- The disk keeps its shape through any operation. -/
theorem Bounded.withSwap (bounded : k.Bounded held) (op : DiskOperation) :
    ({ k with mm := { k.mm with swap := (k.mm.swap.perform op).2 } } : Kernel).Bounded held :=
  ⟨bounded.fits.keep (shapeKept_perform k.mm op),
    (shapeKept_perform k.mm op).pageSize.trans bounded.pageSize,
    (shapeKept_perform k.mm op).diskPage.trans bounded.diskPage, bounded.pages, bounded.images,
    bounded.pcs⟩

/-- Carrying out a disk operation keeps the invariant: the disk keeps its shape and the
completion is an interrupt. -/
theorem Bounded.perform (sched : k.Scheduled) (bounded : k.Bounded held) (op : DiskOperation) :
    (k.perform op).2.Bounded held := by
  simp only [Kernel.perform]
  have swappedSched : ({ k with mm := { k.mm with swap := (k.mm.swap.perform op).2 } } :
      Kernel).Scheduled := ⟨sched.agree, sched.issued⟩
  exact (bounded.withSwap op).handle swappedSched _

/-- Handing the queue to the disk keeps every operation still to be carried out. -/
theorem Bounded.takeDiskQueue (bounded : k.Bounded held) {held' : List DiskOperation}
    (handed : ∀ op ∈ held', op ∈ k.mm.queue ++ held) : k.takeDiskQueue.2.Bounded held' := by
  refine ⟨bounded.fits.keep (.of_frames rfl rfl rfl rfl), bounded.pageSize, bounded.diskPage,
    bounded.pages, fun op mem => ?_, bounded.pcs⟩
  change op ∈ [] ++ held' at mem
  rw [List.nil_append] at mem
  exact bounded.images op (handed op mem)

/-- Every call keeps the invariant. -/
theorem Bounded.call (sched : k.Scheduled) (bounded : k.Bounded held) (c : Call) :
    (k.call c).Bounded held := by
  cases c with
  | create name => exact bounded.createProcess name
  | remove pid =>
    simp only [Kernel.call, Kernel.removeProcess]
    split
    · exact bounded.terminate pid _
    · exact bounded
  | exec pid =>
    simp only [Kernel.call, Kernel.execProcess]
    split
    · exact bounded
    · split
      all_goals first
        | exact bounded
        | exact bounded.reschedule (unscheduled_layout.release pid) (bounded.pcs.release pid)
  | setAuto on => exact bounded.reschedule (fun _ => rfl) bounded.pcs
  | step => exact bounded.step sched
  | dispatch =>
    simp only [Kernel.call, Kernel.dispatchNext]
    split
    · exact bounded
    · exact bounded.reschedule unscheduled_layout.dispatchNext bounded.pcs.dispatchNext
  | interrupt irq => exact bounded.handle sched irq
  | perform op => exact bounded.perform sched op
  | takeDisk => exact bounded.takeDiskQueue fun _ kept => List.mem_append_right _ kept
  | takeConsole => exact bounded.congr rfl rfl rfl

/-- Every event of a served run keeps the invariant: the disk carries out only operations the
kernel queued, whose image pages can be cut. -/
theorem Bounded.happen {d : Devices} (sched : k.Scheduled) (bounded : k.Bounded d.held)
    (e : Event) : (k.happen d e).1.Bounded (k.happen d e).2.held := by
  cases e with
  | create name => exact bounded.call sched (.create name)
  | remove pid => exact bounded.call sched (.remove pid)
  | exec pid => exact bounded.call sched (.exec pid)
  | setAuto on => exact bounded.call sched (.setAuto on)
  | step => exact bounded.call sched .step
  | dispatch => exact bounded.call sched .dispatch
  | takeDisk => exact bounded.takeDiskQueue fun _ handed => List.perm_append_comm.subset handed
  | perform i =>
    simp only [Kernel.happen]
    split
    · exact (bounded.drop fun _ => List.mem_of_mem_eraseIdx).perform sched _
    · exact bounded
  | drop i =>
    simp only [Kernel.happen]
    split
    · exact bounded.drop fun _ => List.mem_of_mem_eraseIdx
    · exact bounded
  | takeConsole => exact bounded.congr rfl rfl rfl
  | answer i value =>
    simp only [Kernel.happen]
    split
    · rename_i req _
      exact bounded.handle sched (.ioDone (req.answer value))
    · exact bounded

/-- A new kernel of a valid configuration: memory holds every frame, the disk has no slot in
use, and there is no process and no operation. -/
theorem Bounded.new {c : Config} (created : Kernel.new c = some (.ok k)) : k.Bounded [] := by
  obtain ⟨valid, -, rfl⟩ := Kernel.new_eq_ok.1 created
  have page_pos := ((Config.validate_eq_ok_iff c).1 valid).page_pos
  refine ⟨⟨page_pos, rfl, ?_, ?_⟩, rfl, rfl, ?_, ?_, ⟨Nat.zero_le _, ?_⟩⟩
  · simp only [MemoryManager.new, FrameTable.size, FrameTable.new, Array.size_replicate,
      PhysicalMemory.size, PhysicalMemory.new, Config.frameCount]
    exact Nat.div_mul_le_self _ _
  · exact ⟨by simp [MemoryManager.new, SwapDisk.new],
      by simp [MemoryManager.new, SwapDisk.new, Array.count_replicate]⟩
  · intro q cb found
    cases found
  · intro op mem
    cases mem
  · intro q cb found
    cases found

end Kernel

end PagedMachine
