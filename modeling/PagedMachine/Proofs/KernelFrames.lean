import PagedMachine.Proofs.FrameAudit
import PagedMachine.Proofs.KernelQueues

/-!
# Frames and page tables agree along every run

`Kernel.FramesOk` is the frame agreement of the memory manager (`FramesAgree`) for the kernel's
own frame table and page tables, with the frame table as large as the configuration says. A
new kernel has it, and every call keeps it (`FramesOk.call`): creating and removing
processes, stepping, dispatching, and handling any interrupt at all, disk completions for any
page and frame included, whether the kernel queued the operation or not, once, twice or never.

Most calls change no page table and keep it through `reschedule`; the others go through the
paging operations of the memory manager, whose lemmas say how frames and pages change
together. Termination gives every frame of the process back (`FramesOk.terminate`). The kernel
invariant of the scheduler (`Kernel.Scheduled`) is carried alongside, since a completion or a
termination reads the table's shape.
-/

namespace PagedMachine

namespace Kernel

open Scheduler MemoryManager

/-- The frame invariant of a kernel: frames and page tables agree, and there is one frame for
each page of physical memory. -/
structure FramesOk (k : Kernel) : Prop where
  agree : FramesAgree k.mm.frames (residency k.sched)
  size : k.mm.frames.size = k.config.frameCount

variable {k : Kernel}

/-- Paging that keeps the agreement and the number of frames keeps the frame invariant. -/
theorem FramesOk.repage {mm : MemoryManager} {s : Scheduler} (ok : k.FramesOk)
    (agree : FramesAgree mm.frames (residency s)) (size : mm.frames.size = k.mm.frames.size) :
    ({ k with mm, sched := s } : Kernel).FramesOk :=
  ⟨agree, size.trans ok.size⟩

/-- Scheduling that keeps every page table keeps the frame invariant. -/
theorem FramesOk.reschedule {s : Scheduler} (ok : k.FramesOk)
    (same : SameOn ControlBlock.pageTable k.sched s) : ({ k with sched := s } : Kernel).FramesOk :=
  ⟨by rw [residency_of_sameOn same]; exact ok.agree, ok.size⟩

/-- Halting keeps the frame invariant. -/
theorem FramesOk.halt (ok : k.FramesOk) (e : KernelError) : (k.halt e).FramesOk :=
  ⟨ok.agree, ok.size⟩

/-- Ending a process frees its frames and keeps the frame invariant. -/
theorem FramesOk.terminate (sched : k.Scheduled) (ok : k.FramesOk) (pid : Nat) (cause : Cause) :
    (k.terminate pid cause).FramesOk := by
  have pages : residency ((k.sched.removeProcess pid cause).2.dispatchNext.2) =
      fun p q => if pid = p then none else residency k.sched p q := by
    rw [residency_of_sameOn (unscheduled_pageTable.dispatchNext)]
    funext p q
    exact residency_removeProcess pid cause p q
  unfold Kernel.terminate
  simp only []
  rw [fst_removeProcess]
  cases found : k.sched.get? pid with
  | none =>
    have gone : (fun p q => if pid = p then none else residency k.sched p q) = residency k.sched := by
      funext p q
      split
      · rename_i same
        subst same
        simp [residency, entry?, found]
      · rfl
    refine ⟨?_, ok.size⟩
    simp only [Option.map_none]
    rw [pages, gone]
    exact ok.agree
  | some cb =>
    have keyed : cb.pid = pid := sched.agree.wf.pid_eq found
    refine ⟨?_, ?_⟩
    · simp only [Option.map_some, MemoryManager.release]
      rw [pages]
      apply ok.agree.release pid
      · intro g
        rw [keyed, FrameTable.owner_releaseOwner]
      · intro g
        rw [keyed, FrameTable.isLocked_releaseOwner]
      · intro p q
        rfl
    · simp only [Option.map_some, MemoryManager.release, FrameTable.size_releaseOwner]
      exact ok.size

/-- Ending the running process keeps the frame invariant. -/
theorem FramesOk.endRunning (sched : k.Scheduled) (ok : k.FramesOk) (cause : Cause) :
    (k.endRunning cause).FramesOk := by
  unfold Kernel.endRunning
  split
  · exact ok.terminate sched _ cause
  · exact ok

/-- Handling a finished disk operation keeps the frame invariant. -/
theorem FramesOk.diskDone (sched : k.Scheduled) (ok : k.FramesOk) (c : Completion) :
    (k.diskDone c).FramesOk := by
  unfold Kernel.diskDone
  split
  · rename_i data _
    have agree := ok.agree.completeLoad sched.agree.wf c.pid c.page c.frame data
    have size := @size_completeLoad k.sched k.mm c.pid c.page c.frame data
    rcases loaded : k.mm.completeLoad k.sched c.pid c.page c.frame data with ⟨woken, mm, s⟩
    rw [loaded] at agree size
    have installed := ok.repage agree size
    dsimp only
    split
    · exact installed.reschedule (unscheduled_pageTable.unblock _ _ _)
    · exact installed
  · exact ok.repage (by rw [residency_completeSave]; exact ok.agree) rfl
  · split
    · exact ok.terminate sched _ _
    · exact ok

/-- Handling a finished console transfer keeps the frame invariant. -/
theorem FramesOk.ioDone (sched : k.Scheduled) (ok : k.FramesOk) (c : IoCompletion) :
    (k.ioDone c).FramesOk := by
  cases c with
  | write pid => exact ok.reschedule (unscheduled_pageTable.unblock _ _ _)
  | read pid addr value =>
    simp only [Kernel.ioDone]
    split
    · exact ok
    · have agree := ok.agree.translate pid addr true
      have size := @size_translate k.sched k.mm pid addr true
      split
      · rename_i pa mm s translated
        rw [translated] at agree size
        exact (@FramesOk.repage _ (mm.write pa (.data value)) _ ok agree size).reschedule
          (unscheduled_pageTable.unblock _ _ _)
      · rename_i page mm s translated
        rw [translated] at agree size
        have deferred : residency (deferInput s pid addr value) = residency s :=
          residency_of_sameOn (by
            unfold deferInput
            split
            · exact .refl _ _
            · exact sameOn_modify _ _ fun _ => rfl)
        have paged := @FramesOk.repage _ _ (deferInput s pid addr value) ok (by rw [deferred]; exact agree)
          size
        exact (paged.reschedule (unscheduled_pageTable.block pid _ _)).reschedule
          (unscheduled_pageTable.unblock _ _ _)
      · rename_i mm s translated
        rw [translated] at agree size
        have repaged := sched.repage (repaged_of_translate translated) mm
        exact (ok.repage agree size).terminate repaged pid _
      · rename_i mm s translated
        rw [translated] at agree size
        exact (ok.repage agree size).halt _

/-- Handling any interrupt keeps the frame invariant. -/
theorem FramesOk.handle (sched : k.Scheduled) (ok : k.FramesOk) (irq : Interrupt) :
    (k.handle irq).FramesOk := by
  cases irq with
  | trap t =>
    cases t with
    | timer => exact ok.reschedule unscheduled_pageTable.onTimerExpired
    | pageFault page =>
      simp only [Kernel.handle]
      split
      · exact ok.reschedule (unscheduled_pageTable.blockRunning _ _)
      · exact ok
    | ioWait => exact ok.reschedule (unscheduled_pageTable.blockRunning _ _)
    | framesExhausted => exact ok.halt _
    | invalidAddress | overflow | invalidInstruction | stop => exact ok.endRunning sched _
  | diskDone c => exact ok.diskDone sched c
  | ioDone c => exact ok.ioDone sched c

/-- Another processor state keeps the frame invariant. -/
theorem FramesOk.withCpu (ok : k.FramesOk) (cpu : Cpu) : (k.withCpu cpu).FramesOk :=
  ok.reschedule fun _ => rfl

/-- Accesses of an instruction keep the frame invariant, whether they succeed or fault. -/
theorem bus_keeps_frames (pid limit : Nat) :
    Exec.Keeps (bus pid limit) (fun k => k.FramesOk) fun _ k => k.FramesOk := by
  -- a translation keeps the frames agreeing with the page tables, and their number
  have paged : ∀ (k : Kernel) a write r mm s, k.FramesOk →
      k.mm.translate k.sched pid a write = (r, mm, s) → ({ k with mm, sched := s } : Kernel).FramesOk := by
    intro k a write r mm s ok translated
    have agree := ok.agree.translate pid a write
    have size := @size_translate k.sched k.mm pid a write
    rw [translated] at agree size
    exact ok.repage agree size
  refine bus_keeps pid limit (fun k a write pa mm s ok translated => ?_)
    (fun k a write _ mm s ok translated => paged k a write _ mm s ok translated)
    fun k ok => ⟨ok, ok, ok, ok⟩
  have kept := paged k a write _ mm s ok translated
  exact ⟨kept, fun w _ => @FramesOk.repage { k with mm, sched := s } (mm.write pa w) s kept kept.agree rfl⟩

/-- A step keeps the frame invariant. -/
theorem FramesOk.step (sched : k.Scheduled) (ok : k.FramesOk) : k.step.2.FramesOk := by
  have keeps : ∀ pid limit, Exec.Keeps (bus pid limit)
      (fun k => (k.Scheduled ∧ k.FramesOk) ∧ k.sched.running = some pid)
      fun _ k => k.Scheduled ∧ k.FramesOk := by
    intro pid limit
    apply ((bus_keeps_scheduled pid limit).and (bus_keeps_frames pid limit)).of_iff
    · intro k
      constructor
      · intro ⟨⟨sched, ok⟩, running⟩
        exact ⟨⟨sched, running⟩, ok⟩
      · intro ⟨⟨sched, running⟩, ok⟩
        exact ⟨⟨sched, ok⟩, running⟩
    · intro t k both
      exact both
  have handled : ∀ (k : Kernel) cpu irq, k.Scheduled ∧ k.FramesOk →
      ((k.withCpu cpu).handle irq).Scheduled ∧ ((k.withCpu cpu).handle irq).FramesOk :=
    fun k cpu irq both =>
      ⟨(both.1.withCpu cpu).handle irq, (both.2.withCpu cpu).handle (both.1.withCpu cpu) irq⟩
  refine (@step_keeps (fun k => k.Scheduled ∧ k.FramesOk) (fun k => k.Scheduled ∧ k.FramesOk)
    (fun _ k => k.Scheduled ∧ k.FramesOk) ?_ keeps ?_ ?_ ?_ ?_ ?_ k ⟨sched, ok⟩).2
  · intro k both _ _
    exact ⟨both.1.reschedule both.1.agree.dispatchNext unscheduled_pageTable.dispatchNext,
      both.2.reschedule unscheduled_pageTable.dispatchNext⟩
  · intro pid limit kind k both _
    exact ⟨⟨both.1.agree, both.1.issued⟩, ⟨both.2.agree, both.2.size⟩⟩
  · intro k cpu both
    exact ⟨both.1.withCpu cpu, both.2.withCpu cpu⟩
  · intro k cpu both
    exact handled k cpu _ both
  · intro k cpu both
    exact handled k cpu _ both
  · intro t k cpu both
    exact handled k cpu _ both

/-- Every page of a new process is absent with no load in flight. -/
theorem blank_new (pid : Nat) (program : Program) (pageSize q : Nat) (e : PageEntry)
    (found : (ControlBlock.new pid program pageSize).pageTable.get? q = some e) :
    e.frame = none ∧ e.loading = false := by
  simp only [ControlBlock.new, PageTable.new, PageTable.get?, Array.getElem?_replicate] at found
  split at found
  · cases found
    exact ⟨rfl, rfl⟩
  · cases found

/-- Creating a process keeps the frame invariant. -/
theorem FramesOk.createProcess (sched : k.Scheduled) (ok : k.FramesOk) (name : String) :
    (k.createProcess name).2.FramesOk := by
  unfold Kernel.createProcess
  split
  · exact ok
  · rename_i program _
    split
    · exact ok
    · dsimp only
      have fresh : k.sched.get? (ControlBlock.new k.nextPid program k.config.pageSize).pid = none := by
        cases found : k.sched.get? k.nextPid with
        | none => exact found
        | some cb =>
          exact absurd (sched.issued _ (contains_of_get? found)) (Nat.lt_irrefl _)
      have agree := ok.agree.loadInitial fresh (blank_new k.nextPid program k.config.pageSize)
      have size := size_loadInitial k.mm (ControlBlock.new k.nextPid program k.config.pageSize)
      rcases initial : k.mm.loadInitial (ControlBlock.new k.nextPid program k.config.pageSize)
        with ⟨_, mm, cb⟩
      rw [initial] at agree size
      refine ⟨?_, size.trans ok.size⟩
      rw [residency_of_sameOn (unscheduled_pageTable.addToReady _ _)]
      exact agree

/-- Every call keeps the frame invariant. -/
theorem FramesOk.call (sched : k.Scheduled) (ok : k.FramesOk) (c : Call) : (k.call c).FramesOk := by
  cases c with
  | create name => exact ok.createProcess sched name
  | remove pid =>
    simp only [Kernel.call, Kernel.removeProcess]
    split
    · exact ok.terminate sched pid _
    · exact ok
  | exec pid =>
    simp only [Kernel.call, Kernel.execProcess]
    split
    · exact ok
    · split
      all_goals first
        | exact ok
        | exact ok.reschedule (unscheduled_pageTable.release pid)
  | setAuto on => exact ok.reschedule fun _ => rfl
  | step => exact ok.step sched
  | dispatch =>
    simp only [Kernel.call, Kernel.dispatchNext]
    split
    · exact ok
    · exact ok.reschedule unscheduled_pageTable.dispatchNext
  | interrupt irq => exact ok.handle sched irq
  | perform op =>
    simp only [Kernel.call, Kernel.perform]
    have swapped : ({ k with mm := { k.mm with swap := (k.mm.swap.perform op).2 } } :
        Kernel).Scheduled := ⟨sched.agree, sched.issued⟩
    exact FramesOk.handle swapped ⟨ok.agree, ok.size⟩ _
  | takeDisk => exact ⟨ok.agree, ok.size⟩
  | takeConsole => exact ⟨ok.agree, ok.size⟩

/-- A new kernel has no frame bound and one frame per page of memory. -/
theorem FramesOk.new {c : Config} (created : Kernel.new c = some (.ok k)) : k.FramesOk := by
  obtain ⟨-, -, rfl⟩ := Kernel.new_eq_ok.1 created
  have empty : ∀ f, (MemoryManager.new c).frames.owner f = none := by
    intro f
    simp only [MemoryManager.new, FrameTable.owner, FrameTable.new, Array.getElem?_replicate]
    split <;> rfl
  have unlocked : ∀ f, (MemoryManager.new c).frames.isLocked f = false := by
    intro f
    simp only [MemoryManager.new, FrameTable.isLocked, FrameTable.new, Array.getElem?_replicate]
    split <;> rfl
  have nowhere : ∀ p q, residency (Scheduler.new c.autoSchedule c.timeSlice) p q = none := by
    intro p q
    rfl
  refine ⟨⟨?_, ?_, ?_, ?_, ?_⟩, ?_⟩
  · intro f locked
    rw [unlocked f] at locked
    cases locked
  · intro f o owned
    rw [empty f] at owned
    cases owned
  · intro p q f loading present
    rw [nowhere p q] at present
    cases present
  · intro p q loading
    rw [nowhere p q] at loading
    cases loading
  · intro f f' o owned
    rw [empty f] at owned
    cases owned
  · simp [MemoryManager.new, FrameTable.size, FrameTable.new]

/-- Frames and page tables agree after every run from a new kernel, whatever interrupts and
disk completions it is handed. So the memory manager's audit passes, no frame is claimed by two
present pages, and the free frames and the present or loading pages of the live processes
add up to the frame count of the configuration. -/
theorem run_frames_agree {c : Config} {k : Kernel} (created : Kernel.new c = some (.ok k))
    (calls : List Call) :
    FramesAgree (k.run calls).mm.frames (residency (k.run calls).sched) ∧
      (k.run calls).mm.audit (k.run calls).sched = .ok () ∧
      (∀ pid pid' page page' f l l', residency (k.run calls).sched pid page = some (some f, l) →
        residency (k.run calls).sched pid' page' = some (some f, l') →
          pid = pid' ∧ page = page') ∧
      (k.run calls).mm.frames.freeCount + ((k.run calls).sched.table.values.map fun cb =>
        cb.pageTable.presentPages + cb.pageTable.entries.countP (·.loading)).sum =
          (k.run calls).config.frameCount := by
  have both : (k.run calls).Scheduled ∧ (k.run calls).FramesOk :=
    run_keeps (fun k => k.Scheduled ∧ k.FramesOk)
      (fun _ c both => ⟨both.1.call c, both.2.call both.1 c⟩) calls k
      ⟨Scheduled.new created, FramesOk.new created⟩
  obtain ⟨sched, ok⟩ := both
  have wf := sched.agree.wf
  refine ⟨ok.agree, ok.agree.audit_eq_ok wf, fun _ _ _ _ _ _ _ => ok.agree.present_unique, ?_⟩
  rw [← ok.size]
  exact ok.agree.freeCount_add_held wf

/-- The default machine creating `factorial`, switching on automatic scheduling and stepping twice
passes the memory manager's audit. -/
theorem default_run_frames_agree :
    Kernel.new {} = some (.ok { config := {}, mm := .new {}, sched := .new false 5 }) ∧
      (Kernel.run { config := {}, mm := .new {}, sched := .new false 5 }
        [.create "factorial", .setAuto true, .step, .step]).mm.audit
        (Kernel.run { config := {}, mm := .new {}, sched := .new false 5 }
          [.create "factorial", .setAuto true, .step, .step]).sched = .ok () :=
  ⟨rfl, (run_frames_agree (c := {}) rfl _).2.1⟩

end Kernel

end PagedMachine
