import PagedMachine.Proofs.FaultHandling
import PagedMachine.Proofs.FrameAudit
import PagedMachine.Proofs.KernelChecked

/-!
# Ending a process

A process ends through `Kernel.terminate`, whatever ends it: its removal, a trap of its own
instruction (`stop`, an invalid address, an overflow, an invalid instruction), a page of it lost
for want of a swap slot, or a console value for an address it does not have. `Kernel.CleanedUp`
says what ending leaves behind. The process is gone from the table and from every queue. Each
frame it held, locked or not, is free and unlocked, and the free frames grew by their number.
Each slot its pages record is free. Nothing of any other process moved: its page entries, the
frames it holds and their locks, the slots its pages record. The dispatch that follows changes
none of these.

Completions keep arriving for a process that ended: its loads and saves still queued, a page
lost on its account, a console transfer. A pid is handed out once (`Kernel.Within` bounds the
live pids, and only a creation adds one, the next), so the process stays ended, and a
completion for it leaves the kernel as it is (`Kernel.Forgets`): the frame of a stale load
belongs to another page or to none, and the owner check turns the load away.

Main statement: `Kernel.terminate_cleans_up`.
-/

namespace PagedMachine

namespace FrameTable

/-- The free frames, counted frame by frame. -/
theorem freeCount_eq_countP (t : FrameTable) :
    t.freeCount = (List.range t.size).countP fun f => (t.owner f).isNone := by
  have parts := List.length_eq_countP_add_countP (fun f => (t.owner f).isNone) (l := List.range t.size)
  have held : t.holders.length = (List.range t.size).countP fun f => ¬(t.owner f).isNone := by
    rw [holders, List.length_filterMap_eq_countP]
    apply List.countP_congr
    intro f _
    cases t.owner f <;> simp
  have total := freeCount_add_length_holders t
  rw [List.length_range] at parts
  omega

/-- Releasing a process frees as many frames as it held. -/
theorem freeCount_releaseOwner (t : FrameTable) (pid : Nat) :
    (t.releaseOwner pid).2.freeCount =
      t.freeCount + (List.range t.size).countP fun f => (t.owner f).any (·.pid == pid) := by
  rw [freeCount_eq_countP, freeCount_eq_countP, size_releaseOwner, ← countP_or_of_disjoint]
  · apply List.countP_congr
    intro f _
    rw [owner_releaseOwner]
    cases t.owner f with
    | none => simp
    | some o => by_cases mine : o.pid = pid <;> simp [mine]
  · -- a frame held by the process is not free
    intro f _ both
    cases owned : t.owner f <;> simp_all

end FrameTable

namespace MemoryManager

open Scheduler

variable {s : Scheduler}

/-- An operation that keeps every page table keeps every entry. -/
theorem entry?_of_sameOn {s' : Scheduler} (same : SameOn ControlBlock.pageTable s s') (q g : Nat) :
    entry? s' q g = entry? s q g := by
  have through : ∀ o : Option ControlBlock, o.bind (fun cb => cb.pageTable.get? g) =
      (o.map ControlBlock.pageTable).bind (fun pt => pt.get? g) := by
    intro o
    cases o <;> rfl
  unfold entry?
  rw [through, through, same q]

/-- Removing a process drops its page entries and leaves every other process's. -/
theorem entry?_removeProcess (pid : Nat) (cause : Cause) (q g : Nat) :
    entry? (s.removeProcess pid cause).2 q g = if pid = q then none else entry? s q g := by
  unfold entry?
  rw [get?_removeProcess]
  split <;> simp

end MemoryManager

namespace Kernel

open Scheduler MemoryManager

variable {k : Kernel}

/-- Ending a live process releases its frames and the slots its pages record, drops it from
the scheduler and dispatches the next process. -/
theorem terminate_of_live {pid : Nat} {cb : ControlBlock} (wf : k.sched.TableWF)
    (live : k.sched.get? pid = some cb) (cause : Cause) :
    k.terminate pid cause = { k with
      mm := { k.mm with frames := (k.mm.frames.releaseOwner pid).2,
                        swap := cb.pageTable.slots.foldl SwapDisk.release k.mm.swap }
      sched := (k.sched.removeProcess pid cause).2.dispatchNext.2 } := by
  unfold terminate
  simp only []
  rw [fst_removeProcess, live]
  simp only [Option.map_some, MemoryManager.release, wf.pid_eq live]

/-- What ending `pid`, whose control block was `cb`, leaves in kernel `k'` from kernel `k`. -/
structure CleanedUp (k k' : Kernel) (pid : Nat) (cb : ControlBlock) : Prop where
  /-- The process is out of the table, -/
  gone : k'.sched.get? pid = none
  /-- and out of the ready queue, the blocked set, the processor and the released set. -/
  unqueued : pid ∉ k'.sched.ready ∧ pid ∉ k'.sched.blocked ∧ k'.sched.running ≠ some pid ∧
    pid ∉ k'.sched.released
  /-- Every frame it held, locked or not, is free and unlocked. -/
  freed : ∀ f g, k.mm.frames.owner f = some ⟨pid, g⟩ →
    k'.mm.frames.owner f = none ∧ k'.mm.frames.isLocked f = false
  /-- The free frames grew by the number it held. -/
  freeCount : k'.mm.frames.freeCount = k.mm.frames.freeCount +
    (List.range k.mm.frames.size).countP fun f => (k.mm.frames.owner f).any (·.pid == pid)
  /-- Every slot its pages record is free. -/
  slotsFreed : ∀ n ∈ cb.pageTable.slots, k'.mm.swap.reserved.getD n false = false
  /-- No page entry of another process changed. -/
  entriesKept : ∀ q g, q ≠ pid → entry? k'.sched q g = entry? k.sched q g
  /-- No frame it did not hold changed owner or lock. -/
  framesKept : ∀ f, (∀ g, k.mm.frames.owner f ≠ some ⟨pid, g⟩) →
    k'.mm.frames.owner f = k.mm.frames.owner f ∧ k'.mm.frames.isLocked f = k.mm.frames.isLocked f
  /-- No slot its pages do not record was reserved or freed. -/
  slotsKept : ∀ n ∉ cb.pageTable.slots,
    k'.mm.swap.reserved.getD n false = k.mm.swap.reserved.getD n false

/-- An owner names process `pid` exactly when it is a page of `pid`. -/
theorem any_pid_eq_true {pid : Nat} (o : Option FrameOwner) :
    o.any (·.pid == pid) = true ↔ ∃ g, o = some ⟨pid, g⟩ := by
  rcases o with _ | ⟨p, g⟩ <;> simp

/-- Ending a live process cleans up after it. -/
theorem cleanedUp_terminate (sched : k.Scheduled) {pid : Nat} {cb : ControlBlock}
    (live : k.sched.get? pid = some cb) (cause : Cause) :
    CleanedUp k (k.terminate pid cause) pid cb := by
  have agree := (sched.agree.removeProcess pid cause).dispatchNext
  have dead : ((k.sched.removeProcess pid cause).2.dispatchNext.2).contains pid = false := by
    rw [unscheduled_pageTable.dispatchNext.contains_eq, contains_removeProcess]
    simp
  have unlisted : ∀ {l : List Nat}, (∀ q ∈ l, (k.sched.removeProcess pid cause).2.dispatchNext.2.contains q) →
      pid ∉ l := fun listed mem => by simpa [dead] using listed pid mem
  rw [terminate_of_live sched.agree.wf live cause]
  refine ⟨?_, ⟨unlisted agree.ready_live, unlisted agree.blocked_live,
    fun running => by simpa [dead] using agree.running_live pid running,
    unlisted agree.released_live⟩, fun f g owned => ?_, FrameTable.freeCount_releaseOwner _ _,
    fun n mem => ?_, fun q g other => ?_, fun f notHeld => ?_, fun n out => ?_⟩
  · rw [contains_eq_isSome] at dead
    simpa using dead
  · have mine := (any_pid_eq_true _).2 ⟨g, owned⟩
    simp only [FrameTable.owner_releaseOwner, FrameTable.isLocked_releaseOwner, mine, if_true,
      and_self]
  · rw [SwapDisk.getD_foldl_release]
    simp [mem]
  · rw [entry?_of_sameOn unscheduled_pageTable.dispatchNext, entry?_removeProcess,
      if_neg (Ne.symm other)]
  · have others : (k.mm.frames.owner f).any (·.pid == pid) = false := by
      rw [Bool.eq_false_iff]
      intro mine
      obtain ⟨g, owned⟩ := (any_pid_eq_true _).1 mine
      exact notHeld g owned
    simp only [FrameTable.owner_releaseOwner, FrameTable.isLocked_releaseOwner, others,
      Bool.false_eq_true, if_false, and_self]
  · rw [SwapDisk.getD_foldl_release]
    simp [out]

/-- The kernel has forgotten `pid`: no live process has it, and every completion for it, of a
disk operation or of a console transfer, leaves the kernel as it is. -/
structure Forgets (k : Kernel) (pid : Nat) : Prop where
  dead : k.sched.contains pid = false
  diskDone : ∀ page frame r, k.handle (.diskDone ⟨pid, page, frame, r⟩) = k
  written : k.handle (.ioDone (.write pid)) = k
  read : ∀ addr value, k.handle (.ioDone (.read pid addr value)) = k

/-- With frames and page tables in agreement, a kernel forgets every pid that is not live: such a
pid holds no frame, so a load for it is turned away, and it has no page to record a save in, no
process to end and none to wake. -/
theorem forgets_of_dead (ok : k.FramesOk) {pid : Nat} (dead : k.sched.contains pid = false) :
    k.Forgets pid := by
  have missing : k.sched.get? pid = none := by
    rw [contains_eq_isSome] at dead
    simpa using dead
  refine ⟨dead, fun page frame r => ?_, ?_, fun addr value => ?_⟩
  · cases r with
    | loaded data =>
      have unowned : k.mm.frames.owner frame ≠ some ⟨pid, page⟩ := by
        intro owned
        rcases ok.agree.owner_resident frame _ owned with ⟨present, _⟩ | ⟨loading, _⟩
        · simp [residency, entry?, missing] at present
        · simp [residency, entry?, missing] at loading
      simp only [handle, diskDone, completeLoad, unowned, ne_eq, not_false_eq_true, if_true]
    | saved slot => simp only [handle, diskDone, completeSave, entry?, missing, Option.bind_none]
    | diskFull => simp only [handle, diskDone, dead, Bool.false_eq_true, if_false]
  · simp only [handle, ioDone, Scheduler.unblock, missing]
  · simp only [handle, ioDone, dead, Bool.not_false, if_true]

section Pids

/-- Every live process of `k` has a pid that satisfies `L`. -/
def Within (L : Nat → Prop) (k : Kernel) : Prop :=
  ∀ q, k.sched.contains q = true → L q

variable {L : Nat → Prop}

/-- Live pids within `L` are within any weaker bound. -/
theorem Within.mono {L' : Nat → Prop} (within : k.Within L) (weaker : ∀ q, L q → L' q) :
    k.Within L' :=
  fun q alive => weaker q (within q alive)

/-- A kernel with no new live pid keeps its live pids within `L`. -/
theorem Within.shrink {k' : Kernel} (within : k.Within L)
    (live : ∀ q, k'.sched.contains q = true → k.sched.contains q = true) : k'.Within L :=
  fun q alive => within q (live q alive)

/-- Scheduling that keeps every page table keeps the live pids within `L`. -/
theorem Within.reschedule {s : Scheduler} (within : k.Within L)
    (same : SameOn ControlBlock.pageTable k.sched s) : ({ k with sched := s } : Kernel).Within L :=
  within.shrink fun q alive => by rwa [same.contains_eq] at alive

/-- Paging keeps the live pids within `L`. -/
theorem Within.repage {s : Scheduler} (within : k.Within L) (repaged : Repaged k.sched s)
    (mm : MemoryManager) : ({ k with mm, sched := s } : Kernel).Within L :=
  within.shrink fun q alive => by rwa [repaged.same_standing.contains_eq] at alive

/-- Ending a process keeps the live pids within `L`. -/
theorem Within.terminate (within : k.Within L) (pid : Nat) (cause : Cause) :
    (k.terminate pid cause).Within L :=
  within.shrink fun q alive => by
    change ((k.sched.removeProcess pid cause).2.dispatchNext.2).contains q = true at alive
    rw [unscheduled_pageTable.dispatchNext.contains_eq, contains_removeProcess] at alive
    simp only [Bool.and_eq_true] at alive
    exact alive.2

/-- Another processor state keeps the live pids within `L`. -/
theorem Within.withCpu (within : k.Within L) (cpu : Cpu) : (k.withCpu cpu).Within L :=
  within.reschedule fun _ => rfl

/-- Ending the running process keeps the live pids within `L`. -/
theorem Within.endRunning (within : k.Within L) (cause : Cause) : (k.endRunning cause).Within L := by
  unfold Kernel.endRunning
  split
  · exact within.terminate _ cause
  · exact within

/-- Unblocking a process keeps the live pids within `L`. -/
theorem Within.unblock (within : k.Within L) (pid : Nat) (reason : BlockReason) (cause : Cause) :
    ({ k with sched := (k.sched.unblock pid reason cause).2 } : Kernel).Within L :=
  within.reschedule (unscheduled_pageTable.unblock pid reason cause)

/-- Handling a finished disk operation keeps the live pids within `L`. -/
theorem Within.diskDone (within : k.Within L) (wf : k.sched.TableWF) (c : Completion) :
    (k.diskDone c).Within L := by
  unfold Kernel.diskDone
  split
  · rename_i data _
    rcases loaded : k.mm.completeLoad k.sched c.pid c.page c.frame data with ⟨woken, mm, s⟩
    have installed := within.repage (repaged_of_completeLoad wf loaded) mm
    dsimp only
    split
    · exact installed.unblock _ _ _
    · exact installed
  · exact within.repage (repaged_completeSave _ _ _) k.mm
  · split
    · exact within.terminate _ _
    · exact within

/-- Handling a finished console transfer keeps the live pids within `L`. -/
theorem Within.ioDone (within : k.Within L) (c : IoCompletion) : (k.ioDone c).Within L := by
  cases c with
  | write pid => exact within.unblock pid _ _
  | read pid addr value =>
    simp only [Kernel.ioDone]
    split
    · exact within
    · split
      · rename_i pa mm s translated
        exact (within.repage (repaged_of_translate translated) (mm.write pa (.data value))).unblock
          pid _ _
      · rename_i page mm s translated
        have paged := within.repage
          ((repaged_of_translate translated).trans (repaged_deferInput s pid addr value)) mm
        exact (paged.reschedule (unscheduled_pageTable.block pid _ _)).unblock pid _ _
      · rename_i mm s translated
        exact (within.repage (repaged_of_translate translated) mm).terminate pid _
      · rename_i mm s translated
        exact within.repage (repaged_of_translate translated) mm

/-- No interrupt adds a process. -/
theorem Within.handle (within : k.Within L) (wf : k.sched.TableWF) (irq : Interrupt) :
    (k.handle irq).Within L := by
  cases irq with
  | trap t =>
    cases t with
    | timer => exact within.reschedule unscheduled_pageTable.onTimerExpired
    | pageFault page =>
      simp only [Kernel.handle]
      split
      · exact within.reschedule (unscheduled_pageTable.blockRunning _ _)
      · exact within
    | ioWait => exact within.reschedule (unscheduled_pageTable.blockRunning _ _)
    | framesExhausted => exact within
    | invalidAddress | overflow | invalidInstruction | stop => exact within.endRunning _
  | diskDone c => exact within.diskDone wf c
  | ioDone c => exact within.ioDone c

/-- The accesses of an instruction only page. -/
theorem bus_keeps_within (pid limit : Nat) :
    Exec.Keeps (bus pid limit) (fun k => k.Within L ∧ k.sched.running = some pid)
      fun _ k => k.Within L :=
  bus_keeps_of_repage (fun _ _ mm within repaged => within.repage repaged mm) pid limit

/-- A step adds no process. The queue invariant rides along, since a completion reads the
table's shape. -/
theorem Within.step (sched : k.Scheduled) (within : k.Within L) : k.step.2.Within L := by
  have both : k.step.2.Scheduled ∧ k.step.2.Within L := by
    refine @step_keeps (fun k => k.Scheduled ∧ k.Within L) (fun k => k.Scheduled ∧ k.Within L)
      (fun _ k => k.Scheduled ∧ k.Within L) ?_ (fun pid limit => ?_) ?_ ?_ ?_ ?_ ?_ k
      ⟨sched, within⟩
    · intro k both _ _
      exact ⟨both.1.reschedule both.1.agree.dispatchNext unscheduled_pageTable.dispatchNext,
        both.2.reschedule unscheduled_pageTable.dispatchNext⟩
    · exact ((bus_keeps_scheduled pid limit).and (bus_keeps_within pid limit)).of_iff
        (fun k => ⟨fun held => ⟨⟨held.1.1, held.2⟩, held.1.2, held.2⟩,
          fun held => ⟨⟨held.1.1, held.2.1⟩, held.1.2⟩⟩) fun _ _ held => held
    · intro pid limit kind k both _
      exact ⟨⟨both.1.agree, both.1.issued⟩, both.2⟩
    · intro k cpu both
      exact ⟨both.1.withCpu cpu, both.2.withCpu cpu⟩
    · intro k cpu both
      exact ⟨(both.1.withCpu cpu).handle _, (both.2.withCpu cpu).handle (both.1.withCpu cpu).agree.wf _⟩
    · intro k cpu both
      exact ⟨(both.1.withCpu cpu).handle _, (both.2.withCpu cpu).handle (both.1.withCpu cpu).agree.wf _⟩
    · intro t k cpu both
      exact ⟨(both.1.withCpu cpu).handle _, (both.2.withCpu cpu).handle (both.1.withCpu cpu).agree.wf _⟩
  exact both.2

/-- A creation adds one process, with the next pid. -/
theorem Within.createProcess (within : k.Within L) (name : String) :
    (k.createProcess name).2.Within fun q => L q ∨ q = k.nextPid := by
  rcases createProcess_cases k name with same | ⟨program, mm, pt, -, -, -, created⟩
  · rw [same]
    exact within.mono fun _ => .inl
  · rw [created]
    intro q alive
    change ((k.sched.insert _).addToReady k.nextPid .created).contains q = true at alive
    rw [(unscheduled_pageTable.addToReady _ _).contains_eq, contains_insert] at alive
    simp only [Bool.or_eq_true, decide_eq_true_eq] at alive
    rcases alive with same | alive
    · exact .inr same.symm
    · exact .inl (within q alive)

/-- Only a creation adds a process, and it takes the next pid. -/
theorem Within.call (sched : k.Scheduled) (within : k.Within L) (c : Call) :
    (k.call c).Within fun q => L q ∨ q = k.nextPid := by
  cases c
  case create name => exact within.createProcess name
  all_goals refine Within.mono ?_ fun _ => .inl
  case remove pid =>
    simp only [Kernel.call, Kernel.removeProcess]
    split
    · exact within.terminate pid _
    · exact within
  case exec pid =>
    simp only [Kernel.call, Kernel.execProcess]
    split
    · exact within
    · split
      all_goals first
        | exact within
        | exact within.reschedule (unscheduled_pageTable.release pid)
  case setAuto on => exact within.reschedule fun _ => rfl
  case step => exact within.step sched
  case dispatch =>
    simp only [Kernel.call, Kernel.dispatchNext]
    split
    · exact within
    · exact within.reschedule unscheduled_pageTable.dispatchNext
  case interrupt irq => exact within.handle sched.agree.wf irq
  case perform op =>
    simp only [Kernel.call, Kernel.perform]
    have swapped : ({ k with mm := { k.mm with swap := (k.mm.swap.perform op).2 } } :
        Kernel).Within L := within
    exact swapped.handle sched.agree.wf _
  case takeDisk => exact within
  case takeConsole => exact within

/-- The pid counter never goes back. -/
theorem nextPid_le_call (k : Kernel) (c : Call) : k.nextPid ≤ (k.call c).nextPid := by
  cases c with
  | create name =>
    simp only [Kernel.call, Kernel.createProcess]
    split
    · exact Nat.le_refl _
    · split
      · exact Nat.le_refl _
      · exact Nat.le_succ _
  | remove pid =>
    simp only [Kernel.call, Kernel.removeProcess]
    split <;> exact Nat.le_refl _
  | exec pid =>
    simp only [Kernel.call, Kernel.execProcess]
    split
    · exact Nat.le_refl _
    · split <;> exact Nat.le_refl _
  | step => exact Nat.le_of_eq (untouched_nextPid.step k).symm
  | dispatch =>
    simp only [Kernel.call, Kernel.dispatchNext]
    split <;> exact Nat.le_refl _
  | interrupt irq => exact Nat.le_of_eq (untouched_nextPid.handle k irq).symm
  | perform op =>
    simp only [Kernel.call, Kernel.perform]
    rw [untouched_nextPid.handle]
  | setAuto on | takeDisk | takeConsole => exact Nat.le_refl _

/-- `pid` was handed out and its process has ended: no live process has it, and the pid counter
is past it. The kernel invariants ride along. -/
structure Retired (k : Kernel) (pid : Nat) : Prop where
  sched : k.Scheduled
  frames : k.FramesOk
  issued : pid < k.nextPid
  gone : k.Within (· ≠ pid)

variable {pid : Nat}

/-- An ended process stays ended: the next creation takes a pid past it. -/
theorem Retired.call (retired : k.Retired pid) (c : Call) : (k.call c).Retired pid := by
  refine ⟨retired.sched.call c, retired.frames.call retired.sched c,
    Nat.lt_of_lt_of_le retired.issued (nextPid_le_call k c), ?_⟩
  refine (retired.gone.call retired.sched c).mono fun q => ?_
  rintro (other | rfl)
  · exact other
  · exact Nat.ne_of_gt retired.issued

/-- Every completion for an ended process leaves the kernel as it is. -/
theorem Retired.forgets (retired : k.Retired pid) : k.Forgets pid :=
  forgets_of_dead retired.frames (Bool.eq_false_iff.2 fun alive => retired.gone pid alive rfl)

/-- Ending a live process retires its pid. -/
theorem retired_terminate (sched : k.Scheduled) (ok : k.FramesOk) {cb : ControlBlock}
    (live : k.sched.get? pid = some cb) (cause : Cause) : (k.terminate pid cause).Retired pid := by
  refine ⟨sched.terminate pid cause, ok.terminate sched pid cause,
    sched.issued pid (contains_of_get? live), fun q alive same => ?_⟩
  change ((k.sched.removeProcess pid cause).2.dispatchNext.2).contains q = true at alive
  rw [unscheduled_pageTable.dispatchNext.contains_eq, contains_removeProcess, same] at alive
  simp at alive

end Pids

/-- At every state a run of the kernel reaches, ending a live process cleans up after it: it is
gone from the table and every queue, its frames are free and unlocked and counted free, its
slots are free, and nothing of any other process moved. From then on, whatever calls follow,
the pid stays unused and every completion for it, of a disk operation or of a console transfer,
leaves the kernel as it is. -/
theorem terminate_cleans_up {c : Config} {k : Kernel} (created : Kernel.new c = some (.ok k))
    (calls : List Call) {pid : Nat} {cb : ControlBlock}
    (live : (k.run calls).sched.get? pid = some cb) (cause : Cause) :
    CleanedUp (k.run calls) ((k.run calls).terminate pid cause) pid cb ∧
      ∀ more, (((k.run calls).terminate pid cause).run more).Forgets pid := by
  obtain ⟨sched, ok⟩ := reached_framesOk created calls
  refine ⟨cleanedUp_terminate sched live cause, fun more => ?_⟩
  have retired := run_keeps (fun k => k.Retired pid) (fun _ c retired => retired.call c) more _
    (retired_terminate sched ok live cause)
  exact retired.forgets

/-- The default machine after creating a process, which is then removed. -/
theorem default_terminate_cleans_up :
    Kernel.new {} = some (.ok { config := {}, mm := .new {}, sched := .new false 5 }) ∧
      ∃ cb, (Kernel.run { config := {}, mm := .new {}, sched := .new false 5 }
          [.create "factorial"]).sched.get? 1 = some cb ∧
        CleanedUp (Kernel.run { config := {}, mm := .new {}, sched := .new false 5 }
            [.create "factorial"])
          ((Kernel.run { config := {}, mm := .new {}, sched := .new false 5 }
            [.create "factorial"]).terminate 1 .removed) 1 cb ∧
        ∀ more, (((Kernel.run { config := {}, mm := .new {}, sched := .new false 5 }
          [.create "factorial"]).terminate 1 .removed).run more).Forgets 1 := by
  have live : ((Kernel.run { config := {}, mm := .new {}, sched := .new false 5 }
      [.create "factorial"]).sched.get? 1).isSome = true := by
    decide +kernel
  obtain ⟨cb, found⟩ := Option.isSome_iff_exists.1 live
  exact ⟨rfl, cb, found, terminate_cleans_up (c := {}) rfl _ found .removed⟩

end Kernel

end PagedMachine
