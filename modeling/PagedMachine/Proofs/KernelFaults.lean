import PagedMachine.Proofs.FaultProtocol

/-!
# Page faults are waited out, along every served run

A run whose devices serve only what the kernel asked for (`Kernel.serve`) keeps the kernel
settled (`Kernel.Settled`): its queues placed, its frames agreeing and the page-fault protocol
holding. The instruction of a step is where loads start: an access of the running process
either keeps the kernel settled or faults on the page whose load it started, and the fault
blocks the process on that page (`Settled.step`). A completion the disk reports installs the
page and wakes the process (`Settled.perform`); an answer of the console clears the process's
wait for it, or, when the page of the value read is absent, starts its load and makes the
process wait for that page instead (`Settled.answer`).

Main statement: along every served run from a new kernel, a live process waits for a page
exactly while one of its pages is loading and has at most one loading, no page has two loads
outstanding and, unless an operation was dropped, every loading page has its load
outstanding; and every page fault in the transition log is followed, for its process, by the
arrival of the page or the end of the process (`serve_page_fault_protocol`).
-/

namespace PagedMachine

/-- A completion names the page and the frame of its operation, and brings a page's content
exactly when the operation was a load. -/
theorem SwapDisk.perform_spec (disk : SwapDisk) (op : DiskOperation) :
    (disk.perform op).1.pid = op.pid ∧ (disk.perform op).1.page = op.page ∧
      (disk.perform op).1.frame = op.frame ∧
      (op.isLoad = true ↔ ∃ data, (disk.perform op).1.result = .loaded data) := by
  unfold SwapDisk.perform SwapDisk.perform?
  rcases op with ⟨pid, page, frame, kind⟩
  cases kind with
  | save data slot =>
    -- a save ends saved or failed
    have saved : ∀ x, (disk.save data slot).1 ≠ .loaded x := by
      intro x
      unfold SwapDisk.save
      split
      · split
        · exact nofun
        · exact nofun
      · exact nofun
    simp [DiskOperation.isLoad, saved]
  | load source =>
    cases loaded : disk.load page source with
    | none => simp [DiskOperation.isLoad, loaded]
    | some r => simp [DiskOperation.isLoad, loaded]

namespace Kernel

open Scheduler MemoryManager

variable {k : Kernel} {d : Devices}

/-- An access through the page table of process `pid`, which has no page loading and no console
request outstanding: it keeps the protocol, or it faults on the page whose load it started, and
the protocol then holds with the process waiting for that page. -/
theorem FaultProtocol.translate (protocol : k.FaultProtocol d k.sched) (sched : k.Scheduled)
    (ok : k.FramesOk) {pid : Nat} (idle : ∀ g, ¬Loading k.sched pid g)
    (quiet : ∀ req ∈ k.console ++ d.taken, req.pid ≠ pid) {va : Int32} {write : Bool}
    {r : Except AccessFault Nat} {mm : MemoryManager} {s : Scheduler}
    (translated : k.mm.translate k.sched pid va write = (r, mm, s)) {mem : MemoryManager}
    (frames : mem.frames = mm.frames) (queue : mem.queue = mm.queue) :
    ((∀ vpn, r ≠ .error (.pageFault vpn)) ∧
        ({ k with mm := mem, sched := s } : Kernel).FaultProtocol d s) ∨
      (∃ vpn, r = .error (.pageFault vpn)) ∧
        ({ k with mm := mem, sched := s } : Kernel).FaultProtocol d
          (s.waitingFor pid BlockReason.pageFaultOnly) := by
  have repaged := repaged_of_translate translated
  have reasons : SameOn ControlBlock.blockedOn k.sched s := repaged.same_standing.comp Prod.snd
  have live : ∀ p, s.contains p = true → k.sched.contains p = true := fun p alive => by
    rwa [repaged.same_standing.contains_eq] at alive
  rcases translate_loads ok.agree pid va write with
    ⟨framesEq, queueEq, loading, fault⟩ | ⟨vpn, fault, idleVpn, started⟩
  · rw [translated] at framesEq queueEq loading fault
    dsimp only at framesEq queueEq loading fault
    exact .inl ⟨fun vpn faulted => idle vpn (fault vpn faulted),
      protocol.repage repaged loading (frames.trans framesEq) (queue.trans queueEq)⟩
  · rw [translated] at fault started
    dsimp only at fault started
    refine .inr ⟨⟨vpn, fault⟩, ?_⟩
    obtain ⟨f, src, saves, queued, _, saved, _⟩ := started.queued
    refine ⟨protocol.waits.started reasons started.loading idle,
      (protocol.console.of_sameOn reasons).waitingFor _ (.inr quiet), protocol.log.repage repaged,
      ?_, ?_, protocol.requests_issued⟩
    · show LoadsAgree s mem.frames (mem.queue ++ d.held) (!d.dropped)
      rw [frames, queue]
      exact protocol.loads.started started idleVpn live
    · -- the evictions are of live processes, and the load is of `pid`, which is live
      show ∀ op ∈ mem.queue ++ d.held, op.pid < k.nextPid
      intro op listed
      rw [queue, queued] at listed
      simp only [List.mem_append, List.mem_singleton] at listed
      rcases listed with ((old | save) | rfl) | held
      · exact protocol.ops_issued op (List.mem_append_left _ old)
      · exact sched.issued _ (saved op save)
      · exact sched.issued _ (idle_spec idleVpn).1
      · exact protocol.ops_issued op (List.mem_append_right _ held)

/-- Between two operations, a kernel whose devices hold `d`: its queues placed, its frames
agreeing, and the page-fault protocol read in its own scheduler. -/
structure Settled (d : Devices) (k : Kernel) : Prop where
  sched : k.Scheduled
  frames : k.FramesOk
  protocol : k.FaultProtocol d k.sched

/-- The kernel owes process `pid` a wait for `reason`: its queues placed, its frames agreeing,
and the protocol holding with the process read as waiting for it. -/
structure Owed (d : Devices) (pid : Nat) (reason : BlockReason) (k : Kernel) : Prop where
  sched : k.Scheduled
  frames : k.FramesOk
  protocol : k.FaultProtocol d (k.sched.waitingFor pid reason)

/-- Inside a step, once the running process raised a trap that will make it wait for
`reason`. -/
def Pending (d : Devices) (reason : BlockReason) (k : Kernel) : Prop :=
  ∃ pid, k.sched.running = some pid ∧ Owed d pid reason k

/-- Where an instruction that raised trap `t` leaves the kernel: owing the running process its
page after a page fault, settled after any other trap. -/
def Faulted (d : Devices) : Trap → Kernel → Prop
  | .pageFault _ => Pending d BlockReason.pageFaultOnly
  | _ => Settled d

/-- Another processor state keeps the kernel settled. -/
theorem Settled.withCpu (settled : k.Settled d) (cpu : Cpu) : (k.withCpu cpu).Settled d :=
  ⟨settled.sched.withCpu cpu, settled.frames.withCpu cpu,
    (settled.protocol.withCpu cpu).view fun _ => rfl⟩

/-- Halting keeps the kernel settled. -/
theorem Settled.halt (settled : k.Settled d) (e : KernelError) : (k.halt e).Settled d :=
  ⟨settled.sched.halt e, settled.frames.halt e, settled.protocol.halt e⟩

/-- A dispatch keeps the kernel settled. -/
theorem Settled.dispatchNext (settled : k.Settled d) :
    ({ k with sched := k.sched.dispatchNext.2 } : Kernel).Settled d :=
  ⟨settled.sched.reschedule settled.sched.agree.dispatchNext unscheduled_pageTable.dispatchNext,
    settled.frames.reschedule unscheduled_pageTable.dispatchNext,
    settled.protocol.dispatchNext settled.sched.agree⟩

/-- Ending a process for a cause other than a page fault keeps the kernel settled. -/
theorem Settled.terminate (settled : k.Settled d) (pid : Nat) {cause : Cause}
    (ended : cause ≠ .pageFault) : (k.terminate pid cause).Settled d :=
  ⟨settled.sched.terminate pid cause, settled.frames.terminate settled.sched pid cause,
    settled.protocol.terminate settled.sched pid ended⟩

/-- Ending the running process for a cause other than a page fault keeps the kernel settled. -/
theorem Settled.endRunning (settled : k.Settled d) {cause : Cause} (ended : cause ≠ .pageFault) :
    (k.endRunning cause).Settled d :=
  ⟨settled.sched.endRunning cause, settled.frames.endRunning settled.sched cause,
    settled.protocol.endRunning settled.sched ended⟩

/-- Another processor state keeps a pending wait pending. -/
theorem Pending.withCpu {reason : BlockReason} (pending : Pending d reason k) (cpu : Cpu) :
    Pending d reason (k.withCpu cpu) := by
  obtain ⟨pid, running, owed⟩ := pending
  exact ⟨pid, running, owed.sched.withCpu cpu, owed.frames.withCpu cpu,
    (owed.protocol.withCpu cpu).view fun _ => rfl⟩

/-- Blocking the running process on the reason its trap owes it settles the kernel. -/
theorem Pending.blockRunning {reason : BlockReason} (pending : Pending d reason k)
    (nonempty : reason.isEmpty = false) {cause : Cause}
    (reasoned : cause = .pageFault → reason.pageFault = true) :
    ({ k with sched := k.sched.blockRunning reason cause } : Kernel).Settled d := by
  obtain ⟨pid, running, sched, ok, protocol⟩ := pending
  exact ⟨sched.reschedule (sched.agree.blockRunning nonempty cause)
      (unscheduled_pageTable.blockRunning reason cause),
    ok.reschedule (unscheduled_pageTable.blockRunning reason cause),
    protocol.blockRunning sched.agree running reasoned⟩

/-- With nothing on the processor, blocking the running process only dispatches. -/
theorem blockRunning_of_idle {s : Scheduler} (idle : s.running = none) (reason : BlockReason)
    (cause : Cause) : s.blockRunning reason cause = s.dispatchNext.2 := by
  unfold Scheduler.blockRunning takeRunning
  rw [idle]

/-- A trap other than a page fault, handled from a settled kernel, settles it. -/
theorem Settled.trap (settled : k.Settled d) (t : Trap) (notFault : ∀ page, t ≠ .pageFault page) :
    (k.handle (.trap t)).Settled d := by
  cases t with
  | timer =>
    exact ⟨settled.sched.reschedule settled.sched.agree.onTimerExpired
        unscheduled_pageTable.onTimerExpired,
      settled.frames.reschedule unscheduled_pageTable.onTimerExpired,
      settled.protocol.onTimerExpired settled.sched.agree⟩
  | pageFault page => exact absurd rfl (notFault page)
  | ioWait =>
    show ({ k with sched := k.sched.blockRunning BlockReason.ioOnly .ioRequested } : Kernel).Settled d
    cases running : k.sched.running with
    | none =>
      rw [blockRunning_of_idle running]
      exact settled.dispatchNext
    | some pid =>
      exact Pending.blockRunning ⟨pid, running, settled.sched, settled.frames,
        settled.protocol.awaitConsole settled.sched.agree running⟩ rfl nofun
  | framesExhausted => exact settled.halt _
  | invalidAddress | overflow | invalidInstruction | stop => exact settled.endRunning nofun

/-- An access through the page table of `pid`, which has no page loading and no console request
outstanding, keeps the kernel settled, or faults on the page whose load it started and owes
`pid` the wait for it. -/
theorem Settled.translate (settled : k.Settled d) {pid : Nat} (idle : ∀ g, ¬Loading k.sched pid g)
    (quiet : ∀ req ∈ k.console ++ d.taken, req.pid ≠ pid) {va : Int32} {write : Bool}
    {r : Except AccessFault Nat} {mm : MemoryManager} {s : Scheduler}
    (translated : k.mm.translate k.sched pid va write = (r, mm, s)) {mem : MemoryManager}
    (frames : mem.frames = mm.frames) (queue : mem.queue = mm.queue) :
    ((∀ vpn, r ≠ .error (.pageFault vpn)) ∧
        ({ k with mm := mem, sched := s } : Kernel).Settled d) ∨
      (∃ vpn, r = .error (.pageFault vpn)) ∧
        Owed d pid BlockReason.pageFaultOnly { k with mm := mem, sched := s } := by
  have sched := settled.sched.repage (repaged_of_translate translated) mem
  have agree := settled.frames.agree.translate pid va write
  have size := @size_translate k.sched k.mm pid va write
  rw [translated] at agree size
  have ok : ({ k with mm := mem, sched := s } : Kernel).FramesOk :=
    settled.frames.repage (by rw [frames]; exact agree) (by rw [frames]; exact size)
  rcases settled.protocol.translate settled.sched settled.frames idle quiet translated frames queue
    with ⟨notFault, protocol⟩ | ⟨fault, protocol⟩
  · exact .inl ⟨notFault, sched, ok, protocol⟩
  · exact .inr ⟨fault, sched, ok, protocol⟩

/-- An access of the running process keeps the kernel settled, or leaves it where the trap of
its fault says. -/
theorem Settled.access (settled : k.Settled d) {pid : Nat} (running : k.sched.running = some pid)
    {va : Int32} {write : Bool} {r : Except AccessFault Nat} {mm : MemoryManager} {s : Scheduler}
    (translated : k.mm.translate k.sched pid va write = (r, mm, s)) {mem : MemoryManager}
    (frames : mem.frames = mm.frames) (queue : mem.queue = mm.queue) :
    (∀ pa, r = .ok pa →
        ({ k with mm := mem, sched := s } : Kernel).Settled d ∧ s.running = some pid) ∧
      ∀ e, r = .error e → Faulted d e.toTrap { k with mm := mem, sched := s } := by
  have running' : s.running = some pid := (repaged_of_translate translated).running_eq.trans running
  obtain ⟨idle, quiet⟩ := running_quiet settled.protocol.waits settled.protocol.console
    settled.sched.agree running
  rcases settled.translate idle quiet translated frames queue
    with ⟨notFault, settled'⟩ | ⟨⟨vpn, fault⟩, owed⟩
  · refine ⟨fun _ _ => ⟨settled', running'⟩, fun e failed => ?_⟩
    subst failed
    cases e with
    | pageFault vpn => exact absurd rfl (notFault vpn)
    | invalidAddress | framesExhausted => exact settled'
  · subst fault
    refine ⟨fun _ failed => (nomatch failed), fun e failed => ?_⟩
    cases failed
    exact ⟨pid, running', owed⟩

/-- Every access of an instruction keeps the kernel settled, or leaves it where its trap says;
so do the traps an instruction raises by itself. -/
theorem bus_keeps_settled (d : Devices) (pid limit : Nat) :
    Exec.Keeps (bus pid limit) (fun k => k.Settled d ∧ k.sched.running = some pid) (Faulted d) := by
  refine bus_keeps pid limit (fun k _ _ pa mm s holds translated => ?_)
    (fun k _ _ e mm s holds translated => (holds.1.access holds.2 translated rfl rfl).2 e rfl)
    fun k holds => ⟨holds.1, holds.1, holds.1, holds.1⟩
  -- a word written after the translation changes neither the frames nor the queue
  exact ⟨(holds.1.access holds.2 translated rfl rfl).1 pa rfl,
    fun w _ => (holds.1.access holds.2 translated
      (show (mm.write pa w).frames = mm.frames from rfl) rfl).1 pa rfl⟩

/-- A step keeps the kernel settled: a page fault blocks the process on the page whose load it
started, a system call on the console request it queued, and any other trap is handled from a
settled kernel. -/
theorem Settled.step (settled : k.Settled d) : k.step.2.Settled d := by
  refine @step_keeps (Settled d) (Pending d BlockReason.ioOnly) (Faulted d) ?_
    (bus_keeps_settled d) ?_ ?_ ?_ ?_ ?_ k settled
  · intro k settled _ _
    exact settled.dispatchNext
  · intro pid limit kind k settled running
    exact ⟨pid, running, ⟨settled.sched.agree, settled.sched.issued⟩,
      ⟨settled.frames.agree, settled.frames.size⟩,
      settled.protocol.request settled.sched running kind⟩
  · intro k cpu settled
    exact settled.withCpu cpu
  · intro k cpu settled
    exact (settled.withCpu cpu).trap .timer (by rintro _ ⟨⟩)
  · intro k cpu waiting
    exact waiting.withCpu cpu |>.blockRunning rfl (by rintro ⟨⟩)
  · intro t k cpu faulted
    cases t with
    | pageFault page =>
      have pending : Pending d BlockReason.pageFaultOnly (k.withCpu cpu) := faulted.withCpu cpu
      obtain ⟨pid, running, -⟩ := faulted
      have isSome : (k.withCpu cpu).sched.running.isSome = true := by
        show k.sched.running.isSome = true
        rw [running]; rfl
      simp only [handle, isSome, if_true]
      exact pending.blockRunning rfl fun _ => rfl
    | timer | ioWait | framesExhausted | invalidAddress | overflow | invalidInstruction | stop =>
      exact (faulted.withCpu cpu).trap _ (by rintro _ ⟨⟩)

/-- A completion of an operation the disk held, naming its page and frame and bringing a page
exactly when the operation was a load, keeps the protocol once the operation leaves the disk: a
load for a live process installs the page and wakes the process, a load for an ended process
and a save change no load, and a failed save ends its process. -/
theorem Settled.diskDone (settled : k.Settled d) {op : DiskOperation} {rest : List DiskOperation}
    (held : d.held.Perm (op :: rest)) {c : Completion} (pid : c.pid = op.pid)
    (page : c.page = op.page) (frame : c.frame = op.frame)
    (load : op.isLoad = true ↔ ∃ data, c.result = .loaded data) :
    (k.diskDone c).FaultProtocol { d with held := rest } (k.diskDone c).sched := by
  have protocol := settled.protocol
  have listed : op ∈ k.mm.queue ++ d.held := (outstanding_perm held).mem_iff.2 List.mem_cons_self
  have saveOnly : (∀ data, c.result ≠ .loaded data) → op.isLoad = false := fun noData => by
    cases isLoad : op.isLoad
    · rfl
    · obtain ⟨data, loaded⟩ := load.1 isLoad
      exact absurd loaded (noData data)
  unfold Kernel.diskDone
  split
  · rename_i data loaded
    have isLoad := load.2 ⟨data, loaded⟩
    rw [pid, page, frame]
    have outcome := completeLoad_loads settled.sched.agree.wf k.mm op.pid op.page op.frame data
    rcases completed : k.mm.completeLoad k.sched op.pid op.page op.frame data with ⟨woken, mm, s⟩
    have repaged := repaged_of_completeLoad settled.sched.agree.wf completed
    rw [completed] at outcome
    dsimp only at outcome ⊢
    rcases outcome with
      ⟨rfl, stale, frames, queue, rfl⟩ | ⟨rfl, alive, -, queue, owners, loading⟩
    · -- a stale load: its process has ended, so it changes nothing
      have dead : k.sched.contains op.pid = false := by
        cases alive : k.sched.contains op.pid
        · rfl
        · exact absurd (protocol.loads.targets op listed isLoad alive) stale
      exact (protocol.repage repaged (fun _ _ => .rfl) frames queue).discard held id
        fun _ => .inr dead
    · -- the page arrives, and its process, which waited for it alone, is made ready
      have waiting := (protocol.loads.targets op listed isLoad alive).2
      have pageOnly : ∀ cb, k.sched.get? op.pid = some cb →
          cb.blockedOn = BlockReason.pageFaultOnly := fun cb found =>
        (protocol.waits _ cb found).eq_pageFaultOnly
          ((protocol.waits _ cb found).fault_iff.2 ⟨op.page, (loading_iff found _).1 waiting⟩)
      have pageOnly' : ∀ cb, s.get? op.pid = some cb → cb.blockedOn = BlockReason.pageFaultOnly :=
        repaged.same_standing.transfer (fun v => v.2 = BlockReason.pageFaultOnly) pageOnly
      exact (protocol.arrive held isLoad alive repaged loading owners queue).unblock (by decide)
        (fun cb found => by rw [pageOnly' cb found]; rfl) fun _ => rfl
  · rename_i slot saved
    have notLoad := saveOnly fun data loaded => by rw [saved] at loaded; cases loaded
    exact (protocol.discard held id fun _ => .inl notLoad).repage (repaged_completeSave _ _ _)
      (loading_completeSave _ _ _) rfl rfl
  · rename_i failed
    have notLoad := saveOnly fun data loaded => by rw [failed] at loaded; cases loaded
    have discarded := protocol.discard held id fun _ => .inl notLoad
    split
    · exact discarded.terminate settled.sched c.pid (by decide : Cause.diskFull ≠ .pageFault)
    · exact discarded

/-- The disk carries out an operation it held, and the kernel handles the completion. -/
theorem Settled.perform (settled : k.Settled d) {op : DiskOperation} {rest : List DiskOperation}
    (held : d.held.Perm (op :: rest)) :
    (k.perform op).2.FaultProtocol { d with held := rest } (k.perform op).2.sched := by
  obtain ⟨pid, page, frame, load⟩ := SwapDisk.perform_spec k.mm.swap op
  -- the swap disk is no part of the protocol
  have swapped : ({ k with mm := { k.mm with swap := (k.mm.swap.perform op).2 } } :
      Kernel).Settled d :=
    ⟨⟨settled.sched.agree, settled.sched.issued⟩, ⟨settled.frames.agree, settled.frames.size⟩,
      settled.protocol.repage (.refl _) (fun _ _ => .rfl) rfl rfl⟩
  exact swapped.diskDone held pid page frame load

/-- An answer of the console to a request it held keeps the protocol once the request leaves it:
a write clears the wait; a value read is stored, or waits for its absent page, whose load
starts, or ends the process at a bad address. -/
theorem Settled.answer (settled : k.Settled d) {req : IoRequest} {rest : List IoRequest}
    (taken : d.taken.Perm (req :: rest)) (value : Int32) :
    (k.ioDone (req.answer value)).FaultProtocol { d with taken := rest }
      (k.ioDone (req.answer value)).sched := by
  have protocol := settled.protocol
  have perm : (k.console ++ d.taken).Perm (req :: (k.console ++ rest)) := outstanding_perm taken
  obtain ⟨console, quiet⟩ := protocol.console.answered perm
  -- the process waits for the console alone, and has no other request outstanding
  have asked : ∀ cb, k.sched.get? req.pid = some cb → cb.blockedOn = BlockReason.ioOnly :=
    fun cb found => (protocol.waits _ cb found).eq_ioOnly
      (protocol.console.asked req (perm.mem_iff.2 List.mem_cons_self) cb found)
  have answered : k.Settled { d with taken := rest } :=
    ⟨settled.sched, settled.frames, { protocol with
      console
      requests_issued := fun r listed =>
        protocol.requests_issued r (perm.mem_iff.2 (List.mem_cons_of_mem _ listed)) }⟩
  unfold IoRequest.answer
  split
  · rename_i addr _
    simp only [ioDone]
    split
    · exact answered.protocol
    · have idle := protocol.waits.none_loading fun cb found => by rw [asked cb found]; rfl
      split
      · rename_i pa mm s translated
        have asked' := (repaged_of_translate translated).same_standing.transfer
          (fun v => v.2 = BlockReason.ioOnly) asked
        have frames : (mm.write pa (.data value)).frames = mm.frames := rfl
        rcases answered.translate idle quiet translated frames rfl with
          ⟨_, stored⟩ | ⟨⟨vpn, fault⟩, _⟩
        · exact stored.protocol.unblockConsole quiet asked'
        · cases fault
      · rename_i page mm s translated
        have asked' := (repaged_of_translate translated).same_standing.transfer
          (fun v => v.2 = BlockReason.ioOnly) asked
        rcases answered.translate idle quiet translated rfl rfl with
          ⟨notFault, _⟩ | ⟨_, owed⟩
        · exact absurd rfl (notFault page)
        · exact owed.protocol.deferRead owed.sched.agree asked' addr value
      · rename_i mm s translated
        rcases answered.translate idle quiet translated rfl rfl with
          ⟨_, failed⟩ | ⟨⟨vpn, fault⟩, _⟩
        · exact (failed.terminate req.pid (by decide : Cause.invalidAddress ≠ .pageFault)).protocol
        · cases fault
      · rename_i mm s translated
        rcases answered.translate idle quiet translated rfl rfl with
          ⟨_, failed⟩ | ⟨⟨vpn, fault⟩, _⟩
        · exact (failed.halt _).protocol
        · cases fault
  · exact answered.protocol.unblockConsole quiet asked

/-- The element a device picks by position, and the rest it keeps. -/
theorem perm_eraseIdx {α : Type} {l : List α} {i : Nat} {a : α} (found : l[i]? = some a) :
    l.Perm (a :: l.eraseIdx i) := by
  obtain ⟨bound, rfl⟩ := List.getElem?_eq_some_iff.1 found
  exact (List.getElem_cons_eraseIdx_perm bound).symm

/-- Every event of a served run keeps the kernel settled. -/
theorem Settled.happen (settled : k.Settled d) (e : Event) :
    (k.happen d e).1.Settled (k.happen d e).2 := by
  -- queues and frames are kept by every call, and an event is calls
  obtain ⟨calls, ran⟩ := happen_fst k d e
  have kept := run_keeps (fun k => k.Scheduled ∧ k.FramesOk)
    (fun k c both => ⟨both.1.call c, both.2.call both.1 c⟩) calls k
    ⟨settled.sched, settled.frames⟩
  rw [← ran] at kept
  refine ⟨kept.1, kept.2, ?_⟩
  have protocol := settled.protocol
  cases e with
  | create name => exact protocol.createProcess settled.sched name
  | remove pid =>
    simp only [Kernel.happen, Kernel.removeProcess]
    split
    · exact protocol.terminate settled.sched pid (by decide : Cause.removed ≠ .pageFault)
    · exact protocol
  | exec pid =>
    simp only [Kernel.happen, Kernel.execProcess]
    split
    · exact protocol
    · split
      · exact protocol
      · exact protocol
      · exact protocol
      · exact protocol.release pid
      · exact protocol.release pid
  | setAuto on =>
    exact protocol.reschedule (fun _ => rfl) (fun _ => rfl) (protocol.log.of_sameOn (fun _ => rfl) rfl)
  | step => exact settled.step.protocol
  | dispatch =>
    simp only [Kernel.happen, Kernel.dispatchNext]
    split
    · exact protocol
    · exact protocol.dispatchNext settled.sched.agree
  | takeDisk => exact protocol.takeDisk
  | perform i =>
    simp only [Kernel.happen]
    split
    · rename_i op found
      exact settled.perform (perm_eraseIdx found)
    · exact protocol
  | drop i =>
    simp only [Kernel.happen]
    split
    · rename_i op found
      exact protocol.discard (perm_eraseIdx found) (fun _ => rfl) (by rintro ⟨⟩)
    · exact protocol
  | takeConsole => exact protocol.takeConsole
  | answer i value =>
    simp only [Kernel.happen]
    split
    · rename_i req found
      exact settled.answer (perm_eraseIdx found) value
    · exact protocol

/-- A new kernel has no process, no operation and no request. -/
theorem FaultProtocol.new {c : Config} (created : Kernel.new c = some (.ok k)) :
    k.FaultProtocol {} k.sched := by
  obtain ⟨-, -, rfl⟩ := Kernel.new_eq_ok.1 created
  have nowhere : ∀ p q, ¬Loading (Scheduler.new c.autoSchedule c.timeSlice) p q :=
    fun p q ⟨_, resident⟩ => by cases resident
  refine ⟨fun _ _ found => (by cases found), ⟨fun _ => (by simp), nofun⟩, ⟨trivial, nofun⟩,
    ⟨fun _ _ => (by simp [MemoryManager.new]), nofun,
      fun _ p q loading => absurd loading (nowhere p q)⟩, nofun, nofun⟩

/-- A new kernel with idle devices is settled. -/
theorem Settled.new {c : Config} (created : Kernel.new c = some (.ok k)) : k.Settled {} :=
  ⟨Scheduled.new created, FramesOk.new created, FaultProtocol.new created⟩

/-- Along every served run from a new kernel: a live process waits for a page exactly while one
of its pages is loading, and has at most one loading; no page has two loads outstanding, queued
or held by the disk, and unless an operation was dropped every loading page has its load
outstanding; and in the transition log the next record of a process after one caused by a page
fault is the arrival of its page, from blocked to ready, or its end. -/
theorem serve_page_fault_protocol {c : Config} {k : Kernel} (created : Kernel.new c = some (.ok k))
    (events : List Event) :
    (∀ pid cb, (serve (k, {}) events).1.sched.get? pid = some cb →
      (cb.blockedOn.pageFault = true ↔ ∃ page, cb.pageTable.Loading page) ∧
        ∀ page page', cb.pageTable.Loading page → cb.pageTable.Loading page' → page = page') ∧
      (∀ pid page, ((serve (k, {}) events).1.mm.queue ++ (serve (k, {}) events).2.held).countP
        (·.loads pid page) ≤ 1) ∧
      ((serve (k, {}) events).2.dropped = false → ∀ pid cb page,
        (serve (k, {}) events).1.sched.get? pid = some cb → cb.pageTable.Loading page →
          ((serve (k, {}) events).1.mm.queue ++ (serve (k, {}) events).2.held).countP
            (·.loads pid page) = 1) ∧
      FaultsResolved (serve (k, {}) events).1.sched.log.toList := by
  obtain ⟨-, -, protocol⟩ := serve_keeps (fun kd => kd.1.Settled kd.2)
    (fun _ _ e settled => settled.happen e) events (k, {}) (Settled.new created)
  refine ⟨fun pid cb found => ?_, protocol.loads.at_most_one,
    fun kept pid cb page found loading => ?_, protocol.log.resolved⟩
  · have waits := protocol.waits pid cb found
    exact ⟨waits.fault_iff, waits.one_loading⟩
  · -- its load is outstanding, and no other is
    obtain ⟨op, listed, load⟩ :=
      protocol.loads.pending (by rw [kept]; rfl) pid page ((loading_iff found page).2 loading)
    have some := (List.countP_pos_iff (p := fun o => o.loads pid page)).2 ⟨op, listed, load⟩
    have most := protocol.loads.at_most_one pid page
    omega

/-- The default machine, serving a process that faults on its pages: the disk takes the loads
and carries them out, and the process runs on. -/
theorem default_serve_page_fault_protocol :
    Kernel.new {} = some (.ok { config := {}, mm := .new {}, sched := .new false 5 }) ∧
      FaultsResolved (serve ({ config := {}, mm := .new {}, sched := .new false 5 }, {})
        [.create "factorial", .setAuto true, .step, .step, .takeDisk, .perform 0, .step,
          .step]).1.sched.log.toList :=
  ⟨rfl, (serve_page_fault_protocol (c := {}) rfl _).2.2.2⟩

end Kernel

end PagedMachine
