import PagedMachine.Proofs.KernelFrames
import PagedMachine.Proofs.FaultLog
import PagedMachine.Proofs.Loads

/-!
# The page-fault protocol

A process that touches an absent page is blocked until the load of that page completes, and
nothing else wakes it. The protocol that makes this so has four parts, stated of a kernel and
the devices around it (`Kernel.FaultProtocol`): what every process waits for agrees with its
pages (`Scheduler.WaitsAgree`); every console request outstanding belongs to a process that
waits for the console, one at most per process (`Scheduler.ConsoleAgree`); the loads
outstanding, queued or held by the disk, agree with the loading pages
(`MemoryManager.LoadsAgree`); and the transition log has every page fault resolved by the
arrival of the page or the end of the process (`Scheduler.FaultLog`).

Between two operations of the kernel the protocol holds of its own scheduler. Inside a step it
is read in a scheduler where the running process already waits for what the trap it raised
will make it wait for (`Scheduler.waitingFor`): a page after a fault, the console after a
system call. This module proves that every kernel operation other than an instruction, a
completion or an answer keeps the protocol.
-/

namespace PagedMachine

namespace BlockReason

/-- A reason with nothing in it is the empty reason. -/
theorem eq_empty_of_isEmpty {r : BlockReason} (empty : r.isEmpty = true) : r = {} := by
  rcases r with ⟨_ | _, _ | _⟩ <;> simp_all [isEmpty]

/-- Joining the empty reason to another gives the other. -/
theorem empty_union (r : BlockReason) : ({} : BlockReason).union r = r := by
  rcases r with ⟨_ | _, _ | _⟩ <;> rfl

end BlockReason

namespace ControlBlock

/-- What a process waits for: nothing, the console alone, or a page alone. -/
theorem WaitsAgree.reasons {cb : ControlBlock} (waits : cb.WaitsAgree) :
    cb.blockedOn = {} ∨ cb.blockedOn = BlockReason.ioOnly ∨
      cb.blockedOn = BlockReason.pageFaultOnly := by
  have neither := waits.not_both
  rcases reasons : cb.blockedOn with ⟨_ | _, _ | _⟩
  · exact .inl rfl
  · exact .inr (.inr rfl)
  · exact .inr (.inl rfl)
  · rw [reasons] at neither
    exact absurd ⟨rfl, rfl⟩ neither

/-- A process whose waits agree and that waits for the console waits for it alone. -/
theorem WaitsAgree.eq_ioOnly {cb : ControlBlock} (waits : cb.WaitsAgree)
    (io : cb.blockedOn.io = true) : cb.blockedOn = BlockReason.ioOnly := by
  rcases waits.reasons with idle | console | page
  · rw [idle] at io
    cases io
  · exact console
  · rw [page] at io
    cases io

/-- A process whose waits agree and that waits for a page waits for it alone. -/
theorem WaitsAgree.eq_pageFaultOnly {cb : ControlBlock} (waits : cb.WaitsAgree)
    (fault : cb.blockedOn.pageFault = true) : cb.blockedOn = BlockReason.pageFaultOnly := by
  rcases waits.reasons with idle | console | page
  · rw [idle] at fault
    cases fault
  · rw [console] at fault
    cases fault
  · exact page

end ControlBlock

namespace Scheduler

open MemoryManager

variable {s s' : Scheduler}

/-- `s` with process `pid` waiting for exactly `reason`. -/
def waitingFor (s : Scheduler) (pid : Nat) (reason : BlockReason) : Scheduler :=
  s.modify pid fun cb => { cb with blockedOn := reason }

/-- Console requests outstanding agree with the processes that made them: no process has two,
and a live process with one waits for the console. -/
structure ConsoleAgree (s : Scheduler) (reqs : List IoRequest) : Prop where
  at_most_one : ∀ pid, reqs.countP (·.pid == pid) ≤ 1
  asked : ∀ req ∈ reqs, ∀ cb, s.get? req.pid = some cb → cb.blockedOn.io = true

variable {reqs reqs' : List IoRequest}

/-- The console agreement holds of the requests in any order. -/
theorem ConsoleAgree.perm (console : s.ConsoleAgree reqs) (perm : reqs'.Perm reqs) :
    s.ConsoleAgree reqs' where
  at_most_one pid := by
    rw [perm.countP_eq]
    exact console.at_most_one pid
  asked req mem := console.asked req (perm.mem_iff.1 mem)

/-- Every live process with a request outstanding keeps waiting for the console. -/
theorem ConsoleAgree.of_io (console : s.ConsoleAgree reqs)
    (io : ∀ req ∈ reqs, ∀ cb', s'.get? req.pid = some cb' →
      ∃ cb, s.get? req.pid = some cb ∧ (cb.blockedOn.io = true → cb'.blockedOn.io = true)) :
    s'.ConsoleAgree reqs where
  at_most_one := console.at_most_one
  asked req mem cb' found' := by
    obtain ⟨cb, found, kept⟩ := io req mem cb' found'
    exact kept (console.asked req mem cb found)

/-- Requests read reasons only. -/
theorem ConsoleAgree.of_sameOn (console : s.ConsoleAgree reqs)
    (same : SameOn ControlBlock.blockedOn s s') : s'.ConsoleAgree reqs :=
  console.of_io fun req _ cb' found' => by
    have view := same req.pid
    rw [found', Option.map_some] at view
    obtain ⟨cb, found, reasons⟩ := Option.map_eq_some_iff.1 view.symm
    refine ⟨cb, found, fun io => ?_⟩
    rw [← reasons]
    exact io

/-- Once a request is answered, its process has none left outstanding. -/
theorem ConsoleAgree.answered {req : IoRequest} {rest : List IoRequest}
    (console : s.ConsoleAgree reqs) (perm : reqs.Perm (req :: rest)) :
    s.ConsoleAgree rest ∧ ∀ r ∈ rest, r.pid ≠ req.pid := by
  have counted : ∀ pid, rest.countP (·.pid == pid) + (if req.pid == pid then 1 else 0) ≤ 1 := by
    intro pid
    have total := console.at_most_one pid
    rwa [perm.countP_eq, List.countP_cons] at total
  refine ⟨⟨fun pid => (Nat.le_add_right _ _).trans (counted pid),
    fun r mem => console.asked r (perm.mem_iff.2 (List.mem_cons_of_mem _ mem))⟩, ?_⟩
  intro r mem same
  have mine := counted req.pid
  have positive : 0 < rest.countP (·.pid == req.pid) :=
    List.countP_pos_iff.2 ⟨r, mem, by simp [same]⟩
  simp only [BEq.rfl, ↓reduceIte] at mine
  omega

/-- A request of a process with none outstanding, which waits for the console. -/
theorem ConsoleAgree.cons (console : s.ConsoleAgree reqs) {req : IoRequest}
    (fresh : ∀ r ∈ reqs, r.pid ≠ req.pid)
    (asked : ∀ cb, s.get? req.pid = some cb → cb.blockedOn.io = true) :
    s.ConsoleAgree (req :: reqs) where
  at_most_one pid := by
    rw [List.countP_cons]
    by_cases same : req.pid = pid
    · have none : reqs.countP (·.pid == pid) = 0 :=
        List.countP_eq_zero.2 fun r mem named => fresh r mem (by rw [same]; simpa using named)
      simp [same, none]
    · have before := console.at_most_one pid
      simp [same, before]
  asked r mem := by
    rcases List.mem_cons.1 mem with rfl | old
    · exact asked
    · exact console.asked r old

/-- A process made to wait for the console, or one with no request outstanding, keeps the
requests agreeing. -/
theorem ConsoleAgree.waitingFor (console : s.ConsoleAgree reqs) {pid : Nat} (reason : BlockReason)
    (kept : reason.io = true ∨ ∀ req ∈ reqs, req.pid ≠ pid) :
    (s.waitingFor pid reason).ConsoleAgree reqs :=
  console.of_io fun req mem cb' found' => by
    unfold Scheduler.waitingFor at found'
    rw [get?_modify] at found'
    split at found'
    · rename_i same
      obtain ⟨cb, found, rfl⟩ := Option.map_eq_some_iff.1 found'
      refine ⟨cb, found, fun _ => ?_⟩
      rcases kept with io | none
      · exact io
      · exact absurd same.symm (none req mem)
    · exact ⟨cb', found', id⟩

/-- A running process waits for nothing. -/
theorem QueuesAgree.running_idle (agree : s.QueuesAgree) {pid : Nat}
    (running : s.running = some pid) : ∃ cb, s.get? pid = some cb ∧ cb.blockedOn = {} := by
  obtain ⟨cb, found, status⟩ := agree.get?_of_running running
  exact ⟨cb, found,
    BlockReason.eq_empty_of_isEmpty ((agree.placed pid cb found).idle_of_running status)⟩

/-- A process that waits for no page has no page loading. -/
theorem WaitsAgree.not_loading (waits : s.WaitsAgree) {pid : Nat} {cb : ControlBlock}
    (found : s.get? pid = some cb) (noPage : cb.blockedOn.pageFault = false) (g : Nat) :
    ¬Loading s pid g := by
  rw [loading_iff found]
  intro loading
  rw [(waits pid cb found).fault_iff.2 ⟨g, loading⟩] at noPage
  cases noPage

/-- The running process has no page loading and no console request outstanding. -/
theorem running_quiet (waits : s.WaitsAgree) (console : s.ConsoleAgree reqs)
    (agree : s.QueuesAgree) {pid : Nat} (running : s.running = some pid) :
    (∀ g, ¬Loading s pid g) ∧ ∀ req ∈ reqs, req.pid ≠ pid := by
  obtain ⟨cb, found, idle⟩ := agree.running_idle running
  refine ⟨waits.not_loading found (by rw [idle]), fun req mem same => ?_⟩
  have asked := console.asked req mem cb (by rw [same]; exact found)
  rw [idle] at asked
  cases asked

/-- Every live process that waits for what it waited for with the pages it had agrees. -/
theorem WaitsAgree.of_view (waits : s.WaitsAgree)
    (view : ∀ q cb', s'.get? q = some cb' →
      ∃ cb, s.get? q = some cb ∧ waitView cb = waitView cb') :
    s'.WaitsAgree := by
  intro q cb' found'
  obtain ⟨cb, found, same⟩ := view q cb' found'
  simp only [waitView, Prod.mk.injEq] at same
  exact (waits q cb found).congr same.1.symm fun g => by rw [same.2]

/-- Waiting for a reason changes no page table. -/
theorem sameOn_waitingFor (pid : Nat) (reason : BlockReason) :
    SameOn ControlBlock.pageTable s (s.waitingFor pid reason) :=
  sameOn_modify pid _ fun _ => rfl

/-- What holds of a view of `pid` holds of it in a scheduler that reads the same. -/
theorem SameOn.transfer {β : Type} {f : ControlBlock → β} (same : SameOn f s s') {pid : Nat}
    (P : β → Prop) (holds : ∀ cb, s.get? pid = some cb → P (f cb)) :
    ∀ cb', s'.get? pid = some cb' → P (f cb') := by
  intro cb' found'
  have view := same pid
  rw [found', Option.map_some] at view
  obtain ⟨cb, found, same⟩ := Option.map_eq_some_iff.1 view.symm
  rw [← same]
  exact holds cb found

/-- Changing the reasons of `pid` into `reason` reads the same as making it wait for `reason`. -/
theorem sameOn_waitingFor_modify {pid : Nat} {reason : BlockReason} (g : BlockReason → BlockReason)
    (reaches : ∀ cb, s.get? pid = some cb → g cb.blockedOn = reason) :
    SameOn waitView (s.waitingFor pid reason)
      (s.modify pid fun cb => { cb with blockedOn := g cb.blockedOn }) := by
  intro q
  simp only [waitingFor, get?_modify]
  split
  · rename_i same
    subst same
    cases found : s.get? pid with
    | none => rfl
    | some cb => simp [waitView, reaches cb found]
  · rfl

/-- A process that waits for no page, or is gone, has no page loading. -/
theorem WaitsAgree.none_loading (waits : s.WaitsAgree) {pid : Nat}
    (noPage : ∀ cb, s.get? pid = some cb → cb.blockedOn.pageFault = false) (g : Nat) :
    ¬Loading s pid g := by
  cases found : s.get? pid with
  | none => exact not_loading_of_get?_none found g
  | some cb => exact waits.not_loading found (noPage cb found) g

/-- A process with no page loading, made to wait for reasons that are no page, agrees. -/
theorem WaitsAgree.waitingFor_quiet (waits : s.WaitsAgree) {pid : Nat}
    (idle : ∀ g, ¬Loading s pid g) {reason : BlockReason} (noPage : reason.pageFault = false) :
    (s.waitingFor pid reason).WaitsAgree := by
  have tables := residency_of_sameOn (sameOn_waitingFor (s := s) pid reason)
  refine waits.update pid (fun q other => ?_) (fun q g _ => ?_) fun cb found => ?_
  · simp [waitingFor, other.symm]
  · rw [loading_iff_flag, loading_iff_flag, tables]
  · unfold waitingFor at found
    rw [get?_modify, if_pos rfl] at found
    obtain ⟨cb₀, found₀, rfl⟩ := Option.map_eq_some_iff.1 found
    have none : ∀ g, ¬cb₀.pageTable.Loading g := fun g loading =>
      idle g ((loading_iff found₀ g).2 loading)
    refine ⟨?_, fun g _ loading => (none g loading).elim, ?_⟩
    · simp only [noPage, Bool.false_eq_true, false_iff]
      exact fun ⟨g, loading⟩ => none g loading
    · rw [noPage]
      exact fun both => Bool.false_ne_true both.2

/-- A process with no page loading whose load of `vpn` started, made to wait for that page,
agrees; so does every other process, whose loading pages did not change. -/
theorem WaitsAgree.started (waits : s.WaitsAgree) (reasons : SameOn ControlBlock.blockedOn s s')
    {pid vpn : Nat} (loading : ∀ p q, Loading s' p q ↔ (p = pid ∧ q = vpn) ∨ Loading s p q)
    (idle : ∀ g, ¬Loading s pid g) :
    (s'.waitingFor pid BlockReason.pageFaultOnly).WaitsAgree := by
  have tables := residency_of_sameOn (sameOn_waitingFor (s := s') pid BlockReason.pageFaultOnly)
  have waiting : ∀ p q, Loading (s'.waitingFor pid BlockReason.pageFaultOnly) p q ↔
      (p = pid ∧ q = vpn) ∨ Loading s p q := by
    intro p q
    rw [loading_iff_flag, tables, ← loading_iff_flag, loading]
  refine waits.update pid (fun q other => ?_) (fun q g other => ?_) fun cb found => ?_
  · simp only [waitingFor, get?_modify, Ne.symm other, ↓reduceIte]
    exact reasons q
  · rw [waiting]
    exact ⟨fun started => started.resolve_left fun here => other here.1, .inr⟩
  · have found' := found
    unfold waitingFor at found'
    rw [get?_modify, if_pos rfl] at found'
    obtain ⟨cb₀, _, rfl⟩ := Option.map_eq_some_iff.1 found'
    -- the only page loading is the one whose load started
    have only : ∀ g, ({ cb₀ with blockedOn := BlockReason.pageFaultOnly } :
        ControlBlock).pageTable.Loading g ↔ g = vpn := by
      intro g
      rw [← loading_iff found, waiting]
      exact ⟨fun started => (started.resolve_right (idle g)).2, fun same => .inl ⟨rfl, same⟩⟩
    exact ⟨⟨fun _ => ⟨vpn, (only vpn).2 rfl⟩, fun _ => rfl⟩,
      fun g g' first second => ((only g).1 first).trans ((only g').1 second).symm, nofun⟩

/-- A process whose loading page arrived, read as waiting for nothing, agrees; so does every
other process, whose reasons and loading pages did not change. -/
theorem WaitsAgree.finished (waits : s.WaitsAgree) (reasons : SameOn ControlBlock.blockedOn s s')
    {pid page : Nat} (loading : ∀ p q, Loading s' p q ↔ ¬(p = pid ∧ q = page) ∧ Loading s p q)
    (arrived : Loading s pid page) : (s'.waitingFor pid {}).WaitsAgree := by
  have tables := residency_of_sameOn (sameOn_waitingFor (s := s') pid {})
  have waiting : ∀ p q, Loading (s'.waitingFor pid {}) p q ↔
      ¬(p = pid ∧ q = page) ∧ Loading s p q := by
    intro p q
    rw [loading_iff_flag, tables, ← loading_iff_flag, loading]
  -- the page that arrived was the only one of `pid` loading
  have only : ∀ g, Loading s pid g → g = page := by
    intro g loadingG
    cases found : s.get? pid with
    | none => exact absurd loadingG (not_loading_of_get?_none found g)
    | some cb =>
      exact (waits pid cb found).one_loading g page ((loading_iff found g).1 loadingG)
        ((loading_iff found page).1 arrived)
  refine waits.update pid (fun q other => ?_) (fun q g other => ?_) fun cb found => ?_
  · simp only [waitingFor, get?_modify, Ne.symm other, ↓reduceIte]
    exact reasons q
  · rw [waiting]
    exact ⟨fun ⟨_, old⟩ => old, fun old => ⟨fun here => other here.1, old⟩⟩
  · have found' := found
    unfold waitingFor at found'
    rw [get?_modify, if_pos rfl] at found'
    obtain ⟨cb₀, _, rfl⟩ := Option.map_eq_some_iff.1 found'
    refine ControlBlock.WaitsAgree.of_idle rfl fun g loadingG => ?_
    obtain ⟨notHere, old⟩ := (waiting pid g).1 ((loading_iff found g).2 loadingG)
    exact notHere ⟨rfl, only g old⟩

end Scheduler

namespace Kernel

open Scheduler MemoryManager

/-- The page-fault protocol of a kernel whose devices hold `d`, with what processes wait for read
in `w`. Outstanding loads are those queued and those the disk holds; outstanding requests those
queued and those the console holds. Every one of them was made by a process the kernel has
created. -/
structure FaultProtocol (k : Kernel) (d : Devices) (w : Scheduler) : Prop where
  waits : w.WaitsAgree
  console : w.ConsoleAgree (k.console ++ d.taken)
  log : k.sched.FaultLog
  loads : LoadsAgree k.sched k.mm.frames (k.mm.queue ++ d.held) (!d.dropped)
  ops_issued : ∀ op ∈ k.mm.queue ++ d.held, op.pid < k.nextPid
  requests_issued : ∀ req ∈ k.console ++ d.taken, req.pid < k.nextPid

variable {k : Kernel} {d : Devices} {w : Scheduler}

/-- The protocol read in another scheduler whose reasons and pages read the same. -/
theorem FaultProtocol.view (protocol : k.FaultProtocol d w) {w' : Scheduler}
    (same : SameOn waitView w w') : k.FaultProtocol d w' :=
  { protocol with
    waits := protocol.waits.of_sameOn same
    console := protocol.console.of_sameOn (same.comp Prod.fst) }

/-- Scheduling that changes neither reasons nor pages and records its moves keeps the protocol. -/
theorem FaultProtocol.reschedule (protocol : k.FaultProtocol d w) {s : Scheduler}
    (view : SameOn waitView w s) (tables : SameOn ControlBlock.pageTable k.sched s)
    (log : s.FaultLog) : ({ k with sched := s } : Kernel).FaultProtocol d s where
  waits := protocol.waits.of_sameOn view
  console := protocol.console.of_sameOn (view.comp Prod.fst)
  log := log
  loads := protocol.loads.congr
    (fun _ _ => by rw [loading_iff_flag, loading_iff_flag, residency_of_sameOn tables])
    (fun op _ _ alive => by rwa [tables.contains_eq] at alive) (fun _ _ owned _ => owned)
    (List.Perm.refl _)
  ops_issued := protocol.ops_issued
  requests_issued := protocol.requests_issued

/-- Paging that starts and ends no load and keeps frames and queue keeps the protocol. -/
theorem FaultProtocol.repage (protocol : k.FaultProtocol d k.sched) {s : Scheduler}
    (repaged : Repaged k.sched s) (loading : ∀ p q, Loading s p q ↔ Loading k.sched p q)
    {mem : MemoryManager} (frames : mem.frames = k.mm.frames) (queue : mem.queue = k.mm.queue) :
    ({ k with mm := mem, sched := s } : Kernel).FaultProtocol d s := by
  have reasons : SameOn ControlBlock.blockedOn k.sched s := repaged.same_standing.comp Prod.snd
  refine ⟨protocol.waits.repage reasons loading, protocol.console.of_sameOn reasons,
    protocol.log.repage repaged, ?_, ?_, protocol.requests_issued⟩
  · show LoadsAgree s mem.frames (mem.queue ++ d.held) (!d.dropped)
    rw [frames, queue]
    exact protocol.loads.congr loading
      (fun op _ _ alive => by rwa [repaged.same_standing.contains_eq] at alive)
      (fun _ _ owned _ => owned) (List.Perm.refl _)
  · show ∀ op ∈ mem.queue ++ d.held, op.pid < k.nextPid
    rw [queue]
    exact protocol.ops_issued

/-- Halting keeps the fault protocol. -/
theorem FaultProtocol.halt (protocol : k.FaultProtocol d k.sched) (e : KernelError) :
    (k.halt e).FaultProtocol d (k.halt e).sched :=
  ⟨protocol.waits, protocol.console, protocol.log, protocol.loads, protocol.ops_issued,
    protocol.requests_issued⟩

/-- The protocol does not read the processor. -/
theorem FaultProtocol.withCpu (protocol : k.FaultProtocol d w) (cpu : Cpu) :
    (k.withCpu cpu).FaultProtocol d w :=
  ⟨protocol.waits, protocol.console, ⟨protocol.log.resolved, protocol.log.pending⟩,
    ⟨protocol.loads.at_most_one, protocol.loads.targets, protocol.loads.pending⟩,
    protocol.ops_issued, protocol.requests_issued⟩

/-- A dispatch keeps the fault protocol. -/
theorem FaultProtocol.dispatchNext (protocol : k.FaultProtocol d k.sched)
    (agree : k.sched.QueuesAgree) :
    ({ k with sched := k.sched.dispatchNext.2 } : Kernel).FaultProtocol d k.sched.dispatchNext.2 :=
  protocol.reschedule unqueued_waitView.dispatchNext unscheduled_pageTable.dispatchNext
    (protocol.log.dispatchNext fun _ mem => agree.get?_of_ready mem)

/-- A time slice running out keeps the fault protocol. -/
theorem FaultProtocol.onTimerExpired (protocol : k.FaultProtocol d k.sched)
    (agree : k.sched.QueuesAgree) :
    ({ k with sched := k.sched.onTimerExpired } : Kernel).FaultProtocol d k.sched.onTimerExpired :=
  protocol.reschedule unqueued_waitView.onTimerExpired unscheduled_pageTable.onTimerExpired
    (protocol.log.onTimerExpired agree)

/-- Releasing a process keeps the fault protocol. -/
theorem FaultProtocol.release (protocol : k.FaultProtocol d k.sched) (pid : Nat) :
    ({ k with sched := k.sched.release pid } : Kernel).FaultProtocol d (k.sched.release pid) :=
  protocol.reschedule (unqueued_waitView.release pid) (unscheduled_pageTable.release pid)
    (protocol.log.release pid)

/-- Blocking the running process keeps the protocol when it already held with the process
waiting for the reasons. -/
theorem FaultProtocol.blockRunning {pid : Nat} {reason : BlockReason}
    (protocol : k.FaultProtocol d (k.sched.waitingFor pid reason)) (agree : k.sched.QueuesAgree)
    (running : k.sched.running = some pid) {cause : Cause}
    (reasoned : cause = .pageFault → reason.pageFault = true) :
    ({ k with sched := k.sched.blockRunning reason cause } : Kernel).FaultProtocol d
      (k.sched.blockRunning reason cause) := by
  obtain ⟨cb, found, idle⟩ := agree.running_idle running
  -- a running process waits for nothing, so adding the reasons is waiting for them alone
  have added := sameOn_waitingFor_modify (s := k.sched) (·.union reason) fun cb' found' => by
    rw [found, Option.some.injEq] at found'
    rw [← found', idle, BlockReason.empty_union]
  exact protocol.reschedule (added.trans (unqueued_waitView.blockRunning running reason cause))
    (unscheduled_pageTable.blockRunning reason cause) (protocol.log.blockRunning agree reasoned)

/-- Ending a process hands back its frames, and only its own. -/
theorem terminate_mm (wf : k.sched.TableWF) (pid : Nat) (cause : Cause) :
    (k.terminate pid cause).mm.queue = k.mm.queue ∧
      ∀ g o, k.mm.frames.owner g = some o → o.pid ≠ pid →
        (k.terminate pid cause).mm.frames.owner g = some o := by
  unfold Kernel.terminate
  simp only []
  rw [fst_removeProcess]
  cases found : k.sched.get? pid with
  | none => exact ⟨rfl, fun _ _ owned _ => owned⟩
  | some cb =>
    have keyed : cb.pid = pid := wf.pid_eq found
    refine ⟨rfl, fun g o owned other => ?_⟩
    simp only [Option.map_some, MemoryManager.release]
    rw [FrameTable.owner_releaseOwner, owned]
    simp [keyed, other]

/-- Ending a process keeps the protocol: it is gone from every process table, loads outstanding
for it are left to be ignored, and its end is recorded. -/
theorem FaultProtocol.terminate (protocol : k.FaultProtocol d k.sched) (sched : k.Scheduled)
    (pid : Nat) {cause : Cause} (ended : cause ≠ .pageFault) :
    (k.terminate pid cause).FaultProtocol d (k.terminate pid cause).sched := by
  obtain ⟨queue, owners⟩ := terminate_mm sched.agree.wf pid cause
  have schedEq : (k.terminate pid cause).sched = (k.sched.removeProcess pid cause).2.dispatchNext.2 :=
    rfl
  -- every process left is one that was there, with its reasons and pages
  have view : ∀ q cb', (k.terminate pid cause).sched.get? q = some cb' →
      q ≠ pid ∧ ∃ cb, k.sched.get? q = some cb ∧ waitView cb = waitView cb' := by
    intro q cb' found'
    have same := unqueued_waitView.dispatchNext (s := (k.sched.removeProcess pid cause).2) q
    rw [← schedEq, found', get?_removeProcess] at same
    split at same
    · cases same
    · rename_i other
      obtain ⟨cb, found, same⟩ := Option.map_eq_some_iff.1 same.symm
      exact ⟨Ne.symm other, cb, found, same⟩
  have tables : ∀ p q, residency (k.terminate pid cause).sched p q =
      if pid = p then none else residency k.sched p q := by
    intro p q
    rw [schedEq, residency_of_sameOn unscheduled_pageTable.dispatchNext, residency_removeProcess]
  have live : ∀ p, (k.terminate pid cause).sched.contains p = true →
      k.sched.contains p = true ∧ p ≠ pid := by
    intro p alive
    rw [schedEq, unscheduled_pageTable.dispatchNext.contains_eq, contains_removeProcess] at alive
    simp only [ne_eq, Bool.and_eq_true, decide_eq_true_eq] at alive
    exact ⟨alive.2, Ne.symm alive.1⟩
  refine ⟨?_, ?_, ?_, ?_, ?_, ?_⟩
  · exact protocol.waits.of_view fun q cb' found' => (view q cb' found').2
  · refine protocol.console.of_io fun req _ cb' found' => ?_
    obtain ⟨-, cb, found, same⟩ := view req.pid cb' found'
    simp only [waitView, Prod.mk.injEq] at same
    exact ⟨cb, found, fun io => by rw [← same.1]; exact io⟩
  · exact (protocol.log.removeProcess pid ended).dispatchNext
      fun _ mem => (sched.agree.removeProcess pid cause).get?_of_ready mem
  · rw [queue]
    refine protocol.loads.forget (fun p q => ?_) live fun g o owned other => owners g o owned other
    rw [loading_iff_flag, loading_iff_flag, tables]
    split
    · rename_i same
      simp [same]
    · rename_i other
      simp [Ne.symm other]
  · rw [queue]
    exact protocol.ops_issued
  · exact protocol.requests_issued

/-- Ending the running process for a cause other than a page fault keeps the fault protocol. -/
theorem FaultProtocol.endRunning (protocol : k.FaultProtocol d k.sched) (sched : k.Scheduled)
    {cause : Cause} (ended : cause ≠ .pageFault) :
    (k.endRunning cause).FaultProtocol d (k.endRunning cause).sched := by
  unfold Kernel.endRunning
  split
  · exact protocol.terminate sched _ ended
  · exact protocol

/-- A new process keeps the protocol: it takes a pid that nothing outstanding names, waits for
nothing, and has no page loading. -/
theorem FaultProtocol.createProcess (protocol : k.FaultProtocol d k.sched) (sched : k.Scheduled)
    (name : String) : (k.createProcess name).2.FaultProtocol d (k.createProcess name).2.sched := by
  rcases createProcess_cases k name with same | ⟨program, mm, pt, -, -, initial, created⟩
  · rw [same]
    exact protocol
  · have keeps := loadInitial_keeps k.mm (ControlBlock.new k.nextPid program k.config.pageSize)
    rw [initial] at keeps
    obtain ⟨queue, owners, blank⟩ := keeps
    rw [created]
    generalize loaded : { ControlBlock.new k.nextPid program k.config.pageSize with pageTable := pt } = cb
      at blank ⊢
    dsimp only
    have keyed : cb.pid = k.nextPid := by subst loaded; rfl
    have fresh : k.sched.get? cb.pid = none := by
      rw [keyed]
      cases found : k.sched.get? k.nextPid with
      | none => rfl
      | some _ => exact absurd (sched.issued _ (contains_of_get? found)) (Nat.lt_irrefl _)
    have idle : cb.blockedOn = {} := by subst loaded; rfl
    have noLoad : ∀ g, ¬cb.pageTable.Loading g := by
      rintro g ⟨e, entry, loading⟩
      obtain ⟨e', entry', loading'⟩ := blank g ⟨e, entry, loading⟩
      rw [(blank_new k.nextPid program k.config.pageSize g e' entry').2] at loading'
      cases loading'
    -- nothing outstanding names the new pid
    have older : ∀ p, p < k.nextPid → (k.sched.insert cb).get? p = k.sched.get? p := by
      intro p below
      rw [get?_insert, if_neg (by rw [keyed]; exact Nat.ne_of_gt below)]
    have view := unqueued_waitView.addToReady (s := k.sched.insert cb) k.nextPid .created
    have tables := unscheduled_pageTable.addToReady (s := k.sched.insert cb) k.nextPid .created
    have loading : ∀ p q, Loading ((k.sched.insert cb).addToReady k.nextPid .created) p q ↔
        Loading k.sched p q := by
      intro p q
      rw [loading_iff_flag, residency_of_sameOn tables, ← loading_iff_flag, loading_insert]
      split
      · rename_i same
        subst same
        exact ⟨fun loading => (noLoad q loading).elim,
          fun loading => absurd loading (not_loading_of_get?_none fresh q)⟩
      · rfl
    refine ⟨?_, ?_, ?_, ?_, ?_, ?_⟩
    · refine WaitsAgree.of_sameOn ?_ view
      refine protocol.waits.update cb.pid (fun q other => ?_) (fun q g other => ?_)
        fun cb' found' => ?_
      · rw [get?_insert, if_neg (Ne.symm other)]
      · rw [loading_iff_flag, loading_iff_flag, residency_insert, if_neg (Ne.symm other)]
      · rw [get?_insert, if_pos rfl] at found'
        cases found'
        exact ControlBlock.WaitsAgree.of_idle (by rw [idle]; rfl) noLoad
    · refine (protocol.console.of_io fun req mem cb' found' => ?_).of_sameOn (view.comp Prod.fst)
      rw [older _ (protocol.requests_issued req mem)] at found'
      exact ⟨cb', found', id⟩
    · refine (protocol.log.insert fresh).addToReady k.nextPid .created (fun cb' found' => ?_) nofun
      rw [← keyed, get?_insert, if_pos rfl] at found'
      cases found'
      subst loaded
      exact nofun
    · refine protocol.loads.congr loading (fun op mem _ alive => ?_)
        (fun g o owned _ => owners g o owned) ?_
      · rw [tables.contains_eq, contains_insert, keyed] at alive
        have below : op.pid < k.nextPid := protocol.ops_issued op (by rwa [queue] at mem)
        simpa [Nat.ne_of_gt below] using alive
      · rw [queue]
    · intro op mem
      exact Nat.lt_succ_of_lt (protocol.ops_issued op (by rwa [queue] at mem))
    · intro req mem
      exact Nat.lt_succ_of_lt (protocol.requests_issued req mem)

/-- What is outstanding once a device gives up `a`, one of those it held. -/
theorem outstanding_perm {α : Type} {queue held rest : List α} {a : α}
    (perm : held.Perm (a :: rest)) : (queue ++ held).Perm (a :: (queue ++ rest)) :=
  (List.Perm.append_left queue perm).trans List.perm_middle

/-- An operation the disk held leaves it without changing any page: dropped, or carried out
with no effect on loads. -/
theorem FaultProtocol.discard (protocol : k.FaultProtocol d w) {op : DiskOperation}
    {rest : List DiskOperation} (held : d.held.Perm (op :: rest)) {dropped : Bool}
    (stays : d.dropped = true → dropped = true)
    (kept : dropped = false → op.isLoad = false ∨ k.sched.contains op.pid = false) :
    k.FaultProtocol { d with held := rest, dropped } w := by
  have perm : (k.mm.queue ++ d.held).Perm (op :: (k.mm.queue ++ rest)) := outstanding_perm held
  refine { protocol with loads := ?_, ops_issued := ?_ }
  · refine protocol.loads.discard perm (fun full => ?_) fun full => kept (by simpa using full)
    cases dropped' : d.dropped
    · rfl
    · rw [stays dropped'] at full
      cases full
  · intro op' mem
    exact protocol.ops_issued op' (perm.mem_iff.2 (List.mem_cons_of_mem _ mem))

/-- The disk takes the queue: the same operations are outstanding. -/
theorem FaultProtocol.takeDisk (protocol : k.FaultProtocol d k.sched) :
    k.takeDiskQueue.2.FaultProtocol { d with held := d.held ++ k.mm.queue }
      k.takeDiskQueue.2.sched := by
  have perm : ([] ++ (d.held ++ k.mm.queue)).Perm (k.mm.queue ++ d.held) := by
    rw [List.nil_append]
    exact List.perm_append_comm
  exact ⟨protocol.waits, protocol.console, protocol.log, protocol.loads.perm perm,
    fun op mem => protocol.ops_issued op (perm.mem_iff.1 mem), protocol.requests_issued⟩

/-- The console takes the queue: the same requests are outstanding. -/
theorem FaultProtocol.takeConsole (protocol : k.FaultProtocol d k.sched) :
    k.takeConsoleQueue.2.FaultProtocol { d with taken := d.taken ++ k.console }
      k.takeConsoleQueue.2.sched := by
  have perm : ([] ++ (d.taken ++ k.console)).Perm (k.console ++ d.taken) := by
    rw [List.nil_append]
    exact List.perm_append_comm
  exact ⟨protocol.waits, protocol.console.perm perm, protocol.log, protocol.loads,
    protocol.ops_issued, fun req mem => protocol.requests_issued req (perm.mem_iff.1 mem)⟩

/-- The running process, which waits for nothing, read as waiting for the console. -/
theorem FaultProtocol.awaitConsole (protocol : k.FaultProtocol d k.sched)
    (agree : k.sched.QueuesAgree) {pid : Nat} (running : k.sched.running = some pid) :
    k.FaultProtocol d (k.sched.waitingFor pid BlockReason.ioOnly) :=
  { protocol with
    waits := protocol.waits.waitingFor_quiet
      (running_quiet protocol.waits protocol.console agree running).1 rfl
    console := protocol.console.waitingFor _ (.inl rfl) }

/-- A system call queues a request of the running process, which is then read as waiting for
the console: it had no request outstanding, so this is its only one. -/
theorem FaultProtocol.request (protocol : k.FaultProtocol d k.sched) (sched : k.Scheduled)
    {pid : Nat} (running : k.sched.running = some pid) (kind : IoKind) :
    ({ k with console := k.console ++ [⟨pid, kind⟩] } : Kernel).FaultProtocol d
      (k.sched.waitingFor pid BlockReason.ioOnly) := by
  have waiting := protocol.awaitConsole sched.agree running
  obtain ⟨-, quiet⟩ := running_quiet protocol.waits protocol.console sched.agree running
  have perm : (k.console ++ [IoRequest.mk pid kind] ++ d.taken).Perm
      (IoRequest.mk pid kind :: (k.console ++ d.taken)) := by
    rw [List.append_assoc, List.singleton_append]
    exact List.perm_middle
  have added : (k.sched.waitingFor pid BlockReason.ioOnly).ConsoleAgree
      (IoRequest.mk pid kind :: (k.console ++ d.taken)) := by
    refine waiting.console.cons quiet fun cb found => ?_
    simp only [waitingFor, get?_modify, ↓reduceIte] at found
    obtain ⟨cb₀, _, rfl⟩ := Option.map_eq_some_iff.1 found
    rfl
  refine ⟨waiting.waits, added.perm perm, protocol.log, protocol.loads, protocol.ops_issued, ?_⟩
  · intro req mem
    rcases List.mem_cons.1 (perm.mem_iff.1 mem) with rfl | old
    · exact sched.issued _ (sched.agree.running_live _ running)
    · exact protocol.requests_issued req old

/-- Clearing reasons that leave `pid` waiting for nothing, when the protocol holds with it read as
waiting for nothing: it is made ready, and a page it waited for is cleared only once it arrived. -/
theorem FaultProtocol.unblock {pid : Nat} (protocol : k.FaultProtocol d (k.sched.waitingFor pid {}))
    {reason : BlockReason} {cause : Cause} (ready : cause ≠ .pageFault)
    (cleared : ∀ cb, k.sched.get? pid = some cb → cb.blockedOn.diff reason = {})
    (arrived : reason.pageFault = true → cause = .pageLoaded) :
    ({ k with sched := (k.sched.unblock pid reason cause).2 } : Kernel).FaultProtocol d
      (k.sched.unblock pid reason cause).2 :=
  protocol.reschedule
    ((sameOn_waitingFor_modify (·.diff reason) cleared).trans
      (unqueued_waitView.unblock pid reason cause))
    (unscheduled_pageTable.unblock pid reason cause)
    (protocol.log.unblock pid ready fun cb found _ page =>
      ⟨by rw [cleared cb found]; rfl, arrived page⟩)

/-- The console answered `pid`, which waits for it alone and has no request left outstanding:
the reason is cleared and the process is made ready. -/
theorem FaultProtocol.unblockConsole (protocol : k.FaultProtocol d k.sched) {pid : Nat}
    (quiet : ∀ req ∈ k.console ++ d.taken, req.pid ≠ pid)
    (asked : ∀ cb, k.sched.get? pid = some cb → cb.blockedOn = BlockReason.ioOnly) :
    ({ k with sched := (k.sched.unblock pid BlockReason.ioOnly .ioCompleted).2 } : Kernel).FaultProtocol
      d (k.sched.unblock pid BlockReason.ioOnly .ioCompleted).2 := by
  have idle := protocol.waits.none_loading fun cb found => by rw [asked cb found]; rfl
  have quietView : k.FaultProtocol d (k.sched.waitingFor pid {}) :=
    { protocol with
      waits := protocol.waits.waitingFor_quiet idle rfl
      console := protocol.console.waitingFor _ (.inr quiet) }
  exact quietView.unblock (by decide) (fun cb found => by rw [asked cb found]; rfl) nofun

/-- A load the disk held completes for a live process: its page arrives and stops loading, frames
keep their owners, and the protocol holds with the process read as waiting for nothing. -/
theorem FaultProtocol.arrive (protocol : k.FaultProtocol d k.sched) {op : DiskOperation}
    {rest : List DiskOperation} (held : d.held.Perm (op :: rest)) (load : op.isLoad = true)
    (alive : k.sched.contains op.pid = true) {mem : MemoryManager} {s : Scheduler}
    (repaged : Repaged k.sched s)
    (loading : ∀ p q, Loading s p q ↔ ¬(p = op.pid ∧ q = op.page) ∧ Loading k.sched p q)
    (owners : ∀ g, mem.frames.owner g = k.mm.frames.owner g) (queue : mem.queue = k.mm.queue) :
    ({ k with mm := mem, sched := s } : Kernel).FaultProtocol { d with held := rest }
      (s.waitingFor op.pid {}) := by
  have perm : (k.mm.queue ++ d.held).Perm (op :: (k.mm.queue ++ rest)) := outstanding_perm held
  have waiting := (protocol.loads.targets op (perm.mem_iff.2 List.mem_cons_self) load alive).2
  have reasons : SameOn ControlBlock.blockedOn k.sched s := repaged.same_standing.comp Prod.snd
  -- it waited for its page, so not for the console: no request of it is outstanding
  have quiet : ∀ req ∈ k.console ++ d.taken, req.pid ≠ op.pid := by
    intro req listed same
    cases found : k.sched.get? op.pid with
    | none => exact not_loading_of_get?_none found _ waiting
    | some cb =>
      have fault :=
        (protocol.waits _ cb found).fault_iff.2 ⟨op.page, (loading_iff found _).1 waiting⟩
      have io := protocol.console.asked req listed cb (by rw [same]; exact found)
      exact (protocol.waits _ cb found).not_both ⟨io, fault⟩
  refine ⟨protocol.waits.finished reasons loading waiting,
    (protocol.console.of_sameOn reasons).waitingFor _ (.inr quiet), protocol.log.repage repaged, ?_,
    ?_, protocol.requests_issued⟩
  · show LoadsAgree s mem.frames (mem.queue ++ rest) (!d.dropped)
    rw [queue]
    exact protocol.loads.finish perm load alive loading
      (fun p alive' => by rwa [repaged.same_standing.contains_eq] at alive')
      fun g o owned _ _ => by rw [owners]; exact owned
  · intro op' listed
    rw [show mem.queue = k.mm.queue from queue] at listed
    exact protocol.ops_issued op' (perm.mem_iff.2 (List.mem_cons_of_mem _ listed))

/-- A value read for an absent page waits for it: the process, read as waiting for the page whose
load started, is blocked on the page, and its wait for the console is cleared. -/
theorem FaultProtocol.deferRead {pid : Nat}
    (protocol : k.FaultProtocol d (k.sched.waitingFor pid BlockReason.pageFaultOnly))
    (agree : k.sched.QueuesAgree)
    (asked : ∀ cb, k.sched.get? pid = some cb → cb.blockedOn = BlockReason.ioOnly)
    (addr value : Int32) :
    ({ k with sched := (((deferInput k.sched pid addr value).block pid BlockReason.pageFaultOnly
        .pageFault).unblock pid BlockReason.ioOnly .ioCompleted).2 } : Kernel).FaultProtocol d
      (((deferInput k.sched pid addr value).block pid BlockReason.pageFaultOnly
        .pageFault).unblock pid BlockReason.ioOnly .ioCompleted).2 := by
  -- keeping the value changes no reason, page, standing or queue
  have deferred := repaged_deferInput k.sched pid addr value
  have kept : SameOn waitView k.sched (deferInput k.sched pid addr value) := by
    unfold deferInput
    split
    · exact .refl _ _
    · exact sameOn_modify pid _ fun _ => rfl
  generalize deferInput k.sched pid addr value = s₁ at deferred kept
  have asked₁ := kept.transfer (fun v => v.1 = BlockReason.ioOnly) asked
  have idle : s₁.running ≠ some pid := by
    intro running
    obtain ⟨cb, found, idle⟩ := agree.running_idle (deferred.running_eq ▸ running)
    rw [asked cb found] at idle
    exact absurd idle (by decide)
  -- its reasons go from the console to the console and the page, then to the page alone
  have waited : SameOn waitView (k.sched.waitingFor pid BlockReason.pageFaultOnly)
      (s₁.waitingFor pid BlockReason.pageFaultOnly) :=
    kept.modify pid _ (fun v => (BlockReason.pageFaultOnly, v.2)) fun _ => rfl
  have rewaited : SameOn waitView (s₁.waitingFor pid BlockReason.pageFaultOnly)
      ((s₁.modify pid fun cb => { cb with blockedOn := cb.blockedOn.union BlockReason.pageFaultOnly
        }).modify pid fun cb => { cb with blockedOn := cb.blockedOn.diff BlockReason.ioOnly }) := by
    intro q
    simp only [waitingFor, get?_modify]
    split
    · rename_i same
      subst same
      cases found : s₁.get? pid with
      | none => rfl
      | some cb =>
        have reasons : cb.blockedOn = BlockReason.ioOnly := asked₁ cb found
        simp [waitView, reasons]
        rfl
    · rfl
  have blocked := (unqueued_waitView.block idle BlockReason.pageFaultOnly .pageFault).modify pid
    (fun cb => { cb with blockedOn := cb.blockedOn.diff BlockReason.ioOnly })
    (fun v => (v.1.diff BlockReason.ioOnly, v.2)) fun _ => rfl
  exact protocol.reschedule
    (waited.trans (rewaited.trans (blocked.trans (unqueued_waitView.unblock pid _ _))))
    (((kept.comp Prod.snd).trans (unscheduled_pageTable.block pid _ _)).trans
      (unscheduled_pageTable.unblock pid _ _))
    (((protocol.log.repage deferred).block pid fun _ => rfl).unblock pid (by decide)
      fun _ _ _ page => by cases page)

end Kernel

end PagedMachine
