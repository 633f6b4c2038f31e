import PagedMachine.Proofs.Separation
import PagedMachine.Proofs.Calls

/-!
# Queues over every run

Whatever is asked of the kernel, and whatever interrupts it is handed, the scheduler's queues
agree with the statuses of the processes (`Scheduler.QueuesAgree`), so no pid is queued twice
and the scheduler's audit passes (`run_queues_agree`).

The scheduler alone does not keep this: making the running process ready, or inserting a live
pid, breaks it. The kernel makes a process ready only when it is new or blocked with no reason
left, and creates processes under fresh pids; `Kernel.Scheduled` adds the second fact to the
invariant. Each call is then one of the scheduling operations of `Proofs.Queues`, a paging
operation (`Repaged`), or a step, whose instruction pages and whose trap is an interrupt.
-/

namespace PagedMachine

namespace Kernel

open Scheduler MemoryManager

/-- The queue invariant of a kernel: the scheduler's queues agree with the statuses, and every
live pid is below the next one to be handed out, so a new process never takes a live pid. -/
structure Scheduled (k : Kernel) : Prop where
  agree : k.sched.QueuesAgree
  issued : ∀ pid, k.sched.contains pid = true → pid < k.nextPid

variable {k : Kernel}

/-- A kernel that hands out no pid and whose queues agree keeps the invariant. -/
theorem Scheduled.update {k' : Kernel} (sched : k.Scheduled) (agree : k'.sched.QueuesAgree)
    (live : ∀ pid, k'.sched.contains pid = true → k.sched.contains pid = true)
    (next : k'.nextPid = k.nextPid) : k'.Scheduled :=
  ⟨agree, fun pid alive => next ▸ sched.issued pid (live pid alive)⟩

/-- Paging keeps the invariant, whatever it does to memory. -/
theorem Scheduled.repage {s : Scheduler} (sched : k.Scheduled) (repaged : Repaged k.sched s)
    (mm : MemoryManager) : ({ k with mm, sched := s } : Kernel).Scheduled :=
  sched.update (sched.agree.of_repaged repaged)
    (fun pid alive => by rwa [repaged.same_standing.contains_eq] at alive) rfl

/-- A scheduling operation that leaves the queues agreeing keeps the invariant. -/
theorem Scheduled.reschedule {s : Scheduler} (sched : k.Scheduled) (agree : s.QueuesAgree)
    (same : SameOn ControlBlock.pageTable k.sched s) : ({ k with sched := s } : Kernel).Scheduled :=
  sched.update agree (fun pid alive => by rwa [same.contains_eq] at alive) rfl

/-- Halting keeps the queues agreeing with the table. -/
theorem Scheduled.halt (sched : k.Scheduled) (e : KernelError) : (k.halt e).Scheduled :=
  ⟨sched.agree, sched.issued⟩

/-- Ending a process drops it everywhere and dispatches the next one. -/
theorem Scheduled.terminate (sched : k.Scheduled) (pid : Nat) (cause : Cause) :
    (k.terminate pid cause).Scheduled := by
  refine sched.update ((sched.agree.removeProcess pid cause).dispatchNext) ?_ rfl
  intro q alive
  change ((k.sched.removeProcess pid cause).2.dispatchNext.2).contains q = true at alive
  rw [unscheduled_pageTable.dispatchNext.contains_eq, contains_removeProcess] at alive
  simp only [Bool.and_eq_true] at alive
  exact alive.2

/-- Ending the running process keeps the queues agreeing with the table. -/
theorem Scheduled.endRunning (sched : k.Scheduled) (cause : Cause) :
    (k.endRunning cause).Scheduled := by
  unfold Kernel.endRunning
  split
  · exact sched.terminate _ cause
  · exact sched

/-- Unblocking a process keeps the queues agreeing with the table. -/
theorem Scheduled.unblock (sched : k.Scheduled) (pid : Nat) (reason : BlockReason)
    (cause : Cause) : ({ k with sched := (k.sched.unblock pid reason cause).2 } : Kernel).Scheduled :=
  sched.reschedule (sched.agree.unblock pid reason cause)
    (unscheduled_pageTable.unblock pid reason cause)

/-- Blocking a process for some reason keeps the queues agreeing with the table. -/
theorem Scheduled.block (sched : k.Scheduled) (pid : Nat) {reason : BlockReason}
    (nonempty : reason.isEmpty = false) (cause : Cause) :
    ({ k with sched := k.sched.block pid reason cause } : Kernel).Scheduled :=
  sched.reschedule (sched.agree.block pid nonempty cause) (unscheduled_pageTable.block pid _ _)

/-- Any disk completion at all, stale, repeated or never asked for, keeps the invariant. -/
theorem Scheduled.diskDone (sched : k.Scheduled) (c : Completion) : (k.diskDone c).Scheduled := by
  unfold Kernel.diskDone
  split
  · rename_i data _
    rcases loaded : k.mm.completeLoad k.sched c.pid c.page c.frame data with ⟨woken, mm, s⟩
    have installed := sched.repage (repaged_of_completeLoad sched.agree.wf loaded) mm
    dsimp only
    split
    · exact installed.unblock _ _ _
    · exact installed
  · exact sched.repage (repaged_completeSave _ _ _) k.mm
  · split
    · exact sched.terminate _ _
    · exact sched

/-- Keeping a console value for a page that is not there is paging. -/
theorem repaged_deferInput (s : Scheduler) (pid : Nat) (addr value : Int32) :
    Repaged s (deferInput s pid addr value) := by
  unfold deferInput
  split
  · exact .refl s
  · exact Repaged.modify pid _ (fun _ => rfl) fun _ => rfl

/-- Any console completion at all keeps the invariant: a value whose page is absent blocks
the process on the page before the console reason is cleared. -/
theorem Scheduled.ioDone (sched : k.Scheduled) (c : IoCompletion) : (k.ioDone c).Scheduled := by
  cases c with
  | write pid => exact sched.unblock pid _ _
  | read pid addr value =>
    simp only [Kernel.ioDone]
    split
    · exact sched
    · split
      · rename_i pa mm s translated
        have paged := sched.repage (repaged_of_translate translated) (mm.write pa (.data value))
        exact paged.unblock pid _ _
      · rename_i page mm s translated
        have paged := sched.repage
          ((repaged_of_translate translated).trans (repaged_deferInput s pid addr value)) mm
        exact (paged.block pid rfl .pageFault).unblock pid _ _
      · rename_i mm s translated
        exact (sched.repage (repaged_of_translate translated) mm).terminate pid _
      · rename_i mm s translated
        exact (sched.repage (repaged_of_translate translated) mm).halt _

/-- Any interrupt at all keeps the invariant. -/
theorem Scheduled.handle (sched : k.Scheduled) (irq : Interrupt) : (k.handle irq).Scheduled := by
  cases irq with
  | trap t =>
    cases t with
    | timer =>
      exact sched.reschedule sched.agree.onTimerExpired unscheduled_pageTable.onTimerExpired
    | pageFault page =>
      simp only [Kernel.handle]
      split
      · exact sched.reschedule (sched.agree.blockRunning rfl _)
          (unscheduled_pageTable.blockRunning _ _)
      · exact sched
    | ioWait =>
      exact sched.reschedule (sched.agree.blockRunning rfl _)
        (unscheduled_pageTable.blockRunning _ _)
    | framesExhausted => exact sched.halt _
    | invalidAddress | overflow | invalidInstruction | stop => exact sched.endRunning _
  | diskDone c => exact sched.diskDone c
  | ioDone c => exact sched.ioDone c

/-- Another processor state keeps the queues agreeing with the table. -/
theorem Scheduled.withCpu (sched : k.Scheduled) (cpu : Cpu) : (k.withCpu cpu).Scheduled :=
  sched.reschedule
    (sched.agree.of_sameOn ⟨sched.agree.wf.sorted, sched.agree.wf.keyed⟩ (fun _ => rfl) rfl rfl rfl rfl)
    fun _ => rfl

/-- The bus of `pid` keeps every property that paging keeps, whatever paging does to memory,
and keeps the running process on the processor; after a fault the property alone holds. -/
theorem bus_keeps_of_repage {inv : Kernel → Prop}
    (repage : ∀ k s mm, inv k → Repaged k.sched s → inv { k with mm, sched := s })
    (pid limit : Nat) :
    Exec.Keeps (bus pid limit) (fun k => inv k ∧ k.sched.running = some pid) fun _ k => inv k := by
  refine bus_keeps pid limit (fun k a write pa mm s holds translated => ?_)
    (fun k a write e mm s holds translated => repage k s mm holds.1 (repaged_of_translate translated))
    fun k holds => ⟨holds.1, holds.1, holds.1, holds.1⟩
  have repaged := repaged_of_translate translated
  have running : s.running = some pid := repaged.running_eq.trans holds.2
  exact ⟨⟨repage k s mm holds.1 repaged, running⟩,
    fun w _ => ⟨repage k s (mm.write pa w) holds.1 repaged, running⟩⟩

/-- Every access of an instruction pages and keeps the running process on the processor;
when it faults, the invariant still holds. -/
theorem bus_keeps_scheduled (pid limit : Nat) :
    Exec.Keeps (bus pid limit) (fun k => k.Scheduled ∧ k.sched.running = some pid)
      fun _ k => k.Scheduled :=
  bus_keeps_of_repage (fun _ _ mm sched repaged => sched.repage repaged mm) pid limit

/-- A step keeps the invariant: the instruction's accesses page, and the trap it raises is
an interrupt. -/
theorem Scheduled.step (sched : k.Scheduled) : k.step.2.Scheduled := by
  refine @step_keeps Scheduled Scheduled (fun _ => Scheduled) ?_ bus_keeps_scheduled ?_ ?_ ?_ ?_ ?_
    k sched
  · intro k sched _ _
    exact sched.reschedule sched.agree.dispatchNext unscheduled_pageTable.dispatchNext
  · intro pid limit kind k sched _
    exact ⟨sched.agree, sched.issued⟩
  · intro k cpu sched
    exact sched.withCpu cpu
  · intro k cpu sched
    exact (sched.withCpu cpu).handle _
  · intro k cpu sched
    exact (sched.withCpu cpu).handle _
  · intro t k cpu sched
    exact (sched.withCpu cpu).handle _

/-- Creation changes nothing, for an unknown program or a halted kernel; or it takes the next
pid, loads the first page of the new control block, which changes only its page table, and puts
the block in the table, made ready. -/
theorem createProcess_cases (k : Kernel) (name : String) :
    (k.createProcess name).2 = k ∨
      ∃ program mm pt, Program.find? name = some program ∧ k.halted = none ∧
        (k.mm.loadInitial (ControlBlock.new k.nextPid program k.config.pageSize)).2 =
          (mm, { ControlBlock.new k.nextPid program k.config.pageSize with pageTable := pt }) ∧
        (k.createProcess name).2 =
          { k with
            mm, nextPid := k.nextPid + 1,
            sched := (k.sched.insert { ControlBlock.new k.nextPid program k.config.pageSize with
              pageTable := pt }).addToReady k.nextPid .created } := by
  unfold Kernel.createProcess
  split
  · exact .inl rfl
  · rename_i program found
    split
    · exact .inl rfl
    · rename_i running
      obtain ⟨pt, loaded⟩ := loadInitial_pageTable_only k.mm
        (ControlBlock.new k.nextPid program k.config.pageSize)
      refine .inr ⟨program, (k.mm.loadInitial (ControlBlock.new k.nextPid program k.config.pageSize)).2.1,
        pt, found, by simpa using running, ?_, ?_⟩
      · rw [← loaded]
      · rw [← loaded]

/-- A new process takes the next pid, which no live process has, and is queued ready. -/
theorem Scheduled.createProcess (sched : k.Scheduled) (name : String) :
    (k.createProcess name).2.Scheduled := by
  rcases createProcess_cases k name with same | ⟨program, mm, pt, -, -, -, created⟩
  · rw [same]
    exact sched
  · rw [created]
    have fresh : k.sched.contains k.nextPid = false := by
      by_contra alive
      exact Nat.lt_irrefl _ (sched.issued _ (by simpa using alive))
    refine ⟨sched.agree.insert_addToReady fresh rfl, ?_⟩
    intro q alive
    change ((k.sched.insert _).addToReady k.nextPid .created).contains q = true at alive
    rw [(unscheduled_pageTable.addToReady _ _).contains_eq, contains_insert] at alive
    simp only [Bool.or_eq_true, decide_eq_true_eq] at alive
    rcases alive with same | alive
    · rw [← same]
      exact Nat.lt_succ_self k.nextPid
    · exact Nat.lt_succ_of_lt (sched.issued q alive)

/-- Every call on the kernel keeps the invariant. -/
theorem Scheduled.call (sched : k.Scheduled) (c : Call) : (k.call c).Scheduled := by
  cases c with
  | create name => exact sched.createProcess name
  | remove pid =>
    simp only [Kernel.call, Kernel.removeProcess]
    split
    · exact sched.terminate pid _
    · exact sched
  | exec pid =>
    simp only [Kernel.call, Kernel.execProcess]
    split
    · exact sched
    · split
      all_goals first
        | exact sched
        | exact sched.reschedule (sched.agree.release pid) (unscheduled_pageTable.release pid)
  | setAuto on =>
    exact sched.reschedule
      (sched.agree.of_sameOn ⟨sched.agree.wf.sorted, sched.agree.wf.keyed⟩ (fun _ => rfl) rfl rfl
        rfl rfl) fun _ => rfl
  | step => exact sched.step
  | dispatch =>
    simp only [Kernel.call, Kernel.dispatchNext]
    split
    · exact sched
    · exact sched.reschedule sched.agree.dispatchNext unscheduled_pageTable.dispatchNext
  | interrupt irq => exact sched.handle irq
  | perform op =>
    simp only [Kernel.call, Kernel.perform]
    have swapped : ({ k with mm := { k.mm with swap := (k.mm.swap.perform op).2 } } :
        Kernel).Scheduled := ⟨sched.agree, sched.issued⟩
    exact swapped.handle _
  | takeDisk => exact ⟨sched.agree, sched.issued⟩
  | takeConsole => exact ⟨sched.agree, sched.issued⟩

/-- A new kernel has no processes and empty queues. -/
theorem Scheduled.new {c : Config} (created : Kernel.new c = some (.ok k)) : k.Scheduled := by
  obtain ⟨-, -, rfl⟩ := Kernel.new_eq_ok.1 created
  refine ⟨⟨⟨⟨List.Pairwise.nil, nofun⟩, List.nodup_nil, List.Pairwise.nil, List.Pairwise.nil,
    nofun, nofun, nofun, nofun⟩, ?_⟩, ?_⟩
  · intro pid cb found
    cases found
  · intro pid alive
    cases alive

/-- Whatever calls are made on a new kernel, with any interrupts and disk operations at all,
every live process stands in the queue its status names and waits for something exactly while
it is blocked, no pid is in two of the ready queue, the blocked set and the processor, and the
scheduler's audit passes. -/
theorem run_queues_agree {c : Config} {k : Kernel} (created : Kernel.new c = some (.ok k))
    (calls : List Call) :
    (k.run calls).sched.QueuesAgree ∧
      ((k.run calls).sched.ready ++ (k.run calls).sched.blocked ++
        (k.run calls).sched.running.toList).Nodup ∧
      (k.run calls).sched.audit = .ok () := by
  have sched : (k.run calls).Scheduled :=
    run_keeps Scheduled (fun _ c sched => sched.call c) calls k (Scheduled.new created)
  exact ⟨sched.agree, sched.agree.exclusive, sched.agree.audit_eq_ok⟩

/-- The default machine, after creating a process and stepping it twice. -/
theorem default_run_queues_agree :
    Kernel.new {} = some (.ok { config := {}, mm := .new {}, sched := .new false 5 }) ∧
      ((Kernel.run { config := {}, mm := .new {}, sched := .new false 5 }
        [.create "factorial", .setAuto true, .step, .step]).sched.QueuesAgree) :=
  ⟨rfl, (run_queues_agree (c := {}) rfl _).1⟩

end Kernel

end PagedMachine
