import PagedMachine.Proofs.ReadyOrder
import PagedMachine.Proofs.KernelQueues

/-!
# Dispatch order over every run

Every call keeps the ready queue in the order its members last became ready, and puts a
process on the processor only if automatic scheduling was on or the process was released when
the call began (`Kernel.call_gated`). Inside a call the invariant is `Kernel.Ordered`, the queue
invariant of `Kernel.Scheduled` together with `Scheduler.InOrder`, and each kernel operation
keeps it the way it keeps `Scheduled`.

Over runs: from a new kernel the ready queue is always in order (`run_readyOrdered`); while
automatic scheduling stays off, a process never released is never dispatched (`run_gated`); and
`run_dispatch_order` gathers the rules of dispatching.
-/

namespace PagedMachine

namespace Kernel

open Scheduler MemoryManager

variable {k : Kernel} {log : TransitionLog} {a : Bool} {r : List Nat} {o : Option Nat}

/-- Partway through a call: the queues agree and the scheduler is in order since the call
began with log `log`, automatic scheduling `a`, released processes `r` and `o` running. -/
structure Ordered (log : TransitionLog) (a : Bool) (r : List Nat) (o : Option Nat)
    (k : Kernel) : Prop where
  sched : k.Scheduled
  inOrder : k.sched.InOrder log a r o

/-- Paging keeps the kernel in order. -/
theorem Ordered.repage {s : Scheduler} (ordered : k.Ordered log a r o) (repaged : Repaged k.sched s)
    (mm : MemoryManager) : ({ k with mm, sched := s } : Kernel).Ordered log a r o := by
  refine ⟨ordered.sched.repage repaged mm, ?_⟩
  obtain ⟨t, rfl⟩ := repaged.only_table
  exact ordered.inOrder.frame t k.sched.cpu

/-- Halting keeps the kernel in order. -/
theorem Ordered.halt (ordered : k.Ordered log a r o) (e : KernelError) :
    (k.halt e).Ordered log a r o :=
  ⟨ordered.sched.halt e, ordered.inOrder⟩

/-- Ending a process drops it from the queues and dispatches the next one. -/
theorem Ordered.terminate (ordered : k.Ordered log a r o) (pid : Nat) {cause : Cause}
    (ended : cause ≠ .dispatched) : (k.terminate pid cause).Ordered log a r o :=
  ⟨ordered.sched.terminate pid cause, (ordered.inOrder.removeProcess pid ended).dispatchNext⟩

/-- Ending the running process, for a cause other than a dispatch, keeps the kernel in order. -/
theorem Ordered.endRunning (ordered : k.Ordered log a r o) {cause : Cause}
    (ended : cause ≠ .dispatched) : (k.endRunning cause).Ordered log a r o := by
  unfold Kernel.endRunning
  split
  · exact ordered.terminate _ ended
  · exact ordered

/-- Waking a process, for a cause other than a dispatch, keeps the kernel in order. -/
theorem Ordered.unblock (ordered : k.Ordered log a r o) (pid : Nat) (reason : BlockReason)
    {cause : Cause} (woken : cause ≠ .dispatched) :
    ({ k with sched := (k.sched.unblock pid reason cause).2 } : Kernel).Ordered log a r o :=
  ⟨ordered.sched.unblock pid reason cause,
    ordered.inOrder.unblock ordered.sched.agree pid reason woken⟩

/-- Blocking a process for some reason, other than by a dispatch, keeps the kernel in order. -/
theorem Ordered.block (ordered : k.Ordered log a r o) (pid : Nat) {reason : BlockReason}
    (nonempty : reason.isEmpty = false) {cause : Cause} (blocked : cause ≠ .dispatched) :
    ({ k with sched := k.sched.block pid reason cause } : Kernel).Ordered log a r o :=
  ⟨ordered.sched.block pid nonempty cause, ordered.inOrder.block pid reason blocked⟩

/-- Handling a finished disk operation keeps the kernel in order. -/
theorem Ordered.diskDone (ordered : k.Ordered log a r o) (c : Completion) :
    (k.diskDone c).Ordered log a r o := by
  unfold Kernel.diskDone
  split
  · rename_i data _
    rcases loaded : k.mm.completeLoad k.sched c.pid c.page c.frame data with ⟨woken, mm, s⟩
    have installed := ordered.repage (repaged_of_completeLoad ordered.sched.agree.wf loaded) mm
    dsimp only
    split
    · exact installed.unblock _ _ (by decide)
    · exact installed
  · exact ordered.repage (repaged_completeSave _ _ _) k.mm
  · split
    · exact ordered.terminate _ (by decide)
    · exact ordered

/-- Handling a finished console transfer keeps the kernel in order. -/
theorem Ordered.ioDone (ordered : k.Ordered log a r o) (c : IoCompletion) :
    (k.ioDone c).Ordered log a r o := by
  cases c with
  | write pid => exact ordered.unblock pid _ (by decide)
  | read pid addr value =>
    simp only [Kernel.ioDone]
    split
    · exact ordered
    · split
      · rename_i pa mm s translated
        have paged := ordered.repage (repaged_of_translate translated) (mm.write pa (.data value))
        exact paged.unblock pid _ (by decide)
      · rename_i page mm s translated
        have paged := ordered.repage
          ((repaged_of_translate translated).trans (repaged_deferInput s pid addr value)) mm
        exact (paged.block pid rfl (by decide)).unblock pid _ (by decide)
      · rename_i mm s translated
        exact (ordered.repage (repaged_of_translate translated) mm).terminate pid (by decide)
      · rename_i mm s translated
        exact (ordered.repage (repaged_of_translate translated) mm).halt _

/-- Handling any interrupt keeps the kernel in order. -/
theorem Ordered.handle (ordered : k.Ordered log a r o) (irq : Interrupt) :
    (k.handle irq).Ordered log a r o := by
  cases irq with
  | trap t =>
    cases t with
    | timer =>
      exact ⟨ordered.sched.handle _, ordered.inOrder.onTimerExpired ordered.sched.agree⟩
    | pageFault page =>
      simp only [Kernel.handle]
      split
      · exact ⟨ordered.sched.reschedule (ordered.sched.agree.blockRunning rfl _)
          (unscheduled_pageTable.blockRunning _ _),
          ordered.inOrder.blockRunning ordered.sched.agree _ (by decide)⟩
      · exact ordered
    | ioWait =>
      exact ⟨ordered.sched.handle _, ordered.inOrder.blockRunning ordered.sched.agree _ (by decide)⟩
    | framesExhausted => exact ordered.halt _
    | invalidAddress | overflow | invalidInstruction | stop => exact ordered.endRunning (by decide)
  | diskDone c => exact ordered.diskDone c
  | ioDone c => exact ordered.ioDone c

/-- Another processor state keeps the kernel in order. -/
theorem Ordered.withCpu (ordered : k.Ordered log a r o) (cpu : Cpu) :
    (k.withCpu cpu).Ordered log a r o :=
  ⟨ordered.sched.withCpu cpu, ordered.inOrder.frame k.sched.table cpu⟩

/-- The accesses of an instruction only page, which leaves the order of the scheduler alone. -/
theorem bus_keeps_inOrder (pid limit : Nat) :
    Exec.Keeps (bus pid limit) (fun k => k.sched.InOrder log a r o)
      fun _ k => k.sched.InOrder log a r o := by
  have paged : ∀ {s s' : Scheduler}, Repaged s s' → s.InOrder log a r o → s'.InOrder log a r o := by
    intro s s' repaged inOrder
    obtain ⟨t, rfl⟩ := repaged.only_table
    exact inOrder.frame t s.cpu
  refine bus_keeps pid limit (fun k _ _ pa mm s inOrder translated => ?_)
    (fun k _ _ _ _ _ inOrder translated => paged (repaged_of_translate translated) inOrder)
    fun k inOrder => ⟨inOrder, inOrder, inOrder, inOrder⟩
  have kept := paged (repaged_of_translate translated) inOrder
  exact ⟨kept, fun _ _ => kept⟩

/-- A step dispatches by the rule, and the trap its instruction raises is handled in order. -/
theorem Ordered.step (ordered : k.Ordered log a r o) : k.step.2.Ordered log a r o := by
  have keeps : ∀ pid limit, Exec.Keeps (bus pid limit)
      (fun k => k.Ordered log a r o ∧ k.sched.running = some pid) fun _ k => k.Ordered log a r o :=
    fun pid limit => ((bus_keeps_scheduled pid limit).and (bus_keeps_inOrder pid limit)).of_iff
      (fun _ => ⟨fun ⟨⟨sched, inOrder⟩, running⟩ => ⟨⟨sched, running⟩, inOrder⟩,
        fun ⟨⟨sched, running⟩, inOrder⟩ => ⟨⟨sched, inOrder⟩, running⟩⟩)
      fun _ _ ⟨sched, inOrder⟩ => ⟨sched, inOrder⟩
  refine @step_keeps (Ordered log a r o) (Ordered log a r o) (fun _ => Ordered log a r o) ?_ keeps
    ?_ ?_ ?_ ?_ ?_ k ordered
  · intro k ordered _ _
    exact ⟨ordered.sched.reschedule ordered.sched.agree.dispatchNext
      unscheduled_pageTable.dispatchNext, ordered.inOrder.dispatchNext⟩
  · intro pid limit kind k ordered _
    exact ⟨⟨ordered.sched.agree, ordered.sched.issued⟩, ordered.inOrder⟩
  · intro k cpu ordered
    exact ordered.withCpu cpu
  · intro k cpu ordered
    exact (ordered.withCpu cpu).handle _
  · intro k cpu ordered
    exact (ordered.withCpu cpu).handle _
  · intro t k cpu ordered
    exact (ordered.withCpu cpu).handle _

/-- A new process takes a pid no live process has, so it is not queued, and goes to the back of
the queue. -/
theorem Ordered.createProcess (ordered : k.Ordered log a r o) (name : String) :
    (k.createProcess name).2.Ordered log a r o := by
  refine ⟨ordered.sched.createProcess name, ?_⟩
  unfold Kernel.createProcess
  split
  · exact ordered.inOrder
  · split
    · exact ordered.inOrder
    · have fresh : k.nextPid ∉ k.sched.ready := fun queued =>
        Nat.lt_irrefl _ (ordered.sched.issued _ (ordered.sched.agree.ready_live _ queued))
      dsimp only
      generalize k.mm.loadInitial _ = loaded
      rcases loaded with ⟨_, mm, cb⟩
      exact (ordered.inOrder.frame _ k.sched.cpu : (k.sched.insert cb).InOrder log a r o).addToReady
        fresh (by decide)

/-- Every call keeps the ready queue in order, and puts a process on the processor only if
automatic scheduling was on or the process was released when the call began. Releasing and
switching automatic scheduling dispatch nothing. -/
theorem call_gated (sched : k.Scheduled) (ordered : k.sched.ReadyOrdered) (c : Call) :
    (k.call c).sched.ReadyOrdered ∧ k.sched.Gated (k.call c).sched := by
  have start : k.Ordered k.sched.log k.sched.autoSchedule k.sched.released k.sched.running :=
    ⟨sched, .start ordered⟩
  have finish : ∀ {k' : Kernel},
      k'.Ordered k.sched.log k.sched.autoSchedule k.sched.released k.sched.running →
        k'.sched.ReadyOrdered ∧ k.sched.Gated k'.sched :=
    fun ordered' => ⟨ordered'.inOrder.ordered, ordered'.inOrder.gated⟩
  cases c with
  | create name => exact finish (start.createProcess name)
  | remove pid =>
    simp only [Kernel.call, Kernel.removeProcess]
    split
    · exact finish (start.terminate pid (by decide))
    · exact finish start
  | exec pid =>
    simp only [Kernel.call, Kernel.execProcess]
    split
    · exact finish start
    · split
      all_goals first
        | exact finish start
        | exact ⟨ordered.release sched.agree pid, gated_release pid⟩
  | setAuto on => exact ⟨ordered.quiet rfl (List.Sublist.refl _), .refl _ _, fun _ on => .inl on⟩
  | step => exact finish start.step
  | dispatch =>
    simp only [Kernel.call, Kernel.dispatchNext]
    split
    · exact finish start
    · exact finish ⟨sched.reschedule sched.agree.dispatchNext unscheduled_pageTable.dispatchNext,
        start.inOrder.dispatchNext⟩
  | interrupt irq => exact finish (start.handle irq)
  | perform op =>
    simp only [Kernel.call, Kernel.perform]
    have swapped : ({ k with mm := { k.mm with swap := (k.mm.swap.perform op).2 } } :
        Kernel).Ordered k.sched.log k.sched.autoSchedule k.sched.released k.sched.running :=
      ⟨⟨sched.agree, sched.issued⟩, start.inOrder⟩
    exact finish (swapped.handle _)
  | takeDisk => exact finish ⟨⟨sched.agree, sched.issued⟩, start.inOrder⟩
  | takeConsole => exact finish ⟨⟨sched.agree, sched.issued⟩, start.inOrder⟩

/-- A new scheduler has an empty queue and an empty log. -/
theorem readyOrdered_new (auto : Bool) (delta : Nat) : (Scheduler.new auto delta).ReadyOrdered :=
  ⟨⟨List.Pairwise.nil, fun _ kept => by cases kept⟩, List.nodup_nil, List.Pairwise.nil,
    fun _ queued => by cases queued⟩

/-- Whatever calls are made on a new kernel, its queues agree and its ready queue is in order. -/
theorem run_readyOrdered {c : Config} (created : Kernel.new c = some (.ok k)) (calls : List Call) :
    (k.run calls).Scheduled ∧ (k.run calls).sched.ReadyOrdered := by
  have ordered : k.sched.ReadyOrdered := by
    obtain ⟨-, -, rfl⟩ := Kernel.new_eq_ok.1 created
    exact readyOrdered_new _ _
  exact run_keeps (fun k => k.Scheduled ∧ k.sched.ReadyOrdered)
    (fun k c ⟨sched, ordered⟩ => ⟨sched.call c, (call_gated sched ordered c).1⟩) calls k
    ⟨Scheduled.new created, ordered⟩

/-- While automatic scheduling stays off and `pid` stays unreleased, `pid` is never dispatched:
it does not come onto the processor, and no record of a dispatch of it is made. -/
theorem run_gated {pid : Nat} (calls : List Call) (sched : k.Scheduled)
    (ordered : k.sched.ReadyOrdered)
    (withheld : ∀ n < calls.length, (k.run (calls.take n)).sched.autoSchedule = false ∧
      pid ∉ (k.run (calls.take n)).sched.released)
    (idle : k.sched.running ≠ some pid) :
    (k.run calls).sched.running ≠ some pid ∧
      k.sched.log.Extends (k.run calls).sched.log fun x => x.pid = pid → x.cause ≠ .dispatched := by
  induction calls generalizing k with
  | nil => exact ⟨idle, .refl _ _⟩
  | cons c rest ih =>
    obtain ⟨off, unreleased⟩ : k.sched.autoSchedule = false ∧ pid ∉ k.sched.released :=
      withheld 0 (Nat.zero_lt_succ _)
    obtain ⟨ordered', gated⟩ := call_gated sched ordered c
    -- the first call dispatches nothing of `pid`: neither automatic scheduling nor a release
    -- allowed it
    have allowed : ∀ x, Transition.Allowed k.sched.autoSchedule k.sched.released x →
        x.pid = pid → x.cause ≠ .dispatched := by
      intro x allows same dispatched
      rcases allows dispatched with on | mem
      · rw [off] at on
        cases on
      · exact unreleased (same ▸ mem)
    have idle' : (k.call c).sched.running ≠ some pid := by
      intro on
      rcases gated.running pid on with before | on | mem
      · exact idle before
      · rw [off] at on
        cases on
      · exact unreleased mem
    have rest' := ih (sched.call c) ordered'
      (fun n lt => withheld (n + 1) (Nat.succ_lt_succ lt)) idle'
    exact ⟨rest'.1, (gated.dispatches.mono allowed).trans rest'.2⟩

/-- Releasing by hand refuses a running process, a blocked one and a pid no process has, and
then changes nothing. -/
theorem execProcess_refused (k : Kernel) (pid : Nat) :
    ((k.sched.get? pid).map (·.status) = some .running →
      k.execProcess pid = (.error (.alreadyRunning pid), k)) ∧
    ((k.sched.get? pid).map (·.status) = some .blocked →
      k.execProcess pid = (.error (.processBlocked pid), k)) ∧
    (k.sched.get? pid = none → k.execProcess pid = (.error (.noSuchProcess pid), k)) := by
  unfold Kernel.execProcess
  cases k.sched.get? pid with
  | none => simp
  | some cb =>
    refine ⟨fun running => ?_, fun blocked => ?_, fun gone => by cases gone⟩
    · simp only [Option.map_some, Option.some.injEq] at running
      simp [running]
    · simp only [Option.map_some, Option.some.injEq] at blocked
      simp [blocked]

/-- Dispatching is first in, first out, gated by automatic scheduling and by release.

Wherever the kernel dispatches (a call to dispatch, a step on an idle processor, after a timer,
a block or an end), it applies one rule to a scheduler whose queues agree: nothing while a
process runs, else the process `pick` names, the front of the ready queue under automatic
scheduling and the first released one otherwise; and `canDispatch` says whether it would. At
every state of every run the ready queue is in the order its members last became ready, so
under automatic scheduling the process dispatched entered before every process left waiting,
and a process whose slice runs out goes behind them all. While automatic scheduling stays off,
a process never released is never dispatched; and releasing by hand refuses a running, a
blocked or an unknown process without changing anything. -/
theorem run_dispatch_order {c : Config} (created : Kernel.new c = some (.ok k)) (calls : List Call) :
    (∀ s : Scheduler, s.QueuesAgree →
      s.dispatchNext.1 = (if s.running.isSome then none else s.pick) ∧
        (s.canDispatch = true ↔ s.dispatchNext.1.isSome = true)) ∧
    (k.run calls).sched.ReadyOrdered ∧
    ((k.run calls).sched.autoSchedule = true →
      (∀ p, (k.run calls).sched.dispatchNext.1 = some p →
        ∀ q ∈ (k.run calls).sched.dispatchNext.2.ready,
          EnteredBefore (k.run calls).sched.log.toList p q) ∧
      (∀ p, (k.run calls).sched.running = some p →
        (k.run calls).sched.onTimerExpired.running = ((k.run calls).sched.ready ++ [p]).head? ∧
        (k.run calls).sched.onTimerExpired.ready = ((k.run calls).sched.ready ++ [p]).tail)) ∧
    (∀ pid (more : List Call),
      (∀ n < more.length, ((k.run calls).run (more.take n)).sched.autoSchedule = false ∧
        pid ∉ ((k.run calls).run (more.take n)).sched.released) →
      (k.run calls).sched.running ≠ some pid →
      ((k.run calls).run more).sched.running ≠ some pid ∧
        (k.run calls).sched.log.Extends ((k.run calls).run more).sched.log
          fun x => x.pid = pid → x.cause ≠ .dispatched) ∧
    (∀ pid, ((k.run calls).sched.get? pid).map (·.status) = some .running →
      (k.run calls).execProcess pid = (.error (.alreadyRunning pid), k.run calls)) ∧
    (∀ pid, ((k.run calls).sched.get? pid).map (·.status) = some .blocked →
      (k.run calls).execProcess pid = (.error (.processBlocked pid), k.run calls)) ∧
    (∀ pid, (k.run calls).sched.get? pid = none →
      (k.run calls).execProcess pid = (.error (.noSuchProcess pid), k.run calls)) := by
  obtain ⟨sched, ordered⟩ := run_readyOrdered created calls
  refine ⟨fun s agree => ⟨dispatchNext_fst agree.ready_live, canDispatch_iff agree.ready_live⟩,
    ordered, fun auto => ⟨fun p dispatched => ordered.dispatched_first auto dispatched,
      fun p running => onTimerExpired_auto sched.agree auto running⟩,
    fun pid more withheld idle => run_gated more sched ordered withheld idle,
    fun pid => (execProcess_refused _ pid).1, fun pid => (execProcess_refused _ pid).2.1,
    fun pid => (execProcess_refused _ pid).2.2⟩

/-- The default machine with two processes, scheduled automatically through a step and a timer,
keeps its ready queue in order. -/
theorem default_run_dispatch_order :
    Kernel.new {} = some (.ok { config := {}, mm := .new {}, sched := .new false 5 }) ∧
      (Kernel.run { config := {}, mm := .new {}, sched := .new false 5 }
        [.create "factorial", .create "factorial", .setAuto true, .step,
          .interrupt (.trap .timer)]).sched.ReadyOrdered :=
  ⟨rfl, (run_dispatch_order (c := {}) rfl _).2.1⟩

end Kernel

end PagedMachine
