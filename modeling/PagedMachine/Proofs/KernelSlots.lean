import PagedMachine.Proofs.Slots
import PagedMachine.Proofs.KernelFaults

/-!
# Swap slots over every run

`Kernel.SlotsOwned` adds to the agreement of slots and pages that every save into a slot still
to be carried out, queued by the kernel or held by the disk, is of a pid already handed out
whose process is gone or whose page keeps that slot. Then the disk reporting such a save
changes nothing, and every call and every event of a served run keeps the invariant, as long as
no save is reported that the kernel did not queue (`SlotsOwned.call`, `SlotsOwned.happen`).

A run may mix the events of a served run with any call that reports no save
(`Kernel.Occurrence`); along every such run slots are owned exactly once and never leak
(`occurAll_slots_owned`).
-/

namespace PagedMachine

namespace Kernel

open Scheduler MemoryManager

variable {k : Kernel} {d : Devices}

/-- The slot invariant of a kernel whose devices hold `d`: slots and pages agree, and every
save into a slot still to be carried out, queued or held by the disk, is of a pid already
handed out whose process is gone or whose page keeps that slot. -/
structure SlotsOwned (d : Devices) (k : Kernel) : Prop where
  agree : SlotsAgree k.mm.swap (slotOf k.sched)
  saves : ∀ op ∈ k.mm.queue ++ d.held, ∀ data n, op.kind = .save data (some n) →
    op.pid < k.nextPid ∧ (k.sched.contains op.pid = false ∨ slotOf k.sched op.pid op.page = some n)

/-- Paging that keeps the slots keeps the invariant. -/
theorem SlotsOwned.repage {mm : MemoryManager} {s : Scheduler} (sched : k.Scheduled)
    (owned : k.SlotsOwned d) (kept : SlotsKept k.mm k.sched mm s) (repaged : Repaged k.sched s) :
    ({ k with mm, sched := s } : Kernel).SlotsOwned d := by
  obtain ⟨ops, queue, covered⟩ := kept.queued
  refine ⟨kept.agree owned.agree, fun op mem data n save => ?_⟩
  simp only [queue, List.append_assoc, List.mem_append] at mem
  rcases mem with old | new | held
  · obtain ⟨issued, gone | kept'⟩ := owned.saves op (by simp [old]) data n save
    · exact ⟨issued, .inl (by rw [repaged.same_standing.contains_eq]; exact gone)⟩
    · exact ⟨issued, .inr (kept.kept _ _ _ kept')⟩
  · have here := covered op new data n save
    have live : k.sched.contains op.pid = true := by
      rw [← repaged.same_standing.contains_eq]
      exact contains_of_slotOf here
    exact ⟨sched.issued _ live, .inr here⟩
  · obtain ⟨issued, gone | kept'⟩ := owned.saves op (by simp [held]) data n save
    · exact ⟨issued, .inl (by rw [repaged.same_standing.contains_eq]; exact gone)⟩
    · exact ⟨issued, .inr (kept.kept _ _ _ kept')⟩

/-- Scheduling changes no page table, so it keeps the invariant. -/
theorem SlotsOwned.reschedule {s : Scheduler} (owned : k.SlotsOwned d)
    (same : SameOn ControlBlock.pageTable k.sched s) : ({ k with sched := s } : Kernel).SlotsOwned d := by
  refine ⟨by rw [slotOf_of_sameOn same]; exact owned.agree, fun op mem data n save => ?_⟩
  obtain ⟨issued, kept⟩ := owned.saves op mem data n save
  refine ⟨issued, ?_⟩
  rw [slotOf_of_sameOn same, same.contains_eq]
  exact kept

/-- Halting keeps the slot invariant. -/
theorem SlotsOwned.halt (owned : k.SlotsOwned d) (e : KernelError) : (k.halt e).SlotsOwned d :=
  ⟨owned.agree, owned.saves⟩

/-- Another processor state keeps the slot invariant. -/
theorem SlotsOwned.withCpu (owned : k.SlotsOwned d) (cpu : Cpu) : (k.withCpu cpu).SlotsOwned d :=
  owned.reschedule fun _ => rfl

/-- Ending a process gives back every slot its pages keep. -/
theorem SlotsOwned.terminate (owned : k.SlotsOwned d) (pid : Nat) (cause : Cause) :
    (k.terminate pid cause).SlotsOwned d := by
  have pages : ∀ p q, slotOf ((k.sched.removeProcess pid cause).2.dispatchNext.2) p q =
      if pid = p then none else slotOf k.sched p q := by
    intro p q
    rw [slotOf_of_sameOn unscheduled_pageTable.dispatchNext]
    exact slotOf_removeProcess pid cause p q
  have live : ∀ q, ((k.sched.removeProcess pid cause).2.dispatchNext.2).contains q =
      (decide (pid ≠ q) && k.sched.contains q) := by
    intro q
    rw [unscheduled_pageTable.dispatchNext.contains_eq, contains_removeProcess]
  -- the saves outstanding are as they were, their processes ended or keeping their slots
  have saves : ∀ op ∈ k.mm.queue ++ d.held, ∀ data n, op.kind = .save data (some n) →
      op.pid < k.nextPid ∧
        (((k.sched.removeProcess pid cause).2.dispatchNext.2).contains op.pid = false ∨
          slotOf ((k.sched.removeProcess pid cause).2.dispatchNext.2) op.pid op.page = some n) := by
    intro op mem data n save
    obtain ⟨issued, kept⟩ := owned.saves op mem data n save
    refine ⟨issued, ?_⟩
    rw [live, pages]
    by_cases same : pid = op.pid
    · exact .inl (by simp [same])
    · simpa [same] using kept
  unfold Kernel.terminate
  simp only []
  rw [fst_removeProcess]
  cases found : k.sched.get? pid with
  | none =>
    have gone : (fun p q => if pid = p then none else slotOf k.sched p q) = slotOf k.sched := by
      funext p q
      split
      · rename_i same
        subst same
        simp [slotOf, entry?, found]
      · rfl
    refine ⟨?_, saves⟩
    simp only [Option.map_none]
    rw [show slotOf ((k.sched.removeProcess pid cause).2.dispatchNext.2) = slotOf k.sched from
      (funext fun p => funext fun q => pages p q).trans gone]
    exact owned.agree
  | some cb =>
    refine ⟨?_, saves⟩
    simp only [Option.map_some, MemoryManager.release]
    refine owned.agree.leave pid cb.pageTable.slots (fun n => ?_) pages
    rw [mem_slots]
    simp [slotOf, entry?, found]

/-- Ending the running process keeps the slot invariant. -/
theorem SlotsOwned.endRunning (owned : k.SlotsOwned d) (cause : Cause) :
    (k.endRunning cause).SlotsOwned d := by
  unfold Kernel.endRunning
  split
  · exact owned.terminate _ cause
  · exact owned

/-- A disk completion keeps the invariant, stale or repeated loads and lost pages included,
when a save it reports is of a process that is gone or of a page that keeps a slot. -/
theorem SlotsOwned.diskDone (sched : k.Scheduled) (owned : k.SlotsOwned d) (c : Completion)
    (own : ∀ slot, c.result = .saved slot →
      k.sched.contains c.pid = false ∨ ∃ n, slotOf k.sched c.pid c.page = some n) :
    (k.diskDone c).SlotsOwned d := by
  unfold Kernel.diskDone
  split
  · rename_i data _
    have kept := slotsKept_completeLoad sched.agree.wf k.mm c.pid c.page c.frame data
    rcases loaded : k.mm.completeLoad k.sched c.pid c.page c.frame data with ⟨woken, mm, s⟩
    rw [loaded] at kept
    have installed := owned.repage sched kept (repaged_of_completeLoad sched.agree.wf loaded)
    dsimp only
    split
    · exact installed.reschedule (unscheduled_pageTable.unblock _ _ _)
    · exact installed
  · rename_i slot saved
    rw [completeSave_of_kept (own slot saved) slot]
    exact owned
  · split
    · exact owned.terminate _ _
    · exact owned

/-- Any console completion keeps the invariant. -/
theorem SlotsOwned.ioDone (sched : k.Scheduled) (owned : k.SlotsOwned d) (c : IoCompletion) :
    (k.ioDone c).SlotsOwned d := by
  cases c with
  | write pid => exact owned.reschedule (unscheduled_pageTable.unblock _ _ _)
  | read pid addr value =>
    simp only [Kernel.ioDone]
    split
    · exact owned
    · have kept := slotsKept_translate k.mm k.sched pid addr true
      split
      · rename_i pa mm s translated
        rw [translated] at kept
        have written : SlotsKept k.mm k.sched (mm.write pa (.data value)) s :=
          kept.trans (.of_eq rfl rfl rfl)
        have paged := owned.repage sched written (repaged_of_translate translated)
        exact paged.reschedule (unscheduled_pageTable.unblock _ _ _)
      · rename_i page mm s translated
        rw [translated] at kept
        -- a value kept for an absent page changes no page table
        have deferred : SlotsKept k.mm k.sched mm (deferInput s pid addr value) :=
          kept.trans (.of_eq rfl rfl (slotOf_of_sameOn (by
            unfold deferInput
            split
            · exact .refl _ _
            · exact sameOn_modify _ _ fun _ => rfl)))
        have paged := owned.repage sched deferred
          ((repaged_of_translate translated).trans (repaged_deferInput s pid addr value))
        exact (paged.reschedule (unscheduled_pageTable.block pid _ _)).reschedule
          (unscheduled_pageTable.unblock _ _ _)
      · rename_i mm s translated
        rw [translated] at kept
        exact (owned.repage sched kept (repaged_of_translate translated)).terminate pid _
      · rename_i mm s translated
        rw [translated] at kept
        exact (owned.repage sched kept (repaged_of_translate translated)).halt _

/-- An interrupt keeps the invariant, when a save it reports is of a process that is gone or
of a page that keeps a slot. -/
theorem SlotsOwned.handle (sched : k.Scheduled) (owned : k.SlotsOwned d) (irq : Interrupt)
    (own : ∀ c slot, irq = .diskDone c → c.result = .saved slot →
      k.sched.contains c.pid = false ∨ ∃ n, slotOf k.sched c.pid c.page = some n) :
    (k.handle irq).SlotsOwned d := by
  cases irq with
  | trap t =>
    cases t with
    | timer => exact owned.reschedule unscheduled_pageTable.onTimerExpired
    | pageFault page =>
      simp only [Kernel.handle]
      split
      · exact owned.reschedule (unscheduled_pageTable.blockRunning _ _)
      · exact owned
    | ioWait => exact owned.reschedule (unscheduled_pageTable.blockRunning _ _)
    | framesExhausted => exact owned.halt _
    | invalidAddress | overflow | invalidInstruction | stop => exact owned.endRunning _
  | diskDone c => exact owned.diskDone sched c (own c · rfl)
  | ioDone c => exact owned.ioDone sched c

/-- Every access of an instruction pages and keeps the slots, and the running process on the
processor. -/
theorem bus_keeps_slots (d : Devices) (pid limit : Nat) :
    Exec.Keeps (bus pid limit) (fun k => (k.Scheduled ∧ k.SlotsOwned d) ∧ k.sched.running = some pid)
      fun _ k => k.Scheduled ∧ k.SlotsOwned d := by
  -- a translation only pages and keeps every slot, also when a word is written after it
  have paged : ∀ (k : Kernel) a write r mm s mm', k.Scheduled → k.SlotsOwned d →
      k.mm.translate k.sched pid a write = (r, mm, s) → SlotsKept mm s mm' s →
      ({ k with mm := mm', sched := s } : Kernel).Scheduled ∧
        ({ k with mm := mm', sched := s } : Kernel).SlotsOwned d := by
    intro k a write r mm s mm' sched owned translated after
    have kept := slotsKept_translate k.mm k.sched pid a write
    rw [translated] at kept
    have repaged := repaged_of_translate translated
    exact ⟨sched.repage repaged mm', owned.repage sched (kept.trans after) repaged⟩
  refine bus_keeps pid limit (fun k a write pa mm s holds translated => ?_)
    (fun k a write _ mm s holds translated =>
      paged k a write _ mm s mm holds.1.1 holds.1.2 translated (.of_eq rfl rfl rfl))
    fun k holds => ⟨holds.1, holds.1, holds.1, holds.1⟩
  have running : s.running = some pid := (repaged_of_translate translated).running_eq.trans holds.2
  exact ⟨⟨paged k a write _ mm s mm holds.1.1 holds.1.2 translated (.of_eq rfl rfl rfl), running⟩,
    fun w _ => ⟨paged k a write _ mm s (mm.write pa w) holds.1.1 holds.1.2 translated
      (.of_eq rfl rfl rfl), running⟩⟩

/-- A step keeps the invariant: the instruction's accesses page, and its trap reports no save. -/
theorem SlotsOwned.step (sched : k.Scheduled) (owned : k.SlotsOwned d) : k.step.2.SlotsOwned d := by
  -- the timer, a console wait and the processor's own traps report no save
  have trapped : ∀ (t : Trap) (k : Kernel) (cpu : Cpu), k.Scheduled ∧ k.SlotsOwned d →
      ((k.withCpu cpu).handle (.trap t)).Scheduled ∧ ((k.withCpu cpu).handle (.trap t)).SlotsOwned d :=
    fun t k cpu inv => ⟨(inv.1.withCpu cpu).handle _,
      (inv.2.withCpu cpu).handle (inv.1.withCpu cpu) _ fun _ _ irq => by cases irq⟩
  have kept := @step_keeps (fun k => k.Scheduled ∧ k.SlotsOwned d)
    (fun k => k.Scheduled ∧ k.SlotsOwned d) (fun _ k => k.Scheduled ∧ k.SlotsOwned d) ?_
    (bus_keeps_slots d) ?_ ?_ (trapped .timer) (trapped .ioWait) trapped k ⟨sched, owned⟩
  · exact kept.2
  · intro k inv _ _
    exact ⟨inv.1.reschedule inv.1.agree.dispatchNext unscheduled_pageTable.dispatchNext,
      inv.2.reschedule unscheduled_pageTable.dispatchNext⟩
  · intro pid limit kind k inv _
    exact ⟨⟨inv.1.agree, inv.1.issued⟩, ⟨inv.2.agree, inv.2.saves⟩⟩
  · intro k cpu inv
    exact ⟨inv.1.withCpu cpu, inv.2.withCpu cpu⟩

/-- A new process has no slot on any page. -/
theorem slot_new (pid : Nat) (program : Program) (pageSize q : Nat) :
    ((ControlBlock.new pid program pageSize).pageTable.get? q).bind PageEntry.slot = none := by
  simp only [ControlBlock.new, PageTable.new, PageTable.get?, Array.getElem?_replicate]
  split <;> rfl

/-- A new process takes the next pid, which no live process has, and keeps no slot. -/
theorem SlotsOwned.createProcess (sched : k.Scheduled) (owned : k.SlotsOwned d) (name : String) :
    (k.createProcess name).2.SlotsOwned d := by
  rcases createProcess_cases k name with same | ⟨program, mm, pt, -, -, initial, created⟩
  · rw [same]
    exact owned
  · have fresh : k.sched.contains k.nextPid = false := by
      by_contra alive
      exact Nat.lt_irrefl _ (sched.issued _ (by simpa using alive))
    obtain ⟨swap, queue, slots⟩ :=
      loadInitial_slots k.mm (ControlBlock.new k.nextPid program k.config.pageSize)
    rw [initial] at swap queue slots
    simp only at swap queue slots
    rw [created]
    dsimp only
    have keyed : (ControlBlock.new k.nextPid program k.config.pageSize).pid = k.nextPid := rfl
    -- the pages of the new process keep no slot, and its pid kept none before
    have same : slotOf ((k.sched.insert { ControlBlock.new k.nextPid program k.config.pageSize with
        pageTable := pt }).addToReady k.nextPid .created) = slotOf k.sched := by
      rw [slotOf_of_sameOn (unscheduled_pageTable.addToReady _ _)]
      funext p q
      rw [slotOf_insert]
      split
      · rename_i same
        rw [slots, slot_new]
        have missing : k.sched.get? p = none := by
          simpa [contains_eq_isSome, ← same, keyed] using fresh
        simp [slotOf, entry?, missing]
      · rfl
    refine ⟨owned.agree.congr (by rw [swap]) (by rw [swap]) same, fun op mem data n save => ?_⟩
    rw [queue] at mem
    obtain ⟨issued, kept⟩ := owned.saves op mem data n save
    have other : k.nextPid ≠ op.pid := Nat.ne_of_gt issued
    refine ⟨Nat.lt_succ_of_lt issued, ?_⟩
    rw [same, (unscheduled_pageTable.addToReady _ _).contains_eq, contains_insert]
    simpa [other, keyed] using kept

/-- A call that reports no save: any call but a completion reporting a save and the carrying
out of a save into a slot. -/
def Call.ReportsNoSave : Call → Prop
  | .interrupt (.diskDone c) => ∀ n, c.result ≠ .saved n
  | .perform op => ∀ data n, op.kind ≠ .save data (some n)
  | _ => True

/-- Every call that reports no save keeps the invariant. -/
theorem SlotsOwned.call (sched : k.Scheduled) (owned : k.SlotsOwned d) (c : Call)
    (noSave : c.ReportsNoSave) : (k.call c).SlotsOwned d := by
  cases c with
  | create name => exact owned.createProcess sched name
  | remove pid =>
    simp only [Kernel.call, Kernel.removeProcess]
    split
    · exact owned.terminate pid _
    · exact owned
  | exec pid =>
    simp only [Kernel.call, Kernel.execProcess]
    split
    · exact owned
    · split
      all_goals first
        | exact owned
        | exact owned.reschedule (unscheduled_pageTable.release pid)
  | setAuto on => exact owned.reschedule fun _ => rfl
  | step => exact owned.step sched
  | dispatch =>
    simp only [Kernel.call, Kernel.dispatchNext]
    split
    · exact owned
    · exact owned.reschedule unscheduled_pageTable.dispatchNext
  | interrupt irq =>
    refine owned.handle sched irq fun c slot reported saved => ?_
    subst reported
    exact absurd saved (noSave slot)
  | perform op =>
    simp only [Kernel.call, Kernel.perform]
    obtain ⟨reserved, inUse⟩ := SwapDisk.perform_reserved (d := k.mm.swap) op
    have swapped : ({ k with mm := { k.mm with swap := (k.mm.swap.perform op).2 } } :
        Kernel).SlotsOwned d := ⟨owned.agree.congr reserved inUse rfl, owned.saves⟩
    have swappedSched : ({ k with mm := { k.mm with swap := (k.mm.swap.perform op).2 } } :
        Kernel).Scheduled := ⟨sched.agree, sched.issued⟩
    refine swapped.handle swappedSched _ fun c slot reported saved => ?_
    cases reported
    obtain ⟨data, save⟩ := perform_saved saved
    exact absurd save (noSave data slot)
  | takeDisk =>
    refine ⟨owned.agree, fun op mem data n save => owned.saves op ?_ data n save⟩
    simp only [Kernel.call, Kernel.takeDiskQueue, MemoryManager.takeQueue, List.nil_append] at mem
    exact List.mem_append_right _ mem
  | takeConsole => exact ⟨owned.agree, owned.saves⟩

/-- Fewer operations held by the devices keep the invariant. -/
theorem SlotsOwned.drop {d' : Devices} (owned : k.SlotsOwned d) (fewer : ∀ op ∈ d'.held, op ∈ d.held) :
    k.SlotsOwned d' := by
  refine ⟨owned.agree, fun op mem data n save => owned.saves op ?_ data n save⟩
  rcases List.mem_append.1 mem with queued | held
  · exact List.mem_append_left _ queued
  · exact List.mem_append_right _ (fewer op held)

/-- Every event of a served run keeps the invariant: a save the disk carries out is one the
kernel queued, so the slot it reports is kept by its page unless the process is gone. -/
theorem SlotsOwned.happen (sched : k.Scheduled) (owned : k.SlotsOwned d) (e : Event) :
    (k.happen d e).1.SlotsOwned (k.happen d e).2 := by
  cases e with
  | create name => exact owned.call sched (.create name) trivial
  | remove pid => exact owned.call sched (.remove pid) trivial
  | exec pid => exact owned.call sched (.exec pid) trivial
  | setAuto on => exact owned.call sched (.setAuto on) trivial
  | step => exact owned.call sched .step trivial
  | dispatch => exact owned.call sched .dispatch trivial
  | takeDisk =>
    refine ⟨owned.agree, fun op mem data n save => owned.saves op ?_ data n save⟩
    simp only [Kernel.happen, Kernel.takeDiskQueue, MemoryManager.takeQueue, List.nil_append,
      List.mem_append] at mem
    rcases mem with held | queued
    · exact List.mem_append_right _ held
    · exact List.mem_append_left _ queued
  | perform i =>
    simp only [Kernel.happen]
    split
    · rename_i op found
      have fewer : ∀ op' ∈ d.held.eraseIdx i, op' ∈ d.held := fun _ => List.mem_of_mem_eraseIdx
      have mine : op ∈ k.mm.queue ++ d.held :=
        List.mem_append_right _ (List.mem_of_getElem? found)
      simp only [Kernel.perform]
      obtain ⟨reserved, inUse⟩ := SwapDisk.perform_reserved (d := k.mm.swap) op
      have swapped : ({ k with mm := { k.mm with swap := (k.mm.swap.perform op).2 } } :
          Kernel).SlotsOwned { d with held := d.held.eraseIdx i } :=
        ⟨owned.agree.congr reserved inUse rfl,
          (owned.drop fewer : k.SlotsOwned { d with held := d.held.eraseIdx i }).saves⟩
      have swappedSched : ({ k with mm := { k.mm with swap := (k.mm.swap.perform op).2 } } :
          Kernel).Scheduled := ⟨sched.agree, sched.issued⟩
      refine swapped.handle swappedSched _ fun c slot reported saved => ?_
      cases reported
      -- the save carried out is the kernel's own, into the slot it reports
      obtain ⟨data, save⟩ := perform_saved saved
      obtain ⟨pid, page, _⟩ := SwapDisk.perform_spec k.mm.swap op
      obtain ⟨_, gone | kept⟩ := owned.saves op mine data slot save
      · exact .inl (by rw [pid]; exact gone)
      · exact .inr ⟨slot, by rw [pid, page]; exact kept⟩
    · exact owned
  | drop i =>
    simp only [Kernel.happen]
    split
    · exact owned.drop fun _ => List.mem_of_mem_eraseIdx
    · exact owned
  | takeConsole => exact ⟨owned.agree, owned.saves⟩
  | answer i value =>
    simp only [Kernel.happen]
    split
    · rename_i req _
      have answered := owned.handle sched (.ioDone (req.answer value)) fun c slot reported => by
        cases reported
      exact ⟨answered.agree, answered.saves⟩
    · exact owned

/-- What may happen in a run whose save completions all come from the kernel's own save
operations: an event of a served run, or any call that reports no save. -/
inductive Occurrence where
  | served (e : Event)
  | call (c : Call)

/-- The kernel and its devices after one occurrence. -/
def occur (k : Kernel) (d : Devices) : Occurrence → Kernel × Devices
  | .served e => k.happen d e
  | .call c => (k.call c, d)

/-- The kernel and its devices after a sequence of occurrences, in order. -/
def occurAll (kd : Kernel × Devices) (os : List Occurrence) : Kernel × Devices :=
  os.foldl (fun kd o => kd.1.occur kd.2 o) kd

/-- Every occurrence keeps the queues agreeing and the slots owned, when each call among them
reports no save. -/
theorem occurAll_slots (os : List Occurrence) (noSaves : ∀ c, Occurrence.call c ∈ os → c.ReportsNoSave)
    (kd : Kernel × Devices) (sched : kd.1.Scheduled) (owned : kd.1.SlotsOwned kd.2) :
    (occurAll kd os).1.Scheduled ∧ (occurAll kd os).1.SlotsOwned (occurAll kd os).2 := by
  induction os generalizing kd with
  | nil => exact ⟨sched, owned⟩
  | cons o rest ih =>
    obtain ⟨k, d⟩ := kd
    refine ih (fun c mem => noSaves c (List.mem_cons_of_mem _ mem)) (k.occur d o) ?_ ?_
    · cases o with
      | served e =>
        obtain ⟨calls, ran⟩ := happen_fst k d e
        show (k.happen d e).1.Scheduled
        rw [ran]
        exact run_keeps Scheduled (fun _ c sched => sched.call c) calls k sched
      | call c => exact sched.call c
    · cases o with
      | served e => exact owned.happen sched e
      | call c => exact owned.call sched c (noSaves c List.mem_cons_self)

/-- A new kernel has no process, no reserved slot and no operation. -/
theorem SlotsOwned.new {c : Config} {k : Kernel} (created : Kernel.new c = some (.ok k)) :
    k.SlotsOwned {} := by
  obtain ⟨-, -, rfl⟩ := Kernel.new_eq_ok.1 created
  refine ⟨⟨fun p q _ _ n kept => ?_, fun n => ?_, ?_⟩, fun op mem => by cases mem⟩
  · simp [slotOf, entry?, Scheduler.get?, Scheduler.new, PidMap.find?] at kept
  · simp only [MemoryManager.new, SwapDisk.new, Array.getD_eq_getD_getElem?,
      Array.getElem?_replicate, slotOf, entry?, Scheduler.get?, Scheduler.new, PidMap.find?]
    split <;> simp
  · simp [MemoryManager.new, SwapDisk.new, Array.count_replicate]



/-- With no live process, no page keeps a slot. -/
theorem slotOf_of_liveCount {k : Kernel} (empty : k.liveCount = 0) (p q : Nat) :
    slotOf k.sched p q = none := by
  have none : k.sched.table.entries = [] := by
    simpa [Kernel.liveCount, Scheduler.liveCount, PidMap.size] using empty
  simp [slotOf, entry?, Scheduler.get?, PidMap.find?, none]

/-- Swap slots are owned exactly once and never leak.

Along any run from a new kernel in which every reported save comes from the disk carrying out
one of the kernel's own save operations, each at most once and in any order (calls of a user,
steps and any other interrupt are free): no two pages of live processes keep the same slot, a
slot is reserved exactly when a page of a live process keeps it, present or not, and the count
of slots in use is the number of reserved slots. So once no process is live no slot is in use,
and a reservation never hands out a slot a live page keeps. -/
theorem occurAll_slots_owned {c : Config} {k : Kernel} (created : Kernel.new c = some (.ok k))
    (os : List Occurrence) (noSaves : ∀ c, Occurrence.call c ∈ os → c.ReportsNoSave) :
    SlotsAgree (occurAll (k, {}) os).1.mm.swap (slotOf (occurAll (k, {}) os).1.sched) ∧
      ((occurAll (k, {}) os).1.liveCount = 0 →
        (occurAll (k, {}) os).1.mm.swap.stats.slotsInUse = 0) ∧
      ∀ n, (occurAll (k, {}) os).1.mm.swap.reserve.1 = some n →
        ∀ p q, slotOf (occurAll (k, {}) os).1.sched p q ≠ some n := by
  obtain ⟨_, owned⟩ := occurAll_slots os noSaves (k, {}) (Scheduled.new created)
    (SlotsOwned.new created)
  exact ⟨owned.agree, fun empty => owned.agree.unused (slotOf_of_liveCount empty),
    fun n reserved => owned.agree.reserve_unkept reserved⟩

/-- The default machine runs a process, is interrupted by the timer and carries out the
operations it queued: its slots and pages agree. -/
theorem default_occurAll_slots_owned :
    Kernel.new {} = some (.ok { config := {}, mm := .new {}, sched := .new false 5 }) ∧
      (∀ c, Occurrence.call c ∈ [.served (.create "factorial"), .served (.setAuto true),
        .served .step, .call (.interrupt (.trap .timer)), .served .takeDisk,
        .served (.perform 0)] → c.ReportsNoSave) ∧
      SlotsAgree (occurAll ({ config := {}, mm := .new {}, sched := .new false 5 }, {})
          [.served (.create "factorial"), .served (.setAuto true), .served .step,
            .call (.interrupt (.trap .timer)), .served .takeDisk, .served (.perform 0)]).1.mm.swap
        (slotOf (occurAll ({ config := {}, mm := .new {}, sched := .new false 5 }, {})
          [.served (.create "factorial"), .served (.setAuto true), .served .step,
            .call (.interrupt (.trap .timer)), .served .takeDisk, .served (.perform 0)]).1.sched) := by
  have noSaves : ∀ c, Occurrence.call c ∈ [.served (.create "factorial"), .served (.setAuto true),
      .served .step, .call (.interrupt (.trap .timer)), .served .takeDisk,
      .served (.perform 0)] → c.ReportsNoSave := by
    intro c mem
    simp only [List.mem_cons, reduceCtorEq, Occurrence.call.injEq, List.not_mem_nil, or_false,
      false_or] at mem
    subst mem
    trivial
  exact ⟨rfl, noSaves, (occurAll_slots_owned (c := {}) rfl _ noSaves).1⟩


end Kernel

end PagedMachine
