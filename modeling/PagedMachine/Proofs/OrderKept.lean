import PagedMachine.Proofs.Unseen
import PagedMachine.Proofs.ConsoleRead
import PagedMachine.Proofs.ProcessCreation

/-!
# The order of disk operations along a run

`Kernel.OpsOrdered` is the order among the disk operations outstanding that makes every word of
a process the one it last wrote (`MemoryManager.SavesOrdered`). The kernel queues its
operations in that order; the devices keep it when the disk carries out the oldest operation it
holds and drops none (`Kernel.Event.inOrder`).

Main statements: every call of the kernel keeps the order (`OpsOrdered.step`,
`OpsOrdered.createProcess`, `OpsOrdered.perform`, `OpsOrdered.ioDone` and the scheduling
lemmas), and so every event in order keeps what paging stores (`Kernel.Stored.happen`).
-/

namespace PagedMachine

namespace MemoryManager

open Scheduler

variable {mm : MemoryManager} {s : Scheduler}

/-- Starting a load fails only for want of a frame or of the page, never with a page fault. -/
theorem startLoad_ne_pageFault (mm : MemoryManager) (s : Scheduler) (pid vpn page : Nat) :
    (mm.startLoad s pid vpn).1 ≠ .error (.pageFault page) := by
  unfold startLoad
  simp only []
  split
  · exact fun refused => by cases refused
  · split
    · exact fun refused => by cases refused
    · split
      · exact fun refused => by cases refused
      · exact fun refused => by cases refused

/-- A translation faults only on the page of its address. -/
theorem translate_pageFault_page {pid : Nat} {va : Int32} {write : Bool} {page : Nat}
    {mm' : MemoryManager} {s' : Scheduler}
    (faulted : mm.translate s pid va write = (.error (.pageFault page), mm', s')) :
    page = va.toInt.toNat / mm.pageSize := by
  unfold translate at faulted
  split at faulted
  · cases faulted
  · simp only [tick] at faulted
    split at faulted
    · cases faulted
    · split at faulted
      · cases faulted
      · split at faulted
        · cases faulted
          rfl
        · split at faulted
          · rename_i started
            cases faulted
            exact absurd (congrArg Prod.fst started) (startLoad_ne_pageFault _ _ _ _ _)
          · cases faulted
            rfl

/-- After a translation that faults, the page it faulted on is loading. -/
theorem translate_pageFault_loading (agree : FramesAgree mm.frames (residency s)) {pid : Nat}
    {va : Int32} {write : Bool} {page : Nat} {mm' : MemoryManager} {s' : Scheduler}
    (faulted : mm.translate s pid va write = (.error (.pageFault page), mm', s')) :
    Loading s' pid page := by
  rcases translate_loads agree pid va write with ⟨-, -, kept, before⟩ | ⟨vpn, fault, -, started⟩
  · rw [faulted] at kept before
    exact (kept pid page).2 (before page rfl)
  · rw [faulted] at fault started
    cases fault
    exact (started.loading pid page).2 (.inl ⟨rfl, rfl⟩)

/-- A page whose load is in flight is absent and flagged loading. -/
theorem entry_of_loading (agree : FramesAgree mm.frames (residency s)) {pid page : Nat}
    (loading : Loading s pid page) {cb : ControlBlock} (found : s.get? pid = some cb) :
    ∃ e, cb.pageTable.get? page = some e ∧ e.frame = none ∧ e.loading = true := by
  obtain ⟨e, entry, flagged⟩ := (loading_iff found page).1 loading
  refine ⟨e, entry, ?_, flagged⟩
  cases framed : e.frame with
  | none => rfl
  | some f =>
    have present := agree.present_owned pid page f true
      (by simp [residency, entry?, found, entry, framed, flagged])
    cases present.2

end MemoryManager

namespace Kernel

open Scheduler MemoryManager

variable {k : Kernel} {d : Devices}

/-- Whether an event keeps the order the kernel queued its disk operations in: the disk carries
out the oldest operation it holds, and drops none. -/
def Event.inOrder : Event → Bool
  | .perform i => i == 0
  | .drop _ => false
  | _ => true

/-- Scheduling keeps the order. -/
theorem OpsOrdered.reschedule (ordered : k.OpsOrdered d) {s : Scheduler}
    (same : SameOn ControlBlock.paging k.sched s) : ({ k with sched := s } : Kernel).OpsOrdered d :=
  SavesOrdered.of_sameOn ordered same

/-- Another processor state keeps the disk operations in order. -/
theorem OpsOrdered.withCpu (ordered : k.OpsOrdered d) (cpu : Cpu) : (k.withCpu cpu).OpsOrdered d :=
  ordered.reschedule fun _ => rfl

/-- Ending a process takes its pages out of the order and queues nothing. -/
theorem OpsOrdered.terminate (ordered : k.OpsOrdered d) (pid : Nat) (cause : Cause) :
    (k.terminate pid cause).OpsOrdered d := by
  have kept : SavesOrdered k.mm.pageSize (k.sched.removeProcess pid cause).2.dispatchNext.2
      (d.held ++ k.mm.queue) :=
    (SavesOrdered.removeProcess ordered pid cause).of_sameOn unscheduled_paging.dispatchNext
  rw [terminate_eq]
  cases k.sched.get? pid <;> exact kept

/-- Ending the running process keeps the disk operations in order. -/
theorem OpsOrdered.endRunning (ordered : k.OpsOrdered d) (cause : Cause) :
    (k.endRunning cause).OpsOrdered d := by
  unfold Kernel.endRunning
  split
  · exact ordered.terminate _ cause
  · exact ordered

/-- Handling a trap of the processor keeps the order: it only schedules, ends the running
process or halts. -/
theorem OpsOrdered.handle_trap (ordered : k.OpsOrdered d) (t : Trap) :
    (k.handle (.trap t)).OpsOrdered d := by
  cases t with
  | timer => exact ordered.reschedule unscheduled_paging.onTimerExpired
  | pageFault page =>
    simp only [handle]
    split
    · exact ordered.reschedule (unscheduled_paging.blockRunning _ _)
    · exact ordered
  | ioWait => exact ordered.reschedule (unscheduled_paging.blockRunning _ _)
  | framesExhausted => exact ordered
  | invalidAddress => exact ordered.endRunning _
  | overflow => exact ordered.endRunning _
  | invalidInstruction => exact ordered.endRunning _
  | stop => exact ordered.endRunning _

/-- Scheduling keeps what paging stores. -/
theorem Stored.reschedule (stored : k.Stored d) {s : Scheduler}
    (paging : SameOn ControlBlock.paging k.sched s)
    (pcs : s.ContextsSatisfy fun cx => cx.pc ≤ Context.pcBound) :
    ({ k with sched := s } : Kernel).Stored d :=
  ⟨stored.owned.reschedule (paging.comp fun p => p.2.2.2.1),
    stored.bounded.reschedule (paging.comp fun p => (p.2.1, p.2.2.2.1.size)) pcs,
    stored.ordered.reschedule paging⟩

/-- A step keeps the order: every access of the instruction does, and so does handling the trap
it raises. -/
theorem OpsOrdered.step (settled : k.Settled d) (stored : k.Stored d) :
    k.step.2.OpsOrdered d := by
  rw [step_eq]
  split
  · exact stored.ordered
  · have ready : k.dispatched.Settled d ∧ k.dispatched.Stored d := by
      unfold dispatched
      split
      · exact ⟨settled.dispatchNext, stored.reschedule unscheduled_paging.dispatchNext
          stored.bounded.pcs.dispatchNext⟩
      · exact ⟨settled, stored⟩
    split
    · exact ready.2.ordered
    · rename_i pid current
      -- a console request changes nothing paging stores
      have outcome := @Cpu.step_post _ _ _ (fun k => k.Stored d) _
        (bus_keeps_stored d pid (((k.dispatched.sched.get? pid).map (·.size)).getD 0))
        (fun _ _ held => ⟨⟨held.2.owned.agree, held.2.owned.saves⟩,
          held.2.bounded.congr rfl rfl rfl, held.2.ordered⟩)
        k.dispatched.sched.cpu _ ⟨⟨ready.1, current⟩, ready.2⟩
      dsimp only
      generalize (k.dispatched.sched.cpu.step (bus pid _)).run k.dispatched = r at outcome ⊢
      rcases outcome with ⟨quiet, h⟩ | ⟨timer, h⟩ | ⟨ioWait, h⟩ | ⟨t, raised, h⟩
      · rw [quiet]
        exact h.2.ordered.withCpu _
      · rw [timer]
        exact (h.2.ordered.withCpu _).handle_trap _
      · rw [ioWait]
        exact (h.ordered.withCpu _).handle_trap _
      · rw [show r.1.2 = some t from congrArg Prod.snd raised]
        exact (h.2.ordered.withCpu _).handle_trap _

/-- The disk carrying out the oldest operation it holds keeps the order of the rest: a load
installs its page, a save records nothing new, and a save the disk has no room for ends its
process. -/
theorem OpsOrdered.perform (settled : k.Settled d) (stored : k.Stored d) {op : DiskOperation}
    {rest : List DiskOperation} (held : d.held = op :: rest) :
    (k.perform op).2.OpsOrdered { d with held := rest } := by
  have wf := settled.sched.agree.wf
  have ordered : SavesOrdered
      ({ k.mm with swap := (k.mm.swap.perform op).2 } : MemoryManager).pageSize
      k.sched (op :: (rest ++ k.mm.queue)) := by
    have kept := stored.ordered
    unfold OpsOrdered outstanding at kept
    rwa [held, List.cons_append] at kept
  obtain ⟨cPid, cPage, cFrame, loads⟩ := SwapDisk.perform_spec k.mm.swap op
  show (({ k with mm := { k.mm with swap := (k.mm.swap.perform op).2 } } : Kernel).diskDone
    (k.mm.swap.perform op).1).OpsOrdered { d with held := rest }
  unfold Kernel.diskDone
  cases result : (k.mm.swap.perform op).1.result with
  | loaded data =>
    have arrived := ordered.completeLoad (loads.2 ⟨data, result⟩) wf data
    have shape := shapeKept_completeLoad { k.mm with swap := (k.mm.swap.perform op).2 } k.sched
      op.pid op.page op.frame data
    have queue := queue_completeLoad { k.mm with swap := (k.mm.swap.perform op).2 } k.sched
      op.pid op.page op.frame data
    dsimp only
    rw [cPid, cPage, cFrame]
    rcases completed : MemoryManager.completeLoad { k.mm with swap := (k.mm.swap.perform op).2 }
      k.sched op.pid op.page op.frame data with ⟨woken, mm, s⟩
    rw [completed] at arrived shape queue
    have installed : ({ k with mm, sched := s } : Kernel).OpsOrdered { d with held := rest } := by
      show SavesOrdered mm.pageSize s (rest ++ mm.queue)
      rw [shape.pageSize, queue]
      exact arrived
    cases woken with
    | none => exact installed
    | some pid => exact installed.reschedule (unscheduled_paging.unblock pid _ _)
  | saved n =>
    obtain ⟨data, kind⟩ := perform_saved result
    dsimp only
    rw [cPid, cPage, ordered.completeSave_eq kind]
    exact ordered.tail
  | diskFull =>
    have dropped : ({ k with mm := { k.mm with swap := (k.mm.swap.perform op).2 } } :
        Kernel).OpsOrdered { d with held := rest } := ordered.tail
    dsimp only
    rw [cPid]
    split
    · exact dropped.terminate op.pid _
    · exact dropped

/-- Answering the console keeps the order: a value stored goes through a translation, and a
value deferred waits for a page that is loading. -/
theorem OpsOrdered.ioDone (ordered : k.OpsOrdered d) (settled : k.Settled d)
    (owned : k.SlotsOwned d) (c : IoCompletion) : (k.ioDone c).OpsOrdered d := by
  cases c with
  | write pid => exact ordered.reschedule (unscheduled_paging.unblock _ _ _)
  | read pid addr value =>
    by_cases live : k.sched.contains pid = true
    · rcases translated : k.mm.translate k.sched pid addr true with ⟨err | pa, mm, s⟩
      · have base : ({ k with mm, sched := s } : Kernel).OpsOrdered d :=
          ordered_access settled owned ordered translated rfl rfl
        cases err with
        | pageFault page =>
          rw [ioDone_read_pageFault live translated]
          -- the value waits for the page the translation faulted on, which is loading
          have agree := settled.frames.agree.translate pid addr true
          have shape := shapeKept_translate k.mm k.sched pid addr true
          rw [translated] at agree shape
          have loading := translate_pageFault_loading settled.frames.agree translated
          rw [translate_pageFault_page translated, ← shape.pageSize] at loading
          have deferred : SavesOrdered mm.pageSize (deferInput s pid addr value)
              (d.held ++ mm.queue) := by
            unfold deferInput
            split
            · exact base
            · exact SavesOrdered.setInput base pid _ value fun cb found =>
                entry_of_loading agree loading found
          exact (deferred.of_sameOn (unscheduled_paging.block _ _ _)).of_sameOn
            (unscheduled_paging.unblock _ _ _)
        | invalidAddress =>
          simp only [Kernel.ioDone, live, Bool.not_true, Bool.false_eq_true, if_false, translated]
          exact base.terminate pid _
        | framesExhausted =>
          rw [ioDone_read_framesExhausted live translated]
          exact base
      · rw [ioDone_read_ok live translated]
        exact (ordered_access settled owned ordered translated rfl rfl).reschedule
          (unscheduled_paging.unblock _ _ _)
    · simp only [Kernel.ioDone, live, Bool.not_false, if_true]
      exact ordered

/-- Creating a process keeps the order: the new process keeps no page on the disk and no console
value, no operation outstanding is for it, and installing its first page queues nothing. -/
theorem OpsOrdered.createProcess (ordered : k.OpsOrdered d) (settled : k.Settled d)
    (name : String) : (k.createProcess name).2.OpsOrdered d := by
  cases found : Program.find? name with
  | none =>
    simp only [Kernel.createProcess, found]
    exact ordered
  | some program =>
    cases halted : k.halted with
    | some e =>
      simp only [Kernel.createProcess, found, halted, Option.isSome_some, if_true]
      exact ordered
    | none =>
      have spec := loadInitial_spec k.mm (blank_of_new k.nextPid program k.config.pageSize)
      have shape :=
        shapeKept_loadInitial k.mm (ControlBlock.new k.nextPid program k.config.pageSize)
      rcases loaded : k.mm.loadInitial (ControlBlock.new k.nextPid program k.config.pageSize) with
        ⟨placed, mm, cb⟩
      rw [loaded] at spec shape
      obtain ⟨pt, rfl, -⟩ := spec.table
      rw [createProcess_of_found found halted loaded]
      show SavesOrdered mm.pageSize ((k.sched.insert _).addToReady k.nextPid .created)
        (d.held ++ mm.queue)
      rw [shape.pageSize, spec.queue]
      -- every operation outstanding was made for a process created before
      refine (SavesOrdered.insert ordered (fun op mem => Nat.ne_of_lt ?_)
        (fun g e entry => (spec.lazy g e entry).2.1) rfl).of_sameOn
        (unscheduled_paging.addToReady _ _)
      exact settled.protocol.ops_issued op (List.mem_append.2 (List.mem_append.1 mem).symm)

/-- Every event in order keeps the order of the disk operations outstanding. -/
theorem OpsOrdered.happen (settled : k.Settled d) (stored : k.Stored d) (e : Event)
    (inOrder : e.inOrder = true) : (k.happen d e).1.OpsOrdered (k.happen d e).2 := by
  have ordered := stored.ordered
  cases e with
  | create name => exact ordered.createProcess settled name
  | remove pid =>
    simp only [Kernel.happen, Kernel.removeProcess]
    split
    · exact ordered.terminate pid _
    · exact ordered
  | exec pid =>
    simp only [Kernel.happen, Kernel.execProcess]
    split
    · exact ordered
    · split
      all_goals first
        | exact ordered
        | exact ordered.reschedule (unscheduled_paging.release pid)
  | setAuto on => exact ordered.reschedule fun _ => rfl
  | step => exact OpsOrdered.step settled stored
  | dispatch =>
    simp only [Kernel.happen, Kernel.dispatchNext]
    split
    · exact ordered
    · exact ordered.reschedule unscheduled_paging.dispatchNext
  | takeDisk =>
    show SavesOrdered k.mm.pageSize k.sched ((d.held ++ k.mm.queue) ++ [])
    rw [List.append_nil]
    exact ordered
  | perform i =>
    simp only [Event.inOrder, beq_iff_eq] at inOrder
    subst inOrder
    simp only [Kernel.happen]
    split
    · rename_i op first
      -- the disk carries out the oldest operation it holds
      cases held : d.held with
      | nil =>
        rw [held] at first
        cases first
      | cons op' rest =>
        rw [held] at first
        cases first
        simp only [List.eraseIdx_cons_zero]
        exact OpsOrdered.perform settled stored held
    · exact ordered
  | drop i => cases inOrder
  | takeConsole => exact ordered
  | answer i value =>
    simp only [Kernel.happen]
    split
    · exact ordered.ioDone settled stored.owned _
    · exact ordered

/-- Every event in order keeps what paging stores. -/
theorem Stored.happen (settled : k.Settled d) (stored : k.Stored d) (e : Event)
    (inOrder : e.inOrder = true) : (k.happen d e).1.Stored (k.happen d e).2 :=
  ⟨stored.owned.happen settled.sched e, stored.bounded.happen settled.sched e,
    OpsOrdered.happen settled stored e inOrder⟩

end Kernel

end PagedMachine
