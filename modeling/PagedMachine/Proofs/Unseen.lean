import PagedMachine.Proofs.Shadow

/-!
# Changes no process sees

Most of what the kernel does leaves every process where it was. Scheduling moves contexts
between the processor and the control blocks; paging moves words between frames, saves in
flight, swap slots and the image; ending a process takes that process away and no word of
another. `Kernel.Unseen` says so of a change: every process live after it was live before, with
the same shape, context, console requests and words. A process that matched its reference
machine before such a change still does (`Kernel.Mirrored.keep`).

Main statements: scheduling (`unseen_reschedule`), ending a process (`unseen_terminate`),
halting, handling any trap of the processor (`unseen_handle_trap`), the user's calls other than
creating a process, taking the queues, and the disk carrying out the oldest operation it holds
(`unseen_perform`) are changes no process sees.
-/

namespace PagedMachine

/-- An operation the disk had no room for changed neither the slots' contents nor the page
size: it was a save that stored nothing. -/
theorem SwapDisk.perform_diskFull {disk : SwapDisk} {op : DiskOperation}
    (full : (disk.perform op).1.result = .diskFull) :
    (disk.perform op).2.contents = disk.contents ∧
      (disk.perform op).2.pageSize = disk.pageSize := by
  unfold SwapDisk.perform SwapDisk.perform? at full ⊢
  rcases op with ⟨pid, page, frame, kind⟩
  cases kind with
  | save data slot =>
    cases slot with
    | none => exact ⟨rfl, rfl⟩
    | some n =>
      simp only [SwapDisk.save] at full ⊢
      split
      · rename_i inside
        simp [inside] at full
      · exact ⟨rfl, rfl⟩
  | load source =>
    cases loaded : disk.load page source <;> simp [loaded] at full

/-- An operation that loads names where it loads from. -/
theorem DiskOperation.kind_of_isLoad {op : DiskOperation} (loaded : op.isLoad = true) :
    ∃ src, op.kind = .load src := by
  unfold DiskOperation.isLoad at loaded
  cases kind : op.kind with
  | load src => exact ⟨src, rfl⟩
  | save data slot =>
    rw [kind] at loaded
    cases loaded

namespace Kernel

open Scheduler MemoryManager Reference

variable {k k' k'' : Kernel} {d d' d'' : Devices}

/-- No process sees the change from `k` to `k'`. -/
def Unseen (k : Kernel) (d : Devices) (k' : Kernel) (d' : Devices) : Prop :=
  ∀ q, SeesNothing k d k' d' q

/-- Doing nothing is a change no process sees. -/
theorem Unseen.refl (k : Kernel) (d : Devices) : Unseen k d k d := fun _ cb found =>
  ⟨cb, found, rfl, rfl, rfl, fun running => ⟨running, fun _ => rfl⟩⟩

/-- Two changes no process sees make one no process sees. -/
theorem Unseen.trans (first : Unseen k d k' d') (second : Unseen k' d' k'' d'') :
    Unseen k d k'' d'' :=
  fun q => (first q).trans (second q)

/-- Every live process matches its reference machine after its own inputs. -/
def Mirrored (k : Kernel) (d : Devices) (inputs : Nat → List Input) : Prop :=
  ∀ q cb, k.sched.get? q = some cb → k.Matches d (inputs q) q cb

variable {inputs : Nat → List Input}

/-- A process that matched its reference machine still does after a change no process sees. -/
theorem Mirrored.keep (mirrored : k.Mirrored d inputs) (unseen : Unseen k d k' d')
    (config : k'.config = k.config) : k'.Mirrored d' inputs := fun q cb' found' => by
  obtain ⟨cb, found, -⟩ := unseen q cb' found'
  exact (mirrored q cb found).keep found (unseen q) config found'

/-- A change that keeps every word, every context and every console request, and halts no kernel, is
one no process sees. -/
theorem unseen_of
    (words : WordsKept k.mm k.sched (k.outstanding d) k'.mm k'.sched (k'.outstanding d'))
    (contexts : ContextsKept k.sched k'.sched) (requests : ∀ q, k'.pending d' q = k.pending d q)
    (halted : k'.halted = none → k.halted = none) : Unseen k d k' d' :=
  fun q => seesNothing_of words contexts (requests q) halted

/-- Scheduling that keeps what paging owns and every context is seen by no process. -/
theorem unseen_reschedule {s : Scheduler} (paging : SameOn ControlBlock.paging k.sched s)
    (contexts : ContextsKept k.sched s) : Unseen k d { k with sched := s } d :=
  unseen_of (wordsKept_of_sameOn paging) contexts (fun _ => rfl) id

/-- A dispatch is a change no process sees. -/
theorem unseen_dispatchNext (wf : k.sched.TableWF) :
    Unseen k d { k with sched := k.sched.dispatchNext.2 } d :=
  unseen_reschedule unscheduled_paging.dispatchNext (.dispatchNext wf)

/-- Dispatching before a step is a change no process sees. -/
theorem unseen_dispatched (wf : k.sched.TableWF) : Unseen k d k.dispatched d := by
  unfold dispatched
  split
  · exact unseen_dispatchNext wf
  · exact .refl k d

/-- Halting is a change no process sees. -/
theorem unseen_halt (e : KernelError) : Unseen k d (k.halt e) d := fun _ cb found =>
  ⟨cb, found, rfl, rfl, rfl, fun running => by cases running⟩

/-- Ending a process gives back its frames and slots when it is live, removes it, and hands the
processor on. -/
theorem terminate_eq (k : Kernel) (pid : Nat) (cause : Cause) :
    k.terminate pid cause = { k with
      mm := ((k.sched.get? pid).map k.mm.release).getD k.mm
      sched := (k.sched.removeProcess pid cause).2.dispatchNext.2 } := by
  unfold terminate
  simp only []
  rw [fst_removeProcess]
  cases k.sched.get? pid <;> rfl

/-- Ending a process is seen by no process: it is gone, and every other keeps its words, since
no page of another keeps a slot it gives back. -/
theorem unseen_terminate (agree : k.sched.QueuesAgree)
    (slots : SlotsAgree k.mm.swap (slotOf k.sched)) (pid : Nat) (cause : Cause) : Unseen k d (k.terminate pid cause) d := by
  have removed : WordsKept k.mm k.sched (k.outstanding d)
      (((k.sched.get? pid).map k.mm.release).getD k.mm) (k.sched.removeProcess pid cause).2
      (k.outstanding d) := by
    cases found : k.sched.get? pid with
    | none =>
      have same : (k.sched.removeProcess pid cause).2 = k.sched := by
        unfold Scheduler.removeProcess
        rw [if_neg (by simp [contains_eq_isSome, found])]
      rw [same]
      exact .refl _ _ _
    | some cb => exact wordsKept_release slots found cause
  -- giving back memory queues nothing
  have queue : (((k.sched.get? pid).map k.mm.release).getD k.mm).queue = k.mm.queue := by
    cases k.sched.get? pid <;> rfl
  rw [terminate_eq]
  refine unseen_of ?_ ((ContextsKept.removeProcess agree.wf pid cause).trans
    (.dispatchNext (agree.removeProcess pid cause).wf)) (fun _ => rfl) id
  show WordsKept _ _ _ _ _ (d.held ++ (((k.sched.get? pid).map k.mm.release).getD k.mm).queue)
  rw [queue]
  exact removed.trans (wordsKept_of_sameOn unscheduled_paging.dispatchNext)

/-- Ending the running process is a change no surviving process sees. -/
theorem unseen_endRunning (agree : k.sched.QueuesAgree)
    (slots : SlotsAgree k.mm.swap (slotOf k.sched)) (cause : Cause) :
    Unseen k d (k.endRunning cause) d := by
  unfold endRunning
  split
  · exact unseen_terminate agree slots _ cause
  · exact .refl k d

/-- Handling a trap of the processor is seen by no process: it moves the running process off the
processor, ends it, or halts the kernel. -/
theorem unseen_handle_trap (agree : k.sched.QueuesAgree)
    (slots : SlotsAgree k.mm.swap (slotOf k.sched)) (t : Trap) :
    Unseen k d (k.handle (.trap t)) d := by
  have blocked : ∀ reason cause,
      Unseen k d { k with sched := k.sched.blockRunning reason cause } d := fun reason cause =>
    unseen_reschedule (unscheduled_paging.blockRunning reason cause)
      (.blockRunning agree.wf reason cause)
  cases t with
  | timer => exact unseen_reschedule unscheduled_paging.onTimerExpired (.onTimerExpired agree.wf)
  | pageFault page =>
    simp only [handle]
    split
    · exact blocked _ _
    · exact .refl k d
  | ioWait => exact blocked _ _
  | framesExhausted => exact unseen_halt _
  | invalidAddress => exact unseen_endRunning agree slots _
  | overflow => exact unseen_endRunning agree slots _
  | invalidInstruction => exact unseen_endRunning agree slots _
  | stop => exact unseen_endRunning agree slots _

/-- A new processor state is seen by no process but the one running. -/
theorem seesNothing_withCpu {pid : Nat} (running : k.sched.running = some pid)
    (wf : k.sched.TableWF) (cpu : Cpu) {q : Nat} (other : q ≠ pid) :
    SeesNothing k d (k.withCpu cpu) d q := fun cb found =>
  ⟨cb, found, rfl, by
    have idle : k.sched.running ≠ some cb.pid := by
      rw [running, wf.pid_eq found]
      exact fun same => other (Option.some.inj same).symm
    simp only [withCpu, contextOf, idle, if_false],
    rfl, fun halted => ⟨halted, fun _ => rfl⟩⟩

/-- Removing a process is a change no surviving process sees. -/
theorem unseen_removeProcess (agree : k.sched.QueuesAgree)
    (slots : SlotsAgree k.mm.swap (slotOf k.sched)) (pid : Nat) :
    Unseen k d (k.removeProcess pid).2 d := by
  unfold removeProcess
  split
  · exact unseen_terminate agree slots pid _
  · exact .refl k d

/-- Releasing a process for execution is a change no process sees. -/
theorem unseen_execProcess (pid : Nat) : Unseen k d (k.execProcess pid).2 d := by
  unfold execProcess
  split
  · exact .refl k d
  · split
    all_goals first
      | exact .refl k d
      | exact unseen_reschedule (unscheduled_paging.release pid) (.release pid)

/-- Switching automatic scheduling is a change no process sees. -/
theorem unseen_setAuto (on : Bool) : Unseen k d (k.setAuto on) d :=
  unseen_reschedule (fun _ => rfl) (.setAuto on)

/-- The user's dispatch is a change no process sees. -/
theorem unseen_dispatch (wf : k.sched.TableWF) : Unseen k d k.dispatchNext.2 d := by
  unfold Kernel.dispatchNext
  split
  · exact .refl k d
  · exact unseen_dispatchNext wf

/-- Taking the disk queue moves its operations to the disk, in order. -/
theorem unseen_takeDisk :
    Unseen k d k.takeDiskQueue.2 { d with held := d.held ++ k.mm.queue } := by
  have kept : WordsKept k.mm k.sched (k.outstanding d) { k.mm with queue := [] } k.sched
      (k.outstanding d) := wordsKept_of_store ⟨rfl, rfl, rfl, rfl⟩
  refine unseen_of ?_ (.refl _) (fun _ => rfl) id
  simpa [outstanding, takeDiskQueue, MemoryManager.takeQueue] using kept

/-- Taking the console queue moves its requests to the console, in order. -/
theorem unseen_takeConsole :
    Unseen k d k.takeConsoleQueue.2 { d with taken := d.taken ++ k.console } :=
  unseen_of (.refl _ _ _) (.refl _) (fun _ => by simp [pending, takeConsoleQueue]) id

/-- A process not live after a change sees nothing of it. -/
theorem seesNothing_of_gone {q : Nat} (gone : k'.sched.get? q = none) : SeesNothing k d k' d' q :=
  fun cb' found' => by
    rw [gone] at found'
    cases found'

/-- An ended process is not live. -/
theorem get?_terminate_self (k : Kernel) (pid : Nat) (cause : Cause) :
    (k.terminate pid cause).sched.get? pid = none := by
  have kept := unscheduled_paging.dispatchNext (s := (k.sched.removeProcess pid cause).2) pid
  rw [get?_removeProcess, if_pos rfl, Option.map_none] at kept
  rw [terminate_eq]
  exact Option.map_eq_none_iff.1 kept

/-- Dropping the oldest operation outstanding, with only the disk's counters changed, is seen by
no process but the one the operation was made for: the latest save of every other page is the
same without it. -/
theorem seesNothing_dropHead {op : DiskOperation}
    (listed : k.outstanding d = op :: k'.outstanding d') (store : SameStore k.mm k'.mm)
    (sched : k'.sched = k.sched) (wf : k.sched.TableWF) (positive : 0 < k.mm.pageSize)
    (halted : k'.halted = k.halted) {q : Nat} (requests : k'.pending d' q = k.pending d q)
    (other : q ≠ op.pid) :
    SeesNothing k d k' d' q := by
  intro cb found'
  rw [sched] at found'
  have owner : cb.pid = q := wf.pid_eq found'
  refine ⟨cb, found', rfl, by rw [sched], requests, fun running => ⟨halted ▸ running, fun a => ?_⟩⟩
  rw [listed]
  refine wordAt?_congr store.pageSize rfl (fun _ => rfl) (fun page e e' entry entry' i _ => ?_)
    positive a
  rw [entry, Option.some.injEq] at entry'
  subst entry'
  refine pageWord_congr store rfl rfl rfl rfl ?_ i
  have unsaved : op.savedOf cb.pid page = none := by
    rw [owner]
    exact if_neg fun both => other both.1.symm
  rw [latestSave_cons, unsaved, Option.or_none]

/-- The disk carrying out the oldest operation it holds, its completion handled, is seen by no
process. A load brings what its page held, since no save of the page waits behind it; a save
goes into the slot its page keeps, or into one no live page reads before a later save; and a
save the disk has no room for ends the process it was made for, whose words no other process
reads. -/
theorem unseen_perform (settled : k.Settled d) (stored : k.Stored d) {op : DiskOperation}
    {rest : List DiskOperation} (held : d.held = op :: rest) :
    Unseen k d (k.perform op).2 { d with held := rest } := by
  have wf := settled.sched.agree.wf
  have listed : k.outstanding d = op :: (rest ++ k.mm.queue) := by
    rw [outstanding, held, List.cons_append]
  have ordered : SavesOrdered k.mm.pageSize k.sched (op :: (rest ++ k.mm.queue)) :=
    listed ▸ stored.ordered
  obtain ⟨cPid, cPage, cFrame, loads⟩ := SwapDisk.perform_spec k.mm.swap op
  show Unseen k d (({ k with mm := { k.mm with swap := (k.mm.swap.perform op).2 } } :
    Kernel).diskDone (k.mm.swap.perform op).1) { d with held := rest }
  unfold Kernel.diskDone
  cases result : (k.mm.swap.perform op).1.result with
  | loaded data =>
    obtain ⟨src, kind⟩ := DiskOperation.kind_of_isLoad (loads.2 ⟨data, result⟩)
    have loading : k.sched.contains op.pid = true → Loading k.sched op.pid op.page :=
      settled.loadsLoading op (by rw [listed]; exact List.mem_cons_self) (loads.2 ⟨data, result⟩)
    have words := wordsKept_loadHead wf settled.frames.agree stored.bounded.fits ordered loading
      kind result
    have contexts := contextsKept_completeLoad wf
      { k.mm with swap := (k.mm.swap.perform op).2 } op.pid op.page op.frame data
    have queue := queue_completeLoad
      { k.mm with swap := (k.mm.swap.perform op).2 } k.sched op.pid op.page op.frame data
    dsimp only
    rw [cPid, cPage, cFrame]
    rcases completed : MemoryManager.completeLoad { k.mm with swap := (k.mm.swap.perform op).2 }
      k.sched op.pid op.page op.frame data with ⟨woken, mm, s⟩
    rw [completed] at words contexts queue
    have arrived : Unseen k d { k with mm, sched := s } { d with held := rest } := by
      refine unseen_of ?_ contexts (fun _ => rfl) id
      show WordsKept _ _ _ mm s (rest ++ mm.queue)
      rw [listed, queue]
      exact words
    cases woken with
    | none => exact arrived
    | some pid =>
      exact arrived.trans
        (unseen_reschedule (unscheduled_paging.unblock pid _ _) (.unblock pid _ _))
  | saved n =>
    obtain ⟨data, kind⟩ := perform_saved result
    have words := wordsKept_saveHead wf ordered result
    dsimp only
    rw [cPid, cPage, ordered.completeSave_eq kind]
    refine unseen_of ?_ (.refl _) (fun _ => rfl) id
    show WordsKept _ _ _ _ _ (rest ++ k.mm.queue)
    rw [listed]
    exact words
  | diskFull =>
    obtain ⟨contents, diskPage⟩ := SwapDisk.perform_diskFull result
    obtain ⟨reserved, inUse⟩ := SwapDisk.perform_reserved (d := k.mm.swap) op
    -- the save is dropped, which only the process it was made for could see
    have dropped : ∀ q, q ≠ op.pid → SeesNothing k d
        { k with mm := { k.mm with swap := (k.mm.swap.perform op).2 } } { d with held := rest } q :=
      fun q other => by
        refine seesNothing_dropHead ?_ ?_ ?_ wf stored.bounded.fits.page_pos ?_ ?_ other
        exacts [listed, ⟨rfl, rfl, contents, diskPage⟩, rfl, rfl, rfl]
    dsimp only
    rw [cPid]
    split
    · have ended := unseen_terminate (d := { d with held := rest })
        (k := { k with mm := { k.mm with swap := (k.mm.swap.perform op).2 } }) settled.sched.agree
        (stored.owned.agree.congr reserved inUse rfl) op.pid .diskFull
      intro q
      by_cases mine : q = op.pid
      · subst mine
        exact seesNothing_of_gone (get?_terminate_self _ _ _)
      · exact (dropped q mine).trans (ended q)
    · rename_i dead
      intro q
      by_cases mine : q = op.pid
      · subst mine
        exact seesNothing_of_gone (by simpa [contains_eq_isSome] using dead)
      · exact dropped q mine

end Kernel

end PagedMachine
