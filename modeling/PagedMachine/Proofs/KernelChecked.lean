import PagedMachine.Proofs.KernelBounds
import PagedMachine.Proofs.KernelFrames

/-!
# No operation of the kernel fails a check

The kernel indexes memory, the frame table and the disk directly. Its checked forms give nothing
where an index would be out of range, the count of slots in use would drop below zero, an image
page could not be cut, a page count would be taken with pages of no words, or the pid counter
would reach 2^64; a step watches every access of its instruction (`Bus.watched`) and gives
nothing when one translates to an address outside memory (`accessOk`).

Under the invariants every run keeps (`Kernel.Checked`: queues, frames and bounds), each checked
form is defined and is the operation itself. Along every run from a new kernel made of any calls
but carrying out a disk operation directly, and of any events of a served run, in which fewer
than 2^64 - 1 processes are created, the checked run is the run, every program counter stays at
most 2^31, and every peek is in range (`occurAll_checked`).
-/

namespace PagedMachine

namespace Kernel

open Scheduler MemoryManager

variable {k : Kernel} {held : List DiskOperation}

/-- What the checked forms need of a kernel whose disk holds `held`: its queues agree, its frames
agree with the page tables, and its indexings are in bounds. -/
structure Checked (held : List DiskOperation) (k : Kernel) : Prop where
  sched : k.Scheduled
  frames : k.FramesOk
  bounded : k.Bounded held

/-! ## Checked forms of the operations -/

/-- Ending a process, with its slots released as the disk is indexed. -/
def terminate? (k : Kernel) (pid : Nat) (cause : Cause) : Option Kernel := do
  let (cb?, sched) := k.sched.removeProcess pid cause
  let mm ← match cb? with
    | some cb => k.mm.release? cb
    | none => pure k.mm
  pure { k with mm, sched := sched.dispatchNext.2 }

/-- Ending the running process, if any, with every indexing checked. -/
def endRunning? (k : Kernel) (cause : Cause) : Option Kernel :=
  match k.sched.running with
  | some pid => k.terminate? pid cause
  | none => some k

/-- A disk completion, with the load installed as memory and the frame table are indexed. -/
def diskDone? (k : Kernel) (c : Completion) : Option Kernel :=
  match c.result with
  | .loaded data => do
    let (woken, mm, sched) ← k.mm.completeLoad? k.sched c.pid c.page c.frame data
    let sched := match woken with
      | some pid => (sched.unblock pid BlockReason.pageFaultOnly .pageLoaded).2
      | none => sched
    pure { k with mm, sched }
  | .saved slot => some { k with sched := MemoryManager.completeSave k.sched c.pid c.page slot }
  | .diskFull => if k.sched.contains c.pid then k.terminate? c.pid .diskFull else some k

/-- A console completion, with the value read stored as memory is indexed. -/
def ioDone? (k : Kernel) : IoCompletion → Option Kernel
  | .write pid => some (k.ioDone (.write pid))
  | .read pid addr value =>
    if !k.sched.contains pid then some k
    else do
      match ← k.mm.translate? k.sched pid addr true with
      | (.ok pa, mm, sched) =>
        let mm ← mm.write? pa (.data value)
        pure { k with mm, sched := (sched.unblock pid BlockReason.ioOnly .ioCompleted).2 }
      | (.error (.pageFault _), mm, sched) =>
        let sched := (deferInput sched pid addr value).block pid BlockReason.pageFaultOnly .pageFault
        pure { k with mm, sched := (sched.unblock pid BlockReason.ioOnly .ioCompleted).2 }
      | (.error .invalidAddress, mm, sched) => Kernel.terminate? { k with mm, sched } pid .invalidAddress
      | (.error .framesExhausted, mm, sched) => pure ({ k with mm, sched }.halt .framesExhausted)

/-- An interrupt, handled as memory, the frame table and the disk are indexed. The timer, a
page fault, a console wait and running out of frames index nothing. -/
def handle? (k : Kernel) : Interrupt → Option Kernel
  | .trap .invalidAddress => k.endRunning? .invalidAddress
  | .trap .overflow => k.endRunning? .overflow
  | .trap .invalidInstruction => k.endRunning? .invalidInstruction
  | .trap .stop => k.endRunning? .stopped
  | .diskDone c => k.diskDone? c
  | .ioDone c => k.ioDone? c
  | irq => some (k.handle irq)

/-- Under `Fits`, ending a process indexes nothing out of range. -/
theorem terminate?_eq (fits : k.mm.Fits) (pid : Nat) (cause : Cause) :
    k.terminate? pid cause = some (k.terminate pid cause) := by
  unfold terminate? Kernel.terminate
  rcases k.sched.removeProcess pid cause with ⟨_ | cb, s⟩
  · rfl
  · dsimp only
    rw [release?_eq fits]
    rfl

/-- Under `Fits`, ending the running process indexes nothing out of range. -/
theorem endRunning?_eq (fits : k.mm.Fits) (cause : Cause) :
    k.endRunning? cause = some (k.endRunning cause) := by
  unfold endRunning? Kernel.endRunning
  cases k.sched.running with
  | some pid => exact terminate?_eq fits pid cause
  | none => rfl

/-- Under `Fits`, handling a finished disk operation indexes nothing out of range. -/
theorem diskDone?_eq (fits : k.mm.Fits) (c : Completion) : k.diskDone? c = some (k.diskDone c) := by
  unfold diskDone? Kernel.diskDone
  cases c.result with
  | loaded data =>
    dsimp only
    rw [completeLoad?_eq fits]
    rfl
  | saved slot => rfl
  | diskFull =>
    dsimp only
    split
    · exact terminate?_eq fits _ _
    · rfl

/-- A console read stores its value at an address translated inside memory. -/
theorem ioDone?_eq (frames : k.FramesOk) (fits : k.mm.Fits) (c : IoCompletion) :
    k.ioDone? c = some (k.ioDone c) := by
  cases c with
  | write pid => rfl
  | read pid addr value =>
    simp only [ioDone?, Kernel.ioDone]
    split
    · rfl
    · rw [translate?_eq fits]
      have kept := fits.keep (shapeKept_translate k.mm k.sched pid addr true)
      rcases translated : k.mm.translate k.sched pid addr true with ⟨_ | pa, mm, s⟩
      · rename_i fault
        rw [translated] at kept
        cases fault with
        | pageFault page => rfl
        | invalidAddress => exact terminate?_eq kept pid _
        | framesExhausted => rfl
      · have ok : (k.mm.translate k.sched pid addr true).1 = .ok pa := by rw [translated]
        have inside := translate_ok_lt fits frames.agree ok
        rw [translated] at inside
        simp only [Option.bind_eq_bind, Option.bind_some, write?_of_lt inside]
        rfl

/-- With frames agreeing and `Fits`, handling any interrupt indexes nothing out of range. -/
theorem handle?_eq (frames : k.FramesOk) (fits : k.mm.Fits) (irq : Interrupt) :
    k.handle? irq = some (k.handle irq) := by
  cases irq with
  | trap t =>
    cases t with
    | invalidAddress | overflow | invalidInstruction | stop => exact endRunning?_eq fits _
    | timer | pageFault _ | ioWait | framesExhausted => rfl
  | diskDone c => exact diskDone?_eq fits c
  | ioDone c => exact ioDone?_eq frames fits c

/-! ## A checked step -/

/-- The check an access of `pid` at `a` makes before it runs: translating the address is
defined, and an address it translates to lies inside memory. -/
def accessOk (pid : Nat) (write : Bool) (a : Int32) (k : Kernel) : Bool :=
  match k.mm.translate? k.sched pid a write with
  | some (.ok pa, mm, _) => decide (pa < mm.memory.size)
  | some (.error _, _, _) => true
  | none => false

/-- The bus of `pid`, watched by the checks of its reads, writes and probes. -/
def watchedBus (pid limit : Nat) : Bus (Kernel × Bool) :=
  (bus pid limit).watched (accessOk pid false) (accessOk pid true) (accessOk pid true)

/-- A step whose instruction runs on the watched bus: nothing when an access fails its check,
and the trap handled as checked. -/
def step? (k : Kernel) : Option Kernel :=
  if k.halted.isSome then some k
  else match k.dispatched.sched.running with
    | none => some k.dispatched
    | some pid =>
      let limit := ((k.dispatched.sched.get? pid).map (·.size)).getD 0
      let r := (k.dispatched.sched.cpu.step (watchedBus pid limit)).run (k.dispatched, true)
      if r.2.2 then
        match r.1.2 with
        | some t => (r.2.1.withCpu r.1.1).handle? (.trap t)
        | none => some (r.2.1.withCpu r.1.1)
      else none

/-- Every access passes its check when frames agree and memory fits. -/
theorem accessOk_of (frames : k.FramesOk) (fits : k.mm.Fits) (pid : Nat) (write : Bool)
    (a : Int32) : accessOk pid write a k = true := by
  unfold accessOk
  rw [translate?_eq fits]
  rcases translated : k.mm.translate k.sched pid a write with ⟨_ | pa, mm, s⟩
  · rfl
  · have ok : (k.mm.translate k.sched pid a write).1 = .ok pa := by rw [translated]
    have inside := translate_ok_lt fits frames.agree ok
    rw [translated] at inside
    exact decide_eq_true inside

/-- Every access of an instruction keeps the queues, the frames and the bounds. -/
theorem bus_keeps_checked (held : List DiskOperation) (pid limit : Nat) :
    Exec.Keeps (bus pid limit)
      (fun k => ((k.Scheduled ∧ k.sched.running = some pid) ∧ k.FramesOk) ∧ k.Bounded held)
      fun _ k => (k.Scheduled ∧ k.FramesOk) ∧ k.Bounded held :=
  ((bus_keeps_scheduled pid limit).and (bus_keeps_frames pid limit)).and
    (bus_keeps_bounded held pid limit)

/-- Dispatching before a step keeps every check passing. -/
theorem Checked.dispatched (checked : k.Checked held) : k.dispatched.Checked held := by
  unfold Kernel.dispatched
  split
  · exact ⟨checked.sched.reschedule checked.sched.agree.dispatchNext
        unscheduled_pageTable.dispatchNext,
      checked.frames.reschedule unscheduled_pageTable.dispatchNext,
      checked.bounded.reschedule unscheduled_layout.dispatchNext checked.bounded.pcs.dispatchNext⟩
  · exact checked

/-- Whatever the instruction of the running process does, it leaves the invariants. -/
theorem Checked.instruction (checked : k.Checked held) {pid : Nat}
    (current : k.sched.running = some pid) (limit : Nat) :
    ((k.sched.cpu.step (bus pid limit)).run k).2.Checked held := by
  have outcome := @Cpu.step_post _ _ _ (fun k => (k.Scheduled ∧ k.FramesOk) ∧ k.Bounded held) _
    (bus_keeps_checked held pid limit)
    (fun kind k' h => ⟨⟨⟨h.1.1.1.agree, h.1.1.1.issued⟩, ⟨h.1.2.agree, h.1.2.size⟩⟩,
      h.2.requestIo pid limit kind⟩)
    k.sched.cpu _ ⟨⟨⟨checked.sched, current⟩, checked.frames⟩, checked.bounded⟩
  rcases outcome with ⟨_, h⟩ | ⟨_, h⟩ | ⟨_, h⟩ | ⟨_, _, h⟩
  · exact ⟨h.1.1.1, h.1.2, h.2⟩
  · exact ⟨h.1.1.1, h.1.2, h.2⟩
  · exact ⟨h.1.1, h.1.2, h.2⟩
  · exact ⟨h.1.1, h.1.2, h.2⟩

/-- Under the invariants every access of an instruction passes its check, so the watched run
ends with its flag set. -/
theorem Checked.watched (checked : k.Checked held) {pid : Nat}
    (current : k.sched.running = some pid) (limit : Nat) :
    ((k.sched.cpu.step (watchedBus pid limit)).run (k, true)).2.2 = true := by
  have keeps := (bus_keeps_checked held pid limit).watched
    (fun a k' h => accessOk_of h.1.2 h.2.fits pid false a)
    (fun a k' h => accessOk_of h.1.2 h.2.fits pid true a)
    (fun a k' h => accessOk_of h.1.2 h.2.fits pid true a)
  have outcome := @Cpu.step_post _ _ _ (fun s => s.2 = true) _ keeps (fun kind s h => h.1)
    k.sched.cpu (k, true) ⟨rfl, ⟨⟨checked.sched, current⟩, checked.frames⟩, checked.bounded⟩
  rcases outcome with ⟨_, h⟩ | ⟨_, h⟩ | ⟨_, h⟩ | ⟨_, _, h⟩
  · exact h.1
  · exact h.1
  · exact h
  · exact h.1

/-- Under the invariants a checked step is the step. -/
theorem step?_eq (checked : k.Checked held) : k.step? = some k.step.2 := by
  rw [step_eq]
  unfold step?
  split
  · rfl
  · have ready := checked.dispatched
    cases current : k.dispatched.sched.running with
    | none => rfl
    | some pid =>
      -- watching changes nothing the instruction does, and every check passes
      have flag := ready.watched current (((k.dispatched.sched.get? pid).map (·.size)).getD 0)
      have after := ready.instruction current (((k.dispatched.sched.get? pid).map (·.size)).getD 0)
      obtain ⟨sameResult, sameState⟩ := Cpu.step_watched (bus pid _) (accessOk pid false)
        (accessOk pid true) (accessOk pid true) k.dispatched.sched.cpu k.dispatched true
      dsimp only
      rw [if_pos flag]
      simp only [watchedBus] at sameResult sameState ⊢
      rw [sameResult, sameState]
      generalize (k.dispatched.sched.cpu.step (bus pid _)).run k.dispatched = r at after ⊢
      rcases r with ⟨⟨cpu, _ | t⟩, k'⟩
      · rfl
      · exact handle?_eq (after.frames.withCpu cpu) after.bounded.fits _

/-! ## Checked calls, events and runs -/

/-- A new process, with its page count taken with pages of at least one word, its first page
filled as memory is indexed, and its pid below 2^64 - 1 so that the counter does not wrap. -/
def createProcess? (k : Kernel) (name : String) : Option (Except KernelError Nat × Kernel) :=
  match Program.find? name with
  | none => some (.error (.noSuchProgram name), k)
  | some program =>
    if k.halted.isSome then some (.error .halted, k)
    else if k.nextPid + 1 < Text.unsignedBound then do
      let pid := k.nextPid
      let cb ← ControlBlock.create? pid program k.config.pageSize
      let (_, mm, cb) ← k.mm.loadInitial? cb
      let sched := (k.sched.insert cb).addToReady pid .created
      pure (.ok pid, { k with mm, sched, nextPid := pid + 1 })
    else none

/-- Carrying out a disk operation, with the image page of a load cut as the disk cuts it. -/
def perform? (k : Kernel) (op : DiskOperation) : Option Kernel := do
  let (c, swap) ← k.mm.swap.perform? op
  Kernel.handle? { k with mm := { k.mm with swap } } (.diskDone c)

/-- A call as memory, the frame table and the disk are indexed. Releasing a process, switching
scheduling, dispatching and taking the queues index nothing. -/
def call? (k : Kernel) : Call → Option Kernel
  | .create name => (k.createProcess? name).map (·.2)
  | .remove pid => if k.sched.contains pid then k.terminate? pid .removed else some k
  | .step => k.step?
  | .interrupt irq => k.handle? irq
  | .perform op => k.perform? op
  | c => some (k.call c)

/-- An event of a served run as memory, the frame table and the disk are indexed. -/
def happen? (k : Kernel) (d : Devices) : Event → Option (Kernel × Devices)
  | .create name => (k.call? (.create name)).map (·, d)
  | .remove pid => (k.call? (.remove pid)).map (·, d)
  | .step => k.step?.map (·, d)
  | .perform i =>
    match d.held[i]? with
    | some op => (k.perform? op).map (·, { d with held := d.held.eraseIdx i })
    | none => some (k, d)
  | .answer i value =>
    match d.taken[i]? with
    | some req =>
      (k.handle? (.ioDone (req.answer value))).map (·, { d with taken := d.taken.eraseIdx i })
    | none => some (k, d)
  | e => some (k.happen d e)

/-- An occurrence with every indexing checked. -/
def occur? (k : Kernel) (d : Devices) : Occurrence → Option (Kernel × Devices)
  | .served e => k.happen? d e
  | .call c => (k.call? c).map (·, d)

/-- A checked run: nothing as soon as one occurrence fails a check. -/
def occurAll? (kd : Kernel × Devices) (os : List Occurrence) : Option (Kernel × Devices) :=
  os.foldlM (fun kd o => kd.1.occur? kd.2 o) kd

/-- A peek, with the page number taken with pages of at least one word and memory read as it
is indexed. -/
def peek? (k : Kernel) (pid addr : Nat) : Option (Option Word) :=
  let ps := k.config.pageSize
  if ps = 0 then none
  else
    match k.sched.get? pid with
    | none => some none
    | some cb =>
      match cb.pageTable.get? (addr / ps) with
      | none => some none
      | some e =>
        match e.frame with
        | none => some none
        | some f => (k.mm.read? (f * ps + addr % ps)).map some

/-- Whether an occurrence asks for a new process. -/
def Occurrence.creates : Occurrence → Bool
  | .served (.create _) | .call (.create _) => true
  | _ => false

/-- A new process below the last pid is created as checked. -/
theorem createProcess?_eq (bounded : k.Bounded held) (room : k.nextPid + 1 < Text.unsignedBound)
    (name : String) : k.createProcess? name = some (k.createProcess name) := by
  unfold createProcess? Kernel.createProcess
  cases Program.find? name with
  | none => rfl
  | some program =>
    dsimp only
    by_cases halted : k.halted.isSome
    · simp only [halted, if_true]
    · simp only [halted, room, if_true, ControlBlock.create?,
        if_neg (Nat.ne_of_gt bounded.page_pos), Option.bind_eq_bind, Option.bind_some,
        loadInitial?_eq bounded.fits]
      rfl

/-- A disk operation whose image page can be cut is carried out as checked. -/
theorem perform?_eq (checked : k.Checked held) {op : DiskOperation}
    (cut : op.Cuttable k.config.pageSize) : k.perform? op = some (k.perform op).2 := by
  have cut' : op.Cuttable k.mm.swap.pageSize := by
    rw [checked.bounded.diskPage]
    exact cut
  unfold perform? Kernel.perform
  rw [SwapDisk.perform?_eq cut', Option.bind_eq_bind, Option.bind_some]
  have swapped : ({ k with mm := { k.mm with swap := (k.mm.swap.perform op).2 } } :
      Kernel).FramesOk := ⟨checked.frames.agree, checked.frames.size⟩
  exact handle?_eq swapped (checked.bounded.withSwap op).fits _

/-- A checked kernel makes every call but a direct disk operation with no failed check, when the pid
counter has room. -/
theorem call?_eq (checked : k.Checked held) {c : Call}
    (room : (Occurrence.call c).creates = true → k.nextPid + 1 < Text.unsignedBound)
    (direct : ∀ op, c ≠ .perform op) : k.call? c = some (k.call c) := by
  cases c with
  | create name =>
    simp only [call?, createProcess?_eq checked.bounded (room rfl), Option.map_some]
    rfl
  | remove pid =>
    simp only [call?, Kernel.call, Kernel.removeProcess]
    split
    · exact terminate?_eq checked.bounded.fits pid _
    · rfl
  | step => exact step?_eq checked
  | interrupt irq => exact handle?_eq checked.frames checked.bounded.fits irq
  | perform op => exact absurd rfl (direct op)
  | exec _ | setAuto _ | dispatch | takeDisk | takeConsole => rfl

/-- Every event of a served run passes its checks: the disk carries out only operations the
kernel queued, whose image pages can be cut. -/
theorem happen?_eq {d : Devices} (checked : k.Checked d.held) {e : Event}
    (room : (Occurrence.served e).creates = true → k.nextPid + 1 < Text.unsignedBound) :
    k.happen? d e = some (k.happen d e) := by
  cases e with
  | create name =>
    simp only [happen?, call?_eq (c := .create name) checked room (by rintro _ ⟨⟩), Option.map_some]
    rfl
  | remove pid =>
    simp only [happen?, call?_eq (c := .remove pid) checked room (by rintro _ ⟨⟩), Option.map_some]
    rfl
  | step =>
    simp only [happen?, step?_eq checked, Option.map_some]
    rfl
  | perform i =>
    simp only [happen?, Kernel.happen]
    cases found : d.held[i]? with
    | none => rfl
    | some op =>
      have cut := checked.bounded.images op (List.mem_append_right _ (List.mem_of_getElem? found))
      simp only [perform?_eq checked cut, Option.map_some]
  | answer i value =>
    simp only [happen?, Kernel.happen]
    cases d.taken[i]? with
    | none => rfl
    | some req =>
      simp only [handle?_eq checked.frames checked.bounded.fits, Option.map_some]
  | exec _ | setAuto _ | dispatch | takeDisk | drop _ | takeConsole => rfl

/-- A checked kernel lets every event of a served run happen with no failed check, when the pid
counter has room. -/
theorem occur?_eq {d : Devices} (checked : k.Checked d.held) {o : Occurrence}
    (room : o.creates = true → k.nextPid + 1 < Text.unsignedBound)
    (direct : ∀ op, o ≠ .call (.perform op)) : k.occur? d o = some (k.occur d o) := by
  cases o with
  | served e => exact happen?_eq checked room
  | call c =>
    simp only [occur?, call?_eq checked room fun op same => direct op (congrArg _ same),
      Option.map_some]
    rfl

/-- Every occurrence keeps the invariants the checked forms need. -/
theorem Checked.occur {d : Devices} (checked : k.Checked d.held) (o : Occurrence) :
    (k.occur d o).1.Checked (k.occur d o).2.held := by
  cases o with
  | served e =>
    obtain ⟨calls, ran⟩ := happen_fst k d e
    have both := run_keeps (fun k => k.Scheduled ∧ k.FramesOk)
      (fun _ c inv => ⟨inv.1.call c, inv.2.call inv.1 c⟩) calls k ⟨checked.sched, checked.frames⟩
    rw [← ran] at both
    exact ⟨both.1, both.2, checked.bounded.happen checked.sched e⟩
  | call c =>
    exact ⟨checked.sched.call c, checked.frames.call checked.sched c,
      checked.bounded.call checked.sched c⟩

/-- Under the invariants every peek reads inside memory. -/
theorem peek?_eq (checked : k.Checked held) (pid addr : Nat) :
    k.peek? pid addr = some (k.peek pid addr) := by
  unfold peek? Kernel.peek
  dsimp only
  rw [if_neg (Nat.ne_of_gt checked.bounded.page_pos)]
  cases found : k.sched.get? pid with
  | none => rfl
  | some cb =>
    simp only [Option.bind_eq_bind, Option.bind_some]
    cases entry : cb.pageTable.get? (addr / k.config.pageSize) with
    | none => rfl
    | some e =>
      simp only [Option.bind_some]
      cases present : e.frame with
      | none => rfl
      | some f =>
        have resident : residency k.sched pid (addr / k.config.pageSize) =
            some (some f, e.loading) := by
          simp only [residency, entry?, found, Option.bind_some, entry, Option.map_some, present]
        have inside := checked.bounded.fits.present_lt checked.frames.agree resident addr
        rw [checked.bounded.pageSize] at inside
        simp only [read?_of_lt inside, Option.map_some]
        rfl

/-! ## The pid counter -/

/-- Creating a process raises the pid counter by at most one. -/
theorem nextPid_createProcess (k : Kernel) (name : String) :
    (k.createProcess name).2.nextPid ≤ k.nextPid + 1 := by
  unfold Kernel.createProcess
  split
  · exact Nat.le_succ _
  · split
    · exact Nat.le_succ _
    · exact Nat.le_refl _

/-- Only an occurrence asking for a new process moves the pid counter, by one. -/
theorem nextPid_occur (k : Kernel) (d : Devices) (o : Occurrence) :
    (k.occur d o).1.nextPid ≤ k.nextPid + if o.creates then 1 else 0 := by
  have kept : ∀ k' : Kernel, k'.nextPid = k.nextPid →
      k'.nextPid ≤ k.nextPid + if o.creates then 1 else 0 :=
    fun k' same => same ▸ Nat.le_add_right _ _
  have removed : ∀ pid, (k.removeProcess pid).2.nextPid = k.nextPid := by
    intro pid
    unfold Kernel.removeProcess
    split <;> rfl
  have executed : ∀ pid, (k.execProcess pid).2.nextPid = k.nextPid := by
    intro pid
    unfold Kernel.execProcess
    split
    · rfl
    · split <;> rfl
  have dispatched : k.dispatchNext.2.nextPid = k.nextPid := by
    unfold Kernel.dispatchNext
    split <;> rfl
  cases o with
  | served e =>
    cases e with
    | create name => exact nextPid_createProcess k name
    | remove pid => exact kept _ (removed pid)
    | exec pid => exact kept _ (executed pid)
    | step => exact kept _ (untouched_nextPid.step k)
    | dispatch => exact kept _ dispatched
    | perform i =>
      refine kept _ ?_
      simp only [occur, Kernel.happen]
      split
      · exact untouched_nextPid.handle _ _
      · rfl
    | answer i value =>
      refine kept _ ?_
      simp only [occur, Kernel.happen]
      split
      · exact untouched_nextPid.handle _ _
      · rfl
    | drop i =>
      refine kept _ ?_
      simp only [occur, Kernel.happen]
      split <;> rfl
    | setAuto _ | takeDisk | takeConsole => exact kept _ rfl
  | call c =>
    cases c with
    | create name => exact nextPid_createProcess k name
    | remove pid => exact kept _ (removed pid)
    | exec pid => exact kept _ (executed pid)
    | step => exact kept _ (untouched_nextPid.step k)
    | dispatch => exact kept _ dispatched
    | interrupt irq => exact kept _ (untouched_nextPid.handle k irq)
    | perform op => exact kept _ (untouched_nextPid.handle _ _)
    | setAuto _ | takeDisk | takeConsole => exact kept _ rfl

/-! ## Runs -/

/-- Along a run with room for its new pids and no disk operation carried out directly, every
occurrence passes its checks and keeps the invariants. -/
theorem occurAll?_eq (os : List Occurrence) (direct : ∀ op, Occurrence.call (.perform op) ∉ os)
    (kd : Kernel × Devices) (checked : kd.1.Checked kd.2.held)
    (room : kd.1.nextPid + os.countP Occurrence.creates < Text.unsignedBound) :
    occurAll? kd os = some (occurAll kd os) ∧ (occurAll kd os).1.Checked (occurAll kd os).2.held := by
  induction os generalizing kd with
  | nil => exact ⟨rfl, checked⟩
  | cons o rest ih =>
    obtain ⟨k, d⟩ := kd
    dsimp only at room checked
    rw [List.countP_cons] at room
    have grown := nextPid_occur k d o
    -- the occurrence passes its checks: a new pid still has room
    have first := occur?_eq (o := o) checked (fun creates => by rw [if_pos creates] at room; omega)
      fun op same => direct op (same ▸ List.mem_cons_self)
    -- the rest of the run has room for its new pids after this one's
    have later := ih (fun op mem => direct op (List.mem_cons_of_mem _ mem)) (k.occur d o)
      (checked.occur o) (by omega)
    refine ⟨?_, later.2⟩
    simp only [occurAll?, List.foldlM_cons] at later ⊢
    rw [first, Option.bind_eq_bind, Option.bind_some]
    exact later.1

/-- No operation of the kernel fails a check.

Along any run from a new kernel of a valid configuration, made of any calls with any arguments
(interrupts of any kind included, disk completions with any pid, page, frame or data among them)
but carrying out a disk operation directly, and of the events of a served run, which carry out
exactly the operations the kernel queued: as long as fewer than 2^64 - 1 processes are created,
no operation indexes memory, the frame table or the disk out of range, drops the count of slots
in use below zero, cuts an image page it cannot, divides by a page of no words or wraps the pid
counter, and no access of an instruction translates outside memory. The checked run is the run
itself; every program counter, on the processor or saved, is at most 2^31; and every peek reads
inside memory. -/
theorem occurAll_checked {c : Config} {k : Kernel} (created : Kernel.new c = some (.ok k))
    (os : List Occurrence) (direct : ∀ op, Occurrence.call (.perform op) ∉ os)
    (few : os.countP Occurrence.creates + 1 < Text.unsignedBound) :
    occurAll? (k, {}) os = some (occurAll (k, {}) os) ∧
      (occurAll (k, {}) os).1.sched.ContextsSatisfy (fun cx => cx.pc ≤ Context.pcBound) ∧
      ∀ pid addr, (occurAll (k, {}) os).1.peek? pid addr =
        some ((occurAll (k, {}) os).1.peek pid addr) := by
  have first : k.nextPid = 1 := by
    obtain ⟨-, -, rfl⟩ := Kernel.new_eq_ok.1 created
    rfl
  obtain ⟨ran, checked⟩ := occurAll?_eq os direct (k, {})
    ⟨Scheduled.new created, FramesOk.new created, Bounded.new created⟩ (by dsimp only; omega)
  exact ⟨ran, checked.bounded.pcs, fun pid addr => peek?_eq checked pid addr⟩

/-- The default machine creates a process, runs it, hands its queue to the disk, carries out
the first operation and is handed a completion for a frame it does not have: every check
passes. -/
theorem default_occurAll_checked :
    Kernel.new {} = some (.ok { config := {}, mm := .new {}, sched := .new false 5 }) ∧
      (∀ op, Occurrence.call (.perform op) ∉ [.served (.create "factorial"), .served .step,
        .served .takeDisk, .served (.perform 0),
        .call (.interrupt (.diskDone ⟨1, 3, 1000, .loaded []⟩))]) ∧
      [Occurrence.served (.create "factorial"), .served .step, .served .takeDisk,
        .served (.perform 0), .call (.interrupt (.diskDone ⟨1, 3, 1000, .loaded []⟩))].countP
          Occurrence.creates + 1 < Text.unsignedBound ∧
      occurAll? ({ config := {}, mm := .new {}, sched := .new false 5 }, {})
          [.served (.create "factorial"), .served .step, .served .takeDisk, .served (.perform 0),
            .call (.interrupt (.diskDone ⟨1, 3, 1000, .loaded []⟩))] =
        some (occurAll ({ config := {}, mm := .new {}, sched := .new false 5 }, {})
          [.served (.create "factorial"), .served .step, .served .takeDisk, .served (.perform 0),
            .call (.interrupt (.diskDone ⟨1, 3, 1000, .loaded []⟩))]) := by
  have direct : ∀ op, Occurrence.call (.perform op) ∉ [.served (.create "factorial"),
      .served .step, .served .takeDisk, .served (.perform 0),
      .call (.interrupt (.diskDone ⟨1, 3, 1000, .loaded []⟩))] := by
    intro op mem
    simp only [List.mem_cons, reduceCtorEq, Occurrence.call.injEq, List.not_mem_nil, or_false] at mem
  have few : [Occurrence.served (.create "factorial"), .served .step, .served .takeDisk,
      .served (.perform 0), .call (.interrupt (.diskDone ⟨1, 3, 1000, .loaded []⟩))].countP
        Occurrence.creates + 1 < Text.unsignedBound := by
    decide
  exact ⟨rfl, direct, few, (occurAll_checked (c := {}) rfl _ direct few).1⟩

end Kernel

end PagedMachine
