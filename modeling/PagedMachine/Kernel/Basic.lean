import PagedMachine.MemoryManager
import PagedMachine.Console
import PagedMachine.Cpu.Step
import PagedMachine.Text.Quoted

/-!
# The kernel

The kernel holds paged memory, the scheduler with its processor, the console requests it has
issued and not yet handed over, the next process id and, once it has stopped for good, the
reason it halted. Every operation is one transaction on this state: creating or removing a
process, releasing one for execution, running one instruction, or handling one interrupt.

Devices are outside the kernel. Disk operations wait in the memory manager's queue and
console requests in the kernel's; whoever serves them reports back with an interrupt.

Main statement: a halted kernel runs no instruction and stays halted (`step_halted`).
-/

namespace PagedMachine

/-- Errors of the kernel's operations. -/
inductive KernelError where
  | noSuchProgram (name : String)
  | noSuchProcess (pid : Nat)
  | alreadyRunning (pid : Nat)
  | processBlocked (pid : Nat)
  /-- Every frame is locked by a transfer in flight; nothing can be evicted. -/
  | framesExhausted
  | halted
  | config (e : ConfigError)
  deriving DecidableEq, Repr

namespace KernelError

/-- The name of the kind of error. -/
def kind : KernelError → String
  | noSuchProgram _ => "NoSuchProgram"
  | noSuchProcess _ => "NoSuchProcess"
  | alreadyRunning _ => "AlreadyRunning"
  | processBlocked _ => "ProcessBlocked"
  | framesExhausted => "FramesExhausted"
  | halted => "Halted"
  | config _ => "Config"

/-- The sentence that explains the error. -/
def message : KernelError → String
  | noSuchProgram name => "no program named " ++ Text.quoted name
  | noSuchProcess pid => s!"process with pid: {pid} not found"
  | alreadyRunning pid => s!"process {pid} is already running"
  | processBlocked pid => s!"process {pid} is blocked waiting for the disk or the console"
  | framesExhausted => "all physical frames are locked, kernel halted"
  | halted => "kernel is halted"
  | config e => "invalid configuration: " ++ e.message

end KernelError

/-- Something that needs the kernel's attention: a trap of the processor, or a device that
finished an operation. -/
inductive Interrupt where
  | trap (t : Trap)
  | diskDone (c : Completion)
  | ioDone (c : IoCompletion)
  deriving DecidableEq, Repr

/-- What one call of `Kernel.step` did. -/
inductive StepOutcome where
  /-- One instruction ran; it may have raised an interrupt. -/
  | executed
  /-- Nothing runs and nothing could be dispatched. -/
  | idle
  | halted
  deriving DecidableEq, Repr

/-- The state of the kernel. -/
structure Kernel where
  config : Config
  mm : MemoryManager
  sched : Scheduler
  /-- Console requests issued and not yet handed to the console, oldest first. -/
  console : List IoRequest := []
  nextPid : Nat := 1
  halted : Option KernelError := none
  deriving Repr

namespace Kernel

/-- A kernel for a valid configuration, with no processes. A valid configuration whose memory,
frames or swap slots do not fit in vectors gives nothing at all: allocating them stops the
program before an error can be reported. -/
def new (c : Config) : Option (Except KernelError Kernel) :=
  match c.validate with
  | .error e => some (.error (.config e))
  | .ok () =>
    if c.allocatable then
      some (.ok { config := c, mm := .new c, sched := .new c.autoSchedule c.timeSlice })
    else none

/-- Halts for good. -/
def halt (k : Kernel) (e : KernelError) : Kernel := { k with halted := some e }

/-- Ends `pid`, gives back its memory and hands the processor to the next process. -/
def terminate (k : Kernel) (pid : Nat) (cause : Cause) : Kernel :=
  let (cb?, sched) := k.sched.removeProcess pid cause
  let mm := match cb? with
    | some cb => k.mm.release cb
    | none => k.mm
  { k with mm, sched := sched.dispatchNext.2 }

/-- Ends the running process, if any. -/
def endRunning (k : Kernel) (cause : Cause) : Kernel :=
  match k.sched.running with
  | some pid => k.terminate pid cause
  | none => k

/-- Handles a finished disk operation. A loaded page wakes its process; a lost page ends
its process. -/
def diskDone (k : Kernel) (c : Completion) : Kernel :=
  match c.result with
  | .loaded data =>
    let (woken, mm, sched) := k.mm.completeLoad k.sched c.pid c.page c.frame data
    let sched := match woken with
      | some pid => (sched.unblock pid BlockReason.pageFaultOnly .pageLoaded).2
      | none => sched
    { k with mm, sched }
  | .saved slot => { k with sched := MemoryManager.completeSave k.sched c.pid c.page slot }
  | .diskFull => if k.sched.contains c.pid then k.terminate c.pid .diskFull else k

/-- Keeps a console value until the page of its address arrives. -/
def deferInput (s : Scheduler) (pid : Nat) (addr value : Int32) : Scheduler :=
  if addr.toInt < 0 then s
  else s.modify pid fun cb => { cb with pendingInput := some (addr.toInt.toNat, value) }

/-- Handles a finished console transfer. A value read is stored at its address; if the page
is absent the value waits for it and the process now waits for the page instead. -/
def ioDone (k : Kernel) : IoCompletion → Kernel
  | .write pid => { k with sched := (k.sched.unblock pid BlockReason.ioOnly .ioCompleted).2 }
  | .read pid addr value =>
    if !k.sched.contains pid then k
    else match k.mm.translate k.sched pid addr true with
      | (.ok pa, mm, sched) =>
        { k with mm := mm.write pa (.data value),
                 sched := (sched.unblock pid BlockReason.ioOnly .ioCompleted).2 }
      | (.error (.pageFault _), mm, sched) =>
        let sched := (deferInput sched pid addr value).block pid BlockReason.pageFaultOnly .pageFault
        { k with mm, sched := (sched.unblock pid BlockReason.ioOnly .ioCompleted).2 }
      | (.error .invalidAddress, mm, sched) => { k with mm, sched }.terminate pid .invalidAddress
      | (.error .framesExhausted, mm, sched) => { k with mm, sched }.halt .framesExhausted

/-- Handles one interrupt. -/
def handle (k : Kernel) : Interrupt → Kernel
  | .trap .timer => { k with sched := k.sched.onTimerExpired }
  | .trap (.pageFault _) =>
    if k.sched.running.isSome then
      { k with sched := k.sched.blockRunning BlockReason.pageFaultOnly .pageFault }
    else k
  | .trap .ioWait => { k with sched := k.sched.blockRunning BlockReason.ioOnly .ioRequested }
  | .trap .framesExhausted => k.halt .framesExhausted
  | .trap .invalidAddress => k.endRunning .invalidAddress
  | .trap .overflow => k.endRunning .overflow
  | .trap .invalidInstruction => k.endRunning .invalidInstruction
  | .trap .stop => k.endRunning .stopped
  | .diskDone c => k.diskDone c
  | .ioDone c => k.ioDone c

/-- The bus of process `pid` of `limit` words: accesses are translated through its page table,
console requests are queued. -/
def bus (pid limit : Nat) : Bus Kernel where
  read va k :=
    let ⟨config, mm, sched, console, nextPid, halted⟩ := k
    match mm.translate sched pid va false with
    | (.ok pa, mm, sched) => (.ok (mm.read pa), ⟨config, mm, sched, console, nextPid, halted⟩)
    | (.error e, mm, sched) => (.error e, ⟨config, mm, sched, console, nextPid, halted⟩)
  write va w k :=
    let ⟨config, mm, sched, console, nextPid, halted⟩ := k
    match mm.translate sched pid va true with
    | (.ok pa, mm, sched) => (.ok (), ⟨config, mm.write pa w, sched, console, nextPid, halted⟩)
    | (.error e, mm, sched) => (.error e, ⟨config, mm, sched, console, nextPid, halted⟩)
  probeWrite va k :=
    let ⟨config, mm, sched, console, nextPid, halted⟩ := k
    match mm.translate sched pid va true with
    | (.ok _, mm, sched) => (.ok (), ⟨config, mm, sched, console, nextPid, halted⟩)
    | (.error e, mm, sched) => (.error e, ⟨config, mm, sched, console, nextPid, halted⟩)
  requestIo kind k := { k with console := k.console ++ [⟨pid, kind⟩] }
  limit := limit

/-- Runs one instruction of the running process, dispatching one first if the processor is
idle. An interrupt the instruction raises is handled before the step ends. -/
def step (k : Kernel) : StepOutcome × Kernel :=
  if k.halted.isSome then (.halted, k)
  else
    let k := if k.sched.running.isNone then { k with sched := k.sched.dispatchNext.2 } else k
    match k.sched.running with
    | none => (.idle, k)
    | some pid =>
      let limit := ((k.sched.get? pid).map (·.size)).getD 0
      let cpu := k.sched.cpu
      let ((cpu, trap), k) := (cpu.step (bus pid limit)).run k
      let k := { k with sched := { k.sched with cpu } }
      match trap with
      | some t => (.executed, k.handle (.trap t))
      | none => (.executed, k)

/-- Creates a process running the built-in program `name`. Only its first page is brought
in; the rest loads on first touch. -/
def createProcess (k : Kernel) (name : String) : Except KernelError Nat × Kernel :=
  match Program.find? name with
  | none => (.error (.noSuchProgram name), k)
  | some program =>
    if k.halted.isSome then (.error .halted, k)
    else
      let pid := k.nextPid
      let cb := ControlBlock.new pid program k.config.pageSize
      let (_, mm, cb) := k.mm.loadInitial cb
      let sched := (k.sched.insert cb).addToReady pid .created
      (.ok pid, { k with mm, sched, nextPid := pid + 1 })

/-- Terminates `pid` whatever state it is in. -/
def removeProcess (k : Kernel) (pid : Nat) : Except KernelError Unit × Kernel :=
  if k.sched.contains pid then (.ok (), k.terminate pid .removed)
  else (.error (.noSuchProcess pid), k)

/-- Releases a new or ready process to run while automatic scheduling is off. -/
def execProcess (k : Kernel) (pid : Nat) : Except KernelError Unit × Kernel :=
  match k.sched.get? pid with
  | none => (.error (.noSuchProcess pid), k)
  | some cb =>
    match cb.status with
    | .running => (.error (.alreadyRunning pid), k)
    | .blocked => (.error (.processBlocked pid), k)
    | .terminated => (.error (.noSuchProcess pid), k)
    | .new | .ready => (.ok (), { k with sched := k.sched.release pid })

/-- Turns automatic scheduling on or off. -/
def setAuto (k : Kernel) (on : Bool) : Kernel := { k with sched := k.sched.setAuto on }

/-- Dispatches the next ready process, unless the kernel is halted. -/
def dispatchNext (k : Kernel) : Option Nat × Kernel :=
  if k.halted.isSome then (none, k)
  else
    let (pid, sched) := k.sched.dispatchNext
    (pid, { k with sched })

/-- Takes every queued disk operation, oldest first. -/
def takeDiskQueue (k : Kernel) : List DiskOperation × Kernel :=
  let (ops, mm) := k.mm.takeQueue
  (ops, { k with mm })

/-- Takes every queued console request, oldest first. -/
def takeConsoleQueue (k : Kernel) : List IoRequest × Kernel :=
  (k.console, { k with console := [] })

/-- Carries out a disk operation on the swap disk and handles its completion. -/
def perform (k : Kernel) (op : DiskOperation) : Completion × Kernel :=
  let (c, swap) := k.mm.swap.perform op
  (c, { k with mm := { k.mm with swap } }.handle (.diskDone c))

/-- Checks frames and page tables against each other, then the queues. -/
def audit (k : Kernel) : Except AuditError Unit := do
  k.mm.audit k.sched
  k.sched.audit

/-- Number of live processes. -/
def liveCount (k : Kernel) : Nat := k.sched.liveCount

/-- The word at `pid`'s logical address `addr`, without faulting: none when its page is
absent. -/
def peek (k : Kernel) (pid addr : Nat) : Option Word := do
  let ps := k.config.pageSize
  let cb ← k.sched.get? pid
  let e ← cb.pageTable.get? (addr / ps)
  let f ← e.frame
  pure (k.mm.read (f * ps + addr % ps))

/-- A halted kernel runs no instruction and stays as it is. -/
theorem step_halted (k : Kernel) (e : KernelError) (stopped : k.halted = some e) :
    k.step = (.halted, k) := by
  simp [step, stopped]

end Kernel

end PagedMachine
