import PagedMachine.Task.ControlBlock
import PagedMachine.Task.Log
import PagedMachine.Audit
import PagedMachine.PidMap

/-!
# The scheduler

The scheduler owns the process table, the ready queue (first in, first out), the set of
blocked processes, the processor and the one process running on it. A process is meant to
be in at most one of the ready queue, the blocked set and the processor; `audit` checks this.

Dispatching takes the first ready process. With automatic scheduling off, only processes
released by hand are taken: the first of the queue that was released. A process whose slice
runs out goes to the back of the queue. A blocked process collects reasons and becomes ready
when the last one is cleared. Every change of status is recorded in the transition log.

Recording a transition leaves the queues alone (`transition_ready`, `transition_running`).
-/

namespace PagedMachine

/-- Processes, queues and the processor. -/
structure Scheduler where
  table : PidMap ControlBlock := {}
  ready : List Nat := []
  /-- Blocked processes in increasing pid order. -/
  blocked : List Nat := []
  running : Option Nat := none
  autoSchedule : Bool
  /-- Processes released by hand, in increasing pid order. -/
  released : List Nat := []
  log : TransitionLog := .empty
  cpu : Cpu
  deriving Repr

namespace Scheduler

/-- An empty scheduler over a processor with slices of `delta` instructions. -/
def new (autoSchedule : Bool) (delta : Nat) : Scheduler :=
  { autoSchedule, cpu := Cpu.new delta }

/-- The control block of `pid`. -/
def get? (s : Scheduler) (pid : Nat) : Option ControlBlock := s.table.find? pid

/-- Whether `pid` is a live process. -/
def contains (s : Scheduler) (pid : Nat) : Bool := s.table.contains pid

/-- Number of live processes. -/
def liveCount (s : Scheduler) : Nat := s.table.size

/-- Adds a control block, replacing one with the same pid. It is not queued. -/
def insert (s : Scheduler) (cb : ControlBlock) : Scheduler :=
  { s with table := s.table.insert cb.pid cb }

/-- Changes the control block of `pid`, if present. -/
def modify (s : Scheduler) (pid : Nat) (f : ControlBlock → ControlBlock) : Scheduler :=
  { s with table := s.table.modify pid f }

/-- Turns automatic scheduling on or off. -/
def setAuto (s : Scheduler) (on : Bool) : Scheduler := { s with autoSchedule := on }

/-- Sets the status of `pid` and records the change. -/
def transition (s : Scheduler) (pid : Nat) (cause : Cause) (target : TaskStatus) : Scheduler :=
  match s.get? pid with
  | some cb =>
    let cb' := { cb with status := target }
    { s with table := s.table.insert pid cb',
             log := s.log.record pid cb.name cause cb.status target cb'.pageTable }
  | none => s

/-- Index in the ready queue of the process the next dispatch takes. -/
def nextReady (s : Scheduler) : Option Nat :=
  if s.autoSchedule then (if s.ready.isEmpty then none else some 0)
  else s.ready.findIdx? (· ∈ s.released)

/-- Whether a dispatch would put a process on the processor. -/
def canDispatch (s : Scheduler) : Bool := s.running.isNone && s.nextReady.isSome

/-- Makes `pid` ready: out of the blocked set, status ready, at the back of the queue unless
it is queued already. -/
def addToReady (s : Scheduler) (pid : Nat) (cause : Cause) : Scheduler :=
  if s.contains pid then
    let s := { s with blocked := s.blocked.erase pid }
    let s := s.transition pid cause .ready
    if pid ∈ s.ready then s else { s with ready := s.ready ++ [pid] }
  else s

/-- Lets `pid` be dispatched while automatic scheduling is off; a new process is queued. -/
def release (s : Scheduler) (pid : Nat) : Scheduler :=
  match s.get? pid with
  | some cb =>
    let s := { s with released := insertPid pid s.released }
    if cb.status = .new then s.addToReady pid .created else s
  | none => s

/-- Puts the next ready process on the processor, unless one is running. -/
def dispatchNext (s : Scheduler) : Option Nat × Scheduler :=
  if s.running.isSome then (none, s)
  else match s.nextReady with
    | none => (none, s)
    | some i =>
      match s.ready[i]? with
      | none => (none, s)
      | some pid =>
        let s := { s with ready := s.ready.eraseIdx i }
        let s := s.transition pid .dispatched .running
        match s.get? pid with
        | some cb => (some pid, { s with cpu := s.cpu.load cb.context, running := some pid })
        | none => (none, s)

/-- Takes the running process off the processor and saves its context. -/
def takeRunning (s : Scheduler) : Option Nat × Scheduler :=
  match s.running with
  | some pid =>
    let cx := s.cpu.context
    (some pid, { s.modify pid (fun cb => { cb with context := cx }) with running := none })
  | none => (none, s)

/-- The running process used up its slice: back of the queue, and the next one runs. -/
def onTimerExpired (s : Scheduler) : Scheduler :=
  let s := match s.takeRunning with
    | (some pid, s) =>
      let s := s.transition pid .timeSliceExpired .ready
      { s with ready := s.ready ++ [pid] }
    | (none, s) => s
  s.dispatchNext.2

/-- Blocks the running process for `reason` and dispatches the next one. -/
def blockRunning (s : Scheduler) (reason : BlockReason) (cause : Cause) : Scheduler :=
  let s := match s.takeRunning with
    | (some pid, s) =>
      let s := s.modify pid fun cb => { cb with blockedOn := cb.blockedOn.union reason }
      let s := s.transition pid cause .blocked
      { s with blocked := insertPid pid s.blocked }
    | (none, s) => s
  s.dispatchNext.2

/-- Adds `reason` to a process that is not running. A ready process leaves the queue and is
blocked; a blocked one waits for one more thing. -/
def block (s : Scheduler) (pid : Nat) (reason : BlockReason) (cause : Cause) : Scheduler :=
  if s.running = some pid then s
  else match s.get? pid with
    | none => s
    | some cb =>
      let s := s.modify pid fun cb => { cb with blockedOn := cb.blockedOn.union reason }
      if cb.status = .ready then
        let s := { s with ready := s.ready.filter (· ≠ pid) }
        let s := s.transition pid cause .blocked
        { s with blocked := insertPid pid s.blocked }
      else s

/-- Clears `reason`. True when that was the last one of a blocked process, which is then
ready. -/
def unblock (s : Scheduler) (pid : Nat) (reason : BlockReason) (cause : Cause) :
    Bool × Scheduler :=
  match s.get? pid with
  | none => (false, s)
  | some cb =>
    let left := cb.blockedOn.diff reason
    let s := s.modify pid fun cb => { cb with blockedOn := left }
    if !left.isEmpty || cb.status ≠ .blocked then (false, s)
    else (true, s.addToReady pid cause)

/-- Terminates `pid` and drops every reference to it, handing back its control block. -/
def removeProcess (s : Scheduler) (pid : Nat) (cause : Cause) :
    Option ControlBlock × Scheduler :=
  if s.contains pid then
    let s := s.transition pid cause .terminated
    let s := { s with ready := s.ready.filter (· ≠ pid), blocked := s.blocked.erase pid,
                      released := s.released.erase pid,
                      running := if s.running = some pid then none else s.running }
    (s.get? pid, { s with table := s.table.erase pid })
  else (none, s)

/-- The first process that appears twice in the ready queue, the blocked set and the
processor, read in that order. -/
def firstRepeated : List Nat → List Nat → Option Nat
  | [], _ => none
  | p :: rest, seen => if p ∈ seen then some p else firstRepeated rest (p :: seen)

/-- Checks that no process is queued twice and that every status matches its queue. -/
def audit (s : Scheduler) : Except AuditError Unit := do
  let queued := s.ready ++ s.blocked ++ s.running.toList
  if let some pid := firstRepeated queued [] then throw (.queueOverlap pid)
  for cb in s.table.values do
    let expected := match cb.status with
      | .ready => cb.pid ∈ s.ready
      | .blocked => cb.pid ∈ s.blocked
      | .running => s.running = some cb.pid
      | .new | .terminated => cb.pid ∉ queued
    if !expected then throw (.statusMismatch cb.pid cb.status)

/-- The context of `pid`: the processor's while it runs, the saved one otherwise. -/
def contextOf (s : Scheduler) (cb : ControlBlock) : Context :=
  if s.running = some cb.pid then s.cpu.context else cb.context

/-- A status change leaves the ready queue. -/
@[simp] theorem transition_ready (s : Scheduler) (pid : Nat) (c : Cause) (t : TaskStatus) :
    (s.transition pid c t).ready = s.ready := by
  unfold transition; split <;> rfl

/-- A status change leaves the running process. -/
@[simp] theorem transition_running (s : Scheduler) (pid : Nat) (c : Cause) (t : TaskStatus) :
    (s.transition pid c t).running = s.running := by
  unfold transition; split <;> rfl

end Scheduler

end PagedMachine
