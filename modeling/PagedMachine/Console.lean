import PagedMachine.Cpu.Basic
import PagedMachine.PidMap

/-!
# The console

Processes read and write single values through the console. A write is printed and completes
at once. A read parks until a value is provided for it; a process has at most one read
pending, and a newer read replaces an older one. Providing a value for a process that is not
waiting does nothing.

Main statements: a provided value completes exactly the pending read (`provide_waiting`), and
afterwards the process no longer waits (`provide_erases`).
-/

namespace PagedMachine

/-- A console transfer asked for by a process. -/
structure IoRequest where
  pid : Nat
  kind : IoKind
  deriving DecidableEq, Repr

/-- A finished console transfer, reported back to the kernel. -/
inductive IoCompletion where
  /-- A value arrived for the read of `pid` into `addr`. -/
  | read (pid : Nat) (addr value : Int32)
  | write (pid : Nat)
  deriving DecidableEq, Repr

/-- The console: pending reads by pid, with their target addresses, and everything written. -/
structure Console where
  waiting : PidMap Int32 := {}
  output : Array (Nat × Int32) := #[]
  deriving Repr, Inhabited

namespace Console

/-- Serves one request. A write is printed and completes; a read waits. -/
def handle (c : Console) (req : IoRequest) : Console × Option IoCompletion :=
  match req.kind with
  | .read addr => ({ c with waiting := c.waiting.insert req.pid addr }, none)
  | .write value =>
    ({ c with output := c.output.push (req.pid, value) }, some (.write req.pid))

/-- Completes the pending read of `pid` with `value`; none when `pid` is not waiting. -/
def provide (c : Console) (pid : Nat) (value : Int32) : Option (IoCompletion × Console) :=
  match c.waiting.find? pid with
  | some addr => some (.read pid addr value, { c with waiting := c.waiting.erase pid })
  | none => none

/-- Forgets the pending read of `pid`. -/
def cancel (c : Console) (pid : Nat) : Console := { c with waiting := c.waiting.erase pid }

/-- The pids with a pending read, in increasing order. -/
def waitingPids (c : Console) : List Nat := c.waiting.keys

/-- Everything written, grouped by process in increasing pid order, each process's values in
the order they were written. -/
def outputByPid (c : Console) : List (Nat × Int32) :=
  c.output.toList.mergeSort fun a b => a.1 ≤ b.1

/-- A process waiting for input gets a read completion for the address it named. -/
theorem provide_waiting (c : Console) (pid : Nat) (addr value : Int32)
    (pending : c.waiting.find? pid = some addr) :
    (c.provide pid value).map Prod.fst = some (.read pid addr value) := by
  simp [provide, pending]

/-- Once its read is completed, a process no longer waits for input. -/
theorem provide_erases (c c' : Console) (pid : Nat) (value : Int32) (done : IoCompletion)
    (provided : c.provide pid value = some (done, c')) : c'.waiting.find? pid = none := by
  unfold provide at provided
  split at provided
  · cases provided
    simp
  · cases provided

end Console

end PagedMachine
