import PagedMachine.Kernel.Inspect

/-!
# A machine with its devices served in order

The kernel, the console, and the disk operations taken off the kernel's queue but not yet
carried out. Nothing runs by itself: the disk and the console work only when asked, so every
run is reproducible. `advance` runs one instruction and, when the processor has nothing to
run, serves everything both devices have queued; a run advances until nothing can move.

Main statement: an advance on a halted machine does not move (`advance_halted`).
-/

namespace PagedMachine

/-- A kernel, its console, and the disk operations collected but not yet performed. -/
structure Machine where
  kernel : Kernel
  console : Console := {}
  held : List DiskOperation := []
  deriving Repr

namespace Machine

/-- A machine for a valid configuration; nothing where creating its kernel stops the
program. -/
def new (c : Config) : Option (Except KernelError Machine) :=
  (Kernel.new c).map fun created => do pure { kernel := ← created }

/-- Moves every operation on the kernel's disk queue to the end of the held list. -/
def collect (m : Machine) : Machine :=
  let (ops, kernel) := m.kernel.takeDiskQueue
  { m with kernel, held := m.held ++ ops }

/-- Carries out a disk operation and reports its completion to the kernel. -/
def perform (m : Machine) (op : DiskOperation) : Completion × Machine :=
  let (c, kernel) := m.kernel.perform op
  (c, { m with kernel })

/-- Carries out operations in order, collecting their completions. -/
def performAll (m : Machine) : List DiskOperation → List Completion × Machine
  | [] => ([], m)
  | op :: rest =>
    let (c, m) := m.perform op
    let (cs, m) := m.performAll rest
    (c :: cs, m)

/-- Hands every queued console request to the console, in order. A write is printed and its
completion goes back to the kernel; a read waits for input. Returns the requests. -/
def serveConsole (m : Machine) : List IoRequest × Machine :=
  let (reqs, kernel) := m.kernel.takeConsoleQueue
  let m := reqs.foldl (fun (m : Machine) req =>
    match m.console.handle req with
    | (console, some done) => { m with console, kernel := m.kernel.handle (.ioDone done) }
    | (console, none) => { m with console }) { m with kernel }
  (reqs, m)

/-- Collects, then performs up to `count` held operations at position `index`, each taken
out of the held list in turn. -/
def serve (m : Machine) (index : Nat) (count : Option Nat) : List Completion × Machine :=
  let m := m.collect
  go m (count.getD m.held.length)
where
  go (m : Machine) : Nat → List Completion × Machine
    | 0 => ([], m)
    | n + 1 =>
      match m.held[index]? with
      | none => ([], m)
      | some op =>
        let (c, m) := { m with held := m.held.eraseIdx index }.perform op
        let (cs, m) := go m n
        (c :: cs, m)

/-- Collects, then removes the held operation at `index` without performing it. -/
def drop (m : Machine) (index : Nat) : Option DiskOperation × Machine :=
  let m := m.collect
  match m.held[index]? with
  | some op => (some op, { m with held := m.held.eraseIdx index })
  | none => (none, m)

/-- Answers the pending console read of `pid` with `value`, returning the address it was
for; none when `pid` is not waiting. -/
def provide (m : Machine) (pid : Nat) (value : Int32) : Option Int32 × Machine :=
  match m.console.provide pid value with
  | some (done, console) =>
    let addr := match done with
      | .read _ addr _ => addr
      | .write _ => 0
    (some addr, { m with console, kernel := m.kernel.handle (.ioDone done) })
  | none => (none, m)

/-- Removes a process and any console read it left behind. -/
def removeProcess (m : Machine) (pid : Nat) : Except KernelError Unit × Machine :=
  match m.kernel.removeProcess pid with
  | (.ok (), kernel) => (.ok (), { m with kernel, console := m.console.cancel pid })
  | (.error e, kernel) => (.error e, { m with kernel })

/-- Serves everything: all held and queued disk operations, then the console. Returns how
many operations and requests were handled. -/
def pump (m : Machine) : Nat × Machine :=
  let m := m.collect
  let ops := m.held
  let (_, m) := { m with held := [] }.performAll ops
  let (reqs, m) := m.serveConsole
  (ops.length + reqs.length, m)

/-- One instruction; when the processor is idle, serves the devices and dispatches. False
when nothing could move. -/
def advance (m : Machine) : Bool × Machine :=
  let ⟨kernel, console, held⟩ := m
  match kernel.step with
  | (.executed, kernel) => (true, ⟨kernel, console, held⟩)
  | (.halted, kernel) => (false, ⟨kernel, console, held⟩)
  | (.idle, kernel) =>
    let (handled, m) := Machine.pump ⟨kernel, console, held⟩
    if handled = 0 then (false, m)
    else (true, { m with kernel := m.kernel.dispatchNext.2 })

/-- Advances at most `budget` times. Returns how many advances moved and whether one did not. -/
def run (m : Machine) (budget : Nat) : Nat × Bool × Machine :=
  go m budget 0
where
  go (m : Machine) : Nat → Nat → Nat × Bool × Machine
    | 0, moved => (moved, false, m)
    | n + 1, moved =>
      match m.advance with
      | (true, m) => go m n (moved + 1)
      | (false, m) => (moved, true, m)

/-- Whether `pid` is running and about to execute `STOP`. -/
def atStop (m : Machine) (pid : Nat) : Bool :=
  match m.kernel.snapshot pid with
  | .ok snap =>
    snap.status == .running && ((m.kernel.peek pid snap.context.pc).map Word.isStop).getD false
  | .error _ => false

/-- Advances until `pid` is about to execute `STOP`, at most `budget` times or until nothing
moves. Returns the advances made and whether the stop was reached. -/
def untilStop (m : Machine) (pid budget : Nat) : Nat × Bool × Machine :=
  go m budget 0
where
  go (m : Machine) : Nat → Nat → Nat × Bool × Machine
    | 0, moved => (moved, false, m)
    | n + 1, moved =>
      if m.atStop pid then (moved, true, m)
      else match m.advance with
        | (true, m) => go m n (moved + 1)
        | (false, m) => (moved, false, m)

/-- Steps the kernel `n` times, counting the steps that executed, found nothing to run, and
found the kernel halted. -/
def steps (m : Machine) (n : Nat) : (Nat × Nat × Nat) × Machine :=
  go m n (0, 0, 0)
where
  go (m : Machine) : Nat → Nat × Nat × Nat → (Nat × Nat × Nat) × Machine
    | 0, counts => (counts, m)
    | n + 1, (e, i, h) =>
      let ⟨kernel, console, held⟩ := m
      let (outcome, kernel) := kernel.step
      let counts := match outcome with
        | .executed => (e + 1, i, h)
        | .idle => (e, i + 1, h)
        | .halted => (e, i, h + 1)
      go ⟨kernel, console, held⟩ n counts

/-- A machine whose kernel halted makes no progress. -/
theorem advance_halted (m : Machine) (e : KernelError) (stopped : m.kernel.halted = some e) :
    m.advance.1 = false := by
  simp [advance, Kernel.step_halted m.kernel e stopped]

end Machine

end PagedMachine
