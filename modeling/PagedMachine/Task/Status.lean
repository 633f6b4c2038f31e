/-!
# Process status, block reasons and causes

A process is new until it is first queued, then ready, running or blocked, and terminated at
the end. A blocked process waits for one or more things at once, the console and the disk;
it becomes ready again only when none is left. Every change of status has a cause.
-/

namespace PagedMachine

/-- Where a process stands. -/
inductive TaskStatus where
  | new | ready | running | blocked | terminated
  deriving DecidableEq, Repr, Inhabited

/-- The status in capitals. -/
def TaskStatus.label : TaskStatus → String
  | .new => "NEW" | .ready => "READY" | .running => "RUNNING"
  | .blocked => "BLOCKED" | .terminated => "TERMINATED"

/-- What a blocked process waits for: console input or output, a page load, or both. -/
structure BlockReason where
  io : Bool := false
  pageFault : Bool := false
  deriving DecidableEq, Repr, Inhabited

namespace BlockReason

/-- Waiting for the console. -/
def ioOnly : BlockReason := { io := true }

/-- Waiting for a page. -/
def pageFaultOnly : BlockReason := { pageFault := true }

/-- The reasons of a bit set, read modulo 256: bit 0 for the console, bit 1 for a page; other
bits are ignored. -/
def ofBits (n : Nat) : BlockReason :=
  ⟨n % 256 % 2 = 1, n % 256 / 2 % 2 = 1⟩

/-- The bit set: 1 for the console, 2 for a page. -/
def bits (r : BlockReason) : Nat := (if r.io then 1 else 0) + (if r.pageFault then 2 else 0)

/-- Whether nothing is waited for. -/
def isEmpty (r : BlockReason) : Bool := !r.io && !r.pageFault

/-- Both sets of reasons. -/
def union (r s : BlockReason) : BlockReason := ⟨r.io || s.io, r.pageFault || s.pageFault⟩

/-- The reasons of `r` that are not in `s`. -/
def diff (r s : BlockReason) : BlockReason := ⟨r.io && !s.io, r.pageFault && !s.pageFault⟩

/-- `io`, `page-fault`, both joined by `+`, or `-` for none. -/
def render (r : BlockReason) : String :=
  match r.io, r.pageFault with
  | true, true => "io+page-fault"
  | true, false => "io"
  | false, true => "page-fault"
  | false, false => "-"

/-- Reading back the bits of a reason gives the reason. -/
theorem ofBits_bits (r : BlockReason) : ofBits r.bits = r := by
  cases r with
  | mk io pf => cases io <;> cases pf <;> rfl

end BlockReason

/-- What made a process change status. -/
inductive Cause where
  | created | dispatched | timeSliceExpired | pageFault | pageLoaded | ioRequested
  | ioCompleted | stopped | invalidAddress | overflow | invalidInstruction | diskFull | removed
  deriving DecidableEq, Repr, Inhabited

/-- The cause in words. -/
def Cause.label : Cause → String
  | .created => "created" | .dispatched => "dispatched"
  | .timeSliceExpired => "time slice expired" | .pageFault => "page fault"
  | .pageLoaded => "page loaded" | .ioRequested => "io requested"
  | .ioCompleted => "io completed" | .stopped => "stopped"
  | .invalidAddress => "invalid address" | .overflow => "overflow"
  | .invalidInstruction => "invalid instruction" | .diskFull => "disk full"
  | .removed => "removed"

/-- Every cause, in declaration order. -/
def Cause.all : List Cause :=
  [.created, .dispatched, .timeSliceExpired, .pageFault, .pageLoaded, .ioRequested,
    .ioCompleted, .stopped, .invalidAddress, .overflow, .invalidInstruction, .diskFull, .removed]

/-- The cause with the given words. -/
def Cause.ofLabel? (s : String) : Option Cause := Cause.all.find? (·.label == s)

end PagedMachine
