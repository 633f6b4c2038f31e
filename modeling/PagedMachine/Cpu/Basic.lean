import PagedMachine.Word
import PagedMachine.Config

/-!
# Processor state

The processor holds a context (program counter and ten signed 32-bit registers) and a time
slice that counts executed instructions. It reports what went wrong or what has to happen
next as a trap. Memory accesses go through a bus in logical addresses and can fail with an
access fault.

Main statements: a tick fires exactly when it completes the slice
(`TimeSlice.tick_fires_iff`), and loading a context starts a fresh slice (`Cpu.load_count`).
-/

namespace PagedMachine

/-- The ten registers. -/
abbrev Registers := Vector Int32 10

/-- Processor state that belongs to a process and is saved while it is off the processor. -/
structure Context where
  pc : Nat := 0
  registers : Registers := Vector.replicate 10 0
  deriving DecidableEq, Repr, Inhabited

/-- The context a new process starts from: address 0 and cleared registers. -/
def Context.initial : Context := {}

/-- Counts executed instructions and fires when a slice of `delta` of them is used up. -/
structure TimeSlice where
  delta : Nat
  count : Nat := 0
  deriving DecidableEq, Repr

namespace TimeSlice

/-- Counts one instruction. Fires, and starts over, when `delta` instructions have run. -/
def tick (s : TimeSlice) : Bool × TimeSlice :=
  if s.count + 1 ≥ s.delta then (true, { s with count := 0 })
  else (false, { s with count := s.count + 1 })

/-- Starts a fresh slice. -/
def reset (s : TimeSlice) : TimeSlice := { s with count := 0 }

/-- A tick fires exactly when the count reaches the length of the slice. -/
theorem tick_fires_iff (s : TimeSlice) : s.tick.1 = true ↔ s.delta ≤ s.count + 1 := by
  unfold tick
  split <;> simp_all

/-- A tick counts one more instruction, starting over when it fires. -/
theorem tick_count (s : TimeSlice) :
    s.tick.2.count = if s.delta ≤ s.count + 1 then 0 else s.count + 1 := by
  unfold tick
  split <;> simp_all

end TimeSlice

/-- What the processor raises. -/
inductive Trap where
  | timer
  | pageFault (page : Nat)
  | invalidAddress
  | overflow
  | invalidInstruction
  | stop
  | ioWait
  | framesExhausted
  deriving DecidableEq, Repr

/-- Why a memory access through the bus failed. -/
inductive AccessFault where
  /-- The page is not in memory; its load has been started. -/
  | pageFault (page : Nat)
  /-- The address lies outside the process. -/
  | invalidAddress
  /-- No frame could be found for the page. -/
  | framesExhausted
  deriving DecidableEq, Repr

namespace Trap

/-- The name of the trap. -/
def kind : Trap → String
  | timer => "Timer"
  | pageFault _ => "PageFault"
  | invalidAddress => "InvalidAddress"
  | overflow => "Overflow"
  | invalidInstruction => "InvalidInstruction"
  | stop => "Stop"
  | ioWait => "IoWait"
  | framesExhausted => "FramesExhausted"

end Trap

namespace AccessFault

/-- The name of the kind of fault. -/
def kind : AccessFault → String
  | pageFault _ => "PageFault"
  | invalidAddress => "InvalidAddress"
  | framesExhausted => "FramesExhausted"

/-- The sentence that explains the fault. -/
def message : AccessFault → String
  | pageFault page => s!"page fault on page {page}"
  | invalidAddress => "address outside the process"
  | framesExhausted => "no frame can be freed"

end AccessFault

/-- The trap an access fault raises. -/
def AccessFault.toTrap : AccessFault → Trap
  | .pageFault page => .pageFault page
  | .invalidAddress => .invalidAddress
  | .framesExhausted => .framesExhausted

/-- A console transfer a process asks for. -/
inductive IoKind where
  /-- Read a value into the logical address. -/
  | read (addr : Int32)
  /-- Write the value out. -/
  | write (value : Int32)
  deriving DecidableEq, Repr

/-- The processor: the context of what runs on it and its time slice. -/
structure Cpu where
  context : Context := {}
  slice : TimeSlice
  deriving DecidableEq, Repr

namespace Cpu

/-- A processor with a cleared context and a slice of `delta` instructions. -/
def new (delta : Nat) : Cpu := { slice := { delta } }

/-- Puts a saved context on the processor and starts a fresh slice. -/
def load (cpu : Cpu) (cx : Context) : Cpu :=
  { cpu with context := cx, slice := cpu.slice.reset }

/-- Loading a context installs it. -/
@[simp] theorem load_context (cpu : Cpu) (cx : Context) : (cpu.load cx).context = cx := rfl

/-- Loading a context starts a fresh slice. -/
@[simp] theorem load_count (cpu : Cpu) (cx : Context) : (cpu.load cx).slice.count = 0 := rfl

end Cpu

end PagedMachine
