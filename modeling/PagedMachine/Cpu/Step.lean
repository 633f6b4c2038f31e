import PagedMachine.Cpu.Basic

/-!
# Executing instructions

One step fetches the word at the program counter through the bus, executes it and moves the
program counter on. An instruction either completes, giving new registers and the next
program counter, or raises a trap; a trap leaves registers and program counter as they were,
so the instruction can run again once its cause is gone. Only a completed instruction counts
against the time slice, and a system call ends the step with `ioWait` before the slice is
counted.

Registers are read and checked in the order the instruction names them, and the bus is used
only after the registers it needs were read, so which trap an instruction raises is fixed.
Arithmetic is exact on integers; a result outside -32767 ..= 32767 raises `overflow`.

Main statements: a trapped step keeps the context (`step_context_of_trap`).
-/

namespace PagedMachine

/-- Memory and console access of the running process, in logical addresses, over a state `σ`
that accesses may change. `limit` is the size of the process, the bound for jump targets. -/
structure Bus (σ : Type) where
  read : Int32 → σ → Except AccessFault Word × σ
  write : Int32 → Word → σ → Except AccessFault Unit × σ
  /-- Makes sure an address can be written, without writing it. -/
  probeWrite : Int32 → σ → Except AccessFault Unit × σ
  requestIo : IoKind → σ → σ
  limit : Nat

/-- Execution of one instruction: it may raise a trap and may change the bus state. -/
abbrev Exec (σ : Type) := ExceptT Trap (StateM σ)

/-- Where the program counter goes after a completed instruction. -/
inductive Flow where
  | next
  | jump (target : Nat)
  /-- Advance, then wait for the console. -/
  | wait
  deriving DecidableEq, Repr

namespace Bus

variable {σ : Type}

/-- Runs a bus access inside an instruction; a failed access raises its trap. -/
def access {α : Type} (run : σ → Except AccessFault α × σ) : Exec σ α :=
  ExceptT.mk do
    let s ← get
    let (result, s') := run s
    set s'
    pure (result.mapError AccessFault.toTrap)

/-- Reads the word at a logical address. -/
def load (bus : Bus σ) (addr : Int32) : Exec σ Word := access (bus.read addr)

/-- Writes a word at a logical address. -/
def store (bus : Bus σ) (addr : Int32) (w : Word) : Exec σ Unit := access (bus.write addr w)

/-- Checks that a logical address can be written. -/
def probe (bus : Bus σ) (addr : Int32) : Exec σ Unit := access (bus.probeWrite addr)

/-- Queues a console request. -/
def request (bus : Bus σ) (kind : IoKind) : Exec σ Unit :=
  modify (bus.requestIo kind)

end Bus

namespace Execute

variable {σ : Type}

/-- The value of register `r`; a number that names no register is an invalid instruction. -/
def reg (regs : Registers) (r : Nat) : Exec σ Int32 :=
  if h : r < 10 then pure (regs.get ⟨r, h⟩) else throw .invalidInstruction

/-- Checks that `r` names a register. -/
def checkReg (r : Nat) : Exec σ Unit :=
  if r < 10 then pure () else throw .invalidInstruction

/-- Sets register `r` to `v`. -/
def setReg (regs : Registers) (r : Nat) (v : Int32) : Exec σ Registers :=
  if h : r < 10 then pure (regs.set r v h) else throw .invalidInstruction

/-- Replaces register `ra` by `f` of its value, unless the result leaves the word range. -/
def arith (regs : Registers) (ra : Nat) (f : Int → Int) : Exec σ Registers := do
  let a ← reg regs ra
  let result := f a.toInt
  if result < wordMin ∨ wordMax < result then throw .overflow
  setReg regs ra (Int32.ofInt result)

/-- A jump target must be an address inside the process. -/
def jumpTarget (limit : Nat) (target : Int32) : Exec σ Nat :=
  if target.toInt < 0 ∨ limit ≤ target.toInt.toNat then throw .invalidAddress
  else pure target.toInt.toNat

/-- Jumps to `target` when `taken`; the target is checked only then. -/
def jumpIf (limit : Nat) (taken : Bool) (target : Int32) : Exec σ Flow :=
  if taken then return .jump (← jumpTarget limit target) else pure .next

/-- Jumps to the address stored at `p` when `taken`; memory is read only then. -/
def jumpIndirectIf (bus : Bus σ) (taken : Bool) (p : Int32) : Exec σ Flow :=
  if taken then do
    let w ← bus.load p
    return .jump (← jumpTarget bus.limit w.p)
  else pure .next

/-- System call 1 reads a console value into the address in `r9`; system call 2 writes the
value stored there. Any other number in `r8` is an invalid instruction. -/
def syscall (bus : Bus σ) (regs : Registers) : Exec σ Flow := do
  let addr ← reg regs syscallArgRegister
  let selector ← reg regs syscallRegister
  if selector = 1 then
    bus.probe addr
    bus.request (.read addr)
  else if selector = 2 then
    let w ← bus.load addr
    bus.request (.write w.p)
  else throw .invalidInstruction
  pure .wait

/-- Executes one instruction word on the given registers. -/
def run (bus : Bus σ) (ir : Word) (regs : Registers) : Exec σ (Registers × Flow) :=
  match ir.opcode with
  | .ldi => return (← setReg regs ir.ra ir.p, .next)
  | .ldd => do
    checkReg ir.ra
    let w ← bus.load ir.p
    return (← setReg regs ir.ra w.p, .next)
  | .ldx => do
    checkReg ir.ra
    let addr ← reg regs ir.rb
    let w ← bus.load addr
    return (← setReg regs ir.ra w.p, .next)
  | .std => do
    let v ← reg regs ir.ra
    bus.store ir.p (.data v)
    return (regs, .next)
  | .stx => do
    let addr ← reg regs ir.ra
    let v ← reg regs ir.rb
    bus.store addr (.data v)
    return (regs, .next)
  | .move => do
    let v ← reg regs ir.rb
    return (← setReg regs ir.ra v, .next)
  | .add => do
    let b ← reg regs ir.rb
    return (← arith regs ir.ra (· + b.toInt), .next)
  | .addi => return (← arith regs ir.ra (· + ir.p.toInt), .next)
  | .sub => do
    let b ← reg regs ir.rb
    return (← arith regs ir.ra (· - b.toInt), .next)
  | .subi => return (← arith regs ir.ra (· - ir.p.toInt), .next)
  | .mult => do
    let b ← reg regs ir.rb
    return (← arith regs ir.ra (· * b.toInt), .next)
  | .jmp => return (regs, .jump (← jumpTarget bus.limit ir.p))
  | .jmpi => do
    let t ← reg regs ir.ra
    return (regs, .jump (← jumpTarget bus.limit t))
  | .jmpig => do
    let c ← reg regs ir.rb
    let t ← reg regs ir.ra
    return (regs, ← jumpIf bus.limit (decide (0 < c.toInt)) t)
  | .jmpil => do
    let c ← reg regs ir.rb
    let t ← reg regs ir.ra
    return (regs, ← jumpIf bus.limit (decide (c.toInt < 0)) t)
  | .jmpie => do
    let c ← reg regs ir.rb
    let t ← reg regs ir.ra
    return (regs, ← jumpIf bus.limit (decide (c.toInt = 0)) t)
  | .jmpim => do
    let w ← bus.load ir.p
    return (regs, .jump (← jumpTarget bus.limit w.p))
  | .jmpigm => do
    let c ← reg regs ir.rb
    return (regs, ← jumpIndirectIf bus (decide (0 < c.toInt)) ir.p)
  | .jmpilm => do
    let c ← reg regs ir.rb
    return (regs, ← jumpIndirectIf bus (decide (c.toInt < 0)) ir.p)
  | .jmpiem => do
    let c ← reg regs ir.rb
    return (regs, ← jumpIndirectIf bus (decide (c.toInt = 0)) ir.p)
  | .jmpigk => do
    let c ← reg regs ir.rb
    return (regs, ← jumpIf bus.limit (decide (0 < c.toInt)) ir.p)
  | .jmpilk => do
    let c ← reg regs ir.rb
    return (regs, ← jumpIf bus.limit (decide (c.toInt < 0)) ir.p)
  | .jmpiek => do
    let c ← reg regs ir.rb
    return (regs, ← jumpIf bus.limit (decide (c.toInt = 0)) ir.p)
  | .jmpigt => do
    let a ← reg regs ir.ra
    let b ← reg regs ir.rb
    return (regs, ← jumpIf bus.limit (decide (b.toInt < a.toInt)) ir.p)
  | .syscall => return (regs, ← syscall bus regs)
  | .stop => throw .stop
  | .data | .empty => throw .invalidInstruction

end Execute

namespace Cpu

variable {σ : Type}

/-- Fetches the word at the program counter, read as a signed 32-bit address (the counter is
taken modulo 2^32), and executes it. -/
def fetchExecute (cpu : Cpu) (bus : Bus σ) : Exec σ (Registers × Flow) := do
  let ir ← bus.load (Int32.ofNat cpu.context.pc)
  Execute.run bus ir cpu.context.registers

/-- Installs the registers and program counter of a completed instruction and counts it
against the slice; a used-up slice raises `timer`. -/
def complete (cpu : Cpu) (cx : Context) : Cpu × Option Trap :=
  let (fired, slice) := cpu.slice.tick
  ({ context := cx, slice }, if fired then some .timer else none)

/-- Runs one instruction. Returns the processor after it and the trap it raised, if any. -/
def step (cpu : Cpu) (bus : Bus σ) : StateM σ (Cpu × Option Trap) := do
  match ← (cpu.fetchExecute bus).run with
  | .error t => pure (cpu, some t)
  | .ok (regs, .next) => pure (cpu.complete { pc := cpu.context.pc + 1, registers := regs })
  | .ok (regs, .jump target) => pure (cpu.complete { pc := target, registers := regs })
  | .ok (regs, .wait) =>
    pure ({ cpu with context := { pc := cpu.context.pc + 1, registers := regs } }, some .ioWait)

/-- A step that raises a trap other than the timer or a system call's wait leaves the
processor unchanged. -/
theorem step_context_of_trap (cpu : Cpu) (bus : Bus σ) (s : σ) (t : Trap)
    (raised : ((cpu.fetchExecute bus).run.run s).1 = .error t) :
    ((cpu.step bus).run s).1 = (cpu, some t) := by
  simp only [step, bind, StateT.bind, StateT.run] at *
  generalize hr : (cpu.fetchExecute bus).run s = r at *
  obtain ⟨res, s'⟩ := r
  simp only at raised
  subst raised
  rfl

end Cpu

end PagedMachine
