import PagedMachine.Cpu.Step

/-!
# A processor over flat memory

A bench for the processor alone: memory is one array of words addressed directly, with no
paging. Addresses can be marked absent; the first access to such an address raises a page
fault for its page and clears the mark, so the retried access succeeds. Console requests are
recorded in order. A run executes steps until a trap ends the program (`stop`, `overflow`,
`invalidAddress`, `invalidInstruction`) or the step budget is spent.
-/

namespace PagedMachine

/-- Flat memory with addresses that fault once, and the console requests made so far. -/
structure FlatMemory where
  words : Array Word
  absent : List Int32
  pageSize : Nat
  io : Array IoKind := #[]
  deriving Repr

namespace FlatMemory

/-- Memory holding `program` padded with `DATA 0` to `size` words. A page size of 0 counts
as 1. -/
def ofProgram (program : List Word) (size : Nat) (pageSize : Nat) (absent : List Int32) :
    FlatMemory :=
  { words := (program ++ List.replicate (size - program.length) (Word.data 0)).toArray
    absent
    pageSize := max pageSize 1 }

/-- The cell an access reaches, or why it fails. An absent address fails once. -/
def access (m : FlatMemory) (addr : Int32) : Except AccessFault Nat × FlatMemory :=
  if addr.toInt < 0 ∨ m.words.size ≤ addr.toInt.toNat then (.error .invalidAddress, m)
  else if addr ∈ m.absent then
    (.error (.pageFault (addr.toInt.toNat / m.pageSize)), { m with absent := m.absent.erase addr })
  else (.ok addr.toInt.toNat, m)

/-- The bus of a flat memory. -/
def bus (limit : Nat) : Bus FlatMemory where
  read addr m :=
    match m.access addr with
    | (.ok i, m') => (.ok (m'.words.getD i Word.empty), m')
    | (.error e, m') => (.error e, m')
  write addr w m :=
    match m.access addr with
    | (.ok i, m') => (.ok (), { m' with words := m'.words.setIfInBounds i w })
    | (.error e, m') => (.error e, m')
  probeWrite addr m :=
    match m.access addr with
    | (.ok _, m') => (.ok (), m')
    | (.error e, m') => (.error e, m')
  requestIo kind m := { m with io := m.io.push kind }
  limit := limit

end FlatMemory

/-- Traps after which a program does not go on. -/
def Trap.endsProgram : Trap → Bool
  | .stop | .overflow | .invalidAddress | .invalidInstruction => true
  | _ => false

namespace Cpu

variable {σ : Type}

/-- Runs at most `budget` steps, stopping after a step whose trap ends the program. Returns,
for each step, its trap and the program counter after it. -/
def runFor (bus : Bus σ) (budget : Nat) (cpu : Cpu) (s : σ) :
    List (Option Trap × Nat) × Cpu × σ :=
  go budget cpu s []
where
  go : Nat → Cpu → σ → List (Option Trap × Nat) → List (Option Trap × Nat) × Cpu × σ
    | 0, cpu, s, trace => (trace.reverse, cpu, s)
    | n + 1, cpu, s, trace =>
      let ((cpu', trap), s') := (cpu.step bus).run s
      let trace' := (trap, cpu'.context.pc) :: trace
      if trap.any Trap.endsProgram then (trace'.reverse, cpu', s')
      else go n cpu' s' trace'

end Cpu

end PagedMachine
