import PagedMachine.Task.Status
import PagedMachine.Cpu.Basic
import PagedMachine.Memory.PageTable
import PagedMachine.Program

/-!
# Process control blocks

Everything the kernel keeps about one process: its id and program name, its status, the
context saved while it is off the processor, its page table, what it is blocked on, the
program image its pages first come from, its size in words, and a console value that arrived
while its target page was absent.

A new process has status `new`, the initial context, and one page table entry per page of
its program's required words.
-/

namespace PagedMachine

/-- What the kernel keeps about one process. -/
structure ControlBlock where
  pid : Nat
  name : String
  status : TaskStatus := .new
  context : Context := {}
  pageTable : PageTable
  blockedOn : BlockReason := {}
  image : Array Word
  size : Nat
  /-- A console value and its logical address, waiting for the page to arrive. -/
  pendingInput : Option (Nat × Int32) := none
  deriving Repr

namespace ControlBlock

/-- A new process `pid` running `program`, with pages of `pageSize` words (at least one). -/
def new (pid : Nat) (program : Program) (pageSize : Nat) : ControlBlock :=
  let size := program.requiredWords
  { pid, name := program.name, pageTable := .new (Program.pageCount pageSize size),
    image := program.image, size }

/-- A new process, when pages hold at least one word. -/
def create? (pid : Nat) (program : Program) (pageSize : Nat) : Option ControlBlock :=
  if pageSize = 0 then none else some (new pid program pageSize)

/-- A new process has status `new`. -/
@[simp] theorem new_status (pid : Nat) (program : Program) (pageSize : Nat) :
    (new pid program pageSize).status = .new := rfl

end ControlBlock

end PagedMachine
