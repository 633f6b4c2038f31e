import PagedMachine.Kernel.Basic

/-!
# Looking into the kernel

Read-only views for the console and for tests: a one-line summary per process, a full
snapshot of one process with its registers and page table, the frame table and memory.
A running process shows the processor's context, any other its saved one.
-/

namespace PagedMachine

/-- One line about a process. -/
structure ProcessSummary where
  pid : Nat
  name : String
  status : TaskStatus
  blockedOn : BlockReason
  pages : Nat
  present : Nat
  deriving Repr

/-- The pid in four columns, two spaces, the name in fourteen, the status in ten, then
`present/pages pages`, and what the process waits on, if anything. -/
def ProcessSummary.render (p : ProcessSummary) : String :=
  Text.alignRight 4 (toString p.pid) ++ "  " ++ Text.alignLeft 14 p.name ++ " " ++
    Text.alignLeft 10 p.status.label ++ " " ++ s!"{p.present}/{p.pages} pages" ++
    (if p.blockedOn.isEmpty then "" else "  waiting on " ++ p.blockedOn.render)

/-- Everything about one process. -/
structure ProcessSnapshot where
  pid : Nat
  name : String
  status : TaskStatus
  context : Context
  blockedOn : BlockReason
  size : Nat
  pages : List (Nat × PageEntry)
  deriving Repr

namespace ProcessSnapshot

/-- Number of pages in memory. -/
def presentPages (p : ProcessSnapshot) : Nat := (p.pages.filter (·.2.isPresent)).length

/-- A page line: the page, its frame and slot (`-` for none) in three columns, the time of
its last access in five, and the words `modified` and `loading` where they apply. -/
def renderPage (page : Nat) (e : PageEntry) : String :=
  let opt := fun (o : Option Nat) => match o with
    | some n => toString n
    | none => "-"
  s!"  page {page}: frame {Text.alignRight 3 (opt e.frame)} slot {Text.alignRight 3 (opt e.slot)}" ++
    s!" used {Text.alignRight 5 (toString e.lastAccess)}" ++
    (if e.modified then " modified" else "") ++ (if e.loading then " loading" else "") ++ "\n"

/-- A heading line, a line of registers and a line per page. -/
def render (p : ProcessSnapshot) : String :=
  s!"pid {p.pid} ({p.name}) {p.status.label} pc {p.context.pc} size {p.size} words, " ++
    s!"waiting on {p.blockedOn.render}\n" ++
    "  regs" ++ String.join ((p.context.registers.toList.zipIdx).map fun (v, i) =>
      s!" r{i}={v.toInt}") ++ "\n" ++
    String.join (p.pages.map fun (i, e) => renderPage i e)

end ProcessSnapshot

namespace Kernel

/-- The snapshot of a control block. -/
def snapshotOf (k : Kernel) (cb : ControlBlock) : ProcessSnapshot :=
  { pid := cb.pid, name := cb.name, status := cb.status, context := k.sched.contextOf cb,
    blockedOn := cb.blockedOn, size := cb.size, pages := cb.pageTable.pages }

/-- The snapshot of `pid`. -/
def snapshot (k : Kernel) (pid : Nat) : Except KernelError ProcessSnapshot :=
  match k.sched.get? pid with
  | some cb => .ok (k.snapshotOf cb)
  | none => .error (.noSuchProcess pid)

/-- A summary of every live process, by pid. -/
def processes (k : Kernel) : List ProcessSummary :=
  k.sched.table.values.map fun cb =>
    ⟨cb.pid, cb.name, cb.status, cb.blockedOn, cb.pageTable.size, cb.pageTable.presentPages⟩

/-- The occupancy of every frame. -/
def frames (k : Kernel) : List FrameInfo := k.mm.frames.info

/-- Number of free frames. -/
def freeFrames (k : Kernel) : Nat := k.mm.frames.freeCount

/-- Physical memory from `start` up to `stop`, clamped. -/
def dumpMemory (k : Kernel) (start stop : Nat) : MemoryDump := k.mm.memory.dump start stop

/-- The counters of the swap disk. -/
def diskStats (k : Kernel) : DiskStats := k.mm.swap.stats

/-- The recorded transitions, oldest first. -/
def transitions (k : Kernel) : List Transition := k.sched.log.toList

end Kernel

end PagedMachine
