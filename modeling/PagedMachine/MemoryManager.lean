import PagedMachine.Memory.Physical
import PagedMachine.Memory.Frames
import PagedMachine.Swap
import PagedMachine.Task.Scheduler

/-!
# Paged memory

Logical addresses of a process become physical ones through its page table. A miss starts
the load of the page right away and reports a page fault; the access is retried once the page
has arrived. The frame for the page is the lowest free one, or else the lowest bound frame not
locked by a transfer in flight, whose page is evicted: taken from its owner and queued to be
saved in the owner's slot, or in a newly reserved one. The frame stays locked until the load
completes. When every bound frame is locked, nothing can be evicted and the access fails with
`framesExhausted`.

Every translation of a nonnegative address, and every load that completes, advances a
logical clock; a page records the clock value of its last access.

Disk operations wait in a queue, oldest first, until the disk takes them.

Main statements: a translation that succeeds lands inside the frame of the page
(`translate_ok_frame`).
-/

namespace PagedMachine

/-- Physical memory, frame table, swap disk, queued disk operations and the access clock. -/
structure MemoryManager where
  pageSize : Nat
  memory : PhysicalMemory
  frames : FrameTable
  swap : SwapDisk
  queue : List DiskOperation := []
  clock : Nat := 0
  deriving Repr

namespace MemoryManager

/-- The memory of a machine with the given configuration: all cells empty, all frames free,
all slots free. -/
def new (c : Config) : MemoryManager :=
  { pageSize := c.pageSize, memory := .new c.memoryWords c.pageSize,
    frames := .new c.frameCount, swap := .new c.swapSlots c.pageSize }

/-- Advances the clock and returns its new value. -/
def tick (mm : MemoryManager) : Nat × MemoryManager :=
  (mm.clock + 1, { mm with clock := mm.clock + 1 })

/-- Queues a disk operation. -/
def submit (mm : MemoryManager) (op : DiskOperation) : MemoryManager :=
  { mm with queue := mm.queue ++ [op] }

/-- Takes every queued disk operation, oldest first. -/
def takeQueue (mm : MemoryManager) : List DiskOperation × MemoryManager :=
  (mm.queue, { mm with queue := [] })

/-- The page entry of `pid`'s page `vpn`. -/
def entry? (s : Scheduler) (pid vpn : Nat) : Option PageEntry :=
  (s.get? pid).bind (·.pageTable.get? vpn)

/-- Changes the entry of `pid`'s page `vpn`. -/
def modifyEntry (s : Scheduler) (pid vpn : Nat) (f : PageEntry → PageEntry) : Scheduler :=
  s.modify pid fun cb => { cb with pageTable := cb.pageTable.modify vpn f }

/-- Takes `frame` from the page it holds and queues the save of its content, in the owner's
slot or a newly reserved one (none when the disk is full). The frame stays locked. -/
def evict (mm : MemoryManager) (s : Scheduler) (frame : Nat) : MemoryManager × Scheduler :=
  match mm.frames.owner frame with
  | none => (mm, s)
  | some o =>
    let mm := { mm with frames := mm.frames.lock frame }
    match entry? s o.pid o.page with
    | none => (mm, s)
    | some e =>
      let (slot, swap) := match e.slot with
        | some n => (some n, mm.swap)
        | none => mm.swap.reserve
      let s := modifyEntry s o.pid o.page fun e => e.setAbsent.setSlot slot
      let data := mm.memory.frame frame
      ({ mm with swap }.submit ⟨o.pid, o.page, frame, .save data slot⟩, s)

/-- Finds a frame for `pid`'s page `vpn`, evicting if needed, locks it and queues the load of
the page from its slot or from the program image. -/
def startLoad (mm : MemoryManager) (s : Scheduler) (pid vpn : Nat) :
    Except AccessFault Unit × MemoryManager × Scheduler :=
  let owner : FrameOwner := ⟨pid, vpn⟩
  let found : Option (Nat × MemoryManager × Scheduler) :=
    match mm.frames.allocate owner with
    | (some f, frames) => some (f, { mm with frames }, s)
    | (none, _) =>
      match mm.frames.selectVictim with
      | none => none
      | some v =>
        let (mm, s) := mm.evict s v
        some (v, { mm with frames := mm.frames.assign v owner }, s)
  match found with
  | none => (.error .framesExhausted, mm, s)
  | some (f, mm, s) =>
    let mm := { mm with frames := mm.frames.lock f }
    match s.get? pid with
    | none => (.error .invalidAddress, mm, s)
    | some cb =>
      match cb.pageTable.get? vpn with
      | none => (.error .invalidAddress, mm, s)
      | some e =>
        let s := modifyEntry s pid vpn PageEntry.setLoading
        let source := match e.slot with
          | some n => LoadSource.slot n
          | none => LoadSource.image cb.image
        (.ok (), mm.submit ⟨pid, vpn, f, .load source⟩, s)

/-- The physical address of `pid`'s logical address `va`. A present page records the access
(a write marks it modified). An absent page gets its load started, unless one is in flight,
and the access faults. A negative address, or one past the process's pages, is invalid. -/
def translate (mm : MemoryManager) (s : Scheduler) (pid : Nat) (va : Int32) (write : Bool) :
    Except AccessFault Nat × MemoryManager × Scheduler :=
  if va.toInt < 0 then (.error .invalidAddress, mm, s)
  else
    let addr := va.toInt.toNat
    let ps := mm.pageSize
    let vpn := addr / ps
    let (now, mm) := mm.tick
    match entry? s pid vpn with
    | none => (.error .invalidAddress, mm, s)
    | some e =>
      match e.frame with
      | some f => (.ok (f * ps + addr % ps), mm, modifyEntry s pid vpn (·.touch now write))
      | none =>
        if e.loading then (.error (.pageFault vpn), mm, s)
        else match mm.startLoad s pid vpn with
          | (.error err, mm, s) => (.error err, mm, s)
          | (.ok (), mm, s) => (.error (.pageFault vpn), mm, s)

/-- Installs page 0 of a new process right away, if a frame is free. -/
def loadInitial (mm : MemoryManager) (cb : ControlBlock) : Bool × MemoryManager × ControlBlock :=
  match mm.frames.allocate ⟨cb.pid, 0⟩ with
  | (none, _) => (false, mm, cb)
  | (some f, frames) =>
    let memory := mm.memory.fillFrame f (cb.image.toList.take mm.pageSize)
    let (now, mm) := { mm with frames, memory }.tick
    match cb.pageTable.get? 0 with
    | some _ => (true, mm, { cb with pageTable := cb.pageTable.modify 0 (·.setPresent f now) })
    | none => (false, { mm with frames := mm.frames.deallocate f }, cb)

/-- A load finished. Returns the process to wake, or none when the completion is stale: the
frame was given to another page, or the process or page is gone. A console value waiting for
this page is stored now. -/
def completeLoad (mm : MemoryManager) (s : Scheduler) (pid page frame : Nat) (data : List Word) :
    Option Nat × MemoryManager × Scheduler :=
  if mm.frames.owner frame ≠ some ⟨pid, page⟩ then (none, mm, s)
  else
    let (now, mm) := mm.tick
    let ps := mm.pageSize
    match s.get? pid with
    | none => (none, mm, s)
    | some cb =>
      match cb.pageTable.get? page with
      | none => (none, mm, s)
      | some _ =>
        let mm := { mm with memory := mm.memory.fillFrame frame data,
                            frames := mm.frames.unlock frame }
        let pt := cb.pageTable.modify page (·.setPresent frame now)
        let (mm, cb) := match cb.pendingInput with
          | some (va, value) =>
            if va / ps = page then
              ({ mm with memory := mm.memory.write (frame * ps + va % ps) (Word.data value) },
                { cb with pageTable := pt.modify page (·.touch now true), pendingInput := none })
            else (mm, { cb with pageTable := pt })
          | none => (mm, { cb with pageTable := pt })
        (some pid, mm, s.insert cb)

/-- A save finished in `slot`. Only a page that is still absent and has no slot records it. -/
def completeSave (s : Scheduler) (pid page slot : Nat) : Scheduler :=
  match entry? s pid page with
  | some e =>
    if !e.isPresent && e.slot.isNone then modifyEntry s pid page (·.setSlot (some slot)) else s
  | none => s

/-- Gives back every frame and swap slot of a process that ended. -/
def release (mm : MemoryManager) (cb : ControlBlock) : MemoryManager :=
  { mm with frames := (mm.frames.releaseOwner cb.pid).2,
            swap := cb.pageTable.slots.foldl SwapDisk.release mm.swap }

/-- Every present page must own its frame, and no frame may be claimed by two present pages.
Processes are checked by increasing pid and pages in order. -/
def audit (mm : MemoryManager) (s : Scheduler) : Except AuditError Unit := do
  let mut claimed : List (Nat × Nat) := []
  for cb in s.table.values do
    for (page, e) in cb.pageTable.pages do
      if let some f := e.frame then
        if let some first := claimed.lookup f then
          throw (.frameClaimedTwice f first cb.pid)
        claimed := (f, cb.pid) :: claimed
        if mm.frames.owner f ≠ some ⟨cb.pid, page⟩ then
          throw (.ownerMismatch cb.pid page f)

/-- Carries out every queued disk operation in order. A load completes at once and reports
the process to wake; a save records its slot; a lost page changes nothing here. -/
def serveQueue (mm : MemoryManager) (s : Scheduler) :
    List (Completion × Option Nat) × MemoryManager × Scheduler :=
  let (ops, mm) := mm.takeQueue
  ops.foldl (fun (acc, mm, s) op =>
    let (c, swap) := mm.swap.perform op
    let mm := { mm with swap }
    match c.result with
    | .loaded data =>
      let (woke, mm, s) := mm.completeLoad s c.pid c.page c.frame data
      (acc ++ [(c, woke)], mm, s)
    | .saved slot => (acc ++ [(c, none)], mm, completeSave s c.pid c.page slot)
    | .diskFull => (acc ++ [(c, none)], mm, s)) ([], mm, s)

/-- The word at a physical address. -/
def read (mm : MemoryManager) (pa : Nat) : Word := mm.memory.read pa

/-- Stores a word at a physical address. -/
def write (mm : MemoryManager) (pa : Nat) (w : Word) : MemoryManager :=
  { mm with memory := mm.memory.write pa w }

/-- An address translates only through the frame of a present page, at its offset. -/
theorem translate_ok_frame (mm : MemoryManager) (s : Scheduler) (pid : Nat) (va : Int32)
    (write : Bool) (pa : Nat) (ok : (mm.translate s pid va write).1 = .ok pa) :
    ∃ e f, entry? s pid (va.toInt.toNat / mm.pageSize) = some e ∧ e.frame = some f ∧
      pa = f * mm.pageSize + va.toInt.toNat % mm.pageSize := by
  unfold translate at ok
  split at ok
  · cases ok
  · simp only [tick] at ok
    split at ok
    · cases ok
    · rename_i e he
      split at ok
      · rename_i f hf
        cases ok
        exact ⟨e, f, he, hf, rfl⟩
      · split at ok
        · cases ok
        · split at ok <;> cases ok

end MemoryManager

end PagedMachine
