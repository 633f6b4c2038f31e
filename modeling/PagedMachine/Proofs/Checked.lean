import PagedMachine.Proofs.Frames
import PagedMachine.Proofs.Slots

/-!
# Paging with every index checked

Physical memory, the frame table and the swap disk are arrays, and the operations of the memory
manager index them with frame numbers, physical addresses and slots they compute. The model's
operations are total: an index out of range reads an empty word or changes nothing. The
checked forms below (`evict?`, `startLoad?`, `translate?`, `loadInitial?`, `completeLoad?`,
`release?`) are the same operations with each of those indexings checked, as the arrays of the
machine check them: they give none where an index falls outside its array, a page size of zero
divides, or the count of slots in use would drop below zero.

`MemoryManager.Fits` is what makes every check pass: pages hold at least one word, the frames
of the frame table lie inside memory, and the disk has one content per reservation and counts
the slots it reserved. Under it each checked operation gives the total one's result
(`evict?_eq` to `release?_eq`), and every paging operation keeps it (`ShapeKept`).
-/

namespace PagedMachine

namespace PhysicalMemory

variable (m : PhysicalMemory)

/-- Writing words one after another keeps the size of memory. -/
theorem size_foldl_write (l : List Nat) (addr : Nat → Nat) (word : Nat → Word) :
    (l.foldl (fun acc i => acc.write (addr i) (word i)) m).size = m.size := by
  induction l generalizing m with
  | nil => rfl
  | cons i rest ih => rw [List.foldl_cons, ih, size_write]

/-- Filling a frame keeps the size of memory. -/
@[simp] theorem size_fillFrame (f : Nat) (data : List Word) : (m.fillFrame f data).size = m.size :=
  size_foldl_write m _ _ _

/-- Writing words one after another keeps the page size of memory. -/
theorem pageSize_foldl_write (l : List Nat) (addr : Nat → Nat) (word : Nat → Word) :
    (l.foldl (fun acc i => acc.write (addr i) (word i)) m).pageSize = m.pageSize := by
  induction l generalizing m with
  | nil => rfl
  | cons i rest ih => rw [List.foldl_cons, ih]; rfl

/-- Filling a frame keeps the page size of memory. -/
@[simp] theorem pageSize_fillFrame (f : Nat) (data : List Word) :
    (m.fillFrame f data).pageSize = m.pageSize :=
  pageSize_foldl_write m _ _ _

/-- Writing a word keeps the page size of memory. -/
@[simp] theorem pageSize_write (pa : Nat) (w : Word) : (m.write pa w).pageSize = m.pageSize := rfl

/-- A frame below a frame count whose frames fit in memory lies wholly inside memory. -/
theorem holdsFrame_of_lt {f count : Nat} (below : f < count) (room : count * m.pageSize ≤ m.size) :
    m.holdsFrame f = true := by
  have fits : (f + 1) * m.pageSize ≤ count * m.pageSize := Nat.mul_le_mul_right _ below
  simpa [holdsFrame] using Nat.le_trans fits room

/-- A frame inside memory is read without a failed check. -/
theorem frame?_of_holds {f : Nat} (holds : m.holdsFrame f = true) : m.frame? f = some (m.frame f) := by
  simp [frame?, frame, holds]

/-- A frame inside memory is filled without a failed check. -/
theorem fillFrame?_of_holds {f : Nat} (holds : m.holdsFrame f = true) (data : List Word) :
    m.fillFrame? f data = some (m.fillFrame f data) := by
  simp [fillFrame?, holds]

/-- An address inside memory is written without a failed check. -/
theorem write?_of_lt {pa : Nat} (inside : pa < m.size) (w : Word) : m.write? pa w = some (m.write pa w) := by
  simp [write?, inside]

/-- An address inside memory is read without a failed check. -/
theorem read?_of_lt {pa : Nat} (inside : pa < m.size) : m.read? pa = some (m.read pa) := by
  simp only [read?, read, size] at inside ⊢
  rw [Array.getElem?_eq_getElem inside, Array.getD_eq_getD_getElem?, Array.getElem?_eq_getElem inside]
  rfl

/-- An address at an offset inside a frame lying inside memory is inside memory. -/
theorem lt_size_of_holds {f : Nat} (holds : m.holdsFrame f = true) {offset : Nat}
    (inFrame : offset < m.pageSize) : f * m.pageSize + offset < m.size := by
  have room : (f + 1) * m.pageSize ≤ m.size := by simpa [holdsFrame] using holds
  rw [Nat.succ_mul] at room
  omega

end PhysicalMemory

namespace FrameTable

variable (t : FrameTable)

/-- Allocation as the table is indexed: binding the frame found must stay inside the table. -/
def allocate? (o : FrameOwner) : Option (Option Nat × FrameTable) :=
  match t.firstFree with
  | some f => (t.checked f fun t f => t.assign f o).map fun t' => (some f, t')
  | none => some (none, t)

/-- A change at a frame inside the table passes its check. -/
theorem checked_of_lt {f : Nat} (inside : f < t.size) (op : FrameTable → Nat → FrameTable) :
    t.checked f op = some (op t f) := by
  simp [checked, inside]

/-- Allocation never binds a frame outside the table. -/
theorem allocate?_eq (o : FrameOwner) : t.allocate? o = some (t.allocate o) := by
  unfold allocate? allocate
  cases found : t.firstFree with
  | some f => simp [checked_of_lt t (t.firstFree_spec found).1]
  | none => rfl

end FrameTable

namespace SwapDisk

variable {d : SwapDisk} {n : Nat}

/-- Releasing as the disk indexes its slots: a reserved slot must have a content to forget,
and the count of slots in use must not drop below zero. -/
def release? (d : SwapDisk) (n : Nat) : Option SwapDisk :=
  if d.reserved.getD n false then
    if n < d.contents.size ∧ 0 < d.stats.slotsInUse then some (d.release n) else none
  else some d

/-- A disk with one content per reservation that counts the slots it reserved. -/
structure Counted (d : SwapDisk) : Prop where
  sizes : d.contents.size = d.reserved.size
  inUse : d.stats.slotsInUse = d.reserved.count true

/-- A reserved slot lies inside the disk. -/
theorem lt_size_of_reserved (held : d.reserved.getD n false = true) : n < d.reserved.size := by
  by_contra outside
  simp [Array.getD_eq_getD_getElem?, outside] at held

/-- A counted disk releases any slot without a failed check. -/
theorem release?_eq (counted : d.Counted) (n : Nat) : d.release? n = some (d.release n) := by
  unfold release?
  split
  · rename_i held
    have inside := lt_size_of_reserved held
    have reserved : d.reserved[n] = true := by
      simpa [Array.getD_eq_getD_getElem?, inside] using held
    have some : 0 < d.reserved.count true :=
      Array.count_pos_iff.2 (Array.mem_iff_getElem.2 ⟨n, inside, reserved⟩)
    rw [if_pos ⟨counted.sizes ▸ inside, counted.inUse ▸ some⟩]
  · rename_i free
    unfold release
    rw [if_neg free]

/-- Releasing a slot keeps the disk counted. -/
theorem Counted.release (counted : d.Counted) (n : Nat) : (d.release n).Counted := by
  refine ⟨?_, counted_release counted.inUse⟩
  unfold SwapDisk.release
  split
  · simpa using counted.sizes
  · exact counted.sizes

/-- Reserving a slot keeps the disk counted. -/
theorem Counted.reserve (counted : d.Counted) : d.reserve.2.Counted := by
  cases reserved : d.reserve with
  | mk slot d' =>
    cases slot with
    | none =>
      have same := reserve_none (d := d) (by rw [reserved])
      rw [reserved] at same
      subst same
      exact counted
    | some n =>
      obtain ⟨_, _, count, inUse⟩ := reserve_some reserved
      refine ⟨?_, by rw [inUse, count, counted.inUse]⟩
      unfold SwapDisk.reserve at reserved
      split at reserved
      · cases reserved
        simpa using counted.sizes
      · cases reserved

/-- Saving a page keeps the number of slot contents. -/
theorem contents_save (data : List Word) (slot : Option Nat) :
    (d.save data slot).2.contents.size = d.contents.size := by
  unfold save
  split
  · split <;> simp
  · rfl

/-- Loading a page leaves the slot contents. -/
theorem contents_load {page : Nat} {source : LoadSource} {data : List Word} {d' : SwapDisk}
    (loaded : d.load page source = some (data, d')) : d'.contents = d.contents := by
  unfold load at loaded
  cases source with
  | slot m =>
    simp only [Option.bind_eq_bind, Option.pure_def, Option.bind_some, Option.some.injEq,
      Prod.mk.injEq] at loaded
    rw [← loaded.2]
  | image words =>
    cases cut : imagePage? d.pageSize page words with
    | none => simp [cut] at loaded
    | some w =>
      simp only [cut, Option.bind_eq_bind, Option.pure_def, Option.bind_some, Option.some.injEq,
        Prod.mk.injEq] at loaded
      rw [← loaded.2]

/-- Carrying out a disk operation keeps the number of slot contents. -/
theorem contents_perform (op : DiskOperation) : (d.perform op).2.contents.size = d.contents.size := by
  unfold SwapDisk.perform SwapDisk.perform?
  rcases op with ⟨pid, page, frame, kind⟩
  cases kind with
  | save data slot => simpa using contents_save data slot
  | load source =>
    cases loaded : d.load page source with
    | none => simp [loaded]
    | some r => simp [loaded, contents_load loaded]

/-- Carrying out a disk operation keeps the disk counted. -/
theorem Counted.perform (counted : d.Counted) (op : DiskOperation) : (d.perform op).2.Counted := by
  obtain ⟨reserved, inUse⟩ := perform_reserved (d := d) op
  exact ⟨by rw [contents_perform, reserved, counted.sizes], by rw [reserved, inUse, counted.inUse]⟩

/-- Reserving a slot keeps the page size of the disk. -/
@[simp] theorem pageSize_reserve : d.reserve.2.pageSize = d.pageSize := by
  unfold SwapDisk.reserve
  split <;> rfl

/-- Releasing a slot keeps the page size of the disk. -/
@[simp] theorem pageSize_release (n : Nat) : (d.release n).pageSize = d.pageSize := by
  unfold SwapDisk.release
  split <;> rfl

/-- Releasing slots one after another keeps the page size of the disk. -/
theorem pageSize_foldl_release (l : List Nat) : (l.foldl release d).pageSize = d.pageSize := by
  induction l generalizing d with
  | nil => rfl
  | cons n rest ih => rw [List.foldl_cons, ih, pageSize_release]

/-- Releasing slots one after another keeps the disk counted. -/
theorem Counted.foldl_release (counted : d.Counted) (l : List Nat) :
    (l.foldl SwapDisk.release d).Counted := by
  induction l generalizing d with
  | nil => exact counted
  | cons n rest ih => exact ih (counted.release n)

/-- Carrying out a disk operation keeps the page size of the disk. -/
@[simp] theorem pageSize_perform (op : DiskOperation) : (d.perform op).2.pageSize = d.pageSize := by
  unfold SwapDisk.perform SwapDisk.perform?
  rcases op with ⟨pid, page, frame, kind⟩
  cases kind with
  | save data slot =>
    simp only [Option.getD_some]
    unfold save
    split
    · split <;> rfl
    · rfl
  | load source =>
    cases loaded : d.load page source with
    | none => simp [loaded]
    | some r =>
      obtain ⟨data, d'⟩ := r
      have same : d'.pageSize = d.pageSize := by
        unfold load at loaded
        cases source with
        | slot m =>
          simp only [Option.bind_eq_bind, Option.pure_def, Option.bind_some, Option.some.injEq,
            Prod.mk.injEq] at loaded
          rw [← loaded.2]
        | image words =>
          cases cut : imagePage? d.pageSize page words with
          | none => simp [cut] at loaded
          | some w =>
            simp only [cut, Option.bind_eq_bind, Option.pure_def, Option.bind_some,
              Option.some.injEq, Prod.mk.injEq] at loaded
            rw [← loaded.2]
      simp [loaded, same]

/-- Releasing a list of slots from a counted disk checks out. -/
theorem foldlM_release? (counted : d.Counted) (l : List Nat) :
    l.foldlM release? d = some (l.foldl release d) := by
  induction l generalizing d with
  | nil => rfl
  | cons n rest ih =>
    rw [List.foldlM_cons, release?_eq counted, Option.bind_eq_bind, Option.bind_some,
      ih (counted.release n), List.foldl_cons]

/-- A page of a process whose image and size are far below 2^64 can be cut out of the image.
The first page always can; a later one exists only when a page is shorter than the process, so
its end does not wrap. -/
theorem imagePage?_isSome {ps page w : Nat} (image : Array Word)
    (small : image.size + w < Text.unsignedBound) (inside : page < Program.pageCount ps w) :
    (imagePage? ps page image).isSome := by
  unfold imagePage?
  dsimp only
  cases page with
  | zero => simp [Unsigned.wrap]
  | succ p =>
    have positive : 0 < ps := by
      rcases Nat.eq_zero_or_pos ps with zero | positive
      · simp [zero, Program.pageCount] at inside
      · exact positive
    have pages : (p + 2) * ps ≤ w + ps - 1 :=
      Nat.le_trans ((Nat.le_div_iff_mul_le positive).1 inside) (Nat.mod_le _ _)
    have short : ps < w := by
      have : ps ≤ (p + 1) * ps := Nat.le_mul_of_pos_left ps (Nat.succ_pos p)
      rw [Nat.succ_mul] at pages
      omega
    have start_le := Nat.min_le_right (Unsigned.wrap ((p + 1) * ps)) image.size
    generalize min (Unsigned.wrap ((p + 1) * ps)) image.size = start at *
    rw [Unsigned.wrap_of_lt (by omega)]
    simp only [Option.isSome_ite]
    omega

end SwapDisk

namespace MemoryManager

open Scheduler

variable {mm mm' : MemoryManager} {s : Scheduler}

/-- Eviction as memory and the frame table are indexed: the frame it locks and copies out must
exist and lie inside memory. -/
def evict? (mm : MemoryManager) (s : Scheduler) (frame : Nat) :
    Option (MemoryManager × Scheduler) :=
  match mm.frames.owner frame with
  | none => some (mm, s)
  | some o => do
    let frames ← mm.frames.checked frame FrameTable.lock
    let mm := { mm with frames }
    match entry? s o.pid o.page with
    | none => pure (mm, s)
    | some e =>
      let (slot, swap) := match e.slot with
        | some n => (some n, mm.swap)
        | none => mm.swap.reserve
      let s := modifyEntry s o.pid o.page fun e => e.setAbsent.setSlot slot
      let data ← mm.memory.frame? frame
      pure ({ mm with swap }.submit ⟨o.pid, o.page, frame, .save data slot⟩, s)

/-- Finding a frame for a page as the frame table is indexed: the frame allocated, or the
victim evicted and bound to the page, must exist. None inside when no frame can be found. -/
def frameFor? (mm : MemoryManager) (s : Scheduler) (owner : FrameOwner) :
    Option (Option (Nat × MemoryManager × Scheduler)) :=
  match mm.frames.allocate? owner with
  | none => none
  | some (some f, frames) => some (some (f, { mm with frames }, s))
  | some (none, _) =>
    match mm.frames.selectVictim with
    | none => some none
    | some v => do
      let (mm, s) ← mm.evict? s v
      let frames ← mm.frames.checked v fun t f => t.assign f owner
      pure (some (v, { mm with frames }, s))

/-- Starting a load as the frame table and memory are indexed: the frame found and locked for
the page must exist. -/
def startLoad? (mm : MemoryManager) (s : Scheduler) (pid vpn : Nat) :
    Option (Except AccessFault Unit × MemoryManager × Scheduler) := do
  match ← mm.frameFor? s ⟨pid, vpn⟩ with
  | none => pure (.error .framesExhausted, mm, s)
  | some (f, mm, s) =>
    let frames ← mm.frames.checked f FrameTable.lock
    let mm := { mm with frames }
    match s.get? pid with
    | none => pure (.error .invalidAddress, mm, s)
    | some cb =>
      match cb.pageTable.get? vpn with
      | none => pure (.error .invalidAddress, mm, s)
      | some e =>
        let s := modifyEntry s pid vpn PageEntry.setLoading
        let source := match e.slot with
          | some n => LoadSource.slot n
          | none => LoadSource.image cb.image
        pure (.ok (), mm.submit ⟨pid, vpn, f, .load source⟩, s)

/-- A translation as it divides by the page size and starts loads. -/
def translate? (mm : MemoryManager) (s : Scheduler) (pid : Nat) (va : Int32) (write : Bool) :
    Option (Except AccessFault Nat × MemoryManager × Scheduler) :=
  if va.toInt < 0 then some (.error .invalidAddress, mm, s)
  else if mm.pageSize = 0 then none
  else
    let addr := va.toInt.toNat
    let ps := mm.pageSize
    let vpn := addr / ps
    let (now, mm) := mm.tick
    match entry? s pid vpn with
    | none => some (.error .invalidAddress, mm, s)
    | some e =>
      match e.frame with
      | some f => some (.ok (f * ps + addr % ps), mm, modifyEntry s pid vpn (·.touch now write))
      | none =>
        if e.loading then some (.error (.pageFault vpn), mm, s)
        else match mm.startLoad? s pid vpn with
          | none => none
          | some (.error err, mm, s) => some (.error err, mm, s)
          | some (.ok (), mm, s) => some (.error (.pageFault vpn), mm, s)

/-- Installing the first page of a new process as memory and the frame table are indexed: the
frame allocated and filled must exist and lie inside memory. -/
def loadInitial? (mm : MemoryManager) (cb : ControlBlock) :
    Option (Bool × MemoryManager × ControlBlock) :=
  match mm.frames.allocate? ⟨cb.pid, 0⟩ with
  | none => none
  | some (none, _) => some (false, mm, cb)
  | some (some f, frames) => do
    let memory ← mm.memory.fillFrame? f (cb.image.toList.take mm.pageSize)
    let (now, mm) := { mm with frames, memory }.tick
    match cb.pageTable.get? 0 with
    | some _ => pure (true, mm, { cb with pageTable := cb.pageTable.modify 0 (·.setPresent f now) })
    | none => pure (false, { mm with frames := mm.frames.deallocate f }, cb)

/-- A completed load as memory and the frame table are indexed: the frame filled and unlocked
must exist and lie inside memory, and a console value waiting for the page is stored inside
memory; the page of its address divides by the page size. -/
def completeLoad? (mm : MemoryManager) (s : Scheduler) (pid page frame : Nat) (data : List Word) :
    Option (Option Nat × MemoryManager × Scheduler) :=
  if mm.frames.owner frame ≠ some ⟨pid, page⟩ then some (none, mm, s)
  else
    let (now, mm) := mm.tick
    let ps := mm.pageSize
    match s.get? pid with
    | none => some (none, mm, s)
    | some cb =>
      match cb.pageTable.get? page with
      | none => some (none, mm, s)
      | some _ => do
        let memory ← mm.memory.fillFrame? frame data
        let frames ← mm.frames.checked frame FrameTable.unlock
        let mm := { mm with memory, frames }
        let pt := cb.pageTable.modify page (·.setPresent frame now)
        let (mm, cb) ← match cb.pendingInput with
          | some (va, value) =>
            if ps = 0 then none
            else if va / ps = page then do
              let memory ← mm.memory.write? (frame * ps + va % ps) (Word.data value)
              pure ({ mm with memory },
                { cb with pageTable := pt.modify page (·.touch now true), pendingInput := none })
            else pure (mm, { cb with pageTable := pt })
          | none => pure (mm, { cb with pageTable := pt })
        pure (some pid, mm, s.insert cb)

/-- Giving back the frames and slots of a process as the disk indexes its slots. -/
def release? (mm : MemoryManager) (cb : ControlBlock) : Option MemoryManager := do
  let swap ← cb.pageTable.slots.foldlM SwapDisk.release? mm.swap
  pure { mm with frames := (mm.frames.releaseOwner cb.pid).2, swap }

/-- Reading a physical address as memory is indexed. -/
def read? (mm : MemoryManager) (pa : Nat) : Option Word := mm.memory.read? pa

/-- Writing a physical address as memory is indexed. -/
def write? (mm : MemoryManager) (pa : Nat) (w : Word) : Option MemoryManager :=
  (mm.memory.write? pa w).map fun memory => { mm with memory }

/-- An address inside memory is read through the memory manager without a failed check. -/
theorem read?_of_lt {pa : Nat} (inside : pa < mm.memory.size) : mm.read? pa = some (mm.read pa) :=
  mm.memory.read?_of_lt inside

/-- An address inside memory is written through the memory manager without a failed check. -/
theorem write?_of_lt {pa : Nat} (inside : pa < mm.memory.size) (w : Word) :
    mm.write? pa w = some (mm.write pa w) := by
  simp only [write?, mm.memory.write?_of_lt inside, Option.map_some]
  rfl

/-- A memory manager whose indexings all check out: pages hold at least one word and memory
cuts frames by the same size, the frames of the table lie inside memory, and the disk is
counted. -/
structure Fits (mm : MemoryManager) : Prop where
  page_pos : 0 < mm.pageSize
  framePage : mm.memory.pageSize = mm.pageSize
  room : mm.frames.size * mm.pageSize ≤ mm.memory.size
  counted : mm.swap.Counted

/-- Every frame of the table lies inside memory. -/
theorem Fits.holdsFrame (fits : mm.Fits) {f : Nat} (inside : f < mm.frames.size) :
    mm.memory.holdsFrame f = true :=
  mm.memory.holdsFrame_of_lt inside (by rw [fits.framePage]; exact fits.room)

/-- Every address of a frame of the table lies inside memory. -/
theorem Fits.lt_size (fits : mm.Fits) {f : Nat} (inside : f < mm.frames.size) (offset : Nat) :
    f * mm.pageSize + offset % mm.pageSize < mm.memory.size := by
  have inFrame : offset % mm.pageSize < mm.memory.pageSize := by
    rw [fits.framePage]
    exact Nat.mod_lt _ fits.page_pos
  have address := mm.memory.lt_size_of_holds (fits.holdsFrame inside) inFrame
  rwa [fits.framePage] at address

/-- Under `Fits`, eviction indexes nothing out of range. -/
theorem evict?_eq (fits : mm.Fits) (v : Nat) : mm.evict? s v = some (mm.evict s v) := by
  unfold evict? evict
  cases owned : mm.frames.owner v with
  | none => rfl
  | some o =>
    have inside := FrameTable.lt_size_of_owner _ owned
    simp only [FrameTable.checked_of_lt _ inside, Option.bind_eq_bind, Option.bind_some]
    cases entry? s o.pid o.page with
    | none => rfl
    | some e =>
      simp only [PhysicalMemory.frame?_of_holds _ (fits.holdsFrame inside), Option.bind_some]
      cases e.slot with
      | some n => rfl
      | none =>
        rcases mm.swap.reserve with ⟨slot, swap⟩
        rfl

/-- The frame a load goes to, found, locked and bound to the page, exists. -/
theorem startLoad?_eq (fits : mm.Fits) (pid vpn : Nat) :
    mm.startLoad? s pid vpn = some (mm.startLoad s pid vpn) := by
  unfold startLoad? startLoad frameFor?
  dsimp only
  rw [FrameTable.allocate?_eq]
  -- the frame found, the victim or a free one, is inside the table; it is bound and locked
  rcases allocated : mm.frames.allocate ⟨pid, vpn⟩ with ⟨_ | f, frames⟩
  · dsimp only
    rcases victim : mm.frames.selectVictim with _ | v
    · rfl
    obtain ⟨o, owned⟩ := Option.isSome_iff_exists.1 (FrameTable.selectVictim_spec _ victim).1
    have inside : v < (mm.evict s v).1.frames.size := by
      rw [size_evict]
      exact FrameTable.lt_size_of_owner _ owned
    have assigned : v < ((mm.evict s v).1.frames.assign v ⟨pid, vpn⟩).size := by
      simpa using inside
    simp only [evict?_eq fits, Option.bind_eq_bind, Option.bind_some,
      FrameTable.checked_of_lt _ inside, FrameTable.checked_of_lt _ assigned, Option.pure_def]
    -- the rest reads the page table and indexes nothing
    cases (mm.evict s v).2.get? pid with
    | none => rfl
    | some cb =>
      dsimp only
      cases cb.pageTable.get? vpn <;> rfl
  · obtain ⟨free, rfl⟩ := FrameTable.allocate_some _ allocated
    have inside : f < (mm.frames.assign f ⟨pid, vpn⟩).size := by
      simpa using (FrameTable.firstFree_spec _ free).1
    simp only [Option.bind_eq_bind, Option.bind_some, FrameTable.checked_of_lt _ inside,
      Option.pure_def]
    cases s.get? pid with
    | none => rfl
    | some cb =>
      dsimp only
      cases cb.pageTable.get? vpn <;> rfl

/-- A translation divides by a page size that is not zero, and the load it may start finds
its frame inside the table. -/
theorem translate?_eq (fits : mm.Fits) (pid : Nat) (va : Int32) (write : Bool) :
    mm.translate? s pid va write = some (mm.translate s pid va write) := by
  unfold translate? translate
  split
  · rfl
  · rw [if_neg (Nat.ne_of_gt fits.page_pos)]
    have ticked : mm.tick.2.Fits := ⟨fits.page_pos, fits.framePage, fits.room, fits.counted⟩
    dsimp only
    cases entry? s pid (va.toInt.toNat / mm.pageSize) with
    | none => rfl
    | some e =>
      dsimp only
      cases e.frame with
      | some f => rfl
      | none =>
        dsimp only
        cases e.loading
        · rw [startLoad?_eq ticked]
          rcases mm.tick.2.startLoad s pid (va.toInt.toNat / mm.pageSize) with ⟨_ | _, mm', s'⟩ <;> rfl
        · rfl

/-- The first page of a new process goes to a frame inside the table and inside memory. -/
theorem loadInitial?_eq (fits : mm.Fits) (cb : ControlBlock) :
    mm.loadInitial? cb = some (mm.loadInitial cb) := by
  unfold loadInitial? loadInitial
  rw [FrameTable.allocate?_eq]
  rcases allocated : mm.frames.allocate ⟨cb.pid, 0⟩ with ⟨_ | f, frames⟩
  · rfl
  · obtain ⟨free, rfl⟩ := FrameTable.allocate_some _ allocated
    have holds := fits.holdsFrame (FrameTable.firstFree_spec _ free).1
    simp only [PhysicalMemory.fillFrame?_of_holds _ holds, Option.bind_eq_bind, Option.bind_some]
    cases cb.pageTable.get? 0 <;> rfl

/-- A completed load fills and unlocks the frame of its page, which is inside the table and
inside memory, and stores a waiting console value inside that frame. -/
theorem completeLoad?_eq (fits : mm.Fits) (pid page frame : Nat) (data : List Word) :
    mm.completeLoad? s pid page frame data = some (mm.completeLoad s pid page frame data) := by
  unfold completeLoad? completeLoad
  split
  · rfl
  · rename_i owned
    have inside := FrameTable.lt_size_of_owner _
      (by simpa using owned : mm.frames.owner frame = some ⟨pid, page⟩)
    have holds := fits.holdsFrame inside
    dsimp only [tick]
    cases s.get? pid with
    | none => rfl
    | some cb =>
      dsimp only
      cases cb.pageTable.get? page with
      | none => rfl
      | some e =>
        simp only [PhysicalMemory.fillFrame?_of_holds _ holds, FrameTable.checked_of_lt _ inside,
          Option.bind_eq_bind, Option.bind_some]
        rcases cb.pendingInput with _ | ⟨va, value⟩
        · simp only [Option.pure_def, Option.bind_some]
        · simp only [if_neg (Nat.ne_of_gt fits.page_pos)]
          split
          · have address : frame * mm.pageSize + va % mm.pageSize <
                (mm.memory.fillFrame frame data).size := by
              simpa using fits.lt_size inside va
            simp only [PhysicalMemory.write?_of_lt _ address, Option.pure_def, Option.bind_some]
          · simp only [Option.pure_def, Option.bind_some]

/-- Giving back the slots of a process releases slots the disk holds and counts. -/
theorem release?_eq (fits : mm.Fits) (cb : ControlBlock) : mm.release? cb = some (mm.release cb) := by
  simp [release?, release, SwapDisk.foldlM_release? fits.counted]

/-- What paging keeps of a memory manager: its page size, the sizes of memory and of the frame
table, the sizes memory and the disk cut pages by, and a counted disk. -/
structure ShapeKept (mm mm' : MemoryManager) : Prop where
  pageSize : mm'.pageSize = mm.pageSize
  memory : mm'.memory.size = mm.memory.size
  framePage : mm'.memory.pageSize = mm.memory.pageSize
  frames : mm'.frames.size = mm.frames.size
  diskPage : mm'.swap.pageSize = mm.swap.pageSize
  counted : mm.swap.Counted → mm'.swap.Counted

/-- A memory manager has its own shape. -/
theorem ShapeKept.refl (mm : MemoryManager) : ShapeKept mm mm := ⟨rfl, rfl, rfl, rfl, rfl, id⟩

/-- Keeping the shape is transitive. -/
theorem ShapeKept.trans {mm'' : MemoryManager} (first : ShapeKept mm mm')
    (second : ShapeKept mm' mm'') : ShapeKept mm mm'' :=
  ⟨second.pageSize.trans first.pageSize, second.memory.trans first.memory,
    second.framePage.trans first.framePage, second.frames.trans first.frames,
    second.diskPage.trans first.diskPage, second.counted ∘ first.counted⟩

/-- A change of the frames' owners and locks, of the queue or of the clock keeps the shape. -/
theorem ShapeKept.of_frames (frames : mm'.frames.size = mm.frames.size) (pageSize : mm'.pageSize = mm.pageSize)
    (memory : mm'.memory = mm.memory) (swap : mm'.swap = mm.swap) : ShapeKept mm mm' :=
  ⟨pageSize, by rw [memory], by rw [memory], frames, by rw [swap], by rw [swap]; exact id⟩

/-- A change that keeps the shape keeps `Fits`. -/
theorem Fits.keep (fits : mm.Fits) (kept : ShapeKept mm mm') : mm'.Fits :=
  ⟨by rw [kept.pageSize]; exact fits.page_pos, by rw [kept.framePage, kept.pageSize, fits.framePage],
    by rw [kept.frames, kept.pageSize, kept.memory]; exact fits.room, kept.counted fits.counted⟩

/-- Eviction keeps the shape. -/
theorem shapeKept_evict (mm : MemoryManager) (s : Scheduler) (v : Nat) :
    ShapeKept mm (mm.evict s v).1 := by
  have locked : ShapeKept mm { mm with frames := mm.frames.lock v } :=
    .of_frames (FrameTable.size_lock _ _) rfl rfl rfl
  unfold evict
  split
  · exact .refl mm
  · dsimp only
    split
    · exact locked
    · rename_i e found
      cases e.slot with
      | some n => exact locked.trans (.of_frames rfl rfl rfl rfl)
      | none =>
        have reserved : ShapeKept { mm with frames := mm.frames.lock v }
            { mm with frames := mm.frames.lock v, swap := mm.swap.reserve.2 } :=
          ⟨rfl, rfl, rfl, rfl, SwapDisk.pageSize_reserve, SwapDisk.Counted.reserve⟩
        exact (locked.trans reserved).trans (.of_frames rfl rfl rfl rfl)

/-- Starting a load keeps the shape. -/
theorem shapeKept_startLoad (mm : MemoryManager) (s : Scheduler) (pid vpn : Nat) :
    ShapeKept mm (mm.startLoad s pid vpn).2.1 := by
  unfold startLoad
  simp only []
  split
  · exact .refl mm
  · rename_i f mm₁ s₁ found
    -- the frame is a free one bound to the page, or the victim evicted and bound
    have first : ShapeKept mm mm₁ := by
      split at found
      · rename_i f' frames allocated
        simp only [Option.some.injEq, Prod.mk.injEq] at found
        obtain ⟨rfl, rfl, rfl⟩ := found
        obtain ⟨_, rfl⟩ := FrameTable.allocate_some _ allocated
        exact .of_frames (FrameTable.size_assign _ _ _) rfl rfl rfl
      · split at found
        · cases found
        · simp only [Option.some.injEq, Prod.mk.injEq] at found
          obtain ⟨rfl, rfl, rfl⟩ := found
          exact (shapeKept_evict mm s _).trans (.of_frames (FrameTable.size_assign _ _ _) rfl rfl rfl)
    have locked : ShapeKept mm { mm₁ with frames := mm₁.frames.lock f } :=
      first.trans (.of_frames (FrameTable.size_lock _ _) rfl rfl rfl)
    split
    · exact locked
    · split
      · exact locked
      · exact locked.trans (.of_frames rfl rfl rfl rfl)

/-- Translating an address keeps the shape. -/
theorem shapeKept_translate (mm : MemoryManager) (s : Scheduler) (pid : Nat) (va : Int32)
    (write : Bool) : ShapeKept mm (mm.translate s pid va write).2.1 := by
  have ticked : ShapeKept mm mm.tick.2 := .of_frames rfl rfl rfl rfl
  unfold translate
  split
  · exact .refl mm
  · simp only []
    split
    · exact ticked
    · split
      · exact ticked
      · split
        · exact ticked
        · have started := ticked.trans (shapeKept_startLoad mm.tick.2 s pid (va.toInt.toNat / mm.pageSize))
          split
          all_goals
            rename_i result
            rw [result] at started
            exact started

/-- Installing a new process's first page keeps the shape. -/
theorem shapeKept_loadInitial (mm : MemoryManager) (cb : ControlBlock) :
    ShapeKept mm (mm.loadInitial cb).2.1 := by
  unfold loadInitial
  split
  · exact .refl mm
  · rename_i f frames allocated
    obtain ⟨_, rfl⟩ := FrameTable.allocate_some _ allocated
    simp only [tick]
    split
    · exact ⟨rfl, by simp, by simp, by simp, rfl, id⟩
    · exact ⟨rfl, by simp, by simp, by simp, rfl, id⟩

/-- Completing a load keeps the shape. -/
theorem shapeKept_completeLoad (mm : MemoryManager) (s : Scheduler) (pid page frame : Nat)
    (data : List Word) : ShapeKept mm (mm.completeLoad s pid page frame data).2.1 := by
  unfold completeLoad
  split
  · exact .refl mm
  · simp only [tick]
    split
    · exact .of_frames rfl rfl rfl rfl
    · split
      · exact .of_frames rfl rfl rfl rfl
      · split
        · rename_i va value pending
          by_cases same : va / mm.pageSize = page <;> simp only [same, ↓reduceIte] <;>
            exact ⟨rfl, by simp, by simp, by simp, rfl, id⟩
        · exact ⟨rfl, by simp, by simp, by simp, rfl, id⟩

/-- Giving back a process's frames and slots keeps the shape. -/
theorem shapeKept_release (mm : MemoryManager) (cb : ControlBlock) : ShapeKept mm (mm.release cb) :=
  ⟨rfl, rfl, rfl, FrameTable.size_releaseOwner _ _, SwapDisk.pageSize_foldl_release _,
    fun counted => counted.foldl_release _⟩

/-- Writing a word keeps the shape. -/
theorem shapeKept_write (mm : MemoryManager) (pa : Nat) (w : Word) : ShapeKept mm (mm.write pa w) :=
  ⟨rfl, PhysicalMemory.size_write _ _ _, rfl, rfl, rfl, id⟩

/-- Carrying out a disk operation keeps the shape. -/
theorem shapeKept_perform (mm : MemoryManager) (op : DiskOperation) :
    ShapeKept mm { mm with swap := (mm.swap.perform op).2 } :=
  ⟨rfl, rfl, rfl, rfl, SwapDisk.pageSize_perform op, fun counted => counted.perform op⟩

/-- Every address of a present page lies inside memory: its frame is owned by the page, so it
lies inside the table. -/
theorem Fits.present_lt (fits : mm.Fits) (agree : FramesAgree mm.frames (residency s))
    {pid page f : Nat} {loading : Bool} (present : residency s pid page = some (some f, loading))
    (offset : Nat) : f * mm.pageSize + offset % mm.pageSize < mm.memory.size :=
  fits.lt_size (FrameTable.lt_size_of_owner _ (agree.present_owned _ _ _ _ present).1) offset

/-- A translation that succeeds gives an address inside memory. -/
theorem translate_ok_lt (fits : mm.Fits) (agree : FramesAgree mm.frames (residency s)) {pid : Nat}
    {va : Int32} {write : Bool} {pa : Nat} (ok : (mm.translate s pid va write).1 = .ok pa) :
    pa < (mm.translate s pid va write).2.1.memory.size := by
  obtain ⟨e, f, found, present, rfl⟩ := translate_ok_frame mm s pid va write pa ok
  have resident : residency s pid (va.toInt.toNat / mm.pageSize) = some (some f, e.loading) := by
    simp only [residency, found, Option.map_some, present]
  rw [(shapeKept_translate mm s pid va write).memory]
  exact fits.present_lt agree resident _

end MemoryManager

end PagedMachine
