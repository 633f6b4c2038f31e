import PagedMachine.Proofs.Termination
import PagedMachine.Proofs.ConsoleRead

/-!
# Creating a process

A new process takes the next pid and gets one page table entry per page of its program's
required words. It is queued last among the ready processes. No page of it is loading or kept
on the swap disk, and nothing is queued for the disk. Its first page is installed at once when
a frame is free and the process has a page at all: in the lowest free frame, which then holds
the first page of the image padded with `DATA 0`. Otherwise the process starts with no page
present and every frame keeps its owner (`Kernel.Created`).

The number of pages is `Program.pageCount`: the required words plus the page size less one,
taken in unsigned 64-bit arithmetic, then divided by the page size. That is the ceiling of the
words over the page size whenever the sum fits in 64 bits (`Program.pageCount_eq_ceil`). In a
kernel it always fits: a built-in program needs at most 46 words, and a page of a kernel's
configuration is no larger than its memory, whose vector of 24-byte words holds fewer than
2^63 bytes.

Main statement: `Kernel.createProcess_lazy`, for every kernel reached by a served run.
-/

namespace PagedMachine

namespace Program

/-- Without wrapping, the page count is the ceiling of the words over the page size. -/
theorem pageCount_eq_ceil {pageSize words : Nat}
    (small : words + pageSize - 1 < Text.unsignedBound) :
    pageCount pageSize words = (words + pageSize - 1) / pageSize := by
  rw [pageCount, Unsigned.wrap_of_lt small]

/-- Every built-in program needs at most 46 words. -/
theorem requiredWords_le_of_found {name : String} {program : Program}
    (found : find? name = some program) : program.requiredWords ≤ 46 := by
  have listed : program ∈ registry := List.mem_of_find?_eq_some found
  have bounded : (registry.all fun q => decide (q.requiredWords ≤ 46)) = true := by decide
  simpa using List.all_eq_true.1 bounded program listed

end Program

namespace FrameTable

variable (t : FrameTable)

/-- The lowest frame with a property is the only one. -/
theorem IsLowest.unique {P : Nat → Prop} {f g : Nat} (first : t.IsLowest P f)
    (second : t.IsLowest P g) : f = g := by
  obtain ⟨-, holds, below⟩ := first
  obtain ⟨-, holds', below'⟩ := second
  rcases Nat.lt_trichotomy f g with lt | eq | gt
  · exact absurd holds (below' f lt)
  · exact eq
  · exact absurd holds' (below g gt)

/-- The free frames are counted from the owners alone. -/
theorem freeCount_congr {t' : FrameTable} (size : t'.size = t.size)
    (owners : ∀ g, t'.owner g = t.owner g) : t'.freeCount = t.freeCount := by
  rw [freeCount_eq_countP, freeCount_eq_countP, size]
  exact List.countP_congr fun g _ => by rw [owners g]

/-- Binding a free frame leaves one frame fewer free. -/
theorem freeCount_assign {f : Nat} (inside : f < t.size) (free : t.owner f = none)
    (o : FrameOwner) : (t.assign f o).freeCount + 1 = t.freeCount := by
  have inside' : f < t.frames.size := inside
  have set : t.frames.modify f (fun fr => { fr with owner := some o }) =
      t.frames.set f { t.frames[f] with owner := some o } := by
    apply Array.ext (by simp)
    intro g _ _
    simp only [Array.getElem_modify, Array.getElem_set]
    split <;> simp_all
  have unowned : t.frames[f].owner = none := by
    rw [← owner_of_lt t inside']
    exact free
  have counted := Array.boole_getElem_le_countP (p := fun fr => fr.owner.isNone) inside'
  show (t.frames.modify f _).countP _ + 1 = t.frames.countP _
  rw [set, Array.countP_set inside']
  simp only [unowned, Option.isNone_none, if_true, Option.isNone_some, Bool.false_eq_true,
    if_false] at counted ⊢
  omega

end FrameTable

namespace MemoryManager

variable (mm : MemoryManager) {cb : ControlBlock} {f : Nat}

/-- The first page of a new process goes into the lowest free unlocked frame, which is filled
with the image's first page. -/
theorem loadInitial_of_free {e : PageEntry} (first : mm.frames.firstFree = some f)
    (page : cb.pageTable.get? 0 = some e) :
    mm.loadInitial cb =
      (true,
        { mm with
          frames := mm.frames.assign f ⟨cb.pid, 0⟩
          memory := mm.memory.fillFrame f (cb.image.toList.take mm.pageSize)
          clock := mm.clock + 1 },
        { cb with pageTable := cb.pageTable.modify 0 (·.setPresent f (mm.clock + 1)) }) := by
  simp only [loadInitial, FrameTable.allocate, first, tick, page]

/-- A new process without pages binds no frame, though the frame it would take is filled. -/
theorem loadInitial_of_pageless (first : mm.frames.firstFree = some f)
    (page : cb.pageTable.get? 0 = none) :
    mm.loadInitial cb =
      (false,
        { mm with
          frames := (mm.frames.assign f ⟨cb.pid, 0⟩).deallocate f
          memory := mm.memory.fillFrame f (cb.image.toList.take mm.pageSize)
          clock := mm.clock + 1 },
        cb) := by
  simp only [loadInitial, FrameTable.allocate, first, tick, page]

/-- With no frame free and unlocked, a new process starts with no page present. -/
theorem loadInitial_of_full (first : mm.frames.firstFree = none) :
    mm.loadInitial cb = (false, mm, cb) := by
  simp only [loadInitial, FrameTable.allocate, first]

/-- What installing the first page of a new process `cb` did, giving memory manager `mm'` and
control block `cb'`: only the page table changed, keeping its size; no page is loading or kept
on the disk and none but the first is present; nothing is queued for the disk. With a frame
free and unlocked and a page to put in it, the lowest such frame is bound to the first page,
which is present there, and filled with the first page of the image; otherwise no page is
present and every frame keeps its owner. -/
structure InitialLoad (mm : MemoryManager) (cb : ControlBlock) (mm' : MemoryManager)
    (cb' : ControlBlock) : Prop where
  table : ∃ pt, cb' = { cb with pageTable := pt } ∧ pt.size = cb.pageTable.size
  lazy : ∀ g e, cb'.pageTable.get? g = some e →
    e.loading = false ∧ e.slot = none ∧ (e.frame.isSome = true → g = 0)
  queue : mm'.queue = mm.queue
  installed : ∀ f, mm.frames.firstFree = some f → 0 < cb.pageTable.size →
    (∃ e, cb'.pageTable.get? 0 = some e ∧ e.frame = some f) ∧
    mm'.frames = mm.frames.assign f ⟨cb.pid, 0⟩ ∧
    mm'.memory = mm.memory.fillFrame f (cb.image.toList.take mm.pageSize)
  absent : mm.frames.firstFree = none ∨ cb.pageTable.size = 0 →
    (∀ g e, cb'.pageTable.get? g = some e → e.frame = none) ∧
    ∀ g, mm'.frames.owner g = mm.frames.owner g

/-- Installing the first page of a process whose pages are all blank goes as `InitialLoad`
says. -/
theorem loadInitial_spec
    (blank : ∀ g e, cb.pageTable.get? g = some e →
      e.frame = none ∧ e.loading = false ∧ e.slot = none) :
    InitialLoad mm cb (mm.loadInitial cb).2.1 (mm.loadInitial cb).2.2 := by
  -- a table with no page present is lazy
  have lazy : ∀ g e, cb.pageTable.get? g = some e →
      e.loading = false ∧ e.slot = none ∧ (e.frame.isSome = true → g = 0) := by
    intro g e entry
    obtain ⟨frame, loading, slot⟩ := blank g e entry
    exact ⟨loading, slot, by simp [frame]⟩
  have unframed : ∀ g e, cb.pageTable.get? g = some e → e.frame = none :=
    fun g e entry => (blank g e entry).1
  cases first : mm.frames.firstFree with
  | none =>
    rw [loadInitial_of_full mm first]
    refine ⟨⟨cb.pageTable, rfl, rfl⟩, lazy, rfl, fun f found => ?_, fun _ => ⟨unframed, fun _ => rfl⟩⟩
    rw [first] at found
    cases found
  | some f =>
    obtain ⟨inside, free, -⟩ := FrameTable.firstFree_spec _ first
    cases page : cb.pageTable.get? 0 with
    | none =>
      -- no page: the frame is taken and given back
      have empty : cb.pageTable.size = 0 := by
        simpa [PageTable.get?, PageTable.size] using page
      rw [loadInitial_of_pageless mm first page]
      refine ⟨⟨cb.pageTable, rfl, rfl⟩, lazy, rfl, fun _ _ some => by omega,
        fun _ => ⟨unframed, fun g => ?_⟩⟩
      dsimp only
      rw [FrameTable.owner_deallocate, FrameTable.owner_assign _ _ _ _ inside]
      split
      · next same => rw [← same, free]
      · rfl
    | some e =>
      rw [loadInitial_of_free mm first page]
      have nonempty : 0 < cb.pageTable.size := (Array.getElem?_eq_some_iff.1 page).1
      refine ⟨⟨_, rfl, PageTable.size_modify _ _ _⟩, fun g e' entry => ?_, rfl,
        fun f' found _ => ?_, fun none => ?_⟩
      · -- the first page is present and fresh, the others as they were
        rw [PageTable.get?_modify] at entry
        split at entry
        · next zero =>
          subst zero
          rw [page, Option.map_some, Option.some.injEq] at entry
          subst entry
          exact ⟨rfl, (blank 0 e page).2.2, fun _ => rfl⟩
        · exact lazy g e' entry
      · rw [first, Option.some.injEq] at found
        subst found
        refine ⟨⟨e.setPresent f (mm.clock + 1), ?_, rfl⟩, rfl, rfl⟩
        rw [PageTable.get?_modify, if_pos rfl, page, Option.map_some]
      · rcases none with full | empty
        · rw [first] at full
          cases full
        · omega

end MemoryManager

namespace Scheduler

variable {s : Scheduler}

/-- Adding a process that was not queued: it is ready, queued last, and nothing else changes. -/
theorem insert_addToReady (cb : ControlBlock) (unqueued : cb.pid ∉ s.ready) (cause : Cause) :
    ((s.insert cb).addToReady cb.pid cause).get? cb.pid = some { cb with status := .ready } ∧
      ((s.insert cb).addToReady cb.pid cause).ready = s.ready ++ [cb.pid] ∧
      ∀ q, q ≠ cb.pid → ((s.insert cb).addToReady cb.pid cause).get? q = s.get? q := by
  have live : (s.insert cb).contains cb.pid = true := by simp [contains_insert]
  refine ⟨?_, ?_, fun q other => ?_⟩
  · rw [get?_addToReady, if_pos rfl, get?_insert, if_pos rfl]
    rfl
  · simp only [addToReady, live, if_true, transition_ready, insert_ready, unqueued, if_false]
  · rw [get?_addToReady, if_neg (Ne.symm other), get?_insert, if_neg (Ne.symm other)]

end Scheduler

namespace Kernel

open Scheduler MemoryManager

variable {k : Kernel}

/-- What creating a process of `program` did from kernel `k` to kernel `k'`, the process's
control block now being `cb`. -/
structure Created (k : Kernel) (program : Program) (cb : ControlBlock) (k' : Kernel) : Prop where
  /-- The pid handed out is above every live one, and the next one follows it. -/
  fresh : ∀ q, k.sched.contains q = true → q < k.nextPid
  next : k'.nextPid = k.nextPid + 1
  /-- The process is ready and queued last, and no other process changed. -/
  found : k'.sched.get? k.nextPid = some cb
  ready : cb.status = .ready ∧ k'.sched.ready = k.sched.ready ++ [k.nextPid]
  others : ∀ q, q ≠ k.nextPid → k'.sched.get? q = k.sched.get? q
  /-- It runs the program, with one page table entry per page of the program's words. -/
  runs : cb.name = program.name ∧ cb.image = program.image ∧ cb.size = program.requiredWords
  pages : cb.pageTable.size = Program.pageCount k.config.pageSize program.requiredWords
  /-- That is the ceiling of the words over the page size. -/
  ceil : cb.pageTable.size = (program.requiredWords + k.config.pageSize - 1) / k.config.pageSize
  /-- No page is loading or kept on the disk, none but the first is present, and nothing is
  queued for the disk. -/
  lazy : ∀ g e, cb.pageTable.get? g = some e →
    e.loading = false ∧ e.slot = none ∧ (e.frame.isSome = true → g = 0)
  queue : k'.mm.queue = k.mm.queue
  /-- With a frame free and a page to put in it, the first page is present in the lowest free
  frame, which holds the first page of the image and belongs to the page; one frame fewer is
  free, and memory outside the frame is as it was. -/
  installed : ∀ f, k.mm.frames.IsLowest (fun g => k.mm.frames.owner g = none) f →
    0 < cb.pageTable.size →
    (∃ e, cb.pageTable.get? 0 = some e ∧ e.frame = some f) ∧
    k'.mm.frames.owner f = some ⟨k.nextPid, 0⟩ ∧
    (∀ g, g ≠ f → k'.mm.frames.owner g = k.mm.frames.owner g) ∧
    k'.mm.frames.freeCount + 1 = k.mm.frames.freeCount ∧
    (∀ j < k.config.pageSize, k'.mm.memory.read (f * k.config.pageSize + j) =
      program.image.getD j (.data 0)) ∧
    ∀ q, q < f * k.config.pageSize ∨ f * k.config.pageSize + k.config.pageSize ≤ q →
      k'.mm.memory.read q = k.mm.memory.read q
  /-- With no frame free, or no page, no page is present and every frame keeps its owner. -/
  absent : ((∀ f < k.mm.frames.size, k.mm.frames.owner f ≠ none) ∨ cb.pageTable.size = 0) →
    (∀ g e, cb.pageTable.get? g = some e → e.frame = none) ∧
    (∀ g, k'.mm.frames.owner g = k.mm.frames.owner g) ∧
    k'.mm.frames.freeCount = k.mm.frames.freeCount

/-- The pages of a new process are all blank. -/
theorem blank_of_new (pid : Nat) (program : Program) (pageSize g : Nat) (e : PageEntry)
    (entry : (ControlBlock.new pid program pageSize).pageTable.get? g = some e) :
    e.frame = none ∧ e.loading = false ∧ e.slot = none := by
  have slot := slot_new pid program pageSize g
  rw [entry, Option.bind_some] at slot
  exact ⟨(blank_new pid program pageSize g e entry).1, (blank_new pid program pageSize g e entry).2,
    slot⟩

/-- Creating a process of a built-in program in a running kernel hands out the next pid, and
the process's first page is installed as `loadInitial` does. -/
theorem createProcess_of_found {name : String} {program : Program}
    (found : Program.find? name = some program) (running : k.halted = none) {placed : Bool}
    {mm : MemoryManager} {cb : ControlBlock}
    (loaded : k.mm.loadInitial (ControlBlock.new k.nextPid program k.config.pageSize) =
      (placed, mm, cb)) :
    k.createProcess name =
      (.ok k.nextPid,
        { k with
          mm
          sched := (k.sched.insert cb).addToReady k.nextPid .created
          nextPid := k.nextPid + 1 }) := by
  simp only [createProcess, found, running, Option.isSome_none, Bool.false_eq_true, if_false,
    loaded]

section Create

variable {d : Devices} (settled : k.Settled d) (bounded : k.Bounded d.held)

include settled bounded

/-- In a settled kernel within bounds, the lowest free frame takes the first page of a new
process, and it is filled with the first page of the image. -/
theorem Settled.installed {program : Program} {mm : MemoryManager} {cb : ControlBlock}
    (spec : InitialLoad k.mm (ControlBlock.new k.nextPid program k.config.pageSize) mm cb)
    {f : Nat} (lowest : k.mm.frames.IsLowest (fun g => k.mm.frames.owner g = none) f)
    (nonempty : 0 < (ControlBlock.new k.nextPid program k.config.pageSize).pageTable.size) :
    (∃ e, cb.pageTable.get? 0 = some e ∧ e.frame = some f) ∧
    mm.frames.owner f = some ⟨k.nextPid, 0⟩ ∧
    (∀ g, g ≠ f → mm.frames.owner g = k.mm.frames.owner g) ∧
    mm.frames.freeCount + 1 = k.mm.frames.freeCount ∧
    (∀ j < k.config.pageSize, mm.memory.read (f * k.config.pageSize + j) =
      program.image.getD j (.data 0)) ∧
    ∀ q, q < f * k.config.pageSize ∨ f * k.config.pageSize + k.config.pageSize ≤ q →
      mm.memory.read q = k.mm.memory.read q := by
  -- every free frame is unlocked, so allocation takes the lowest free one
  obtain ⟨f', first, lowest'⟩ := FrameTable.firstFree_isLowest settled.frames.agree.locked_owned
    ⟨f, lowest.1, lowest.2.1⟩
  rw [FrameTable.IsLowest.unique _ lowest' lowest] at first
  obtain ⟨inside, free, -⟩ := FrameTable.firstFree_spec _ first
  obtain ⟨entry, frames, memory⟩ := spec.installed f first nonempty
  have fits := bounded.fits
  have ps := bounded.pageSize
  have pageSize : k.mm.memory.pageSize = k.config.pageSize := fits.framePage.trans bounded.pageSize
  refine ⟨entry, ?_, fun g other => ?_, ?_, fun j short => ?_, fun q outside => ?_⟩
  · rw [frames, FrameTable.owner_assign _ _ _ _ inside, if_pos rfl]
    rfl
  · rw [frames, FrameTable.owner_assign _ _ _ _ inside, if_neg (Ne.symm other)]
  · rw [frames]
    exact FrameTable.freeCount_assign _ inside free _
  · -- the frame holds the image's first page, padded
    have room := fits.lt_size inside j
    rw [Nat.mod_eq_of_lt (bounded.pageSize ▸ short), bounded.pageSize] at room
    rw [memory, ← pageSize, k.mm.memory.read_fillFrame_same (pageSize ▸ short) (pageSize ▸ room),
      List.getD_eq_getElem?_getD, List.getElem?_take, if_pos (by omega), Array.getElem?_toList,
      Array.getD_eq_getD_getElem?]
    rfl
  · rw [memory, PhysicalMemory.read_fillFrame, pageSize, if_neg (by omega)]

/-- Creating a process of a built-in program in a settled running kernel within bounds, whose
words and page size sum below 2^64, goes as `Created` says. -/
theorem Settled.created {name : String} {program : Program}
    (found : Program.find? name = some program) (running : k.halted = none)
    (small : program.requiredWords + k.config.pageSize - 1 < Text.unsignedBound) :
    (k.createProcess name).1 = .ok k.nextPid ∧ ∃ cb, Created k program cb (k.createProcess name).2 := by
  -- the next pid is not live, so not queued
  have unqueued : k.nextPid ∉ k.sched.ready := fun mem =>
    Nat.lt_irrefl _ (settled.sched.issued _ (settled.sched.agree.ready_live _ mem))
  have spec := loadInitial_spec k.mm (blank_of_new k.nextPid program k.config.pageSize)
  have size := size_loadInitial k.mm (ControlBlock.new k.nextPid program k.config.pageSize)
  rcases loaded : k.mm.loadInitial (ControlBlock.new k.nextPid program k.config.pageSize) with
    ⟨placed, mm, cb⟩
  rw [loaded] at spec size
  obtain ⟨pt, rfl, pages⟩ := spec.table
  obtain ⟨queued, ready, others⟩ := insert_addToReady (s := k.sched)
    { ControlBlock.new k.nextPid program k.config.pageSize with pageTable := pt } unqueued .created
  have count : (ControlBlock.new k.nextPid program k.config.pageSize).pageTable.size =
      Program.pageCount k.config.pageSize program.requiredWords := by
    simp [ControlBlock.new, PageTable.new, PageTable.size]
  rw [createProcess_of_found found running loaded]
  refine ⟨rfl, _,
    { fresh := settled.sched.issued
      next := rfl
      found := queued
      ready := ⟨rfl, ready⟩
      others := others
      runs := ⟨rfl, rfl, rfl⟩
      pages := pages.trans count
      ceil := (pages.trans count).trans (Program.pageCount_eq_ceil small)
      lazy := spec.lazy
      queue := spec.queue
      installed := fun f lowest nonempty =>
        settled.installed bounded spec lowest (pages ▸ nonempty)
      absent := fun unfilled => ?_ }⟩
  -- with every frame bound, or no page, no frame changes hands
  have refused : k.mm.frames.firstFree = none ∨
      (ControlBlock.new k.nextPid program k.config.pageSize).pageTable.size = 0 := by
    rcases unfilled with full | empty
    · exact .inl (FrameTable.firstFree_eq_none full)
    · exact .inr (pages ▸ empty)
  obtain ⟨unframed, owners⟩ := spec.absent refused
  exact ⟨unframed, owners, FrameTable.freeCount_congr _ size owners⟩

end Create

/-- Creating a process in a served run from a new kernel. An unknown name is refused with
`noSuchProgram`, and a built-in one in a halted kernel with `halted`, the kernel unchanged.
Otherwise the call hands out the next pid and creates the process as `Created` says: ready and
queued last, with as many pages as the ceiling of its words over the page size, none loading or
kept on the disk, its first page in the lowest free frame if a frame is free and it has a page,
and no page present otherwise. -/
theorem createProcess_lazy {c : Config} {k₀ : Kernel} (created : Kernel.new c = some (.ok k₀))
    (events : List Event) (name : String) :
    let k := (serve (k₀, {}) events).1
    (Program.find? name = none → k.createProcess name = (.error (.noSuchProgram name), k)) ∧
    ∀ program, Program.find? name = some program →
      (k.halted.isSome = true → k.createProcess name = (.error .halted, k)) ∧
      (k.halted = none → (k.createProcess name).1 = .ok k.nextPid ∧
        ∃ cb, Created k program cb (k.createProcess name).2) := by
  have kept := serve_keeps (fun kd => kd.1.Settled kd.2 ∧ kd.1.Bounded kd.2.held)
    (fun _ _ e held => ⟨held.1.happen e, held.2.happen held.1.sched e⟩) events (k₀, {})
    ⟨Settled.new created, Bounded.new created⟩
  -- the configuration stays the one the kernel was created from, whose pages are small
  obtain ⟨valid, fits, made⟩ := Kernel.new_eq_ok.1 created
  have config : (serve (k₀, {}) events).1.config = c := by rw [config_serve, made]
  have page := Config.pageSize_le_of_allocatable ((Config.validate_eq_ok_iff c).1 valid) fits
  generalize serve (k₀, {}) events = kd at kept config ⊢
  obtain ⟨k, d⟩ := kd
  obtain ⟨settled, bounded⟩ := kept
  dsimp only at config ⊢
  refine ⟨fun unknown => ?_, fun program found => ⟨fun halted => ?_, fun running => ?_⟩⟩
  · simp only [createProcess, unknown]
  · simp only [createProcess, found, halted, if_true]
  · have words := Program.requiredWords_le_of_found found
    have small : program.requiredWords + k.config.pageSize - 1 < Text.unsignedBound := by
      rw [config]
      simp only [Unsigned.allocationLimit] at page
      simp only [Text.unsignedBound]
      omega
    exact settled.created bounded found running small

/-- The default machine creating `factorial` after `echo`. -/
theorem default_createProcess_lazy :
    let k₀ : Kernel := ⟨{}, .new {}, .new false 5, [], 1, none⟩
    let events : List Event := [.create "echo"]
    Kernel.new {} = some (.ok k₀) ∧
      let k := (serve (k₀, {}) events).1
      (Program.find? "factorial" = none →
        k.createProcess "factorial" = (.error (.noSuchProgram "factorial"), k)) ∧
      ∀ program, Program.find? "factorial" = some program →
        (k.halted.isSome = true → k.createProcess "factorial" = (.error .halted, k)) ∧
        (k.halted = none → (k.createProcess "factorial").1 = .ok k.nextPid ∧
          ∃ cb, Created k program cb (k.createProcess "factorial").2) :=
  ⟨rfl, createProcess_lazy (c := {}) rfl _ _⟩

end Kernel

end PagedMachine
