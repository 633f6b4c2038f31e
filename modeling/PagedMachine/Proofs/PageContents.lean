import PagedMachine.Proofs.Bounds

/-!
# What the pages of a process hold

A page of a process is in one of four places: in its frame while present; else in the latest
save of it still on the way to the disk; else in its swap slot; else, never evicted, in its part
of the program image. `MemoryManager.stored` is what a load of an absent page would bring once
every outstanding operation has been carried out in order, and `MemoryManager.wordAt?` the word
the process holds at an address: the word of its page there, padded with `DATA 0`, unless a
console value waits for that address. Past the last page there is none.

Main statements: writing a cell changes that cell alone and filling a frame changes that frame
alone (`PhysicalMemory.read_write`, `PhysicalMemory.read_fillFrame`); a frame read as a list
has the words of its cells (`PhysicalMemory.getD_frame`); the latest save moves with the
operations queued and carried out (`latestSave_append_single`, `latestSave_cons`).
-/

namespace PagedMachine

namespace PhysicalMemory

variable (m : PhysicalMemory)

/-- Writing a cell inside memory changes that cell alone. -/
theorem read_write (pa q : Nat) (w : Word) :
    (m.write pa w).read q = if pa = q ∧ q < m.size then w else m.read q := by
  simp only [read, write, size, Array.getD_eq_getD_getElem?, Array.getElem?_setIfInBounds]
  by_cases same : pa = q
  · subst same
    by_cases inside : pa < m.words.size <;> simp [inside]
  · simp [same]

/-- Writing a run of cells, each once at its own offset from `base`. -/
private theorem read_foldl_write_offsets (base : Nat) (g : Nat → Word) (q : Nat) :
    ∀ (offsets : List Nat) (m : PhysicalMemory),
      (offsets.foldl (fun acc i => acc.write (base + i) (g i)) m).read q =
        if (∃ i ∈ offsets, base + i = q) ∧ q < m.size then g (q - base) else m.read q
  | [], m => by simp
  | i :: rest, m => by
    rw [List.foldl_cons, read_foldl_write_offsets base g q rest, size_write, read_write]
    by_cases mine : base + i = q
    · subst mine
      by_cases inside : base + i < m.size <;> simp [inside]
    · by_cases later : ∃ j ∈ rest, base + j = q
      · simp [later, mine]
      · simp [later, mine]

/-- Filling a frame inside memory changes its cells alone, to the data padded with `DATA 0`. -/
theorem read_fillFrame (f : Nat) (data : List Word) (q : Nat) :
    (m.fillFrame f data).read q =
      if f * m.pageSize ≤ q ∧ q < f * m.pageSize + m.pageSize ∧ q < m.size then
        data.getD (q - f * m.pageSize) (Word.data 0)
      else m.read q := by
  unfold fillFrame
  rw [read_foldl_write_offsets]
  congr 1
  apply propext
  constructor
  · rintro ⟨⟨i, mem, rfl⟩, inside⟩
    exact ⟨by omega, by simpa using List.mem_range.1 mem, inside⟩
  · rintro ⟨low, high, inside⟩
    exact ⟨⟨q - f * m.pageSize, List.mem_range.2 (by omega), by omega⟩, inside⟩

/-- A frame read as a list has the words of its cells. -/
theorem getD_frame (f : Nat) {i : Nat} (inside : i < m.pageSize) :
    (m.frame f).getD i (Word.data 0) = m.read (f * m.pageSize + i) := by
  simp [frame, List.getD_eq_getElem?_getD, List.getElem?_range inside]

/-- An address of frame `f` lies in frame `g` only when `f = g`. -/
theorem inFrame_iff {ps f g i : Nat} (inside : i < ps) :
    (g * ps ≤ f * ps + i ∧ f * ps + i < g * ps + ps) ↔ f = g := by
  constructor
  · rintro ⟨low, high⟩
    have below : g ≤ f := by
      by_contra more
      have step := Nat.mul_le_mul_right ps (show f + 1 ≤ g by omega)
      rw [Nat.add_mul, Nat.one_mul] at step
      omega
    have above : f ≤ g := by
      by_contra more
      have step := Nat.mul_le_mul_right ps (show g + 1 ≤ f by omega)
      rw [Nat.add_mul, Nat.one_mul] at step
      omega
    omega
  · rintro rfl
    omega

/-- Filling frame `g` leaves every other frame as it was. -/
theorem read_fillFrame_other {f g i : Nat} (other : f ≠ g) (inside : i < m.pageSize)
    (data : List Word) : (m.fillFrame g data).read (f * m.pageSize + i) = m.read (f * m.pageSize + i) := by
  rw [read_fillFrame, if_neg]
  rintro ⟨low, high, -⟩
  exact other ((inFrame_iff inside).1 ⟨low, high⟩)

/-- Filling frame `g` puts the data, padded with `DATA 0`, at every word of it inside memory. -/
theorem read_fillFrame_same {g i : Nat} (short : i < m.pageSize)
    (inside : g * m.pageSize + i < m.size) (data : List Word) :
    (m.fillFrame g data).read (g * m.pageSize + i) = data.getD i (.data 0) := by
  rw [read_fillFrame, if_pos ⟨by omega, by omega, inside⟩, Nat.add_sub_cancel_left]

end PhysicalMemory

namespace DiskOperation

/-- The words a save carries. -/
def saved? (op : DiskOperation) : Option (List Word) :=
  match op.kind with
  | .save data _ => some data
  | .load _ => none

/-- The words the operation saves of page `page` of `pid`, if it saves that page. -/
def savedOf (pid page : Nat) (op : DiskOperation) : Option (List Word) :=
  if op.pid = pid ∧ op.page = page then op.saved? else none

end DiskOperation

/-- The words of the latest save of page `page` of `pid` among `ops`, oldest first. -/
def latestSave (ops : List DiskOperation) (pid page : Nat) : Option (List Word) :=
  (ops.filterMap (DiskOperation.savedOf pid page)).getLast?

/-- Among no operations no page was saved. -/
@[simp] theorem latestSave_nil (pid page : Nat) : latestSave [] pid page = none := rfl

/-- An operation queued last gives the latest save of a page if it saves that page. -/
theorem latestSave_append_single (ops : List DiskOperation) (op : DiskOperation) (pid page : Nat) :
    latestSave (ops ++ [op]) pid page = (op.savedOf pid page).or (latestSave ops pid page) := by
  unfold latestSave
  rw [List.filterMap_append, List.getLast?_append, List.filterMap_cons, List.filterMap_nil]
  cases op.savedOf pid page <;> rfl

/-- An operation carried out first is the latest save of a page only if no later one saves it. -/
theorem latestSave_cons (op : DiskOperation) (rest : List DiskOperation) (pid page : Nat) :
    latestSave (op :: rest) pid page = (latestSave rest pid page).or (op.savedOf pid page) := by
  unfold latestSave
  rw [List.filterMap_cons]
  cases op.savedOf pid page with
  | none => simp
  | some data =>
    simp only [List.getLast?_cons]
    cases (rest.filterMap (DiskOperation.savedOf pid page)).getLast? <;> rfl

/-- Only a save of the page itself changes its latest save. -/
theorem latestSave_append_other {ops : List DiskOperation} {op : DiskOperation} {pid page : Nat}
    (other : op.savedOf pid page = none) :
    latestSave (ops ++ [op]) pid page = latestSave ops pid page := by
  rw [latestSave_append_single, other, Option.none_or]

namespace SwapDisk

/-- The slot a page is saved in when it is evicted: its own, or else the lowest free one,
reserved now; none when the disk is full. -/
def slotFor (d : SwapDisk) : Option Nat → Option Nat × SwapDisk
  | some n => (some n, d)
  | none => d.reserve

/-- Choosing a slot for a save leaves the slot contents. -/
@[simp] theorem contents_slotFor (d : SwapDisk) (slot : Option Nat) :
    (d.slotFor slot).2.contents = d.contents := by
  unfold slotFor reserve
  split
  · rfl
  · split <;> rfl

/-- Choosing a slot for a save keeps the page size of the disk. -/
@[simp] theorem pageSize_slotFor (d : SwapDisk) (slot : Option Nat) :
    (d.slotFor slot).2.pageSize = d.pageSize := by
  unfold slotFor reserve
  split
  · rfl
  · split <;> rfl

/-- A page that ends below 2^64 is cut from its first word up to one page on, both ends cut at
the end of the image: nothing wraps. -/
theorem imagePage?_of_lt {ps page : Nat} (image : Array Word)
    (bound : page * ps + ps < Text.unsignedBound) :
    imagePage? ps page image =
      some (image.extract (min (page * ps) image.size) (min (page * ps + ps) image.size)).toList := by
  unfold imagePage?
  dsimp only
  have start_le := Nat.min_le_left (page * ps) image.size
  rw [Unsigned.wrap_of_lt (by omega), Unsigned.wrap_of_lt (by omega), if_pos (by omega)]
  -- the end is cut at the image's end whether or not the start was
  have stop : min (min (page * ps) image.size + ps) image.size = min (page * ps + ps) image.size := by
    omega
  rw [stop]

/-- The words of a page cut from an image are the image's words from the page's start on,
`DATA 0` past the image's end. -/
theorem getD_extract_page {ps page : Nat} (image : Array Word) {i : Nat} (short : i < ps) :
    (image.extract (min (page * ps) image.size) (min (page * ps + ps) image.size)).toList.getD i
      (.data 0) = image.getD (page * ps + i) (.data 0) := by
  rw [List.getD_eq_getElem?_getD, Array.getElem?_toList, Array.getElem?_extract,
    Array.getD_eq_getD_getElem?]
  by_cases within : page * ps + i < image.size
  · rw [if_pos (by omega), Nat.min_eq_left (by omega)]
  · rw [if_neg (by omega), Array.getElem?_eq_none (by omega)]

/-- A page of a process's pages reads as its part of the image, padded with `DATA 0`: the page
ends below 2^64, so nothing wraps. -/
theorem getD_imagePage? {ps page w : Nat} (image : Array Word)
    (inside : page < Program.pageCount ps w) {i : Nat} (short : i < ps) :
    ((imagePage? ps page image).getD []).getD i (.data 0) = image.getD (page * ps + i) (.data 0) := by
  have bound : (page + 1) * ps < Text.unsignedBound := by
    have pages := (Nat.le_div_iff_mul_le (by omega)).1 (Nat.succ_le_of_lt inside)
    exact Nat.lt_of_le_of_lt pages (Unsigned.wrap_lt _)
  rw [Nat.succ_mul] at bound
  rw [imagePage?_of_lt image bound, Option.getD_some, getD_extract_page image short]

/-- Releasing slots forgets the contents of those slots alone. -/
theorem contents_foldl_release {n : Nat} (l : List Nat) (outside : n ∉ l) (d : SwapDisk) :
    (l.foldl release d).contents[n]? = d.contents[n]? := by
  induction l generalizing d with
  | nil => rfl
  | cons m rest ih =>
    rw [List.foldl_cons, ih (fun mem => outside (List.mem_cons_of_mem _ mem))]
    have other : m ≠ n := fun same => outside (same ▸ List.mem_cons_self)
    unfold release
    split
    · simp [Array.set!_eq_setIfInBounds, other]
    · rfl

end SwapDisk

/-- A slot the pages of a table keep is the slot of one of its pages. -/
theorem PageTable.mem_slots {t : PageTable} {n : Nat} (mem : n ∈ t.slots) :
    ∃ g e, t.get? g = some e ∧ e.slot = some n := by
  obtain ⟨e, listed, slot⟩ := List.mem_filterMap.1 mem
  obtain ⟨g, found⟩ := List.mem_iff_getElem?.1 listed
  exact ⟨g, e, by simpa [PageTable.get?] using found, slot⟩

namespace ControlBlock

/-- What paging owns of a process, which scheduling never changes: its pid, image, size, page
table and the console value waiting for a page. -/
def paging (cb : ControlBlock) : Nat × Array Word × Nat × PageTable × Option (Nat × Int32) :=
  (cb.pid, cb.image, cb.size, cb.pageTable, cb.pendingInput)

/-- The console value waiting to be stored at address `a`, if any. -/
def inputAt (cb : ControlBlock) (a : Nat) : Option Int32 :=
  match cb.pendingInput with
  | some (va, value) => if va = a then some value else none
  | none => none

end ControlBlock

/-- Where a page is: its frame, its slot and whether a load for it is in flight. -/
def PageEntry.place (e : PageEntry) : Option Nat × Option Nat × Bool := (e.frame, e.slot, e.loading)

/-- Where a load of a page comes from: its slot, or the program image when it has none. -/
def PageEntry.source (e : PageEntry) (image : Array Word) : LoadSource :=
  match e.slot with
  | some n => .slot n
  | none => .image image

namespace MemoryManager

/-- What a load of page `page` of `cb`, whose entry is `e`, brings once every operation of `ops`
is carried out in order: the words of the latest save of the page among them, else the content
of its slot, else its part of the program image. -/
def stored (mm : MemoryManager) (ops : List DiskOperation) (cb : ControlBlock) (page : Nat)
    (e : PageEntry) : List Word :=
  match latestSave ops cb.pid page with
  | some data => data
  | none =>
    match e.slot with
    | some n => (mm.swap.contents[n]?.bind id).getD []
    | none => (SwapDisk.imagePage? mm.swap.pageSize page cb.image).getD []

/-- The word at offset `i` of page `page` of `cb`, whose entry is `e`: in its frame while it is
present, else in what a load would bring, padded with `DATA 0`. -/
def pageWord (mm : MemoryManager) (ops : List DiskOperation) (cb : ControlBlock) (page : Nat)
    (e : PageEntry) (i : Nat) : Word :=
  match e.frame with
  | some f => mm.memory.read (f * mm.pageSize + i)
  | none => (mm.stored ops cb page e).getD i (Word.data 0)

/-- The word process `cb` holds at address `a`, none past its last page: a console value waiting
for `a`, else the word of its page there. -/
def wordAt? (mm : MemoryManager) (ops : List DiskOperation) (cb : ControlBlock) (a : Nat) :
    Option Word :=
  (cb.pageTable.get? (a / mm.pageSize)).map fun e =>
    (cb.inputAt a).elim (mm.pageWord ops cb (a / mm.pageSize) e (a % mm.pageSize)) Word.data

/-- Memory managers that hold the same words: the same memory, page size and slot contents. -/
structure SameStore (mm mm' : MemoryManager) : Prop where
  memory : mm'.memory = mm.memory
  pageSize : mm'.pageSize = mm.pageSize
  contents : mm'.swap.contents = mm.swap.contents
  diskPage : mm'.swap.pageSize = mm.swap.pageSize

/-- A memory manager holds the same words as itself. -/
theorem SameStore.refl (mm : MemoryManager) : SameStore mm mm := ⟨rfl, rfl, rfl, rfl⟩

/-- Holding the same words is transitive. -/
theorem SameStore.trans {mm₁ mm₂ mm₃ : MemoryManager} (first : SameStore mm₁ mm₂)
    (second : SameStore mm₂ mm₃) : SameStore mm₁ mm₃ :=
  ⟨second.memory.trans first.memory, second.pageSize.trans first.pageSize,
    second.contents.trans first.contents, second.diskPage.trans first.diskPage⟩

variable {mm mm' : MemoryManager} {ops ops' : List DiskOperation} {cb cb' : ControlBlock}

/-- The word of a page reads its entry through its frame and slot, the process through its pid
and image, and the outstanding operations through the page's latest save. -/
theorem pageWord_congr (store : SameStore mm mm') (pid : cb'.pid = cb.pid)
    (image : cb'.image = cb.image) {page : Nat} {e e' : PageEntry} (frame : e'.frame = e.frame)
    (slot : e'.slot = e.slot) (saves : latestSave ops' cb.pid page = latestSave ops cb.pid page)
    (i : Nat) : mm'.pageWord ops' cb' page e' i = mm.pageWord ops cb page e i := by
  unfold pageWord stored
  rw [store.memory, store.pageSize, store.contents, store.diskPage, pid, image, frame, slot, saves]

/-- The words of a process read its pages one by one, and the console value waiting. -/
theorem wordAt?_congr (pageSize : mm'.pageSize = mm.pageSize)
    (input : cb'.pendingInput = cb.pendingInput)
    (pages : ∀ page, (cb'.pageTable.get? page).isSome = (cb.pageTable.get? page).isSome)
    (words : ∀ page e e', cb.pageTable.get? page = some e → cb'.pageTable.get? page = some e' →
      ∀ i < mm.pageSize, mm'.pageWord ops' cb' page e' i = mm.pageWord ops cb page e i)
    (positive : 0 < mm.pageSize) (a : Nat) : mm'.wordAt? ops' cb' a = mm.wordAt? ops cb a := by
  have waiting : cb'.inputAt a = cb.inputAt a := by
    unfold ControlBlock.inputAt
    rw [input]
  unfold wordAt?
  rw [pageSize, waiting]
  have same := pages (a / mm.pageSize)
  cases found : cb.pageTable.get? (a / mm.pageSize) with
  | none =>
    rw [found, Option.isSome_none, Option.isSome_eq_false_iff, Option.isNone_iff_eq_none] at same
    rw [same]
    rfl
  | some e =>
    rw [found, Option.isSome_some, Option.isSome_iff_exists] at same
    obtain ⟨e', found'⟩ := same
    rw [found', Option.map_some, Option.map_some,
      words _ e e' found found' _ (Nat.mod_lt _ positive)]

/-- The words of a process are read through what paging owns of it. -/
theorem wordAt?_of_paging (same : cb'.paging = cb.paging) (a : Nat) :
    mm.wordAt? ops cb' a = mm.wordAt? ops cb a := by
  simp only [ControlBlock.paging, Prod.mk.injEq] at same
  obtain ⟨pid, image, -, table, input⟩ := same
  unfold wordAt? pageWord stored ControlBlock.inputAt
  rw [pid, image, table, input]

/-- Paging took `mm` and `s`, with `ops` outstanding, to `mm'` and `s'`, with `ops'` outstanding,
and no live process saw a word change: every live process was live before, with the same image,
size and number of pages, and holds the same word at every address. -/
structure WordsKept (mm : MemoryManager) (s : Scheduler) (ops : List DiskOperation)
    (mm' : MemoryManager) (s' : Scheduler) (ops' : List DiskOperation) : Prop where
  pageSize : mm'.pageSize = mm.pageSize
  words : ∀ pid cb', s'.get? pid = some cb' → ∃ cb, s.get? pid = some cb ∧
    cb'.image = cb.image ∧ cb'.size = cb.size ∧ cb'.pageTable.size = cb.pageTable.size ∧
    ∀ a, mm'.wordAt? ops' cb' a = mm.wordAt? ops cb a

/-- Doing nothing changes no word of any process. -/
theorem WordsKept.refl (mm : MemoryManager) (s : Scheduler) (ops : List DiskOperation) :
    WordsKept mm s ops mm s ops :=
  ⟨rfl, fun _ cb found => ⟨cb, found, rfl, rfl, rfl, fun _ => rfl⟩⟩

/-- Paging steps that each change no word of any process together change none. -/
theorem WordsKept.trans {s s' s'' : Scheduler} {mm'' : MemoryManager} {ops'' : List DiskOperation}
    (first : WordsKept mm s ops mm' s' ops') (second : WordsKept mm' s' ops' mm'' s'' ops'') :
    WordsKept mm s ops mm'' s'' ops'' where
  pageSize := second.pageSize.trans first.pageSize
  words pid cb'' found'' := by
    obtain ⟨cb', found', image', size', pages', words'⟩ := second.words pid cb'' found''
    obtain ⟨cb, found, image, size, pages, words⟩ := first.words pid cb' found'
    exact ⟨cb, found, image'.trans image, size'.trans size, pages'.trans pages,
      fun a => (words' a).trans (words a)⟩

/-- Changing only frames, locks, the queue and the clock changes no word. -/
theorem wordsKept_of_store {s : Scheduler} (store : SameStore mm mm') :
    WordsKept mm s ops mm' s ops where
  pageSize := store.pageSize
  words _ cb found := ⟨cb, found, rfl, rfl, rfl, fun a => by
    unfold wordAt?
    rw [store.pageSize]
    congr 1
    funext e
    rw [pageWord_congr store rfl rfl rfl rfl rfl]⟩

open Scheduler

variable {s : Scheduler}

/-- Scheduling never changes what paging owns. -/
theorem unscheduled_paging : Unscheduled ControlBlock.paging := ⟨fun _ _ _ _ => rfl⟩

/-- A process live after a change that kept what paging owns was live before, with the same. -/
theorem paging_of_sameOn {s' : Scheduler} (same : SameOn ControlBlock.paging s s') {q : Nat}
    {cb' : ControlBlock} (found : s'.get? q = some cb') :
    ∃ cb, s.get? q = some cb ∧ cb'.paging = cb.paging := by
  have view := same q
  rw [found, Option.map_some] at view
  obtain ⟨cb, found₀, keeps⟩ := Option.map_eq_some_iff.1 view.symm
  exact ⟨cb, found₀, keeps.symm⟩

/-- A change that keeps what paging owns keeps every word. -/
theorem wordsKept_of_sameOn {s' : Scheduler} (same : SameOn ControlBlock.paging s s') :
    WordsKept mm s ops mm s' ops where
  pageSize := rfl
  words q cb' found' := by
    obtain ⟨cb, found, view⟩ := paging_of_sameOn same found'
    have parts := view
    simp only [ControlBlock.paging, Prod.mk.injEq] at parts
    exact ⟨cb, found, parts.2.1, parts.2.2.1, by rw [parts.2.2.2.1], wordAt?_of_paging view⟩

/-- Changing one page entry keeps every word when the words of that page stay and no other
page's latest save changes. -/
theorem wordsKept_modifyEntry (wf : s.TableWF) (store : SameStore mm mm')
    (positive : 0 < mm.pageSize) {pid vpn : Nat} {g : PageEntry → PageEntry}
    (others : ∀ q page, (q, page) ≠ (pid, vpn) → latestSave ops' q page = latestSave ops q page)
    (page : ∀ cb e, s.get? pid = some cb → cb.pageTable.get? vpn = some e → ∀ i < mm.pageSize,
      mm'.pageWord ops' { cb with pageTable := cb.pageTable.modify vpn g } vpn (g e) i =
        mm.pageWord ops cb vpn e i) :
    WordsKept mm s ops mm' (modifyEntry s pid vpn g) ops' where
  pageSize := store.pageSize
  words q cb' found' := by
    unfold modifyEntry at found'
    rw [get?_modify] at found'
    split at found'
    · rename_i same
      subst same
      obtain ⟨cb, found, rfl⟩ := Option.map_eq_some_iff.1 found'
      have owner : cb.pid = pid := wf.pid_eq found
      refine ⟨cb, found, rfl, rfl, Array.size_modify .., wordAt?_congr store.pageSize rfl ?_ ?_ positive⟩
      · intro p
        rw [PageTable.get?_modify]
        split <;> simp
      · intro p e e' entry entry' i inside
        rw [PageTable.get?_modify] at entry'
        split at entry'
        · rename_i here
          subst here
          rw [entry, Option.map_some, Option.some.injEq] at entry'
          subst entry'
          exact page cb e found entry i inside
        · rename_i elsewhere
          rw [entry, Option.some.injEq] at entry'
          subst entry'
          exact pageWord_congr store rfl rfl rfl rfl
            (others _ _ (by rw [owner]; exact fun same => elsewhere (Prod.mk.inj same).2.symm)) i
    · rename_i other
      refine ⟨cb', found', rfl, rfl, rfl, fun a => ?_⟩
      have owner : cb'.pid = q := wf.pid_eq found'
      unfold wordAt?
      rw [store.pageSize]
      congr 1
      funext e
      rw [pageWord_congr store rfl rfl rfl rfl
        (others _ _ (by rw [owner]; exact fun same => other (Prod.mk.inj same).1.symm))]

/-- A process has an entry for a page exactly when its page table does. -/
theorem entry?_eq_some {pid page : Nat} {e : PageEntry} :
    entry? s pid page = some e ↔ ∃ cb, s.get? pid = some cb ∧ cb.pageTable.get? page = some e := by
  unfold entry?
  exact Option.bind_eq_some_iff

/-- Evicting frame `v`, held by page `o` with entry `e`: the frame is locked, the page is kept in
its slot or one reserved now, marked absent there, and the save of the frame's words queued. -/
theorem evict_eq {v : Nat} {o : FrameOwner} {e : PageEntry} (owned : mm.frames.owner v = some o)
    (found : entry? s o.pid o.page = some e) :
    mm.evict s v =
      ({ mm with
          frames := mm.frames.lock v
          swap := (mm.swap.slotFor e.slot).2
          queue := mm.queue ++
            [⟨o.pid, o.page, v, .save (mm.memory.frame v) (mm.swap.slotFor e.slot).1⟩] },
        modifyEntry s o.pid o.page fun e' => e'.setAbsent.setSlot (mm.swap.slotFor e.slot).1) := by
  unfold evict
  simp only [owned, found]
  cases e.slot <;> rfl

/-- Evicting a present page keeps every word: the page is now kept by the save just queued,
which holds the words of its frame. -/
theorem wordsKept_evict (wf : s.TableWF) (geometry : mm.memory.pageSize = mm.pageSize)
    (positive : 0 < mm.pageSize) {v : Nat} {o : FrameOwner} {e : PageEntry}
    (owned : mm.frames.owner v = some o) (found : entry? s o.pid o.page = some e)
    (present : e.frame = some v) :
    WordsKept mm s ops (mm.evict s v).1 (mm.evict s v).2
      (ops ++ [⟨o.pid, o.page, v, .save (mm.memory.frame v) (mm.swap.slotFor e.slot).1⟩]) := by
  rw [evict_eq owned found]
  refine wordsKept_modifyEntry wf ?_ positive ?_ ?_
  · exact ⟨rfl, rfl, by simp, by simp⟩
  · intro q page other
    apply latestSave_append_other
    simp only [DiskOperation.savedOf, ite_eq_right_iff]
    rintro ⟨rfl, rfl⟩
    exact absurd rfl other
  · intro cb e' live entry i inside
    obtain ⟨cb₀, live₀, entry₀⟩ := entry?_eq_some.1 found
    rw [live₀, Option.some.injEq] at live
    subst live
    rw [entry₀, Option.some.injEq] at entry
    subst entry
    have owner : cb₀.pid = o.pid := wf.pid_eq live₀
    have saved : latestSave (ops ++ [⟨o.pid, o.page, v, .save (mm.memory.frame v)
        (mm.swap.slotFor e.slot).1⟩]) cb₀.pid o.page = some (mm.memory.frame v) := by
      rw [latestSave_append_single, owner]
      simp [DiskOperation.savedOf, DiskOperation.saved?]
    simp only [pageWord, PageEntry.setAbsent, PageEntry.setSlot, present, stored, saved]
    rw [← geometry] at inside ⊢
    exact mm.memory.getD_frame v inside

/-- Changing the entry of another page leaves a page where it was. -/
theorem entry_modifyEntry_other {pid vpn q page : Nat} (g : PageEntry → PageEntry)
    (other : (q, page) ≠ (pid, vpn)) {cb : ControlBlock} {e : PageEntry}
    (found : s.get? q = some cb) (entry : cb.pageTable.get? page = some e) :
    ∃ cb', (modifyEntry s pid vpn g).get? q = some cb' ∧ cb'.image = cb.image ∧
      cb'.pageTable.get? page = some e := by
  unfold modifyEntry
  rw [get?_modify, found]
  split
  · rename_i same
    subst same
    refine ⟨_, rfl, rfl, ?_⟩
    rw [PageTable.get?_modify, if_neg, entry]
    rintro rfl
    exact other rfl
  · exact ⟨cb, rfl, rfl, entry⟩

/-- How starting the load of an absent page ends: no frame is found and nothing changes; or a
frame `f` is found, free or the victim just evicted from a present page of another, bound to the
page and locked, the page is marked loading, and its load from its slot or image is queued. -/
theorem startLoad_cases (agree : FramesAgree mm.frames (residency s)) {pid vpn : Nat}
    {cb : ControlBlock} {e : PageEntry} (live : s.get? pid = some cb)
    (entry : cb.pageTable.get? vpn = some e) (absent : e.frame = none) :
    mm.startLoad s pid vpn = (.error .framesExhausted, mm, s) ∨
      ∃ f mm₀ s₀ frames, (mm₀ = mm ∧ s₀ = s ∨ ∃ v o ev, mm.frames.owner v = some o ∧
          entry? s o.pid o.page = some ev ∧ ev.frame = some v ∧ (o.pid, o.page) ≠ (pid, vpn) ∧
          mm.evict s v = (mm₀, s₀)) ∧
        mm.startLoad s pid vpn = (.ok (), { mm₀ with frames := frames }.submit
          ⟨pid, vpn, f, .load (e.source cb.image)⟩, modifyEntry s₀ pid vpn PageEntry.setLoading) := by
  unfold startLoad
  simp only []
  split
  · exact .inl rfl
  · rename_i f mm₁ s₁ found
    right
    -- the frame found: free, or the victim of an eviction
    obtain ⟨mm₀, frames₀, chosen, rfl⟩ : ∃ mm₀ frames₀, (mm₀ = mm ∧ s₁ = s ∨ ∃ v o ev,
        mm.frames.owner v = some o ∧ entry? s o.pid o.page = some ev ∧ ev.frame = some v ∧
        (o.pid, o.page) ≠ (pid, vpn) ∧ mm.evict s v = (mm₀, s₁)) ∧
        mm₁ = { mm₀ with frames := frames₀ } := by
      split at found
      · rename_i f' frames allocated
        simp only [Option.some.injEq, Prod.mk.injEq] at found
        obtain ⟨rfl, rfl, rfl⟩ := found
        exact ⟨mm, frames, .inl ⟨rfl, rfl⟩, rfl⟩
      · split at found
        · cases found
        · rename_i v victim
          simp only [Option.some.injEq, Prod.mk.injEq] at found
          obtain ⟨rfl, rfl, rfl⟩ := found
          obtain ⟨o, owned, present⟩ := agree.victim_present victim
          obtain ⟨ev, found, view⟩ := Option.map_eq_some_iff.1 present
          refine ⟨_, _, .inr ⟨v, o, ev, owned, found, (Prod.mk.inj view).1, ?_, rfl⟩, rfl⟩
          intro same
          simp only [Prod.mk.injEq] at same
          obtain ⟨cb₀, live₀, entry₀⟩ := entry?_eq_some.1 found
          rw [same.1, live] at live₀
          cases live₀
          rw [same.2, entry] at entry₀
          cases entry₀
          rw [absent] at view
          cases view
    -- the page itself is untouched by the eviction
    obtain ⟨cb₁, live₁, image₁, entry₁⟩ : ∃ cb₁, s₁.get? pid = some cb₁ ∧ cb₁.image = cb.image ∧
        cb₁.pageTable.get? vpn = some e := by
      rcases chosen with ⟨-, rfl⟩ | ⟨v, o, ev, owned, found, -, other, evicted⟩
      · exact ⟨cb, live, rfl, entry⟩
      · rw [evict_eq owned found, Prod.mk.injEq] at evicted
        rw [← evicted.2]
        exact entry_modifyEntry_other _ (Ne.symm other) live entry
    simp only [live₁, entry₁]
    refine ⟨f, mm₀, s₁, frames₀.lock f, chosen, ?_⟩
    rw [← image₁]
    rfl

/-- A load queued leaves every latest save as it was. -/
theorem latestSave_append_load (ops : List DiskOperation) (pid vpn f : Nat) (source : LoadSource)
    (q page : Nat) : latestSave (ops ++ [⟨pid, vpn, f, .load source⟩]) q page = latestSave ops q page :=
  latestSave_append_other (by simp [DiskOperation.savedOf, DiskOperation.saved?])

/-- Marking a page loading and queueing its load keeps every word. -/
theorem wordsKept_setLoading {s : Scheduler} (wf : s.TableWF) (positive : 0 < mm.pageSize)
    (pid vpn f : Nat) (source : LoadSource) (frames : FrameTable) :
    WordsKept mm s ops ({ mm with frames := frames }.submit ⟨pid, vpn, f, .load source⟩)
      (modifyEntry s pid vpn PageEntry.setLoading) (ops ++ [⟨pid, vpn, f, .load source⟩]) := by
  refine wordsKept_modifyEntry wf ?_ positive ?_ ?_
  · exact ⟨rfl, rfl, rfl, rfl⟩
  · exact fun q page _ => latestSave_append_load ops pid vpn f source q page
  · exact fun _ _ _ _ i _ => pageWord_congr ⟨rfl, rfl, rfl, rfl⟩ rfl rfl rfl rfl
      (latestSave_append_load ops pid vpn f source _ _) i

/-- Starting the load of an absent page keeps every word; what it queues joins the outstanding
operations at their end. -/
theorem wordsKept_startLoad (wf : s.TableWF) (agree : FramesAgree mm.frames (residency s))
    (geometry : mm.memory.pageSize = mm.pageSize) (positive : 0 < mm.pageSize) {pid vpn : Nat}
    {cb : ControlBlock} {e : PageEntry} (live : s.get? pid = some cb)
    (entry : cb.pageTable.get? vpn = some e) (absent : e.frame = none) :
    ∃ new, (mm.startLoad s pid vpn).2.1.queue = mm.queue ++ new ∧
      WordsKept mm s ops (mm.startLoad s pid vpn).2.1 (mm.startLoad s pid vpn).2.2 (ops ++ new) := by
  rcases startLoad_cases agree live entry absent with failed | ⟨f, mm₀, s₀, frames, chosen, started⟩
  · rw [failed]
    exact ⟨[], by simp, by simpa using WordsKept.refl mm s ops⟩
  · rw [started]
    -- the eviction, if any, queues one save and keeps every word
    obtain ⟨saves, queued, kept, wf₀, positive₀⟩ : ∃ saves, mm₀.queue = mm.queue ++ saves ∧
        WordsKept mm s ops mm₀ s₀ (ops ++ saves) ∧ s₀.TableWF ∧ 0 < mm₀.pageSize := by
      rcases chosen with ⟨same, same'⟩ | ⟨v, o, ev, owned, found, present, -, evicted⟩
      · rw [same, same']
        exact ⟨[], by simp, by simpa using WordsKept.refl mm s ops, wf, positive⟩
      · have kept : WordsKept mm s ops (mm.evict s v).1 (mm.evict s v).2 (ops ++ [_]) :=
          wordsKept_evict wf geometry positive owned found present
        have repaged := repaged_evict (s := s) mm v
        rw [evicted] at kept repaged
        refine ⟨_, ?_, kept, repaged.keyed wf, kept.pageSize ▸ positive⟩
        rw [evict_eq owned found, Prod.mk.injEq] at evicted
        rw [← evicted.1]
    refine ⟨saves ++ [⟨pid, vpn, f, .load (e.source cb.image)⟩], ?_, ?_⟩
    · simp [MemoryManager.submit, queued]
    · rw [← List.append_assoc]
      exact kept.trans (wordsKept_setLoading wf₀ positive₀ pid vpn f _ frames)

/-- A translation keeps every word: touching a present page changes no word, and starting the
load of an absent one keeps every word as `wordsKept_startLoad` says. -/
theorem wordsKept_translate (wf : s.TableWF) (agree : FramesAgree mm.frames (residency s))
    (geometry : mm.memory.pageSize = mm.pageSize) (positive : 0 < mm.pageSize) (pid : Nat)
    (va : Int32) (write : Bool) :
    ∃ new, (mm.translate s pid va write).2.1.queue = mm.queue ++ new ∧
      WordsKept mm s ops (mm.translate s pid va write).2.1 (mm.translate s pid va write).2.2
        (ops ++ new) := by
  unfold translate
  split
  · exact ⟨[], by simp, by simpa using WordsKept.refl mm s ops⟩
  · simp only [tick]
    -- the clock moves and no word does
    have store : SameStore mm { mm with clock := mm.clock + 1 } := ⟨rfl, rfl, rfl, rfl⟩
    have ticked : WordsKept mm s ops { mm with clock := mm.clock + 1 } s (ops ++ []) := by
      rw [List.append_nil]
      exact wordsKept_of_store store
    split
    · exact ⟨[], by simp, ticked⟩
    · rename_i e found
      obtain ⟨cb, live, entry⟩ := entry?_eq_some.1 found
      split
      · dsimp only
        refine ⟨[], by simp, ticked.trans ?_⟩
        refine wordsKept_modifyEntry wf (SameStore.refl _) (by exact positive) (fun _ _ _ => rfl)
          fun _ _ _ _ i _ => ?_
        exact pageWord_congr (SameStore.refl _) rfl rfl rfl rfl rfl i
      · rename_i absent
        split
        · exact ⟨[], by simp, ticked⟩
        · obtain ⟨new, queued, kept⟩ : ∃ new, _ ∧
              WordsKept { mm with clock := mm.clock + 1 } s (ops ++ []) _ _ (ops ++ [] ++ new) :=
            wordsKept_startLoad wf (by exact agree) (by exact geometry) (by exact positive) live
              entry absent
          generalize ({ mm with clock := mm.clock + 1 } : MemoryManager).startLoad s pid
            (va.toInt.toNat / mm.pageSize) = r at queued kept ⊢
          rcases r with ⟨_ | _, mm', s'⟩ <;>
            exact ⟨new, by simpa using queued, by simpa using ticked.trans kept⟩

/-- A page's words read the swap disk only at the page's own slot. -/
theorem pageWord_congr_slot (memory : mm'.memory = mm.memory) (pageSize : mm'.pageSize = mm.pageSize)
    (diskPage : mm'.swap.pageSize = mm.swap.pageSize) {e : PageEntry}
    (slot : ∀ n, e.slot = some n → mm'.swap.contents[n]? = mm.swap.contents[n]?) (page i : Nat) :
    mm'.pageWord ops cb page e i = mm.pageWord ops cb page e i := by
  unfold pageWord stored
  rw [memory, pageSize, diskPage]
  cases found : e.slot with
  | none => rfl
  | some n => simp only [slot n found]

/-- Changing only the outstanding operations keeps every word when no live page's latest save
changes. -/
theorem wordsKept_of_saves (wf : s.TableWF)
    (same : ∀ q page, s.contains q = true → latestSave ops' q page = latestSave ops q page) :
    WordsKept mm s ops mm s ops' where
  pageSize := rfl
  words q cb found := ⟨cb, found, rfl, rfl, rfl, fun a => by
    have owner : cb.pid = q := wf.pid_eq found
    have saves : ∀ page, latestSave ops' cb.pid page = latestSave ops cb.pid page := fun page => by
      rw [owner]
      exact same q page (contains_of_get? found)
    unfold wordAt?
    congr 1
    funext e
    rw [pageWord_congr (SameStore.refl mm) rfl rfl rfl rfl (saves _)]⟩

/-- Two addresses of frames of `ps` words are equal only in the same frame at the same offset. -/
theorem frame_offset_inj {ps f f' x x' : Nat} (short : x < ps) (short' : x' < ps)
    (same : f * ps + x = f' * ps + x') : f = f' ∧ x = x' := by
  have positive : 0 < ps := Nat.lt_of_le_of_lt (Nat.zero_le x) short
  have frames : (f * ps + x) / ps = (f' * ps + x') / ps := by rw [same]
  rw [Nat.mul_comm f, Nat.mul_comm f', Nat.mul_add_div positive, Nat.mul_add_div positive,
    Nat.div_eq_of_lt short, Nat.div_eq_of_lt short'] at frames
  simp only [Nat.add_zero] at frames
  subst frames
  exact ⟨rfl, by omega⟩

/-- Storing a word through the frame of a present page changes the word of its process at that
address alone: no other page holds the frame. -/
theorem wordAt?_write (agree : FramesAgree mm.frames (residency s)) (fits : mm.Fits)
    {pid a f : Nat} {cb : ControlBlock} {e : PageEntry} (live : s.get? pid = some cb)
    (entry : cb.pageTable.get? (a / mm.pageSize) = some e) (present : e.frame = some f)
    (noInput : cb.inputAt a = none) (w : Word) {q : Nat} {cb' : ControlBlock}
    (found : s.get? q = some cb') (b : Nat) :
    (mm.write (f * mm.pageSize + a % mm.pageSize) w).wordAt? ops cb' b =
      if q = pid ∧ b = a then some w else mm.wordAt? ops cb' b := by
  have positive := fits.page_pos
  -- the frame belongs to the page written, and lies inside memory
  have owned : mm.frames.owner f = some ⟨pid, a / mm.pageSize⟩ :=
    (agree.present_owned pid _ f e.loading (by simp [residency, entry?, live, entry, present])).1
  have inside := fits.lt_size (FrameTable.lt_size_of_owner _ owned) a
  unfold wordAt?
  rw [show (mm.write (f * mm.pageSize + a % mm.pageSize) w).pageSize = mm.pageSize from rfl]
  by_cases same : q = pid ∧ b = a
  · obtain ⟨rfl, rfl⟩ := same
    rw [live, Option.some.injEq] at found
    subst found
    simp only [entry, noInput, Option.map_some, Option.elim, if_true, and_self, pageWord, present,
      write, PhysicalMemory.read_write, inside]
  · rw [if_neg same]
    cases entry' : cb'.pageTable.get? (b / mm.pageSize) with
    | none => rfl
    | some e' =>
      simp only [Option.map_some, Option.some.injEq]
      congr 1
      -- another page's frame is another frame, or the same frame at another offset
      unfold pageWord
      cases framed : e'.frame with
      | none => rfl
      | some f' =>
        simp only [write, PhysicalMemory.read_write]
        rw [if_neg]
        rintro ⟨hit, -⟩
        obtain ⟨rfl, offsets⟩ := frame_offset_inj (Nat.mod_lt _ positive) (Nat.mod_lt _ positive) hit
        have owned' := (agree.present_owned q (b / mm.pageSize) f e'.loading
          (by simp [residency, entry?, found, entry', framed])).1
        rw [owned, Option.some.injEq, FrameOwner.mk.injEq] at owned'
        refine same ⟨owned'.1.symm, ?_⟩
        rw [← Nat.div_add_mod b mm.pageSize, ← Nat.div_add_mod a mm.pageSize, owned'.2, offsets]

/-- The slot of a page is the slot its entry names. -/
theorem slotOf_of_entry {q g : Nat} {cb : ControlBlock} {e : PageEntry} (found : s.get? q = some cb)
    (entry : cb.pageTable.get? g = some e) : slotOf s q g = e.slot := by
  simp [slotOf, entry?, found, entry]

/-- Giving back the frames and slots of a process that ends keeps the words of every other:
memory is untouched, and no other page keeps one of the slots released. -/
theorem wordsKept_release (slots : SlotsAgree mm.swap (slotOf s)) {pid : Nat} {cb : ControlBlock}
    (live : s.get? pid = some cb) (cause : Cause) :
    WordsKept mm s ops (mm.release cb) (s.removeProcess pid cause).2 ops where
  pageSize := rfl
  words q cb' found' := by
    rw [get?_removeProcess] at found'
    split at found'
    · cases found'
    · rename_i other
      refine ⟨cb', found', rfl, rfl, rfl, fun a => ?_⟩
      unfold wordAt?
      rw [show (mm.release cb).pageSize = mm.pageSize from rfl]
      cases entry : cb'.pageTable.get? (a / mm.pageSize) with
      | none => rfl
      | some e =>
        simp only [Option.map_some, Option.some.injEq]
        congr 1
        refine pageWord_congr_slot (by exact rfl) (by exact rfl) (SwapDisk.pageSize_foldl_release _)
          (fun n kept => ?_) _ _
        refine SwapDisk.contents_foldl_release _ (fun mine => other ?_) _
        -- a slot of the process released is kept by no page of another
        obtain ⟨g, e', entry', slot'⟩ := PageTable.mem_slots mine
        exact (slots.unique pid g q _ n (by rw [slotOf_of_entry live entry', slot'])
          (by rw [slotOf_of_entry found' entry, kept])).1

/-- A page's words read memory only in its own frame. -/
theorem pageWord_congr_frame (pageSize : mm'.pageSize = mm.pageSize) (swap : mm'.swap = mm.swap)
    {e : PageEntry} (memory : ∀ f, e.frame = some f → ∀ i < mm.pageSize,
      mm'.memory.read (f * mm.pageSize + i) = mm.memory.read (f * mm.pageSize + i))
    (page : Nat) {i : Nat} (inside : i < mm.pageSize) :
    mm'.pageWord ops cb page e i = mm.pageWord ops cb page e i := by
  unfold pageWord stored
  rw [pageSize, swap]
  cases framed : e.frame with
  | none => rfl
  | some f => exact memory f framed i inside

/-- Changing memory inside one frame that no present page holds, and replacing one process by one
that holds the same words, keeps every word. -/
theorem wordsKept_insert (positive : 0 < mm.pageSize) (pageSize : mm'.pageSize = mm.pageSize)
    (swap : mm'.swap = mm.swap) {frame : Nat}
    (memory : ∀ f, f ≠ frame → ∀ i < mm.pageSize,
      mm'.memory.read (f * mm.pageSize + i) = mm.memory.read (f * mm.pageSize + i))
    (unheld : ∀ q c g e, s.get? q = some c → c.pageTable.get? g = some e → e.frame ≠ some frame)
    (live : s.get? cb.pid = some cb) (pid : cb'.pid = cb.pid) (image : cb'.image = cb.image)
    (size : cb'.size = cb.size) (pages : cb'.pageTable.size = cb.pageTable.size)
    (words : ∀ a, mm'.wordAt? ops cb' a = mm.wordAt? ops cb a) :
    WordsKept mm s ops mm' (s.insert cb') ops where
  pageSize := pageSize
  words q c found := by
    rw [get?_insert] at found
    split at found
    · rename_i same
      cases found
      exact ⟨cb, by rw [← same, pid]; exact live, image, size, pages, words⟩
    · refine ⟨c, found, rfl, rfl, rfl, fun a => ?_⟩
      unfold wordAt?
      rw [pageSize]
      cases entry : c.pageTable.get? (a / mm.pageSize) with
      | none => rfl
      | some e =>
        simp only [Option.map_some, Option.some.injEq]
        congr 1
        exact pageWord_congr_frame pageSize swap
          (fun f framed => memory f fun same => unheld q c _ e found entry (same ▸ framed)) _
          (Nat.mod_lt _ positive)

/-- The words of a process after its page `page`, absent before, arrived in `frame`: every other
page keeps its entry, memory changed in `frame` alone, which no other page of the process holds,
and the page reads there what it held, console value included. -/
theorem wordAt?_arrived (positive : 0 < mm.pageSize) (pageSize : mm'.pageSize = mm.pageSize)
    (swap : mm'.swap = mm.swap) {page frame : Nat} {e e' : PageEntry}
    (entry : cb.pageTable.get? page = some e) (absent : e.frame = none)
    (arrived : cb'.pageTable.get? page = some e') (present : e'.frame = some frame)
    (others : ∀ g, g ≠ page → cb'.pageTable.get? g = cb.pageTable.get? g)
    (pid : cb'.pid = cb.pid) (image : cb'.image = cb.image)
    (memory : ∀ f, f ≠ frame → ∀ i < mm.pageSize,
      mm'.memory.read (f * mm.pageSize + i) = mm.memory.read (f * mm.pageSize + i))
    (unheld : ∀ g e₀, cb.pageTable.get? g = some e₀ → e₀.frame ≠ some frame)
    (filled : ∀ i < mm.pageSize,
      (cb'.inputAt (page * mm.pageSize + i)).elim (mm'.memory.read (frame * mm.pageSize + i))
          Word.data =
        (cb.inputAt (page * mm.pageSize + i)).elim ((mm.stored ops cb page e).getD i (.data 0))
          Word.data)
    (inputs : ∀ a, a / mm.pageSize ≠ page → cb'.inputAt a = cb.inputAt a) (a : Nat) :
    mm'.wordAt? ops cb' a = mm.wordAt? ops cb a := by
  unfold wordAt?
  rw [pageSize]
  by_cases here : a / mm.pageSize = page
  · rw [here, entry, arrived, Option.map_some, Option.map_some]
    have split := (Nat.div_add_mod a mm.pageSize).symm
    rw [here, Nat.mul_comm] at split
    have same := filled (a % mm.pageSize) (Nat.mod_lt _ positive)
    rw [← split] at same
    simp only [pageWord, present, absent, pageSize]
    rw [same]
  · rw [others _ here, inputs a here]
    cases entry' : cb.pageTable.get? (a / mm.pageSize) with
    | none => rfl
    | some e₀ =>
      simp only [Option.map_some, Option.some.injEq]
      congr 1
      unfold pageWord stored
      rw [pageSize, swap, pid, image]
      cases framed : e₀.frame with
      | none => rfl
      | some f =>
        exact memory f (fun same => unheld _ e₀ entry' (same ▸ framed)) _ (Nat.mod_lt _ positive)

/-- A load that completes into the frame its page owns keeps every word when the page was absent
and the load brings what the page held: the frame is filled with it, and a console value waiting
for the page is stored in it. A load whose page no longer owns the frame changes no word. -/
theorem wordsKept_completeLoad (wf : s.TableWF) (agree : FramesAgree mm.frames (residency s))
    (fits : mm.Fits) {pid page frame : Nat} {data : List Word}
    (brings : ∀ cb e, s.get? pid = some cb → cb.pageTable.get? page = some e →
      mm.frames.owner frame = some ⟨pid, page⟩ → e.frame = none ∧
        ∀ i < mm.pageSize, data.getD i (.data 0) = (mm.stored ops cb page e).getD i (.data 0)) :
    WordsKept mm s ops (mm.completeLoad s pid page frame data).2.1
      (mm.completeLoad s pid page frame data).2.2 ops := by
  have positive := fits.page_pos
  unfold completeLoad
  split
  · exact WordsKept.refl mm s ops
  · rename_i owner
    have owned : mm.frames.owner frame = some ⟨pid, page⟩ := not_not.1 owner
    simp only [tick]
    have ticked : SameStore mm { mm with clock := mm.clock + 1 } := ⟨rfl, rfl, rfl, rfl⟩
    split
    · exact wordsKept_of_store ticked
    · rename_i cb live
      split
      · exact wordsKept_of_store ticked
      · rename_i e entry
        obtain ⟨absent, loaded⟩ := brings cb e live entry owned
        have owner_pid : cb.pid = pid := wf.pid_eq live
        -- no page but the one arriving is tied to the frame, and that one is absent
        have unheld : ∀ q c g e₀, s.get? q = some c → c.pageTable.get? g = some e₀ →
            e₀.frame ≠ some frame := by
          intro q c g e₀ found entry₀ framed
          have tied := (agree.present_owned q g frame e₀.loading
            (by simp [residency, entry?, found, entry₀, framed])).1
          rw [owned, Option.some.injEq, FrameOwner.mk.injEq] at tied
          obtain ⟨rfl, rfl⟩ := tied
          rw [live, Option.some.injEq] at found
          subst found
          rw [entry, Option.some.injEq] at entry₀
          subst entry₀
          rw [absent] at framed
          cases framed
        have inside := fits.lt_size (FrameTable.lt_size_of_owner _ owned)
        have filled : ∀ f, f ≠ frame → ∀ i < mm.pageSize,
            (mm.memory.fillFrame frame data).read (f * mm.pageSize + i) =
              mm.memory.read (f * mm.pageSize + i) := fun f other i short => by
          rw [← fits.framePage]
          exact mm.memory.read_fillFrame_other other (fits.framePage ▸ short) data
        have fillsIn : ∀ i < mm.pageSize,
            (mm.memory.fillFrame frame data).read (frame * mm.pageSize + i) =
              data.getD i (.data 0) := fun i short => by
          have at_i := inside i
          rw [Nat.mod_eq_of_lt short] at at_i
          rw [← fits.framePage] at at_i ⊢
          exact mm.memory.read_fillFrame_same (fits.framePage ▸ short) at_i data
        have liveAt : s.get? cb.pid = some cb := by rw [owner_pid]; exact live
        have arrives : (cb.pageTable.modify page (·.setPresent frame (mm.clock + 1))).get? page =
            some (e.setPresent frame (mm.clock + 1)) := by
          simp [PageTable.get?_modify, entry]
        have unheldHere : ∀ g e₀, cb.pageTable.get? g = some e₀ → e₀.frame ≠ some frame :=
          fun g e₀ entry₀ => unheld pid cb g e₀ live entry₀
        -- with no console value waiting for this page, the frame holds exactly the data loaded
        have plain : WordsKept mm s ops
            { mm with clock := mm.clock + 1, memory := mm.memory.fillFrame frame data,
                      frames := mm.frames.unlock frame }
            (s.insert { cb with pageTable := cb.pageTable.modify page (·.setPresent frame (mm.clock + 1)) })
            ops :=
          wordsKept_insert positive rfl rfl filled unheld liveAt rfl rfl rfl
            (Array.size_modify ..) (wordAt?_arrived positive rfl rfl entry absent arrives rfl
              (fun g other => by simp [PageTable.get?_modify, Ne.symm other]) rfl rfl filled
              unheldHere (fun i short => by simp only [ControlBlock.inputAt, fillsIn i short, loaded i short])
              fun _ _ => rfl)
        split
        · rename_i va value waiting
          by_cases here : va / mm.pageSize = page
          · -- the value waits for this page: it is stored in the frame just filled
            simp only [here, ↓reduceIte]
            have written : ∀ f, f ≠ frame → ∀ i < mm.pageSize,
                ((mm.memory.fillFrame frame data).write (frame * mm.pageSize + va % mm.pageSize)
                  (.data value)).read (f * mm.pageSize + i) = mm.memory.read (f * mm.pageSize + i) :=
              fun f other i short => by
                rw [PhysicalMemory.read_write, if_neg, filled f other i short]
                rintro ⟨hit, -⟩
                exact other (frame_offset_inj short (Nat.mod_lt _ positive) hit.symm).1
            have touched : ((cb.pageTable.modify page (·.setPresent frame (mm.clock + 1))).modify page
                (·.touch (mm.clock + 1) true)).get? page =
                some ((e.setPresent frame (mm.clock + 1)).touch (mm.clock + 1) true) := by
              simp [PageTable.get?_modify, entry]
            refine wordsKept_insert positive rfl rfl written unheld liveAt rfl rfl rfl
              (Array.size_modify ..|>.trans (Array.size_modify ..)) (wordAt?_arrived positive rfl rfl
                entry absent touched rfl
                (fun g other => by simp [PageTable.get?_modify, Ne.symm other]) rfl rfl written
                unheldHere (fun i short => ?_) (fun a other => ?_))
            · -- the waiting value's address is the one offset of the page it names
              have split := (Nat.div_add_mod va mm.pageSize).symm
              rw [here, Nat.mul_comm] at split
              have same : va = page * mm.pageSize + i ↔ va % mm.pageSize = i := by omega
              simp only [ControlBlock.inputAt, waiting, Option.elim, PhysicalMemory.read_write]
              by_cases hit : va % mm.pageSize = i
              · subst hit
                have at_va := inside va
                rw [if_pos ⟨rfl, by rw [PhysicalMemory.size_fillFrame]; exact at_va⟩,
                  if_pos (same.2 rfl)]
              · rw [if_neg (fun h => hit (frame_offset_inj (Nat.mod_lt _ positive) short h.1).2),
                  if_neg (fun h => hit (same.1 h)), fillsIn i short, loaded i short]
            · simp only [ControlBlock.inputAt, waiting]
              rw [if_neg]
              rintro rfl
              exact other here
          · simp only [here, ↓reduceIte]
            exact plain
        · exact plain

/-- Carrying out the save of page `page` of `pid` into slot `n` keeps every word when that page
keeps slot `n` and every other live page keeping `n` has a later save still to come: the slot
now holds what the save carried, which is what the page held unless a later save holds it. -/
theorem wordsKept_saved (wf : s.TableWF) {pid page frame n : Nat} {data : List Word}
    {rest : List DiskOperation}
    (slotted : ∀ cb e, s.get? pid = some cb → cb.pageTable.get? page = some e → e.slot = some n)
    (covered : ∀ q cb g e, s.get? q = some cb → cb.pageTable.get? g = some e → e.slot = some n →
      (q, g) ≠ (pid, page) → (latestSave rest q g).isSome)
    (inside : n < mm.swap.contents.size) :
    WordsKept mm s (⟨pid, page, frame, .save data (some n)⟩ :: rest)
      { mm with swap := (mm.swap.save data (some n)).2 } s rest where
  pageSize := rfl
  words q cb found := by
    refine ⟨cb, found, rfl, rfl, rfl, fun a => ?_⟩
    have owner : cb.pid = q := wf.pid_eq found
    have contents : (mm.swap.save data (some n)).2.contents = mm.swap.contents.set! n (some data) := by
      simp [SwapDisk.save, inside]
    have diskPage : (mm.swap.save data (some n)).2.pageSize = mm.swap.pageSize := by
      simp [SwapDisk.save, inside]
    unfold wordAt?
    cases entry : cb.pageTable.get? (a / mm.pageSize) with
    | none => rfl
    | some e =>
      simp only [Option.map_some, Option.some.injEq]
      congr 1
      unfold pageWord stored
      cases framed : e.frame with
      | some f => rfl
      | none =>
        simp only [latestSave_cons, owner]
        cases later : latestSave rest q (a / mm.pageSize) with
        | some d => rfl
        | none =>
          by_cases mine : (q, a / mm.pageSize) = (pid, page)
          · -- the page saved: its slot now holds what the save carried
            simp only [Prod.mk.injEq] at mine
            obtain ⟨rfl, here⟩ := mine
            rw [here] at entry
            have slot := slotted cb e found entry
            simp [DiskOperation.savedOf, DiskOperation.saved?, here, slot, contents,
              Array.set!_eq_setIfInBounds, inside]
          · -- another page: it keeps another slot, or a later save holds it
            have other : DiskOperation.savedOf q (a / mm.pageSize)
                ⟨pid, page, frame, .save data (some n)⟩ = none := by
              simp only [DiskOperation.savedOf, ite_eq_right_iff]
              rintro ⟨rfl, rfl⟩
              exact absurd rfl mine
            simp only [other, Option.none_or]
            cases slot : e.slot with
            | none => simp only [diskPage]
            | some m =>
              have apart : n ≠ m := by
                rintro rfl
                have kept := covered q cb _ e found entry slot mine
                rw [later] at kept
                cases kept
              simp [contents, Array.set!_eq_setIfInBounds, apart]

/-- A save that completes changes no page that keeps the slot it was made for. -/
theorem completeSave_of_slotted {pid page n : Nat}
    (slotted : ∀ e, entry? s pid page = some e → e.slot = some n) :
    completeSave s pid page n = s := by
  unfold completeSave
  split
  · rename_i e found
    simp [slotted e found]
  · rfl

/-- Changing memory inside one frame that no present page holds keeps every word. -/
theorem wordsKept_of_frame (positive : 0 < mm.pageSize) (pageSize : mm'.pageSize = mm.pageSize)
    (swap : mm'.swap = mm.swap) {frame : Nat}
    (memory : ∀ f, f ≠ frame → ∀ i < mm.pageSize,
      mm'.memory.read (f * mm.pageSize + i) = mm.memory.read (f * mm.pageSize + i))
    (unheld : ∀ q c g e, s.get? q = some c → c.pageTable.get? g = some e → e.frame ≠ some frame) :
    WordsKept mm s ops mm' s ops where
  pageSize := pageSize
  words q c found := by
    refine ⟨c, found, rfl, rfl, rfl, fun a => ?_⟩
    unfold wordAt?
    rw [pageSize]
    cases entry : c.pageTable.get? (a / mm.pageSize) with
    | none => rfl
    | some e =>
      simp only [Option.map_some, Option.some.injEq]
      congr 1
      exact pageWord_congr_frame pageSize swap
        (fun f framed => memory f fun same => unheld q c _ e found entry (same ▸ framed)) _
        (Nat.mod_lt _ positive)

/-- No present page holds a frame that no page owns. -/
theorem unheld_of_unowned (agree : FramesAgree mm.frames (residency s)) {frame : Nat}
    (free : mm.frames.owner frame = none) :
    ∀ q c g e, s.get? q = some c → c.pageTable.get? g = some e → e.frame ≠ some frame := by
  intro q c g e found entry framed
  have owned := (agree.present_owned q g frame e.loading
    (by simp [residency, entry?, found, entry, framed])).1
  rw [free] at owned
  cases owned

/-- Installing the first page of a new process fills a frame no page holds, so every live process
keeps its words. -/
theorem wordsKept_loadInitial (agree : FramesAgree mm.frames (residency s)) (fits : mm.Fits)
    (cb : ControlBlock) : WordsKept mm s ops (mm.loadInitial cb).2.1 s ops := by
  unfold loadInitial
  split
  · exact WordsKept.refl mm s ops
  · rename_i f frames allocated
    obtain ⟨firstFree, -⟩ := FrameTable.allocate_some _ allocated
    obtain ⟨-, free, -⟩ := FrameTable.firstFree_spec _ firstFree
    have filled : ∀ g, g ≠ f → ∀ i < mm.pageSize,
        (mm.memory.fillFrame f (cb.image.toList.take mm.pageSize)).read (g * mm.pageSize + i) =
          mm.memory.read (g * mm.pageSize + i) := fun g other i short => by
      rw [← fits.framePage]
      exact mm.memory.read_fillFrame_other other (fits.framePage ▸ short) _
    simp only [tick]
    split
    · exact wordsKept_of_frame fits.page_pos rfl rfl filled (unheld_of_unowned agree free)
    · exact wordsKept_of_frame fits.page_pos rfl rfl filled (unheld_of_unowned agree free)

/-- The words of a process none of whose pages was ever touched: its image padded with `DATA 0`,
when no outstanding operation names it, its pages are those its words need and the disk cuts
pages of the same size. -/
theorem wordAt?_untouched (positive : 0 < mm.pageSize)
    (diskPage : mm.swap.pageSize = mm.pageSize) {w : Nat}
    (pages : cb.pageTable.size = Program.pageCount mm.pageSize w)
    (untouched : ∀ g e, cb.pageTable.get? g = some e → e.frame = none ∧ e.slot = none)
    (fresh : ∀ g, latestSave ops cb.pid g = none) (noInput : cb.pendingInput = none) (a : Nat) :
    mm.wordAt? ops cb a =
      if a < cb.pageTable.size * mm.pageSize then some (cb.image.getD a (.data 0)) else none := by
  unfold wordAt?
  by_cases inside : a < cb.pageTable.size * mm.pageSize
  · have page : a / mm.pageSize < cb.pageTable.size := (Nat.div_lt_iff_lt_mul positive).2 inside
    obtain ⟨e, entry⟩ : ∃ e, cb.pageTable.get? (a / mm.pageSize) = some e :=
      ⟨_, Array.getElem?_eq_getElem page⟩
    obtain ⟨absent, noSlot⟩ := untouched _ e entry
    rw [if_pos inside, entry, Option.map_some]
    simp only [ControlBlock.inputAt, noInput, Option.elim, pageWord, absent, stored, fresh, noSlot,
      diskPage]
    rw [SwapDisk.getD_imagePage? cb.image (pages ▸ page) (Nat.mod_lt _ positive), Nat.mul_comm,
      Nat.div_add_mod]
  · rw [if_neg inside]
    have page : cb.pageTable.size ≤ a / mm.pageSize :=
      Nat.le_of_not_lt fun below => inside ((Nat.div_lt_iff_lt_mul positive).1 below)
    rw [show cb.pageTable.get? (a / mm.pageSize) = none from Array.getElem?_eq_none page]
    rfl

/-- A new process right after its first page was installed holds its image padded with `DATA 0`:
the page installed holds the first page of the image, and the others come from the image. -/
theorem wordAt?_loadInitial (fits : mm.Fits) (diskPage : mm.swap.pageSize = mm.pageSize)
    {w : Nat} (pages : cb.pageTable.size = Program.pageCount mm.pageSize w)
    (untouched : ∀ g e, cb.pageTable.get? g = some e → e.frame = none ∧ e.slot = none)
    (fresh : ∀ g, latestSave ops cb.pid g = none) (noInput : cb.pendingInput = none) (a : Nat) :
    (mm.loadInitial cb).2.1.wordAt? ops (mm.loadInitial cb).2.2 a =
      if a < cb.pageTable.size * mm.pageSize then some (cb.image.getD a (.data 0)) else none := by
  have positive := fits.page_pos
  have before := wordAt?_untouched positive diskPage pages untouched fresh noInput a
  -- pages away from memory read the disk alone, whatever memory holds
  have absentAlike : ∀ (mm' : MemoryManager), mm'.pageSize = mm.pageSize → mm'.swap = mm.swap →
      mm'.wordAt? ops cb a = mm.wordAt? ops cb a := fun mm' pageSize swap => by
    unfold wordAt?
    rw [pageSize]
    cases entry : cb.pageTable.get? (a / mm.pageSize) with
    | none => rfl
    | some e =>
      simp only [Option.map_some, Option.some.injEq]
      congr 1
      exact pageWord_congr_frame pageSize swap
        (fun f framed => by rw [(untouched _ e entry).1] at framed; cases framed) _
        (Nat.mod_lt _ positive)
  unfold loadInitial
  split
  · exact before
  · rename_i f frames allocated
    obtain ⟨firstFree, -⟩ := FrameTable.allocate_some _ allocated
    obtain ⟨inside, -, -⟩ := FrameTable.firstFree_spec _ firstFree
    simp only [tick]
    split
    · rename_i e₀ first
      by_cases zero : a / mm.pageSize = 0
      · -- the first page reads the frame just filled with the image's first page
        have short : a < mm.pageSize := by
          rw [Nat.div_eq_zero_iff] at zero
          omega
        have within : a < cb.pageTable.size * mm.pageSize := by
          have one : 0 < cb.pageTable.size := (Array.getElem?_eq_some_iff.1 first).1
          exact Nat.lt_of_lt_of_le short (Nat.le_mul_of_pos_left _ one)
        have room := fits.lt_size (f := f) (by simpa using inside) a
        rw [Nat.mod_eq_of_lt short] at room
        rw [if_pos within]
        unfold wordAt?
        simp only [zero, PageTable.get?_modify, if_true, first, Option.map_some,
          ControlBlock.inputAt, noInput, Option.elim, pageWord, PageEntry.setPresent_frame,
          Nat.mod_eq_of_lt short]
        rw [← fits.framePage, mm.memory.read_fillFrame_same (fits.framePage ▸ short)
          (fits.framePage ▸ room), List.getD_eq_getElem?_getD, List.getElem?_take,
          if_pos (fits.framePage ▸ short), Array.getElem?_toList, Array.getD_eq_getD_getElem?]
      · -- every other page is untouched
        have filledAlike := absentAlike
          { mm with frames := frames, clock := mm.clock + 1,
                    memory := mm.memory.fillFrame f (cb.image.toList.take mm.pageSize) } rfl rfl
        rw [← before, ← filledAlike]
        unfold wordAt?
        simp only [PageTable.get?_modify, Ne.symm zero, if_false, ControlBlock.inputAt]
        rfl
    · dsimp only
      rw [← before]
      exact absentAlike _ rfl rfl

/-- A console value kept for an address is the word there, and every other word stays, when no
value waited before. -/
theorem wordAt?_setInput (noInput : cb.pendingInput = none) (va : Nat) (value : Int32) (a : Nat) :
    mm.wordAt? ops { cb with pendingInput := some (va, value) } a =
      if a = va then (cb.pageTable.get? (a / mm.pageSize)).map fun _ => .data value
      else mm.wordAt? ops cb a := by
  unfold wordAt? ControlBlock.inputAt
  by_cases here : a = va
  · subst here
    simp
  · simp only [noInput, Ne.symm here, here, if_false]
    rfl

end MemoryManager

end PagedMachine
