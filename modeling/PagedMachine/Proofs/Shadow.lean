import PagedMachine.Proofs.Contexts
import PagedMachine.Proofs.SaveOrder
import PagedMachine.Proofs.Reference
import PagedMachine.Proofs.KernelFaults
import PagedMachine.Proofs.KernelSlots
import PagedMachine.Proofs.KernelBounds

/-!
# Each process against its reference machine

The reference machine of a process (`ControlBlock.reference`) runs its program on flat memory,
driven by what the process was seen to do. A live process of the kernel matches its reference
machine (`Kernel.Matches`) when it has the machine's context, has asked the console for what the
machine asked, and, while the kernel has not halted, holds the machine's words: those of its
frames, of the saves still on their way to the disk, of its swap slots and of its image, as
`MemoryManager.wordAt?` reads them with every outstanding disk operation carried out in order.

Inside an instruction, the bus of the running process follows the flat bus of its reference
machine (`Kernel.bus_follows`): from a kernel that holds the words of flat memory for the
process, every access answers as the flat access does and keeps that so, or faults for want of
a page or frame, with no word of any process changed. So the instruction runs in lockstep on the
two (`Cpu.step_lockstep`).

Main statements: a change that no process sees keeps every match (`Kernel.Matches.keep`), and
the bus of the running process follows the flat bus (`Kernel.bus_follows`).
-/

namespace PagedMachine

/-- What the reference machine of a process reads of it: its image, the words its program needs,
and its number of pages. -/
def ControlBlock.shape (cb : ControlBlock) : Array Word × Nat × Nat :=
  (cb.image, cb.size, cb.pageTable.size)

/-- The reference machine of a process after `inputs`: it starts from the image padded with
`DATA 0` on flat memory of as many words as the pages of the process hold, and jumps within the
words its program needs. -/
def ControlBlock.reference (cb : ControlBlock) (pageSize : Nat) (inputs : List Reference.Input) :
    Reference :=
  (Reference.start cb.image (cb.pageTable.size * pageSize) pageSize).drive cb.size inputs

/-- The reference machine of a process reads only its shape. -/
theorem ControlBlock.reference_congr {cb cb' : ControlBlock} (same : cb'.shape = cb.shape)
    (pageSize : Nat) (inputs : List Reference.Input) :
    cb'.reference pageSize inputs = cb.reference pageSize inputs := by
  simp only [shape, Prod.mk.injEq] at same
  unfold reference
  rw [same.1, same.2.1, same.2.2]

namespace MemoryManager

open Scheduler

/-- A translation that succeeds found the page of the address present in a frame, and only
records the access. -/
theorem translate_ok_eq {mm : MemoryManager} {s : Scheduler} {pid : Nat} {va : Int32}
    {write : Bool} {pa : Nat} {mm' : MemoryManager} {s' : Scheduler}
    (translated : mm.translate s pid va write = (.ok pa, mm', s')) :
    0 ≤ va.toInt ∧ ∃ cb e f, s.get? pid = some cb ∧
      cb.pageTable.get? (va.toInt.toNat / mm.pageSize) = some e ∧ e.frame = some f ∧
      pa = f * mm.pageSize + va.toInt.toNat % mm.pageSize ∧ mm' = mm.tick.2 ∧
      s' = modifyEntry s pid (va.toInt.toNat / mm.pageSize) (·.touch mm.tick.1 write) := by
  unfold MemoryManager.translate at translated
  split at translated
  · cases translated
  · rename_i nonneg
    simp only [tick] at translated
    split at translated
    · cases translated
    · rename_i e found
      split at translated
      · rename_i f framed
        cases translated
        obtain ⟨cb, live, entry⟩ := entry?_eq_some.1 found
        exact ⟨by omega, cb, e, f, live, entry, framed, rfl, rfl, rfl⟩
      · split at translated
        · cases translated
        · split at translated <;> cases translated

/-- The word at an address of a present page is the one in its frame, unless a console value
waits for the address. -/
theorem wordAt?_present {mm : MemoryManager} {ops : List DiskOperation} {cb : ControlBlock}
    {a f : Nat} {e : PageEntry} (entry : cb.pageTable.get? (a / mm.pageSize) = some e)
    (present : e.frame = some f) (noInput : cb.inputAt a = none) :
    mm.wordAt? ops cb a = some (mm.memory.read (f * mm.pageSize + a % mm.pageSize)) := by
  simp [wordAt?, entry, noInput, pageWord, present]

/-- No console value waits for an address of a page in memory. -/
theorem SavesOrdered.inputAt_eq_none {ps : Nat} {s : Scheduler} {ops : List DiskOperation}
    (ordered : SavesOrdered ps s ops) {q a f : Nat} {cb : ControlBlock} {e : PageEntry}
    (found : s.get? q = some cb) (entry : cb.pageTable.get? (a / ps) = some e)
    (present : e.frame = some f) : cb.inputAt a = none := by
  unfold ControlBlock.inputAt
  cases waiting : cb.pendingInput with
  | none => rfl
  | some input =>
    obtain ⟨va, value⟩ := input
    dsimp only
    split
    · rename_i same
      subst same
      obtain ⟨e', entry', absent, -⟩ := ordered.inputs q cb va value found waiting
      rw [entry, Option.some.injEq] at entry'
      subst entry'
      rw [present] at absent
      cases absent
    · rfl

end MemoryManager

namespace Kernel

open Scheduler MemoryManager Reference

variable {k k' : Kernel} {d d' : Devices}

/-- The disk operations outstanding, oldest first: those the disk holds, then the queue. -/
def outstanding (k : Kernel) (d : Devices) : List DiskOperation := d.held ++ k.mm.queue

/-- What process `pid` asked the console for and has no answer to, oldest first: the requests the
console took, then the queue. -/
def pending (k : Kernel) (d : Devices) (pid : Nat) : List IoKind :=
  ((d.taken ++ k.console).filter (·.pid == pid)).map (·.kind)

/-- The saves and loads outstanding are in the order that makes every word of a process the one
it last wrote. -/
def OpsOrdered (d : Devices) (k : Kernel) : Prop :=
  SavesOrdered k.mm.pageSize k.sched (k.outstanding d)

/-- What paging keeps besides the fault protocol: the slots owned, the bounds, and the order of
the disk operations outstanding. -/
structure Stored (d : Devices) (k : Kernel) : Prop where
  owned : k.SlotsOwned d
  bounded : k.Bounded d.held
  ordered : k.OpsOrdered d

/-- Process `q` with control block `cb` matches its reference machine after `inputs`: it has the
machine's context, the console requests it made, answered or not, are the machine's, and unless
the kernel halted it holds the machine's words. -/
structure Matches (k : Kernel) (d : Devices) (inputs : List Input) (q : Nat) (cb : ControlBlock) :
    Prop where
  context : k.sched.contextOf cb = (cb.reference k.config.pageSize inputs).context
  requests : answered inputs ++ k.pending d q =
    (cb.reference k.config.pageSize inputs).memory.io.toList
  words : k.halted = none → ∀ a,
    k.mm.wordAt? (k.outstanding d) cb a = (cb.reference k.config.pageSize inputs).memory.words[a]?

/-- Process `q` saw nothing of a change from `k` to `k'`: if it is live after, it was live
before, with the same shape, context and console requests outstanding, and unless the kernel
halted it holds the same words. -/
def SeesNothing (k : Kernel) (d : Devices) (k' : Kernel) (d' : Devices) (q : Nat) : Prop :=
  ∀ cb', k'.sched.get? q = some cb' → ∃ cb, k.sched.get? q = some cb ∧ cb'.shape = cb.shape ∧
    k'.sched.contextOf cb' = k.sched.contextOf cb ∧ k'.pending d' q = k.pending d q ∧
    (k'.halted = none → k.halted = none ∧
      ∀ a, k'.mm.wordAt? (k'.outstanding d') cb' a = k.mm.wordAt? (k.outstanding d) cb a)

/-- A process that saw nothing of a change still matches its reference machine. -/
theorem Matches.keep {inputs : List Input} {q : Nat} {cb cb' : ControlBlock}
    (agrees : k.Matches d inputs q cb) (found : k.sched.get? q = some cb)
    (unseen : SeesNothing k d k' d' q) (config : k'.config = k.config)
    (found' : k'.sched.get? q = some cb') : k'.Matches d' inputs q cb' := by
  obtain ⟨cb₀, found₀, shape, context, requests, words⟩ := unseen cb' found'
  rw [found, Option.some.injEq] at found₀
  subst found₀
  have reference := ControlBlock.reference_congr shape k.config.pageSize inputs
  refine ⟨?_, ?_, fun running a => ?_⟩
  · rw [context, agrees.context, config, reference]
  · rw [requests, agrees.requests, config, reference]
  · obtain ⟨halted, same⟩ := words running
    rw [same a, agrees.words halted a, config, reference]

/-- A change that keeps every word and context, the console requests of `q` and whether the
kernel halted is one `q` does not see. -/
theorem seesNothing_of {q : Nat}
    (words : WordsKept k.mm k.sched (k.outstanding d) k'.mm k'.sched (k'.outstanding d'))
    (contexts : ContextsKept k.sched k'.sched) (requests : k'.pending d' q = k.pending d q)
    (halted : k'.halted = none → k.halted = none) : SeesNothing k d k' d' q := by
  intro cb' found'
  obtain ⟨cb, found, image, size, pages, same⟩ := words.words q cb' found'
  obtain ⟨cb₁, found₁, context⟩ := contexts q cb' found'
  rw [found, Option.some.injEq] at found₁
  subst found₁
  refine ⟨cb, found, by simp [ControlBlock.shape, image, size, pages], context, requests,
    fun running => ⟨halted running, same⟩⟩

/-- The loads outstanding are each for a page that is loading. -/
theorem Settled.loadsLoading (settled : k.Settled d) : LoadsLoading k.sched (k.outstanding d) :=
  fun op mem load live => by
    have listed : op ∈ k.mm.queue ++ d.held := by
      unfold outstanding at mem
      exact List.perm_append_comm.mem_iff.1 mem
    exact (settled.protocol.loads.targets op listed load live).2

/-- An access that translates keeps the order of the operations outstanding, whatever it then
does to memory. -/
theorem ordered_access (settled : k.Settled d) (owned : k.SlotsOwned d) (ordered : k.OpsOrdered d)
    {pid : Nat} {va : Int32} {write : Bool} {r : Except AccessFault Nat} {mm : MemoryManager}
    {s : Scheduler} (translated : k.mm.translate k.sched pid va write = (r, mm, s))
    {mem : MemoryManager} (queue : mem.queue = mm.queue) (pageSize : mem.pageSize = mm.pageSize) :
    ({ k with mm := mem, sched := s } : Kernel).OpsOrdered d := by
  have kept := SavesOrdered.translate (show SavesOrdered _ _ (d.held ++ k.mm.queue) from ordered)
    settled.frames.agree owned.agree settled.loadsLoading pid va write
  have shape := shapeKept_translate k.mm k.sched pid va write
  rw [translated] at kept shape
  show SavesOrdered mem.pageSize s (d.held ++ mem.queue)
  rw [pageSize, queue, shape.pageSize]
  exact kept

/-- What the bus of a process keeps of `Stored`, access by access, joined into one condition. -/
theorem stored_post {α : Type} {r : Except AccessFault α × Kernel} {pid : Nat}
    (settled : Exec.AccessPost r (fun k => k.Settled d ∧ k.sched.running = some pid) (Faulted d))
    (slots : Exec.AccessPost r
      (fun k => (k.Scheduled ∧ k.SlotsOwned d) ∧ k.sched.running = some pid)
      fun _ k => k.Scheduled ∧ k.SlotsOwned d)
    (bounded : Exec.AccessPost r (fun k => k.Bounded d.held) fun _ k => k.Bounded d.held)
    (ordered : Exec.AccessPost r (OpsOrdered d) fun _ => OpsOrdered d) :
    Exec.AccessPost r (fun k => (k.Settled d ∧ k.sched.running = some pid) ∧ k.Stored d)
      fun t k => k.Faulted d t ∧ k.Stored d := by
  rcases r with ⟨_ | _, k'⟩
  · exact ⟨settled, slots.2, bounded, ordered⟩
  · exact ⟨settled, slots.1.2, bounded, ordered⟩

/-- Every access of an instruction keeps the kernel settled with its process running, or leaves
it where the trap of its fault says; and it keeps the slots owned, the bounds and the order of
the operations outstanding. -/
theorem bus_keeps_stored (d : Devices) (pid limit : Nat) :
    Exec.Keeps (bus pid limit) (fun k => (k.Settled d ∧ k.sched.running = some pid) ∧ k.Stored d)
      fun t k => k.Faulted d t ∧ k.Stored d := by
  constructor
  · intro a k ⟨⟨settled, running⟩, stored⟩
    refine stored_post ((bus_keeps_settled d pid limit).read a k ⟨settled, running⟩)
      ((bus_keeps_slots d pid limit).read a k ⟨⟨settled.sched, stored.owned⟩, running⟩)
      ((bus_keeps_bounded d.held pid limit).read a k stored.bounded) ?_
    obtain ⟨config, mm, s, console, nextPid, halted⟩ := k
    simp only [bus]
    split
    all_goals
      rename_i translated
      exact ordered_access settled stored.owned stored.ordered translated rfl rfl
  · intro a w k ⟨⟨settled, running⟩, stored⟩
    refine stored_post ((bus_keeps_settled d pid limit).write a w k ⟨settled, running⟩)
      ((bus_keeps_slots d pid limit).write a w k ⟨⟨settled.sched, stored.owned⟩, running⟩)
      ((bus_keeps_bounded d.held pid limit).write a w k stored.bounded) ?_
    obtain ⟨config, mm, s, console, nextPid, halted⟩ := k
    simp only [bus]
    split
    all_goals
      rename_i translated
      exact ordered_access settled stored.owned stored.ordered translated rfl rfl
  · intro a k ⟨⟨settled, running⟩, stored⟩
    refine stored_post ((bus_keeps_settled d pid limit).probe a k ⟨settled, running⟩)
      ((bus_keeps_slots d pid limit).probe a k ⟨⟨settled.sched, stored.owned⟩, running⟩)
      ((bus_keeps_bounded d.held pid limit).probe a k stored.bounded) ?_
    obtain ⟨config, mm, s, console, nextPid, halted⟩ := k
    simp only [bus]
    split
    all_goals
      rename_i translated
      exact ordered_access settled stored.owned stored.ordered translated rfl rfl
  · intro k ⟨⟨settled, _⟩, stored⟩
    exact ⟨⟨settled, stored⟩, ⟨settled, stored⟩, ⟨settled, stored⟩, ⟨settled, stored⟩⟩

/-- A translation changes no word and no context: a load it starts brings what the page holds. -/
theorem seesNothing_translate (settled : k.Settled d) (stored : k.Stored d) {pid : Nat}
    {va : Int32} {write : Bool} {r : Except AccessFault Nat} {mm : MemoryManager} {s : Scheduler}
    (translated : k.mm.translate k.sched pid va write = (r, mm, s)) (q : Nat) :
    SeesNothing k d { k with mm, sched := s } d q := by
  have fits := stored.bounded.fits
  have kept : ∃ new, _ ∧ WordsKept k.mm k.sched (k.outstanding d) _ _ (k.outstanding d ++ new) :=
    wordsKept_translate settled.sched.agree.wf settled.frames.agree fits.framePage fits.page_pos
      pid va write
  obtain ⟨new, queued, words⟩ := kept
  have contexts := contextsKept_translate (s := k.sched) k.mm pid va write
  rw [translated] at queued words contexts
  refine seesNothing_of ?_ contexts rfl id
  show WordsKept k.mm k.sched (k.outstanding d) mm s (d.held ++ mm.queue)
  rw [queued, ← List.append_assoc]
  exact words

/-- A process that saw nothing of two changes saw nothing of both. -/
theorem SeesNothing.trans {k'' : Kernel} {d'' : Devices} {q : Nat} (first : SeesNothing k d k' d' q)
    (second : SeesNothing k' d' k'' d'' q) : SeesNothing k d k'' d'' q := by
  intro cb'' found''
  obtain ⟨cb', found', shape', context', requests', words'⟩ := second cb'' found''
  obtain ⟨cb, found, shape, context, requests, words⟩ := first cb' found'
  refine ⟨cb, found, shape'.trans shape, context'.trans context, requests'.trans requests,
    fun running => ?_⟩
  obtain ⟨halted', same'⟩ := words' running
  obtain ⟨halted, same⟩ := words halted'
  exact ⟨halted, fun a => (same' a).trans (same a)⟩

/-- A store through a translation changes the word at its address of the process translating,
and no other word. -/
theorem wordAt?_store (settled : k.Settled d) (stored : k.Stored d) {pid : Nat} {va : Int32}
    {pa : Nat} {mm : MemoryManager} {s : Scheduler}
    (translated : k.mm.translate k.sched pid va true = (.ok pa, mm, s)) (w : Word)
    (ops : List DiskOperation) {q : Nat} {cb : ControlBlock} (found : s.get? q = some cb)
    (b : Nat) :
    (mm.write pa w).wordAt? ops cb b =
      if q = pid ∧ b = va.toInt.toNat then some w else mm.wordAt? ops cb b := by
  have agree := settled.frames.agree.translate pid va true
  have fits := stored.bounded.fits.keep (shapeKept_translate k.mm k.sched pid va true)
  rw [translated] at agree fits
  obtain ⟨-, cb₀, e, f, found₀, entry₀, present, rfl, rfl, rfl⟩ := translate_ok_eq translated
  -- the page written keeps its frame; only the access is recorded
  have live : (modifyEntry k.sched pid (va.toInt.toNat / k.mm.pageSize)
      fun x => x.touch k.mm.tick.1 true).get? pid =
      some { cb₀ with pageTable := (cb₀.pageTable.modify (va.toInt.toNat / k.mm.pageSize)
        fun x => x.touch k.mm.tick.1 true) } := by
    simp [modifyEntry, found₀]
  have noInput := stored.ordered.inputAt_eq_none found₀ entry₀ present
  have entry : (cb₀.pageTable.modify (va.toInt.toNat / k.mm.pageSize)
      fun x => x.touch k.mm.tick.1 true).get? (va.toInt.toNat / k.mm.pageSize) =
      some (e.touch k.mm.tick.1 true) := by
    rw [PageTable.get?_modify, if_pos rfl, entry₀]
    rfl
  exact wordAt?_write agree fits live entry present noInput w found b

/-- The kernel holds flat memory `m` for process `cb₀.pid`: the process is live with the shape
of `cb₀` and holds the words of `m`, memory has no absent address, and the console requests the
process made beyond those `answered` are those `m` records. -/
structure Holds (k : Kernel) (d : Devices) (answered : List IoKind) (cb₀ : ControlBlock)
    (m : FlatMemory) : Prop where
  absent : m.absent = []
  requests : answered ++ k.pending d cb₀.pid = m.io.toList
  words : ∃ cb, k.sched.get? cb₀.pid = some cb ∧ cb.shape = cb₀.shape ∧
    ∀ a, k.mm.wordAt? (k.outstanding d) cb a = m.words[a]?

variable {done : List IoKind} {cb₀ : ControlBlock} {m : FlatMemory}

/-- A live process that saw nothing of a change still holds its flat memory, unless the kernel
halted. -/
theorem Holds.keep (holds : k.Holds d done cb₀ m) (unseen : SeesNothing k d k' d' cb₀.pid)
    (running : k'.halted = none) (live : (k'.sched.get? cb₀.pid).isSome) :
    k'.Holds d' done cb₀ m := by
  obtain ⟨cb, found, shape, words⟩ := holds.words
  obtain ⟨cb', found'⟩ := Option.isSome_iff_exists.1 live
  obtain ⟨cb₁, found₁, shape', -, requests, stays⟩ := unseen cb' found'
  rw [found, Option.some.injEq] at found₁
  subst found₁
  obtain ⟨-, same⟩ := stays running
  exact ⟨holds.absent, by rw [requests]; exact holds.requests,
    cb', found', shape'.trans shape, fun a => (same a).trans (words a)⟩

/-- Every live process but `pid` matches its reference machine after its inputs. -/
def Others (k : Kernel) (d : Devices) (inputs : Nat → List Input) (pid : Nat) : Prop :=
  ∀ q cb, k.sched.get? q = some cb → q ≠ pid → k.Matches d (inputs q) q cb

/-- Every other process still matches its reference machine after a change none of them saw. -/
theorem Others.keep {inputs : Nat → List Input} {pid : Nat} (others : k.Others d inputs pid)
    (unseen : ∀ q, q ≠ pid → SeesNothing k d k' d' q) (config : k'.config = k.config) :
    k'.Others d' inputs pid := by
  intro q cb' found' other
  obtain ⟨cb, found, -⟩ := unseen q other cb' found'
  exact (others q cb found other).keep found (unseen q other) config found'

/-- Inside an instruction of process `cb₀.pid` over flat memory `m`: what paging keeps holds,
the kernel has not halted, every other process matches its reference machine after its inputs,
and the kernel holds `m` for the process. -/
structure Shadowing (d : Devices) (inputs : Nat → List Input) (cb₀ : ControlBlock) (k : Kernel)
    (m : FlatMemory) : Prop where
  stored : k.Stored d
  halted : k.halted = none
  others : k.Others d inputs cb₀.pid
  holds : k.Holds d (answered (inputs cb₀.pid)) cb₀ m

variable {inputs : Nat → List Input}

/-- A translation keeps the kernel holding flat memory for the process translating. -/
theorem Holds.translate (holds : k.Holds d done cb₀ m) (settled : k.Settled d) (stored : k.Stored d)
    (halted : k.halted = none) {va : Int32} {write : Bool} {r : Except AccessFault Nat}
    {mm : MemoryManager} {s : Scheduler}
    (translated : k.mm.translate k.sched cb₀.pid va write = (r, mm, s)) :
    ({ k with mm, sched := s } : Kernel).Holds d done cb₀ m := by
  have live : (s.get? cb₀.pid).isSome := by
    obtain ⟨cb, found, -⟩ := holds.words
    have standing := congrArg Option.isSome ((repaged_of_translate translated).same_standing cb₀.pid)
    simpa [found] using standing
  exact holds.keep (seesNothing_translate settled stored translated _) halted live

/-- A translation keeps the kernel shadowing flat memory. -/
theorem Shadowing.translate (shadowing : Shadowing d inputs cb₀ k m) (settled : k.Settled d)
    {va : Int32} {write : Bool} {r : Except AccessFault Nat} {mm : MemoryManager} {s : Scheduler}
    (translated : k.mm.translate k.sched cb₀.pid va write = (r, mm, s))
    (stored : ({ k with mm, sched := s } : Kernel).Stored d) :
    Shadowing d inputs cb₀ { k with mm, sched := s } m :=
  ⟨stored, shadowing.halted,
    shadowing.others.keep (fun q _ => seesNothing_translate settled shadowing.stored translated q) rfl,
    shadowing.holds.translate settled shadowing.stored shadowing.halted translated⟩

/-- Reading through a translation that succeeds gives the word flat memory holds at the
address, which lies inside it. -/
theorem Holds.read (holds : k.Holds d done cb₀ m) (ordered : k.OpsOrdered d) {va : Int32}
    {write : Bool} {pa : Nat} {mm : MemoryManager} {s : Scheduler}
    (translated : k.mm.translate k.sched cb₀.pid va write = (.ok pa, mm, s)) :
    ¬ m.outside va ∧ m.words[va.toInt.toNat]? = some (mm.read pa) := by
  obtain ⟨nonneg, cb, e, f, found, entry, present, rfl, rfl, -⟩ := translate_ok_eq translated
  obtain ⟨cb', found', -, words⟩ := holds.words
  rw [found, Option.some.injEq] at found'
  subst found'
  have word := words va.toInt.toNat
  rw [wordAt?_present entry present (ordered.inputAt_eq_none found entry present)] at word
  refine ⟨?_, word.symm⟩
  have inside : va.toInt.toNat < m.words.size := by
    by_contra outside
    rw [Array.getElem?_eq_none (by omega)] at word
    cases word
  unfold FlatMemory.outside
  omega

/-- A store through a translation is seen by no process but the one translating. -/
theorem seesNothing_store (settled : k.Settled d) (stored : k.Stored d) {pid : Nat} {va : Int32}
    {pa : Nat} {mm : MemoryManager} {s : Scheduler}
    (translated : k.mm.translate k.sched pid va true = (.ok pa, mm, s)) (w : Word) {q : Nat}
    (other : q ≠ pid) :
    SeesNothing { k with mm, sched := s } d { k with mm := mm.write pa w, sched := s } d q :=
  fun cb' found' => ⟨cb', found', rfl, rfl, rfl, fun running => ⟨running, fun b => by
    rw [show ({ k with mm := mm.write pa w, sched := s } : Kernel).mm = mm.write pa w from rfl,
      wordAt?_store settled stored translated w _ found' b, if_neg fun both => other both.1]
    rfl⟩⟩

/-- A store through a translation that succeeds keeps the kernel holding flat memory, with the
word stored at the address on both. -/
theorem Shadowing.store (shadowing : Shadowing d inputs cb₀ k m) (settled : k.Settled d)
    {va : Int32} {pa : Nat} {mm : MemoryManager} {s : Scheduler}
    (translated : k.mm.translate k.sched cb₀.pid va true = (.ok pa, mm, s)) (w : Word)
    (stored : ({ k with mm := mm.write pa w, sched := s } : Kernel).Stored d) :
    Shadowing d inputs cb₀ { k with mm := mm.write pa w, sched := s }
      { m with words := m.words.setIfInBounds va.toInt.toNat w } := by
  have inside := (shadowing.holds.read shadowing.stored.ordered translated).1
  obtain ⟨cb, found, shape, words⟩ :=
    (shadowing.holds.translate settled shadowing.stored shadowing.halted translated).words
  -- the store changes one word of the process storing and none of any other
  refine ⟨stored, shadowing.halted,
    shadowing.others.keep (fun q other => (seesNothing_translate settled shadowing.stored
      translated q).trans (seesNothing_store settled shadowing.stored translated w other)) rfl,
    shadowing.holds.absent,
    shadowing.holds.requests, cb, found, shape, fun b => ?_⟩
  rw [show ({ k with mm := mm.write pa w, sched := s } : Kernel).mm = mm.write pa w from rfl,
    wordAt?_store settled shadowing.stored translated w _ found b, Array.getElem?_setIfInBounds]
  have fits : va.toInt.toNat < m.words.size := by
    unfold FlatMemory.outside at inside
    omega
  by_cases here : b = va.toInt.toNat
  · rw [if_pos ⟨rfl, here⟩, if_pos here.symm, if_pos fits]
  · rw [if_neg fun both => here both.2, if_neg (Ne.symm here)]
    exact words b

/-- The bus of the running process follows the flat bus of its reference machine. From a settled
kernel that holds flat memory `m` for the process, every access answers as the flat access does,
and the kernel holds the memory the flat access leaves; or it faults for want of a page or a
frame, or at an address past the process's pages, with no word changed. -/
theorem bus_follows (d : Devices) (inputs : Nat → List Input) (cb₀ : ControlBlock) (limit : Nat) :
    Exec.Follows (bus cb₀.pid limit) (FlatMemory.bus limit)
      (fun k m => (k.Settled d ∧ k.sched.running = some cb₀.pid) ∧ Shadowing d inputs cb₀ k m)
      fun t k m => (k.Faulted d t ∧ Trap.completes (some t) = false) ∧
        Shadowing d inputs cb₀ k m where
  limit := rfl
  read a k m related := by
    obtain ⟨⟨settled, running⟩, shadowing⟩ := related
    have post := (bus_keeps_stored d cb₀.pid limit).read a k ⟨⟨settled, running⟩, shadowing.stored⟩
    obtain ⟨config, mm, s, console, nextPid, halted⟩ := k
    simp only [bus] at post ⊢
    rcases translated : mm.translate s cb₀.pid a false with ⟨e | pa, mm', s'⟩
    · simp only [translated, Exec.AccessPost] at post
      exact .inr ⟨e, rfl, ⟨post.1, by cases e <;> rfl⟩,
        shadowing.translate settled translated post.2⟩
    · simp only [translated, Exec.AccessPost] at post
      obtain ⟨inside, word⟩ := shadowing.holds.read shadowing.stored.ordered translated
      rw [FlatMemory.read_eq shadowing.holds.absent, if_neg inside, Array.getD_eq_getD_getElem?,
        word]
      exact .inl ⟨rfl, post.1, shadowing.translate settled translated post.2⟩
  write a w k m related := by
    obtain ⟨⟨settled, running⟩, shadowing⟩ := related
    have post := (bus_keeps_stored d cb₀.pid limit).write a w k
      ⟨⟨settled, running⟩, shadowing.stored⟩
    obtain ⟨config, mm, s, console, nextPid, halted⟩ := k
    simp only [bus] at post ⊢
    rcases translated : mm.translate s cb₀.pid a true with ⟨e | pa, mm', s'⟩
    · simp only [translated, Exec.AccessPost] at post
      exact .inr ⟨e, rfl, ⟨post.1, by cases e <;> rfl⟩,
        shadowing.translate settled translated post.2⟩
    · simp only [translated, Exec.AccessPost] at post
      have inside := (shadowing.holds.read shadowing.stored.ordered translated).1
      rw [FlatMemory.write_eq shadowing.holds.absent, if_neg inside]
      exact .inl ⟨rfl, post.1, shadowing.store settled translated w post.2⟩
  probe a k m related := by
    obtain ⟨⟨settled, running⟩, shadowing⟩ := related
    have post := (bus_keeps_stored d cb₀.pid limit).probe a k ⟨⟨settled, running⟩, shadowing.stored⟩
    obtain ⟨config, mm, s, console, nextPid, halted⟩ := k
    simp only [bus] at post ⊢
    rcases translated : mm.translate s cb₀.pid a true with ⟨e | pa, mm', s'⟩
    · simp only [translated, Exec.AccessPost] at post
      exact .inr ⟨e, rfl, ⟨post.1, by cases e <;> rfl⟩,
        shadowing.translate settled translated post.2⟩
    · simp only [translated, Exec.AccessPost] at post
      have inside := (shadowing.holds.read shadowing.stored.ordered translated).1
      rw [FlatMemory.probeWrite_eq shadowing.holds.absent, if_neg inside]
      exact .inl ⟨rfl, post.1, shadowing.translate settled translated post.2⟩
  read_keeps a k m related := by
    rw [FlatMemory.read_eq related.2.holds.absent]
    split <;> rfl
  probe_keeps a k m related := by
    rw [FlatMemory.probeWrite_eq related.2.holds.absent]
    split <;> rfl

end Kernel

end PagedMachine
