import PagedMachine.Proofs.KernelFaults
import PagedMachine.Proofs.KernelBounds
import PagedMachine.Proofs.FaultHandling
import PagedMachine.Proofs.Contexts

/-!
# Answering a console read

A process that asked the console for a value waits for the console alone. When the value
arrives for logical address `a`, what happens depends on where the page of `a` is
(`Kernel.ReadAnswered`):

* present: the value is written into the cell of `a` in the page's frame, the page is marked
  written, and the process is made ready;
* absent, with a frame to be had (free, or bound and not locked by a transfer): the page's load is
  queued, behind the save of the page evicted for it if any, the value is kept in the control
  block for the page, and the process now waits for the page instead of the console; memory is
  left alone;
* absent, with every frame bound and locked: the kernel halts, and nothing else changes but the
  access clock. The process keeps waiting for the console, and the value is lost.

Main statement: `Kernel.ioDone_read`, for every settled kernel within bounds. The third case is a
real one: `Kernel.echo_read_halts_on_locked_frames` reaches it on a machine of one frame.
-/

namespace PagedMachine

namespace Scheduler

variable {s : Scheduler}

/-- Making `pid` ready changes its status and no other control block. -/
theorem get?_addToReady (pid q : Nat) (cause : Cause) :
    (s.addToReady pid cause).get? q =
      if pid = q then (s.get? q).map ({ · with status := .ready }) else s.get? q := by
  unfold addToReady
  split
  · dsimp only
    split
    all_goals exact get?_transition (s := { s with blocked := s.blocked.erase pid }) pid q cause .ready
  · rename_i missing
    split
    · rename_i same
      subst same
      have absent : s.get? pid = none := by simpa [contains_eq_isSome] using missing
      rw [absent]
      rfl
    · rfl

/-- Clearing reasons of `pid`: it keeps what is left, and a blocked process left with none is
made ready. -/
theorem get?_unblock {pid : Nat} {cb : ControlBlock} (found : s.get? pid = some cb)
    (reason : BlockReason) (cause : Cause) :
    (s.unblock pid reason cause).2.get? pid =
      some (if (cb.blockedOn.diff reason).isEmpty = true ∧ cb.status = .blocked then
        { cb with blockedOn := cb.blockedOn.diff reason, status := .ready }
      else { cb with blockedOn := cb.blockedOn.diff reason }) := by
  unfold unblock
  rw [found]
  dsimp only
  by_cases woken : (cb.blockedOn.diff reason).isEmpty = true ∧ cb.status = .blocked
  · have stays : (!(cb.blockedOn.diff reason).isEmpty || decide (cb.status ≠ .blocked)) = false := by
      simp [woken.1, woken.2]
    rw [if_neg (by rw [stays]; exact Bool.false_ne_true), if_pos woken, get?_addToReady, if_pos rfl,
      get?_modify, if_pos rfl, found]
    rfl
  · have stays : (!(cb.blockedOn.diff reason).isEmpty || decide (cb.status ≠ .blocked)) = true := by
      by_cases empty : (cb.blockedOn.diff reason).isEmpty = true
      · have notBlocked : cb.status ≠ .blocked := fun blocked => woken ⟨empty, blocked⟩
        simp [notBlocked]
      · simp [empty]
    rw [if_pos stays, if_neg woken, get?_modify, if_pos rfl, found]
    rfl

/-- Blocking a process that is neither running nor ready adds the reason and changes nothing
else of it. -/
theorem get?_block {pid : Nat} {cb : ControlBlock} (found : s.get? pid = some cb)
    (idle : s.running ≠ some pid) (notReady : cb.status ≠ .ready) (reason : BlockReason)
    (cause : Cause) :
    (s.block pid reason cause).get? pid = some { cb with blockedOn := cb.blockedOn.union reason } := by
  unfold block
  rw [if_neg idle, found]
  dsimp only
  rw [if_neg notReady, get?_modify, if_pos rfl, found]
  rfl

end Scheduler

namespace ControlBlock

/-- A control block with its page table left out. -/
def withoutTable (cb : ControlBlock) : ControlBlock := { cb with pageTable := ⟨#[]⟩ }

/-- Two control blocks alike but for their page tables. -/
theorem eq_of_withoutTable {cb cb' : ControlBlock} (same : cb'.withoutTable = cb.withoutTable) :
    cb' = { cb with pageTable := cb'.pageTable } := by
  cases cb
  cases cb'
  simp only [withoutTable, mk.injEq] at same
  obtain ⟨pid, name, status, context, -, blockedOn, image, size, input⟩ := same
  subst pid name status context blockedOn image size input
  rfl

end ControlBlock

namespace MemoryManager

open Scheduler

variable {mm : MemoryManager} {s : Scheduler}

/-- A control block without its page table is a view page entries cannot change. -/
theorem untabled_withoutTable : Untabled ControlBlock.withoutTable := ⟨fun _ _ => rfl⟩

/-- A change of page entries alone leaves every other field of every control block. -/
theorem get?_of_untabled {s' : Scheduler} (same : SameOn ControlBlock.withoutTable s s') {q : Nat}
    {cb' : ControlBlock} (found' : s'.get? q = some cb') :
    ∃ cb pt, s.get? q = some cb ∧ cb' = { cb with pageTable := pt } := by
  have view := same q
  rw [found', Option.map_some] at view
  obtain ⟨cb, found, alike⟩ := Option.map_eq_some_iff.1 view.symm
  exact ⟨cb, cb'.pageTable, found, ControlBlock.eq_of_withoutTable alike.symm⟩

/-- Evicting a frame writes no memory: the frame's words go to the queue. -/
theorem memory_evict (mm : MemoryManager) (s : Scheduler) (v : Nat) :
    (mm.evict s v).1.memory = mm.memory := by
  unfold evict
  split
  · rfl
  · dsimp only
    split
    · rfl
    · rfl

/-- Starting a load writes no memory. -/
theorem memory_startLoad (mm : MemoryManager) (s : Scheduler) (pid vpn : Nat) :
    (mm.startLoad s pid vpn).2.1.memory = mm.memory := by
  unfold startLoad
  simp only []
  split
  · rfl
  · rename_i f mm₁ s₁ found
    have first : mm₁.memory = mm.memory := by
      split at found
      · cases found
        rfl
      · split at found
        · cases found
        · cases found
          exact memory_evict mm s _
    split
    · exact first
    · split
      · exact first
      · exact first

/-- A translation writes no memory: a write goes through the address it gives. -/
theorem memory_translate (mm : MemoryManager) (s : Scheduler) (pid : Nat) (va : Int32)
    (write : Bool) : (mm.translate s pid va write).2.1.memory = mm.memory := by
  unfold translate
  split
  · rfl
  · dsimp only
    split
    · rfl
    · split
      · rfl
      · split
        · rfl
        · split
          all_goals
            rename_i started
            have memory := memory_startLoad mm.tick.2 s pid (va.toInt.toNat / mm.pageSize)
            rw [started] at memory
            exact memory

/-- An access to a present page advances the clock, records the access in the entry and gives
the address of the cell in the page's frame. -/
theorem translate_of_present {pid vpn f : Nat} {va : Int32} (write : Bool) {e : PageEntry}
    (valid : 0 ≤ va.toInt) (page : va.toInt.toNat / mm.pageSize = vpn)
    (found : entry? s pid vpn = some e) (present : e.frame = some f) :
    mm.translate s pid va write =
      (.ok (f * mm.pageSize + va.toInt.toNat % mm.pageSize), mm.tick.2,
        modifyEntry s pid vpn (·.touch (mm.clock + 1) write)) := by
  subst page
  unfold translate
  simp only [Int.not_lt.2 valid, if_false, tick, found, present]

end MemoryManager

namespace Kernel

open Scheduler MemoryManager

variable {k : Kernel} {d : Devices}

/-- Keeping a console value for a nonnegative address of `pid` changes that control block alone. -/
theorem get?_deferInput {addr : Int32} (valid : 0 ≤ addr.toInt) (s : Scheduler) (pid q : Nat)
    (value : Int32) :
    (deferInput s pid addr value).get? q = if pid = q then
      (s.get? q).map ({ · with pendingInput := some (addr.toInt.toNat, value) }) else s.get? q := by
  unfold deferInput
  rw [if_neg (Int.not_lt.2 valid), get?_modify]

section Translated

variable {pid : Nat} {addr value : Int32} {mm : MemoryManager} {s : Scheduler}
  (live : k.sched.contains pid = true)

include live

/-- A value read for a live process whose address translates is written there. -/
theorem ioDone_read_ok {pa : Nat} (translated : k.mm.translate k.sched pid addr true = (.ok pa, mm, s)) :
    k.ioDone (.read pid addr value) =
      { k with
        mm := mm.write pa (.data value)
        sched := (s.unblock pid BlockReason.ioOnly .ioCompleted).2 } := by
  simp only [ioDone, live, Bool.not_true, Bool.false_eq_true, if_false, translated]

/-- A value read for a live process whose page is absent waits for the page. -/
theorem ioDone_read_pageFault {page : Nat}
    (translated : k.mm.translate k.sched pid addr true = (.error (.pageFault page), mm, s)) :
    k.ioDone (.read pid addr value) =
      { k with
        mm
        sched := (((deferInput s pid addr value).block pid BlockReason.pageFaultOnly
          .pageFault).unblock pid BlockReason.ioOnly .ioCompleted).2 } := by
  simp only [ioDone, live, Bool.not_true, Bool.false_eq_true, if_false, translated]

/-- A value read for a live process whose page finds no frame halts the kernel. -/
theorem ioDone_read_framesExhausted
    (translated : k.mm.translate k.sched pid addr true = (.error .framesExhausted, mm, s)) :
    k.ioDone (.read pid addr value) = ({ k with mm, sched := s } : Kernel).halt .framesExhausted := by
  simp only [ioDone, live, Bool.not_true, Bool.false_eq_true, if_false, translated]

end Translated

/-- What answering a console read of process `t`, whose control block was `cb`, with value `v`
for address `a` did from kernel `k` to kernel `k'`, by where the page of `a` was. -/
structure ReadAnswered (k : Kernel) (t : Nat) (cb : ControlBlock) (a : Nat) (v : Int32)
    (k' : Kernel) : Prop where
  /-- The page is present in frame `f`: the value is stored in the cell of `a`, and in no other;
  the page is recorded as accessed and written, and `t` is ready. -/
  present : ∀ e f, cb.pageTable.get? (a / k.config.pageSize) = some e → e.frame = some f →
    (∀ q, k'.mm.memory.read q =
      if q = f * k.config.pageSize + a % k.config.pageSize then .data v else k.mm.memory.read q) ∧
    k'.sched.get? t = some
      { cb with
        status := .ready
        blockedOn := {}
        pageTable := cb.pageTable.modify (a / k.config.pageSize) (·.touch (k.mm.clock + 1) true) } ∧
    k'.mm.queue = k.mm.queue ∧ k'.halted = k.halted
  /-- The page is absent and a frame is free or unlocked: no memory is written; the page's load
  into a frame now bound to it is queued last, after at most a save; `t` keeps the value for `a`
  and waits for the page alone, which is marked loading. -/
  deferred : ∀ e, cb.pageTable.get? (a / k.config.pageSize) = some e → e.frame = none →
    (∃ f < k.mm.frames.size, k.mm.frames.owner f = none ∨ k.mm.frames.isLocked f = false) →
    k'.mm.memory = k.mm.memory ∧ k'.halted = k.halted ∧
    (∃ f saves, k'.mm.queue = k.mm.queue ++ saves ++
        [⟨t, a / k.config.pageSize, f, .load (e.source cb.image)⟩] ∧
      saves.length ≤ 1 ∧ (∀ op ∈ saves, op.isLoad = false) ∧
      k'.mm.frames.owner f = some ⟨t, a / k.config.pageSize⟩) ∧
    ∃ pt, k'.sched.get? t = some
      { cb with blockedOn := BlockReason.pageFaultOnly, pendingInput := some (a, v), pageTable := pt } ∧
      pt.get? (a / k.config.pageSize) = some e.setLoading
  /-- The page is absent and every frame is bound and locked: the kernel halts, with nothing
  else changed but the clock. -/
  exhausted : ∀ e, cb.pageTable.get? (a / k.config.pageSize) = some e → e.frame = none →
    (∀ f < k.mm.frames.size, k.mm.frames.owner f ≠ none ∧ k.mm.frames.isLocked f = true) →
    k' = { k with mm := { k.mm with clock := k.mm.clock + 1 }, halted := some .framesExhausted }

section Answer

variable (settled : k.Settled d) {t : Nat} {cb : ControlBlock}
  (found : k.sched.get? t = some cb) (io : cb.blockedOn = BlockReason.ioOnly)

include settled found io

/-- A process waiting for the console is blocked. -/
theorem Settled.blocked_of_io : cb.status = .blocked :=
  ((settled.sched.agree.placed t cb found).waits).2 (by rw [io]; rfl)

/-- A process waiting for the console is not on the processor. -/
theorem Settled.idle_of_io : k.sched.running ≠ some t := by
  intro running
  have status := ((settled.sched.agree.placed t cb found).running).2 running
  rw [settled.blocked_of_io found io] at status
  cases status

/-- The answer to a process waiting for the console for a value at a page it has: the page is
present, or absent with a frame to be had, or absent with every frame bound and locked, and
the kernel goes on as `ReadAnswered` says. -/
theorem ioDone_read (bounded : k.Bounded d.held) {addr : Int32} (valid : 0 ≤ addr.toInt)
    (v : Int32) : ReadAnswered k t cb addr.toInt.toNat v (k.ioDone (.read t addr v)) := by
  have pageSize : k.mm.pageSize = k.config.pageSize := bounded.pageSize
  have page : addr.toInt.toNat / k.mm.pageSize = addr.toInt.toNat / k.config.pageSize := by
    rw [pageSize]
  have live : k.sched.contains t = true := contains_of_get? found
  have blocked := settled.blocked_of_io found io
  -- it waits for no page, so none of its pages is loading
  have idle : ∀ g, ¬Loading k.sched t g :=
    settled.protocol.waits.not_loading found (by rw [io]; rfl)
  -- an absent page of it has no load in flight, so the protocol handles its fault
  have handles : ∀ e, cb.pageTable.get? (addr.toInt.toNat / k.config.pageSize) = some e →
      e.frame = none → FaultHandled k.mm k.sched t (addr.toInt.toNat / k.config.pageSize) e
        cb.image (k.mm.translate k.sched t addr true) := by
    intro e entry absent
    have notLoading : e.loading = false := by
      cases loading : e.loading
      · rfl
      · exact absurd ((loading_iff found _).2 ⟨e, entry, loading⟩) (idle _)
    exact translate_faultHandled settled.frames.agree true valid page found entry absent notLoading
  refine ⟨fun e f entry present => ?_, fun e entry absent obtainable => ?_,
    fun e entry absent full => ?_⟩
  · -- present: the access goes through, the cell is written, the process is woken
    have found' : entry? k.sched t (addr.toInt.toNat / k.config.pageSize) = some e :=
      entry?_eq_some.2 ⟨cb, found, entry⟩
    rw [ioDone_read_ok live (translate_of_present true valid page found' present)]
    have resident : residency k.sched t (addr.toInt.toNat / k.config.pageSize) =
        some (some f, e.loading) := by
      simp only [residency, found', Option.map_some, present]
    have inside := bounded.fits.present_lt settled.frames.agree resident addr.toInt.toNat
    rw [pageSize] at inside
    have touched : (modifyEntry k.sched t (addr.toInt.toNat / k.config.pageSize)
        (·.touch (k.mm.clock + 1) true)).get? t = some
          { cb with
            pageTable := cb.pageTable.modify (addr.toInt.toNat / k.config.pageSize)
              (·.touch (k.mm.clock + 1) true) } := by
      simp only [modifyEntry, get?_modify, found, Option.map_some, ↓reduceIte]
    refine ⟨fun q => ?_, ?_, rfl, rfl⟩
    · simp only [MemoryManager.write, tick, pageSize, PhysicalMemory.read_write]
      by_cases here : q = f * k.config.pageSize + addr.toInt.toNat % k.config.pageSize
      · rw [if_pos ⟨here.symm, here ▸ inside⟩, if_pos here]
      · rw [if_neg fun both => here both.1.symm, if_neg here]
    · rw [get?_unblock touched, io]
      simp [blocked]
      rfl
  · -- absent, with a frame to be had: the load starts and the value waits for the page
    obtain ⟨f, saves, taken, queued, few, saved⟩ := (handles e entry absent).takes_frame obtainable
    obtain ⟨fault, owned, -, marked⟩ := taken
    rcases translated : k.mm.translate k.sched t addr true with ⟨r, mm', s'⟩
    rw [translated] at fault owned marked queued
    dsimp only at fault owned marked queued
    subst fault
    rw [ioDone_read_pageFault live translated]
    -- the translation changed only page tables
    obtain ⟨cb₁, found₁, entry₁⟩ := entry?_eq_some.1 marked
    have same := untabled_withoutTable.translate k.mm t addr true (s := k.sched)
    rw [translated] at same
    obtain ⟨cb₀, pt, found₀, rfl⟩ := get?_of_untabled same found₁
    rw [found, Option.some.injEq] at found₀
    subst found₀
    have memory := memory_translate k.mm k.sched t addr true
    rw [translated] at memory
    refine ⟨memory, rfl, ⟨f, saves, queued, few, saved, owned⟩, pt, ?_, entry₁⟩
    have idle' : (deferInput s' t addr v).running ≠ some t := by
      rw [(repaged_deferInput s' t addr v).running_eq, (repaged_of_translate translated).running_eq]
      exact settled.idle_of_io found io
    have deferred : (deferInput s' t addr v).get? t =
        some { cb with pageTable := pt, pendingInput := some (addr.toInt.toNat, v) } := by
      rw [get?_deferInput valid, if_pos rfl, found₁]
      rfl
    -- the console is cleared from its reasons and the page added: it waits for the page alone
    have reasons : (BlockReason.ioOnly.union BlockReason.pageFaultOnly).diff BlockReason.ioOnly =
        BlockReason.pageFaultOnly := by decide
    have waits : BlockReason.pageFaultOnly.isEmpty = false := by decide
    rw [get?_unblock (get?_block deferred idle' (by rw [blocked]; decide) _ _)]
    simp [io, reasons, waits]
  · -- absent, every frame bound and locked: the kernel halts
    rw [ioDone_read_framesExhausted live ((handles e entry absent).exhausted
      (fun f inside => (full f inside).1) (fun f inside => (full f inside).2))]
    rfl

end Answer

/-- On a machine of one frame, the first process waits for the console after its page was
evicted for a second process, whose own fault locks the only frame. The value read for the first
process then halts the kernel: it reaches no cell and waits for no page, and the process still
waits for the console, with no value kept. -/
theorem echo_read_halts_on_locked_frames :
    let c : Config := { memoryWords := 16, pageSize := 16, autoSchedule := true }
    let k₀ : Kernel := ⟨c, .new c, .new true 5, [], 1, none⟩
    let served := serve (k₀, {})
      [.create "echo", .step, .step, .step, .create "echo", .step, .takeConsole]
    let answered := (served.1.happen served.2 (.answer 0 42)).1
    Kernel.new c = some (.ok k₀) ∧ served.2.taken = [⟨1, .read 10⟩] ∧
      (served.1.sched.get? 1).map (fun cb => (cb.status, cb.blockedOn)) =
        some (.blocked, BlockReason.ioOnly) ∧
      answered.halted = some .framesExhausted ∧
      (answered.sched.get? 1).map (fun cb => (cb.status, cb.blockedOn, cb.pendingInput)) =
        some (.blocked, BlockReason.ioOnly, none) := by
  refine ⟨rfl, ?_⟩
  decide +kernel

end Kernel

end PagedMachine
