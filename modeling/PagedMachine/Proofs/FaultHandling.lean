import PagedMachine.Proofs.KernelFrames
import PagedMachine.Proofs.PageContents

/-!
# Handling a page fault

An access to a page that is absent, with no load in flight, starts the load of that page and
faults. `MemoryManager.FaultHandled` says what the fault leaves behind. The frame that takes the
page is the lowest free one, and the page's load alone is queued. When none is free, it is the
lowest bound frame that is not locked: its page is marked absent in its own slot or one reserved
now, and the save of the frame's words into that slot is queued just before the load. When every
frame is bound and locked, the access fails with `framesExhausted` and only the clock moves.

"Lowest" is read through the frame table (`FrameTable.IsLowest`). That the first free entry of
the table is the lowest free frame needs the frame agreement: a frame with no owner is never
locked.

Main statement: every state a run of the kernel reaches handles such a fault so
(`Kernel.translate_handles_fault`).
-/

namespace PagedMachine

namespace FrameTable

variable (t : FrameTable)

/-- `f` is the lowest frame of the table at which `P` holds. -/
def IsLowest (P : Nat → Prop) (f : Nat) : Prop :=
  f < t.size ∧ P f ∧ ∀ g < f, ¬P g

/-- The owner of a frame inside the table is the one its record names. -/
theorem owner_of_lt {g : Nat} (inside : g < t.frames.size) : t.owner g = t.frames[g].owner := by
  simp [owner, Array.getElem?_eq_getElem inside]

/-- The lock of a frame inside the table is the one its record holds. -/
theorem isLocked_of_lt {g : Nat} (inside : g < t.frames.size) :
    t.isLocked g = t.frames[g].locked := by
  simp [isLocked, Array.getElem?_eq_getElem inside]

variable {t}

/-- The first entry of the table that `p` accepts is the lowest frame where `P` holds, when `P`
is `p` read through the table and holds somewhere. -/
theorem findIdx?_isLowest {p : Frame → Bool} {P : Nat → Prop}
    (reads : ∀ g (inside : g < t.frames.size), P g ↔ p t.frames[g] = true)
    (somewhere : ∃ g < t.size, P g) :
    ∃ f, t.frames.findIdx? p = some f ∧ t.IsLowest P f := by
  cases found : t.frames.findIdx? p with
  | none =>
    obtain ⟨g, inside, holds⟩ := somewhere
    have rejected := Array.findIdx?_eq_none_iff.1 found _ (Array.getElem_mem inside)
    rw [(reads g inside).1 holds] at rejected
    cases rejected
  | some f =>
    obtain ⟨inside, accepted, before⟩ := Array.findIdx?_eq_some_iff_getElem.1 found
    exact ⟨f, rfl, inside, (reads f inside).2 accepted,
      fun g below holds => before g below ((reads g (by omega)).1 holds)⟩

/-- A search no frame record satisfies finds nothing. -/
theorem findIdx?_eq_none {p : Frame → Bool}
    (rejects : ∀ g (inside : g < t.frames.size), p t.frames[g] = false) :
    t.frames.findIdx? p = none := by
  apply Array.findIdx?_eq_none_iff.2
  intro fr mem
  obtain ⟨g, inside, rfl⟩ := Array.mem_iff_getElem.1 mem
  exact rejects g inside

/-- When every locked frame is bound, the frame allocation takes is the lowest free one. -/
theorem firstFree_isLowest (locked_owned : ∀ f, t.isLocked f = true → (t.owner f).isSome)
    (free : ∃ f < t.size, t.owner f = none) :
    ∃ f, t.firstFree = some f ∧ t.IsLowest (fun g => t.owner g = none) f := by
  refine findIdx?_isLowest (fun g inside => ?_) free
  have bound := locked_owned g
  rw [owner_of_lt t inside, isLocked_of_lt t inside] at bound
  rw [owner_of_lt t inside]
  -- a free entry is unlocked, so being free is all the search asks
  generalize t.frames[g] = fr at bound ⊢
  rcases fr with ⟨_ | o, _ | _⟩ <;> simp_all

/-- The victim is the lowest frame that is bound and unlocked. -/
theorem selectVictim_isLowest
    (evictable : ∃ v < t.size, (t.owner v).isSome ∧ t.isLocked v = false) :
    ∃ v, t.selectVictim = some v ∧
      t.IsLowest (fun g => (t.owner g).isSome ∧ t.isLocked g = false) v := by
  refine findIdx?_isLowest (fun g inside => ?_) evictable
  rw [owner_of_lt t inside, isLocked_of_lt t inside]
  simp

/-- With every frame bound, allocation finds nothing. -/
theorem firstFree_eq_none (full : ∀ f < t.size, t.owner f ≠ none) : t.firstFree = none := by
  refine findIdx?_eq_none fun g inside => ?_
  have bound := full g inside
  rw [owner_of_lt t inside] at bound
  simp [bound]

/-- With every frame locked, there is no victim. -/
theorem selectVictim_eq_none (locked : ∀ f < t.size, t.isLocked f = true) :
    t.selectVictim = none := by
  refine findIdx?_eq_none fun g inside => ?_
  have held := locked g inside
  rw [isLocked_of_lt t inside] at held
  simp [held]

end FrameTable

namespace SwapDisk

/-- A disk that reserves nothing has every slot reserved already. -/
theorem reserve_none_full {d : SwapDisk} (full : d.reserve.1 = none) :
    ∀ n < d.reserved.size, d.reserved.getD n false = true := by
  unfold reserve at full
  split at full
  · cases full
  · rename_i unreserved
    intro n inside
    have taken := Array.findIdx?_eq_none_iff.1 unreserved _ (Array.getElem_mem inside)
    rw [Array.getD_eq_getD_getElem?, Array.getElem?_eq_getElem inside]
    simpa using taken

/-- The slot `slot` an evicted page whose entry had slot `old` is saved in, the disk going from
`d` to `d'`: its own slot, the disk unchanged; else a slot that was free and is reserved now; none
only when every slot is reserved, the disk unchanged. -/
def SlotChosen (d : SwapDisk) (old slot : Option Nat) (d' : SwapDisk) : Prop :=
  match old with
  | some n => slot = some n ∧ d' = d
  | none =>
    (∃ n, slot = some n ∧ d.reserved.getD n false = false ∧ d'.reserved.getD n false = true) ∨
      slot = none ∧ (∀ n < d.reserved.size, d.reserved.getD n false = true) ∧ d' = d

/-- Choosing a slot for a save takes the page's own slot, else a free one, else none on a full disk.
-/
theorem slotChosen_slotFor (d : SwapDisk) (old : Option Nat) :
    SlotChosen d old (d.slotFor old).1 (d.slotFor old).2 := by
  cases old with
  | some n => simp [SlotChosen, slotFor]
  | none =>
    simp only [SlotChosen, slotFor]
    cases reserved : d.reserve with
    | mk slot d' =>
      cases slot with
      | some n =>
        obtain ⟨free, after, -, -⟩ := reserve_some reserved
        exact .inl ⟨n, rfl, free, by simp [after n]⟩
      | none =>
        have full : d.reserve.1 = none := by rw [reserved]
        have same := reserve_none full
        rw [reserved] at same
        exact .inr ⟨rfl, reserve_none_full full, same⟩

end SwapDisk

namespace MemoryManager

variable {mm : MemoryManager} {s : Scheduler}

/-- Changing one entry changes that entry alone. -/
theorem entry?_modifyEntry (pid vpn : Nat) (g : PageEntry → PageEntry) (p q : Nat) :
    entry? (modifyEntry s pid vpn g) p q =
      if pid = p ∧ vpn = q then Option.map g <| entry? s p q else entry? s p q := by
  unfold entry? modifyEntry
  rw [Scheduler.get?_modify]
  by_cases samePid : pid = p
  · subst samePid
    cases found : s.get? pid with
    | none => simp
    | some cb =>
      by_cases samePage : vpn = q
      · simp [samePage]
      · simp [samePage]
  · simp [samePid]

/-- Starting a load with a frame free binds the first free frame to the page and locks it, marks
the page loading and queues its load. -/
theorem startLoad_of_free {pid vpn f : Nat} {cb : ControlBlock} {e : PageEntry}
    (free : mm.frames.firstFree = some f) (live : s.get? pid = some cb)
    (entry : cb.pageTable.get? vpn = some e) :
    mm.startLoad s pid vpn =
      (.ok (), { mm with frames := (mm.frames.assign f ⟨pid, vpn⟩).lock f }.submit
        ⟨pid, vpn, f, .load (e.source cb.image)⟩, modifyEntry s pid vpn PageEntry.setLoading) := by
  unfold startLoad
  simp only [FrameTable.allocate, free, live, entry]
  rfl

/-- Starting a load with no frame free evicts the victim `v` from the page `o` it holds, then
binds `v` to the page, locks it, marks the page loading and queues its load after the save. -/
theorem startLoad_of_victim {pid vpn v : Nat} {o : FrameOwner} {cb : ControlBlock}
    {e e' : PageEntry} (full : mm.frames.firstFree = none) (victim : mm.frames.selectVictim = some v)
    (owned : mm.frames.owner v = some o) (found : entry? s o.pid o.page = some e')
    (other : (o.pid, o.page) ≠ (pid, vpn)) (live : s.get? pid = some cb)
    (entry : cb.pageTable.get? vpn = some e) :
    mm.startLoad s pid vpn =
      (.ok (), ({ mm with
          frames := ((mm.frames.lock v).assign v ⟨pid, vpn⟩).lock v
          swap := (mm.swap.slotFor e'.slot).2
          queue := mm.queue ++
            [⟨o.pid, o.page, v, .save (mm.memory.frame v) (mm.swap.slotFor e'.slot).1⟩] } :
            MemoryManager).submit
          ⟨pid, vpn, v, .load (e.source cb.image)⟩,
        modifyEntry (modifyEntry s o.pid o.page fun x => x.setAbsent.setSlot
          (mm.swap.slotFor e'.slot).1) pid vpn PageEntry.setLoading) := by
  obtain ⟨cb', live', image, entry'⟩ := entry_modifyEntry_other
    (fun x => x.setAbsent.setSlot (mm.swap.slotFor e'.slot).1) (Ne.symm other) live entry
  unfold startLoad
  simp only [FrameTable.allocate, full, victim, evict_eq owned found, live', entry']
  rw [← image]
  rfl

/-- With no free frame and no victim, a load stops for want of frames and changes nothing. -/
theorem startLoad_of_exhausted {pid vpn : Nat} (full : mm.frames.firstFree = none)
    (locked : mm.frames.selectVictim = none) :
    mm.startLoad s pid vpn = (.error .framesExhausted, mm, s) := by
  unfold startLoad
  simp only [FrameTable.allocate, full, locked]

section Idle

variable {pid vpn : Nat} {va : Int32} (write : Bool) {e : PageEntry} (valid : 0 ≤ va.toInt)
  (page : va.toInt.toNat / mm.pageSize = vpn) (found : entry? s pid vpn = some e)
  (absent : e.frame = none) (idle : e.loading = false)

include valid page found absent idle

/-- An access to an absent page with no load in flight advances the clock, starts the load and
faults on the page. -/
theorem translate_of_started {mm' : MemoryManager} {s' : Scheduler}
    (started : ({ mm with clock := mm.clock + 1 } : MemoryManager).startLoad s pid vpn =
      (.ok (), mm', s')) :
    mm.translate s pid va write = (.error (.pageFault vpn), mm', s') := by
  subst page
  unfold translate
  simp only [Int.not_lt.2 valid, if_false, tick, found, absent, idle, Bool.false_eq_true, started]

/-- An access to an absent page whose load cannot start fails as the start does. -/
theorem translate_of_refused {err : AccessFault} {mm' : MemoryManager} {s' : Scheduler}
    (refused : ({ mm with clock := mm.clock + 1 } : MemoryManager).startLoad s pid vpn =
      (.error err, mm', s')) :
    mm.translate s pid va write = (.error err, mm', s') := by
  subst page
  unfold translate
  simp only [Int.not_lt.2 valid, if_false, tick, found, absent, idle, Bool.false_eq_true, refused]

end Idle

/-- The end of a fault on page `vpn` of `pid`, whose entry was `e`, that found frame `f`: the
access faults on the page, `f` is bound to the page and locked, and the entry is marked
loading. -/
def FrameTaken (pid vpn f : Nat) (e : PageEntry)
    (out : Except AccessFault Nat × MemoryManager × Scheduler) : Prop :=
  out.1 = .error (.pageFault vpn) ∧ out.2.1.frames.owner f = some ⟨pid, vpn⟩ ∧
    out.2.1.frames.isLocked f = true ∧ entry? out.2.2 pid vpn = some e.setLoading

/-- How a fault on page `vpn` of `pid` is handled from memory `mm` and scheduler `s`, with
outcome `out`, when the page's entry `e` is absent with no load in flight. Its load comes from
its slot, or from `image` when it has none. -/
structure FaultHandled (mm : MemoryManager) (s : Scheduler) (pid vpn : Nat) (e : PageEntry)
    (image : Array Word) (out : Except AccessFault Nat × MemoryManager × Scheduler) : Prop where
  /-- Some frame is free: the lowest free frame takes the page, and only its load is queued. -/
  free : (∃ f < mm.frames.size, mm.frames.owner f = none) →
    ∃ f, mm.frames.IsLowest (fun g => mm.frames.owner g = none) f ∧
      out.2.1.queue = mm.queue ++ [⟨pid, vpn, f, .load (e.source image)⟩] ∧
      FrameTaken pid vpn f e out
  /-- Every frame is bound and one is unlocked: the lowest bound unlocked frame `v` is taken
  from its page, which is marked absent and unmodified in the slot chosen for it, and the save of
  `v`'s words into that slot is queued, then the page's load. -/
  evicted : (∀ f < mm.frames.size, mm.frames.owner f ≠ none) →
    (∃ v < mm.frames.size, (mm.frames.owner v).isSome ∧ mm.frames.isLocked v = false) →
    ∃ v o e' slot,
      mm.frames.IsLowest (fun g => (mm.frames.owner g).isSome ∧ mm.frames.isLocked g = false) v ∧
      mm.frames.owner v = some o ∧ entry? s o.pid o.page = some e' ∧
      SwapDisk.SlotChosen mm.swap e'.slot slot out.2.1.swap ∧
      entry? out.2.2 o.pid o.page = some (e'.setAbsent.setSlot slot) ∧
      out.2.1.queue = mm.queue ++ [⟨o.pid, o.page, v, .save (mm.memory.frame v) slot⟩,
        ⟨pid, vpn, v, .load (e.source image)⟩] ∧
      FrameTaken pid vpn v e out
  /-- Every frame is bound and locked: the access fails and only the clock moves. -/
  exhausted : (∀ f < mm.frames.size, mm.frames.owner f ≠ none) →
    (∀ f < mm.frames.size, mm.frames.isLocked f = true) →
    out = (.error .framesExhausted, { mm with clock := mm.clock + 1 }, s)

/-- A fault that bound and locked frame `f` to the page and marked it loading took that frame. -/
theorem frameTaken_of {pid vpn f : Nat} {e : PageEntry} {t : FrameTable} {s₀ : Scheduler}
    {out : Except AccessFault Nat × MemoryManager × Scheduler} (inside : f < t.size)
    (found : entry? s₀ pid vpn = some e) (result : out.1 = .error (.pageFault vpn))
    (frames : out.2.1.frames = (t.assign f ⟨pid, vpn⟩).lock f)
    (sched : out.2.2 = modifyEntry s₀ pid vpn PageEntry.setLoading) :
    FrameTaken pid vpn f e out := by
  refine ⟨result, ?_, ?_, ?_⟩
  · rw [frames, FrameTable.owner_lock, FrameTable.owner_assign _ _ _ _ inside, if_pos rfl]
  · rw [frames, FrameTable.isLocked_lock _ (by simpa using inside), if_pos rfl]
  · rw [sched, entry?_modifyEntry, if_pos ⟨rfl, rfl⟩, found]
    rfl

/-- With frames and page tables in agreement, a fault on an absent page of a live process with
no load in flight is handled by the protocol. -/
theorem translate_faultHandled (agree : FramesAgree mm.frames (residency s)) {pid vpn : Nat}
    {va : Int32} (write : Bool) {cb : ControlBlock} {e : PageEntry} (valid : 0 ≤ va.toInt)
    (page : va.toInt.toNat / mm.pageSize = vpn) (live : s.get? pid = some cb)
    (entry : cb.pageTable.get? vpn = some e) (absent : e.frame = none) (idle : e.loading = false) :
    FaultHandled mm s pid vpn e cb.image (mm.translate s pid va write) := by
  have found : entry? s pid vpn = some e := entry?_eq_some.2 ⟨cb, live, entry⟩
  refine ⟨fun free => ?_, fun full evictable => ?_, fun full locked => ?_⟩
  · obtain ⟨f, first, lowest⟩ := FrameTable.firstFree_isLowest agree.locked_owned free
    rw [translate_of_started write valid page found absent idle
      (@startLoad_of_free { mm with clock := mm.clock + 1 } s _ _ _ _ _ first live entry)]
    exact ⟨f, lowest, rfl, frameTaken_of lowest.1 found rfl rfl rfl⟩
  · obtain ⟨v, victim, lowest⟩ := FrameTable.selectVictim_isLowest evictable
    obtain ⟨o, owned, present⟩ := agree.victim_present victim
    obtain ⟨e', found', -⟩ := Option.map_eq_some_iff.1 present
    -- the faulting page owns no frame, so the victim holds another page
    have other : (o.pid, o.page) ≠ (pid, vpn) := by
      intro same
      have unowned : residency s pid vpn = some (none, false) := by
        rw [residency, found, Option.map_some, absent, idle]
      apply agree.owns_nothing unowned v
      rw [owned]
      simp only [Prod.mk.injEq] at same
      rw [← same.1, ← same.2]
    rw [translate_of_started write valid page found absent idle
      (@startLoad_of_victim { mm with clock := mm.clock + 1 } s _ _ _ _ _ _ _
        (FrameTable.firstFree_eq_none full) victim owned found' other live entry)]
    have victimEntry : entry? (modifyEntry s o.pid o.page fun x => x.setAbsent.setSlot
        (mm.swap.slotFor e'.slot).1) pid vpn = some e := by
      rw [entry?_modifyEntry, if_neg (fun same => other (Prod.ext same.1 same.2)), found]
    refine ⟨v, o, e', (mm.swap.slotFor e'.slot).1, lowest, owned, found',
      SwapDisk.slotChosen_slotFor _ _, ?_, List.append_assoc _ _ _, frameTaken_of (by simpa using lowest.1)
        victimEntry rfl rfl rfl⟩
    rw [entry?_modifyEntry, if_neg (fun same => other (Prod.ext same.1.symm same.2.symm)),
      entry?_modifyEntry, if_pos ⟨rfl, rfl⟩, found']
    rfl
  · exact translate_of_refused write valid page found absent idle
      (startLoad_of_exhausted (FrameTable.firstFree_eq_none full)
        (FrameTable.selectVictim_eq_none locked))

/-- When some frame is free, or bound and unlocked, a handled fault takes a frame for the page
and queues the page's load last, behind at most one save. -/
theorem FaultHandled.takes_frame {pid vpn : Nat} {e : PageEntry} {image : Array Word}
    {out : Except AccessFault Nat × MemoryManager × Scheduler}
    (handled : FaultHandled mm s pid vpn e image out)
    (obtainable : ∃ f < mm.frames.size, mm.frames.owner f = none ∨ mm.frames.isLocked f = false) :
    ∃ f saves, FrameTaken pid vpn f e out ∧
      out.2.1.queue = mm.queue ++ saves ++ [⟨pid, vpn, f, .load (e.source image)⟩] ∧
      saves.length ≤ 1 ∧ ∀ op ∈ saves, op.isLoad = false := by
  by_cases free : ∃ f < mm.frames.size, mm.frames.owner f = none
  · obtain ⟨f, -, queue, taken⟩ := handled.free free
    exact ⟨f, [], taken, by rw [queue, List.append_nil], Nat.zero_le _, by simp⟩
  · -- every frame is bound, so the frame to be had is bound and unlocked: a page is evicted
    have full : ∀ f < mm.frames.size, mm.frames.owner f ≠ none :=
      fun f inside unowned => free ⟨f, inside, unowned⟩
    obtain ⟨f, inside, either⟩ := obtainable
    obtain ⟨victim, o, e', slot, -, -, -, -, -, queue, taken⟩ := handled.evicted full
      ⟨f, inside, Option.isSome_iff_ne_none.2 (full f inside), either.resolve_left (full f inside)⟩
    exact ⟨victim, [_], taken, by rw [queue, List.append_assoc]; rfl, Nat.le_refl _,
      by simp [DiskOperation.isLoad]⟩

end MemoryManager

namespace Kernel

open MemoryManager

/-- Every state a run reaches keeps its queues and its frames in agreement with its page
tables. -/
theorem reached_framesOk {c : Config} {k : Kernel} (created : Kernel.new c = some (.ok k))
    (calls : List Call) : (k.run calls).Scheduled ∧ (k.run calls).FramesOk :=
  run_keeps (fun k => k.Scheduled ∧ k.FramesOk)
    (fun _ c both => ⟨both.1.call c, both.2.call both.1 c⟩) calls k
    ⟨Scheduled.new created, FramesOk.new created⟩

/-- At every state a run of the kernel reaches, a fault on an absent page of a live process with
no load in flight follows the protocol: the lowest free frame takes the page; else the lowest
bound unlocked frame, whose page is saved first; else the access fails with
`framesExhausted`. -/
theorem translate_handles_fault {c : Config} {k : Kernel} (created : Kernel.new c = some (.ok k))
    (calls : List Call) {pid vpn : Nat} {va : Int32} (write : Bool) {cb : ControlBlock}
    {e : PageEntry} (valid : 0 ≤ va.toInt) (page : va.toInt.toNat / (k.run calls).mm.pageSize = vpn)
    (live : (k.run calls).sched.get? pid = some cb) (entry : cb.pageTable.get? vpn = some e)
    (absent : e.frame = none) (idle : e.loading = false) :
    FaultHandled (k.run calls).mm (k.run calls).sched pid vpn e cb.image
      ((k.run calls).mm.translate (k.run calls).sched pid va write) :=
  translate_faultHandled (reached_framesOk created calls).2.agree write valid page live entry absent
    idle

/-- The default machine after creating a process: its second page is absent, and an access to
address 10 of it is handled by the protocol. -/
theorem default_translate_handles_fault :
    Kernel.new {} = some (.ok { config := {}, mm := .new {}, sched := .new false 5 }) ∧
      ∃ cb e, (Kernel.run { config := {}, mm := .new {}, sched := .new false 5 }
          [.create "factorial"]).sched.get? 1 = some cb ∧
        cb.pageTable.get? 1 = some e ∧ e.frame = none ∧ e.loading = false ∧
        FaultHandled (Kernel.run { config := {}, mm := .new {}, sched := .new false 5 }
            [.create "factorial"]).mm
          (Kernel.run { config := {}, mm := .new {}, sched := .new false 5 }
            [.create "factorial"]).sched 1 1 e cb.image
          ((Kernel.run { config := {}, mm := .new {}, sched := .new false 5 }
            [.create "factorial"]).mm.translate
            (Kernel.run { config := {}, mm := .new {}, sched := .new false 5 }
              [.create "factorial"]).sched 1 10 false) := by
  have shape : ((Kernel.run { config := {}, mm := .new {}, sched := .new false 5 }
      [.create "factorial"]).sched.get? 1).bind (fun cb =>
        (cb.pageTable.get? 1).map fun e => (e.frame, e.loading)) = some (none, false) := by
    decide +kernel
  obtain ⟨cb, live, inner⟩ := Option.bind_eq_some_iff.1 shape
  obtain ⟨e, entry, place⟩ := Option.map_eq_some_iff.1 inner
  simp only [Prod.mk.injEq] at place
  exact ⟨rfl, cb, e, live, entry, place.1, place.2, translate_handles_fault (c := {}) rfl _ false
    (by decide) (by decide +kernel) live entry place.1 place.2⟩

end Kernel

end PagedMachine
