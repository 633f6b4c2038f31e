import PagedMachine.Proofs.Separation

/-!
# Swap slots and pages

A page keeps its content in a swap slot once it has been evicted (`MemoryManager.slotOf`).
`SlotsAgree` states how slots and pages agree: no two pages keep the same slot, a slot is
reserved exactly when some page keeps it, and the count of slots in use is the number of
reserved slots. It reads the disk only through its reservations and its count, and three
lemmas say how the two may change together: a page is given the slot a reservation hands out
(`claim`), a process gives back the slots of its pages (`leave`), or nothing the agreement
reads changes (`congr`).

Paging never takes a slot from a page: eviction keeps the page's slot or gives it a new one,
and queues the save of the page into that slot; loads, their completions and accesses change no
slot (`SlotsKept`). A completed save changes nothing for a page that keeps a slot
(`completeSave_of_kept`), so the saves the kernel queued itself cannot give a slot behind the
disk's back.
-/

namespace PagedMachine

namespace MemoryManager

open Scheduler

variable {s : Scheduler}

/-- The swap slot each page of each live process keeps its content in; none for a page with no
slot, a page the process lacks or a pid that is not live. -/
def slotOf (s : Scheduler) (pid page : Nat) : Option Nat :=
  Option.bind ( entry? s pid page) PageEntry.slot

/-- Scheduling changes no page table, so no page changes slot. -/
theorem slotOf_of_sameOn {s' : Scheduler} (same : SameOn ControlBlock.pageTable s s') :
    slotOf s' = slotOf s := by
  funext pid page
  have tables := same pid
  have through : ∀ o : Option ControlBlock,
      (o.bind fun cb => cb.pageTable.get? page).bind PageEntry.slot =
        ((o.map ControlBlock.pageTable).bind fun pt => pt.get? page).bind PageEntry.slot := by
    intro o
    cases o <;> rfl
  unfold slotOf entry?
  rw [through, through, tables]

/-- Changing one entry changes the slot of that page alone. -/
theorem slotOf_modifyEntry (pid vpn : Nat) (g : PageEntry → PageEntry) (p q : Nat) :
    slotOf (modifyEntry s pid vpn g) p q =
      if pid = p ∧ vpn = q then Option.bind ( entry? s p q) fun e => (g e).slot
      else slotOf s p q := by
  unfold slotOf entry? modifyEntry
  rw [get?_modify]
  by_cases samePid : pid = p
  · subst samePid
    cases found : s.get? pid with
    | none => simp
    | some cb =>
      by_cases samePage : vpn = q
      · subst samePage
        simp only [and_self, if_true, Option.map_some, Option.bind_some,
          PageTable.get?_modify]
        cases cb.pageTable.get? vpn <;> rfl
      · simp [samePage]
  · simp [samePid]

/-- Changing entries without touching their slots keeps every slot. -/
theorem slotOf_modifyEntry_of_keeps (pid vpn : Nat) (g : PageEntry → PageEntry)
    (keeps : ∀ e, (g e).slot = e.slot) : slotOf (modifyEntry s pid vpn g) = slotOf s := by
  funext p q
  rw [slotOf_modifyEntry]
  split
  · simp only [slotOf, keeps]
  · rfl

/-- Putting back a control block gives its pages their slots and changes no others. -/
theorem slotOf_insert (cb : ControlBlock) (p q : Nat) :
    slotOf (s.insert cb) p q =
      if cb.pid = p then (cb.pageTable.get? q).bind PageEntry.slot else slotOf s p q := by
  unfold slotOf entry?
  rw [get?_insert]
  split <;> simp

/-- Removing a process takes its slots away and no others. -/
theorem slotOf_removeProcess (pid : Nat) (cause : Cause) (p q : Nat) :
    slotOf (s.removeProcess pid cause).2 p q = if pid = p then none else slotOf s p q := by
  unfold slotOf entry?
  rw [get?_removeProcess]
  split <;> simp

end MemoryManager

namespace SwapDisk

variable {d d' : SwapDisk} {n : Nat}

/-- Setting an entry inside an array changes that entry alone. -/
theorem getD_set! (a : Array Bool) (n m : Nat) (b : Bool) :
    (a.set! n b).getD m false = if n = m ∧ n < a.size then b else a.getD m false := by
  simp only [Array.getD_eq_getD_getElem?, Array.set!_eq_setIfInBounds,
    Array.getElem?_setIfInBounds]
  by_cases same : n = m
  · subst same
    by_cases inside : n < a.size <;> simp [inside]
  · simp [same]

/-- A slot a reservation hands out was free; it is reserved afterwards, and both the count of
slots in use and the number of reserved slots grow by one. -/
theorem reserve_some (reserved : d.reserve = (some n, d')) :
    d.reserved.getD n false = false ∧
      (∀ m, d'.reserved.getD m false = (decide (n = m) || d.reserved.getD m false)) ∧
      d'.reserved.count true = d.reserved.count true + 1 ∧
      d'.stats.slotsInUse = d.stats.slotsInUse + 1 := by
  unfold reserve at reserved
  split at reserved
  · rename_i i found
    cases reserved
    obtain ⟨inside, free, _⟩ := Array.findIdx?_eq_some_iff_getElem.1 found
    have free' : d.reserved[n] = false := by simpa using free
    refine ⟨by simp [Array.getD_eq_getD_getElem?, inside, free'], fun m => ?_, ?_, rfl⟩
    · rw [getD_set!]
      by_cases same : n = m
      · subst same
        simp [inside]
      · simp [same]
    · simp only [Array.set!_eq_setIfInBounds, Array.setIfInBounds, dif_pos inside]
      rw [Array.count_set, free']
      simp
  · cases reserved

/-- A full disk reserves nothing and stays as it was. -/
theorem reserve_none (full : d.reserve.1 = none) : d.reserve.2 = d := by
  unfold reserve at full ⊢
  split
  · simp_all
  · rfl

/-- Releasing a slot frees it; a slot that was free stays free, and nothing else changes. -/
theorem getD_release (m : Nat) :
    (d.release n).reserved.getD m false = (d.reserved.getD m false && !decide (n = m)) := by
  unfold release
  split
  · rename_i held
    rw [getD_set!]
    by_cases same : n = m
    · subst same
      have inside : n < d.reserved.size := by
        by_contra outside
        simp [Array.getD_eq_getD_getElem?, outside] at held
      simp [inside]
    · simp [same]
  · rename_i free
    by_cases same : n = m
    · subst same
      simp [free]
    · simp [same]

/-- Releasing keeps the count of slots in use equal to the number of reserved slots. -/
theorem counted_release (counted : d.stats.slotsInUse = d.reserved.count true) :
    (d.release n).stats.slotsInUse = (d.release n).reserved.count true := by
  unfold release
  split
  · rename_i held
    have inside : n < d.reserved.size := by
      by_contra outside
      simp [Array.getD_eq_getD_getElem?, outside] at held
    have held' : d.reserved[n] = true := by
      simpa [Array.getD_eq_getD_getElem?, inside] using held
    simp only [Array.set!_eq_setIfInBounds, Array.setIfInBounds, dif_pos inside]
    rw [Array.count_set, held', counted]
    simp
  · exact counted

/-- Releasing a list of slots frees exactly those. -/
theorem getD_foldl_release (d : SwapDisk) (l : List Nat) (m : Nat) :
    (l.foldl release d).reserved.getD m false = (d.reserved.getD m false && !decide (m ∈ l)) := by
  induction l generalizing d with
  | nil => simp
  | cons n rest ih =>
    rw [List.foldl_cons, ih, getD_release]
    by_cases same : n = m
    · subst same
      simp
    · simp [same, Ne.symm same]

/-- Releasing a list of slots frees exactly those, keeping the count agreeing. -/
theorem foldl_release (counted : d.stats.slotsInUse = d.reserved.count true) (l : List Nat) :
    (∀ m, (l.foldl release d).reserved.getD m false = (d.reserved.getD m false && !decide (m ∈ l))) ∧
      (l.foldl release d).stats.slotsInUse = (l.foldl release d).reserved.count true := by
  induction l generalizing d with
  | nil => exact ⟨fun m => by simp, counted⟩
  | cons n rest ih =>
    obtain ⟨-, counted'⟩ := ih (counted_release (n := n) counted)
    exact ⟨getD_foldl_release d (n :: rest), counted'⟩

/-- Carrying out an operation reserves and frees nothing. -/
theorem save_reserved (data : List Word) (slot : Option Nat) :
    (d.save data slot).2.reserved = d.reserved ∧
      (d.save data slot).2.stats.slotsInUse = d.stats.slotsInUse := by
  unfold save
  split
  · split <;> exact ⟨rfl, rfl⟩
  · exact ⟨rfl, rfl⟩

/-- Loading a page keeps the reservations and the count of slots in use. -/
theorem load_reserved {page : Nat} {source : LoadSource} {data : List Word}
    (loaded : d.load page source = some (data, d')) :
    d'.reserved = d.reserved ∧ d'.stats.slotsInUse = d.stats.slotsInUse := by
  unfold load at loaded
  cases source with
  | slot n =>
    simp only [Option.bind_eq_bind, Option.pure_def, Option.bind_some, Option.some.injEq,
      Prod.mk.injEq] at loaded
    rw [← loaded.2]
    exact ⟨rfl, rfl⟩
  | image words =>
    cases cut : imagePage? d.pageSize page words with
    | none => simp [cut] at loaded
    | some w =>
      simp only [cut, Option.bind_eq_bind, Option.pure_def, Option.bind_some, Option.some.injEq,
        Prod.mk.injEq] at loaded
      rw [← loaded.2]
      exact ⟨rfl, rfl⟩

/-- A checked disk operation keeps the reservations and the count of slots in use. -/
theorem perform?_reserved {op : DiskOperation} {c : Completion} (done : d.perform? op = some (c, d')) :
    d'.reserved = d.reserved ∧ d'.stats.slotsInUse = d.stats.slotsInUse := by
  unfold perform? at done
  split at done
  · rename_i data slot _
    have kept := save_reserved (d := d) data slot
    rcases saved : d.save data slot with ⟨r, d''⟩
    rw [saved] at done kept
    cases done
    exact kept
  · rename_i source _
    cases loaded : d.load op.page source with
    | none => simp [loaded] at done
    | some r =>
      obtain ⟨data, d''⟩ := r
      simp only [loaded, Option.bind_eq_bind, Option.pure_def, Option.bind_some, Option.some.injEq,
        Prod.mk.injEq] at done
      rw [← done.2]
      exact load_reserved loaded

/-- Every disk operation keeps the reservations and the count of slots in use. -/
theorem perform_reserved (op : DiskOperation) :
    (d.perform op).2.reserved = d.reserved ∧
      (d.perform op).2.stats.slotsInUse = d.stats.slotsInUse := by
  unfold perform
  cases done : d.perform? op with
  | none => exact ⟨rfl, rfl⟩
  | some r => exact perform?_reserved done

end SwapDisk

/-- Swap slots and pages agree. `d` is the disk and `v` the slot each page keeps (`slotOf`): no
two pages keep the same slot, a slot is reserved exactly when some page keeps it, and the count
of slots in use is the number of reserved slots. -/
structure SlotsAgree (d : SwapDisk) (v : Nat → Nat → Option Nat) : Prop where
  unique : ∀ p q p' q' n, v p q = some n → v p' q' = some n → p = p' ∧ q = q'
  reserved : ∀ n, d.reserved.getD n false = true ↔ ∃ p q, v p q = some n
  counted : d.stats.slotsInUse = d.reserved.count true

namespace SlotsAgree

variable {d d' : SwapDisk} {v v' : Nat → Nat → Option Nat}

/-- The agreement reads the disk only through its reservations and its count. -/
theorem congr (agree : SlotsAgree d v) (reserved : d'.reserved = d.reserved)
    (inUse : d'.stats.slotsInUse = d.stats.slotsInUse) (pages : v' = v) : SlotsAgree d' v' := by
  subst pages
  exact ⟨agree.unique, fun n => reserved ▸ agree.reserved n, by rw [inUse, reserved]; exact agree.counted⟩

/-- A page that keeps no slot is given the slot a reservation hands out, and no other page
changes. -/
theorem claim (agree : SlotsAgree d v) {p q n : Nat} (had : v p q = none)
    (reserved : d.reserve = (some n, d')) (here : v' p q = some n)
    (others : ∀ p' q', (p', q') ≠ (p, q) → v' p' q' = v p' q') : SlotsAgree d' v' := by
  obtain ⟨free, after, counted, inUse⟩ := SwapDisk.reserve_some reserved
  -- the slot handed out was kept by no page
  have unkept : ∀ p' q', v p' q' ≠ some n := fun p' q' kept => by
    rw [(agree.reserved n).2 ⟨p', q', kept⟩] at free
    cases free
  -- a page keeps `n` after the change only if it is the page given it
  have given : ∀ p' q', v' p' q' = some n → (p', q') = (p, q) := by
    intro p' q' kept
    by_contra other
    rw [others p' q' other] at kept
    exact unkept p' q' kept
  refine ⟨?_, fun m => ?_, by rw [inUse, counted, agree.counted]⟩
  · intro p₁ q₁ p₂ q₂ m kept₁ kept₂
    by_cases same : m = n
    · subst same
      have first := given p₁ q₁ kept₁
      have second := given p₂ q₂ kept₂
      simp only [Prod.mk.injEq] at first second
      exact ⟨first.1.trans second.1.symm, first.2.trans second.2.symm⟩
    · have old : ∀ p' q', v' p' q' = some m → v p' q' = some m := by
        intro p' q' kept
        by_cases at_pq : (p', q') = (p, q)
        · simp only [Prod.mk.injEq] at at_pq
          rw [at_pq.1, at_pq.2, here] at kept
          exact absurd (Option.some.inj kept).symm same
        · rwa [others p' q' at_pq] at kept
      exact agree.unique p₁ q₁ p₂ q₂ m (old p₁ q₁ kept₁) (old p₂ q₂ kept₂)
  · rw [after]
    by_cases same : n = m
    · subst same
      simp only [decide_true, Bool.true_or, true_iff]
      exact ⟨p, q, here⟩
    · simp only [decide_eq_false same, Bool.false_or]
      rw [agree.reserved m]
      constructor
      · rintro ⟨p', q', kept⟩
        refine ⟨p', q', ?_⟩
        rw [others p' q']
        · exact kept
        · rintro ⟨⟩
          rw [had] at kept
          cases kept
      · rintro ⟨p', q', kept⟩
        refine ⟨p', q', ?_⟩
        by_cases at_pq : (p', q') = (p, q)
        · simp only [Prod.mk.injEq] at at_pq
          rw [at_pq.1, at_pq.2, here] at kept
          exact absurd (Option.some.inj kept) same
        · rwa [others p' q' at_pq] at kept

/-- A process that ends gives back the slots its pages keep, and loses its pages. -/
theorem leave (agree : SlotsAgree d v) (pid : Nat) (l : List Nat)
    (slots : ∀ n, n ∈ l ↔ ∃ q, v pid q = some n)
    (pages : ∀ p q, v' p q = if pid = p then none else v p q) :
    SlotsAgree (l.foldl SwapDisk.release d) v' := by
  obtain ⟨freed, counted⟩ := SwapDisk.foldl_release agree.counted l
  -- the pages left keep what they kept
  have old : ∀ p q n, v' p q = some n → pid ≠ p ∧ v p q = some n := by
    intro p q n kept
    rw [pages] at kept
    split at kept
    · cases kept
    · exact ⟨‹_›, kept⟩
  refine ⟨fun p q p' q' n kept kept' => ?_, fun n => ?_, counted⟩
  · exact agree.unique p q p' q' n (old p q n kept).2 (old p' q' n kept').2
  · rw [freed, Bool.and_eq_true, agree.reserved, Bool.not_eq_true', decide_eq_false_iff_not,
      slots]
    constructor
    · rintro ⟨⟨p, q, kept⟩, notOurs⟩
      have other : pid ≠ p := fun same => notOurs ⟨q, same ▸ kept⟩
      exact ⟨p, q, by rw [pages, if_neg other]; exact kept⟩
    · rintro ⟨p, q, kept⟩
      obtain ⟨other, kept⟩ := old p q n kept
      refine ⟨⟨p, q, kept⟩, fun ⟨q', ours⟩ => other ?_⟩
      exact (agree.unique pid q' p q n ours kept).1


/-- With no page keeping a slot, no slot is in use. -/
theorem unused (agree : SlotsAgree d v) (empty : ∀ p q, v p q = none) : d.stats.slotsInUse = 0 := by
  rw [agree.counted, Array.count_eq_zero]
  intro mem
  obtain ⟨i, inside, held⟩ := Array.mem_iff_getElem.1 mem
  obtain ⟨p, q, kept⟩ := (agree.reserved i).1 (by simp [Array.getD_eq_getD_getElem?, inside, held])
  rw [empty] at kept
  cases kept

/-- A reservation hands out a slot no page keeps. -/
theorem reserve_unkept (agree : SlotsAgree d v) {n : Nat} (reserved : d.reserve.1 = some n) :
    ∀ p q, v p q ≠ some n := by
  obtain ⟨free, _⟩ := SwapDisk.reserve_some (show d.reserve = (some n, d.reserve.2) by
    rw [← reserved])
  intro p q kept
  rw [(agree.reserved n).2 ⟨p, q, kept⟩] at free
  cases free


end SlotsAgree

namespace MemoryManager

open Scheduler

variable {mm mm' mm'' : MemoryManager} {s s' s'' : Scheduler}

/-- What a paging operation from `mm` and `s` to `mm'` and `s'` does to swap slots: it keeps
slots and pages agreeing, no page loses or changes its slot, and every save it queues with a
slot is of a page that keeps that slot. -/
structure SlotsKept (mm : MemoryManager) (s : Scheduler) (mm' : MemoryManager)
    (s' : Scheduler) : Prop where
  agree : SlotsAgree mm.swap (slotOf s) → SlotsAgree mm'.swap (slotOf s')
  kept : ∀ p q n, slotOf s p q = some n → slotOf s' p q = some n
  queued : ∃ ops, mm'.queue = mm.queue ++ ops ∧
    ∀ op ∈ ops, ∀ data n, op.kind = .save data (some n) → slotOf s' op.pid op.page = some n

/-- Doing nothing keeps the slots. -/
theorem SlotsKept.refl (mm : MemoryManager) (s : Scheduler) : SlotsKept mm s mm s :=
  ⟨id, fun _ _ _ => id, [], by simp⟩

/-- Keeping the slots is transitive. -/
theorem SlotsKept.trans (first : SlotsKept mm s mm' s') (second : SlotsKept mm' s' mm'' s'') :
    SlotsKept mm s mm'' s'' := by
  obtain ⟨ops, queue, covered⟩ := first.queued
  obtain ⟨ops', queue', covered'⟩ := second.queued
  refine ⟨second.agree ∘ first.agree, fun p q n kept => second.kept p q n (first.kept p q n kept),
    ops ++ ops', by rw [queue', queue, List.append_assoc], ?_⟩
  intro op mem data n save
  rcases List.mem_append.1 mem with old | new
  · exact second.kept _ _ _ (covered op old data n save)
  · exact covered' op new data n save

/-- A change that leaves the disk, the queue and every slot alone. -/
theorem SlotsKept.of_eq (swap : mm'.swap = mm.swap) (queue : mm'.queue = mm.queue)
    (slots : slotOf s' = slotOf s) : SlotsKept mm s mm' s' :=
  ⟨fun agree => agree.congr (by rw [swap]) (by rw [swap]) slots, fun p q n kept => by
    rw [slots]; exact kept, [], by simp [queue]⟩

/-- Queueing an operation that saves nothing keeps the slots. -/
theorem SlotsKept.submit_load (op : DiskOperation) (load : ∀ data slot, op.kind ≠ .save data slot)
    (swap : mm'.swap = mm.swap) (queue : mm'.queue = mm.queue ++ [op])
    (slots : slotOf s' = slotOf s) : SlotsKept mm s mm' s' := by
  refine ⟨fun agree => agree.congr (by rw [swap]) (by rw [swap]) slots, fun p q n kept => by
    rw [slots]; exact kept, [op], queue, ?_⟩
  intro op' mem data n save
  rw [List.mem_singleton] at mem
  subst mem
  exact absurd save (load data (some n))

/-- Evicting keeps the slot of the page it evicts, or gives it the slot a reservation hands out,
and queues the save of the page in that slot. -/
theorem slotsKept_evict (mm : MemoryManager) (s : Scheduler) (v : Nat) :
    SlotsKept mm s (mm.evict s v).1 (mm.evict s v).2 := by
  unfold MemoryManager.evict
  split
  · exact .refl mm s
  · rename_i o owned
    dsimp only
    split
    · exact .of_eq rfl rfl rfl
    · rename_i e found
      have here : ∀ slot, slotOf (modifyEntry s o.pid o.page fun e => e.setAbsent.setSlot slot)
          o.pid o.page = slot := by
        intro slot
        rw [slotOf_modifyEntry, if_pos ⟨rfl, rfl⟩, found]
        rfl
      have others : ∀ slot p q, (p, q) ≠ (o.pid, o.page) →
          slotOf (modifyEntry s o.pid o.page fun e => e.setAbsent.setSlot slot) p q = slotOf s p q := by
        intro slot p q other
        rw [slotOf_modifyEntry, if_neg]
        rintro ⟨rfl, rfl⟩
        exact other rfl
      -- the save queued names the slot the page keeps afterwards
      have covered : ∀ slot, ∀ op ∈ [(⟨o.pid, o.page, v, .save (mm.memory.frame v) slot⟩ :
          DiskOperation)], ∀ data n, op.kind = .save data (some n) →
            slotOf (modifyEntry s o.pid o.page fun e => e.setAbsent.setSlot slot) op.pid op.page =
              some n := by
        intro slot op mem data n save
        rw [List.mem_singleton] at mem
        subst mem
        cases save
        exact here _
      cases slot : e.slot with
      | some n =>
        -- the page keeps its slot
        have same : slotOf (modifyEntry s o.pid o.page fun e => e.setAbsent.setSlot (some n)) =
            slotOf s := by
          funext p q
          by_cases at_page : (p, q) = (o.pid, o.page)
          · simp only [Prod.mk.injEq] at at_page
            rw [at_page.1, at_page.2, here, slotOf, found, Option.bind_some, slot]
          · exact others _ p q at_page
        refine ⟨fun agree => agree.congr rfl rfl same, fun p q m kept => by rw [same]; exact kept,
          _, rfl, covered _⟩
      | none =>
        cases reserved : mm.swap.reserve with
        | mk slot swap =>
          cases slot with
          | none =>
            have unchanged : swap = mm.swap := by
              have := SwapDisk.reserve_none (d := mm.swap) (by rw [reserved])
              rwa [reserved] at this
            subst unchanged
            have same : slotOf (modifyEntry s o.pid o.page fun e => e.setAbsent.setSlot none) =
                slotOf s := by
              funext p q
              by_cases at_page : (p, q) = (o.pid, o.page)
              · simp only [Prod.mk.injEq] at at_page
                rw [at_page.1, at_page.2, here, slotOf, found, Option.bind_some, slot]
              · exact others _ p q at_page
            refine ⟨fun agree => agree.congr rfl rfl same, fun p q m kept => by
              rw [same]; exact kept, _, rfl, covered _⟩
          | some n =>
            have had : slotOf s o.pid o.page = none := by
              rw [slotOf, found, Option.bind_some, slot]
            refine ⟨fun agree => agree.claim had reserved (here _) (others _), ?_, _, rfl,
              covered _⟩
            intro p q m kept
            by_cases at_page : (p, q) = (o.pid, o.page)
            · simp only [Prod.mk.injEq] at at_page
              rw [at_page.1, at_page.2, had] at kept
              cases kept
            · rw [others _ p q at_page]
              exact kept

/-- Starting a load may evict a page, and queues the load, which saves nothing. -/
theorem slotsKept_startLoad (mm : MemoryManager) (s : Scheduler) (pid vpn : Nat) :
    SlotsKept mm s (mm.startLoad s pid vpn).2.1 (mm.startLoad s pid vpn).2.2 := by
  unfold startLoad
  simp only []
  split
  · exact .refl mm s
  · rename_i f mm' s' found
    have first : SlotsKept mm s mm' s' := by
      split at found
      · cases found
        exact .of_eq rfl rfl rfl
      · split at found
        · cases found
        · cases found
          exact (slotsKept_evict mm s _).trans (.of_eq rfl rfl rfl)
    have locked : SlotsKept mm s { mm' with frames := mm'.frames.lock f } s' :=
      first.trans (.of_eq rfl rfl rfl)
    split
    · exact locked
    · split
      · exact locked
      · exact locked.trans (.submit_load _ (fun _ _ loaded => by cases loaded) rfl rfl
          (slotOf_modifyEntry_of_keeps _ _ _ fun _ => rfl))

/-- A translation touches a present page or starts a load. -/
theorem slotsKept_translate (mm : MemoryManager) (s : Scheduler) (pid : Nat) (va : Int32)
    (write : Bool) : SlotsKept mm s (mm.translate s pid va write).2.1 (mm.translate s pid va write).2.2 := by
  unfold translate
  split
  · exact .refl mm s
  · dsimp only
    split
    · exact .of_eq rfl rfl rfl
    · split
      · exact .of_eq rfl rfl (slotOf_modifyEntry_of_keeps _ _ _ fun _ => rfl)
      · split
        · exact .of_eq rfl rfl rfl
        · have started := slotsKept_startLoad mm.tick.2 s pid (va.toInt.toNat / mm.pageSize)
          have ticked : SlotsKept mm s mm.tick.2 s := .of_eq rfl rfl rfl
          split
          all_goals
            rename_i result
            rw [result] at started
            exact ticked.trans started

/-- Putting back a control block whose pages keep the slots they had changes no slot. -/
theorem slotOf_insert_of_keeps {cb cb' : ControlBlock} (found : s.get? cb'.pid = some cb)
    (keeps : ∀ q, (cb'.pageTable.get? q).bind PageEntry.slot = (cb.pageTable.get? q).bind PageEntry.slot) :
    slotOf (s.insert cb') = slotOf s := by
  funext p q
  rw [slotOf_insert]
  split
  · rename_i same
    rw [keeps, slotOf, entry?, ← same, found]
    rfl
  · rfl

/-- Changing one entry without touching its slot keeps the slots of the table. -/
theorem slot_get?_modify (t : PageTable) (vpn q : Nat) {g : PageEntry → PageEntry}
    (keeps : ∀ e, (g e).slot = e.slot) :
    ((t.modify vpn g).get? q).bind PageEntry.slot = (t.get? q).bind PageEntry.slot := by
  rw [PageTable.get?_modify]
  split
  · cases t.get? q with
    | none => rfl
    | some e => exact keeps e
  · rfl

/-- A completed load, stale or not, installs a page and changes no slot. -/
theorem slotsKept_completeLoad (wf : s.TableWF) (mm : MemoryManager) (pid page frame : Nat)
    (data : List Word) :
    SlotsKept mm s (mm.completeLoad s pid page frame data).2.1
      (mm.completeLoad s pid page frame data).2.2 := by
  unfold completeLoad
  split
  · exact .refl mm s
  · dsimp only
    split
    · exact .of_eq rfl rfl rfl
    · rename_i cb found
      have keyed := wf.pid_eq found
      split
      · exact .of_eq rfl rfl rfl
      · -- the page arrives, and may take the console value waiting for it: no slot moves
        have installed : ∀ {cb' : ControlBlock}, cb'.pid = cb.pid →
            (∀ q, (cb'.pageTable.get? q).bind PageEntry.slot =
              (cb.pageTable.get? q).bind PageEntry.slot) →
            slotOf (s.insert cb') = slotOf s :=
          fun same keeps => slotOf_insert_of_keeps (by rw [same, keyed]; exact found) keeps
        split
        · split
          · refine .of_eq rfl rfl (installed rfl fun q => ?_)
            rw [slot_get?_modify, slot_get?_modify] <;> exact fun _ => rfl
          · refine .of_eq rfl rfl (installed rfl fun q => ?_)
            rw [slot_get?_modify]
            exact fun _ => rfl
        · refine .of_eq rfl rfl (installed rfl fun q => ?_)
          rw [slot_get?_modify]
          exact fun _ => rfl

/-- A completed save of a page that keeps a slot, or of a process that is gone, changes
nothing. -/
theorem completeSave_of_kept {pid page : Nat}
    (kept : s.contains pid = false ∨ ∃ n, slotOf s pid page = some n) (slot : Nat) :
    completeSave s pid page slot = s := by
  unfold completeSave
  split
  · rename_i e found
    have held : e.slot.isSome := by
      rcases kept with gone | ⟨n, kept⟩
      · have missing : s.get? pid = none := by simpa [contains_eq_isSome] using gone
        simp [missing, entry?] at found
      · rw [slotOf, found, Option.bind_some] at kept
        simp [kept]
    rw [if_neg (by simp [← Option.not_isSome, held])]
  · rfl

/-- Bringing in the first page of a new process changes no slot, and neither the disk nor the
queue. -/
theorem loadInitial_slots (mm : MemoryManager) (cb : ControlBlock) :
    (mm.loadInitial cb).2.1.swap = mm.swap ∧ (mm.loadInitial cb).2.1.queue = mm.queue ∧
      ∀ q, ((mm.loadInitial cb).2.2.pageTable.get? q).bind PageEntry.slot =
        (cb.pageTable.get? q).bind PageEntry.slot := by
  unfold loadInitial
  split
  · exact ⟨rfl, rfl, fun _ => rfl⟩
  · dsimp only
    split
    · refine ⟨rfl, rfl, fun q => ?_⟩
      rw [slot_get?_modify]
      exact fun _ => rfl
    · exact ⟨rfl, rfl, fun _ => rfl⟩

/-- The slots a table lists are those its pages keep. -/
theorem mem_slots (t : PageTable) (n : Nat) :
    n ∈ t.slots ↔ ∃ q, (t.get? q).bind PageEntry.slot = some n := by
  rw [PageTable.slots, List.mem_filterMap]
  constructor
  · rintro ⟨e, mem, kept⟩
    obtain ⟨q, found⟩ := List.mem_iff_getElem?.1 mem
    refine ⟨q, ?_⟩
    rw [PageTable.get?, ← Array.getElem?_toList, found]
    exact kept
  · rintro ⟨q, kept⟩
    obtain ⟨e, found, kept⟩ := Option.bind_eq_some_iff.1 kept
    refine ⟨e, List.mem_iff_getElem?.2 ⟨q, ?_⟩, kept⟩
    rw [Array.getElem?_toList]
    exact found


/-- A page that keeps a slot belongs to a live process. -/
theorem contains_of_slotOf {s : Scheduler} {p q n : Nat} (kept : slotOf s p q = some n) :
    s.contains p = true := by
  unfold slotOf entry? at kept
  cases found : s.get? p with
  | none => simp [found] at kept
  | some cb => exact contains_of_get? found

/-- A completion reports a save into slot `n` only for an operation that saves into slot `n`. -/
theorem perform_saved {disk : SwapDisk} {op : DiskOperation} {n : Nat}
    (saved : (disk.perform op).1.result = .saved n) : ∃ data, op.kind = .save data (some n) := by
  unfold SwapDisk.perform SwapDisk.perform? at saved
  rcases op with ⟨pid, page, frame, kind⟩
  cases kind with
  | save data slot =>
    refine ⟨data, ?_⟩
    cases slot with
    | none => simp [SwapDisk.save] at saved
    | some m =>
      simp only [SwapDisk.save] at saved
      split at saved
      · simp at saved
        rw [saved]
      · simp at saved
  | load source =>
    cases loaded : disk.load page source <;> simp [loaded] at saved


end MemoryManager

end PagedMachine
