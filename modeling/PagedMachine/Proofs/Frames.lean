import PagedMachine.Proofs.Separation
import PagedMachine.Proofs.FrameTable

/-!
# Frames and page tables

Every physical frame is free, or holds one page of one live process: the page is present in the
frame, or a load into the frame is in flight and the frame is locked until it completes. Every
present page is in a frame it owns, and every page with a load in flight owns exactly one frame.
`FramesAgree` states this of a frame table and of where each page is (`residency`), which is all
the agreement reads of the page tables.

Each paging operation keeps the agreement, stale completions included, and five lemmas say
how the frame table and the pages may change together: `bind` a frame to a page, `unbind` it,
`release` a process, let a process `join`, or change only what the agreement does not read
(`congr`). Eviction is an `unbind` followed by a `bind`, seen through owners and locks.
-/

namespace PagedMachine

namespace MemoryManager

open Scheduler

variable {s : Scheduler}

/-- Where each page of each process is: its frame while present, and whether a load for it is
in flight; none for a page the process lacks or a pid that is not live. -/
def residency (s : Scheduler) (pid page : Nat) : Option (Option Nat × Bool) :=
  Option.map (fun e => (e.frame, e.loading)) <| entry? s pid page

/-- Scheduling changes no page table, so no page moves. -/
theorem residency_of_sameOn {s' : Scheduler} (same : SameOn ControlBlock.pageTable s s') :
    residency s' = residency s := by
  funext pid page
  have tables := same pid
  have through : ∀ o : Option ControlBlock, o.bind (fun cb => cb.pageTable.get? page) =
      (o.map ControlBlock.pageTable).bind (fun pt => pt.get? page) := by
    intro o
    cases o <;> rfl
  unfold residency entry?
  rw [through, through, tables]

/-- Changing one entry moves that page alone. -/
theorem residency_modifyEntry (pid vpn : Nat) (g : PageEntry → PageEntry) (p q : Nat) :
    residency (modifyEntry s pid vpn g) p q =
      if pid = p ∧ vpn = q then Option.map (fun e => ((g e).frame, (g e).loading)) <| entry? s p q
      else residency s p q := by
  unfold residency entry? modifyEntry
  rw [get?_modify]
  by_cases samePid : pid = p
  · subst samePid
    cases found : s.get? pid with
    | none => simp
    | some cb =>
      by_cases samePage : vpn = q
      · simp [samePage, Function.comp_def]
      · simp [samePage]
  · simp [samePid]

/-- Putting back a control block places its pages and no others. -/
theorem residency_insert (cb : ControlBlock) (p q : Nat) :
    residency (s.insert cb) p q =
      if cb.pid = p then (cb.pageTable.get? q).map fun e => (e.frame, e.loading)
      else residency s p q := by
  unfold residency entry?
  rw [get?_insert]
  split <;> simp

/-- Removing a process takes its pages away and no others. -/
theorem residency_removeProcess (pid : Nat) (cause : Cause) (p q : Nat) :
    residency (s.removeProcess pid cause).2 p q = if pid = p then none else residency s p q := by
  unfold residency entry?
  rw [get?_removeProcess]
  split <;> simp


/-- Frames and page tables agree. `t` is the frame table and `r` where each page is
(`residency`). A locked frame has an owner; the page an owned frame holds exists, and is
either present in that frame, which is then unlocked, or absent with a load in flight into the
frame, which is then locked; the frame of a present page is owned by that page, and a present
page has no load in flight; a page with a load in flight owns a frame; and no page owns two
frames. -/
structure FramesAgree (t : FrameTable) (r : Nat → Nat → Option (Option Nat × Bool)) : Prop where
  locked_owned : ∀ f, t.isLocked f = true → (t.owner f).isSome
  owner_resident : ∀ f o, t.owner f = some o →
    r o.pid o.page = some (some f, false) ∧ t.isLocked f = false ∨
      r o.pid o.page = some (none, true) ∧ t.isLocked f = true
  present_owned : ∀ pid page f loading, r pid page = some (some f, loading) →
    t.owner f = some ⟨pid, page⟩ ∧ loading = false
  loading_owns : ∀ pid page, r pid page = some (none, true) → ∃ f, t.owner f = some ⟨pid, page⟩
  owner_unique : ∀ f f' o, t.owner f = some o → t.owner f' = some o → f = f'

variable {t t' : FrameTable} {r r' : Nat → Nat → Option (Option Nat × Bool)}

/-- The agreement reads the frame table only through owners and locks. -/
theorem FramesAgree.congr (agree : FramesAgree t r) (owner : ∀ f, t'.owner f = t.owner f)
    (locked : ∀ f, t'.isLocked f = t.isLocked f) : FramesAgree t' r := by
  refine ⟨?_, ?_, ?_, ?_, ?_⟩
  · intro f isLocked
    rw [owner]
    exact agree.locked_owned f (by rwa [← locked])
  · intro f o owned
    rw [locked]
    exact agree.owner_resident f o (by rwa [← owner])
  · intro pid page f loading present
    rw [owner]
    exact agree.present_owned pid page f loading present
  · intro pid page loading
    obtain ⟨f, owned⟩ := agree.loading_owns pid page loading
    exact ⟨f, by rwa [owner]⟩
  · intro f f' o owned owned'
    exact agree.owner_unique f f' o (by rwa [← owner]) (by rwa [← owner])

/-- A page that is absent with no load in flight owns no frame. -/
theorem FramesAgree.owns_nothing (agree : FramesAgree t r) {pid page : Nat}
    (idle : r pid page = some (none, false)) (f : Nat) : t.owner f ≠ some ⟨pid, page⟩ := by
  intro owned
  rcases agree.owner_resident f _ owned with ⟨present, _⟩ | ⟨loading, _⟩
  · rw [idle] at present
    cases present
  · rw [idle] at loading
    cases loading

/-- Binding frame `f` to page `(pid, page)`: `f` was free or already that page's, and the page
owned no other frame. Afterwards `f` belongs to the page, locked or not, the page is present in
`f` or has a load in flight into it, and no other frame or page changed. -/
theorem FramesAgree.bind (agree : FramesAgree t r) {pid page f : Nat}
    {place : Option Nat × Bool}
    (before : t.owner f = none ∨ t.owner f = some ⟨pid, page⟩)
    (only : ∀ g, t.owner g = some ⟨pid, page⟩ → g = f)
    (owner_f : t'.owner f = some ⟨pid, page⟩)
    (owner_other : ∀ g, g ≠ f → t'.owner g = t.owner g)
    (locked_other : ∀ g, g ≠ f → t'.isLocked g = t.isLocked g)
    (page_here : r' pid page = some place)
    (agreeing : place = (some f, false) ∧ t'.isLocked f = false ∨
      place = (none, true) ∧ t'.isLocked f = true)
    (page_other : ∀ p q, (p, q) ≠ (pid, page) → r' p q = r p q) : FramesAgree t' r' := by
  -- a frame other than `f` that some page owned before belongs to a page other than this one
  have elsewhere : ∀ g p q, t.owner g = some ⟨p, q⟩ → (p, q) ≠ (pid, page) → g ≠ f := by
    intro g p q owned other same
    subst same
    rcases before with free | mine
    · rw [free] at owned
      cases owned
    · rw [mine] at owned
      cases owned
      exact other rfl
  refine ⟨?_, ?_, ?_, ?_, ?_⟩
  · intro g isLocked
    by_cases same : g = f
    · subst same
      rw [owner_f]
      rfl
    · rw [owner_other g same]
      exact agree.locked_owned g (by rwa [← locked_other g same])
  · intro g o owned
    by_cases same : g = f
    · subst same
      rw [owner_f] at owned
      cases owned
      rw [page_here]
      rcases agreeing with ⟨rfl, unlocked⟩ | ⟨rfl, locked⟩
      · exact .inl ⟨rfl, unlocked⟩
      · exact .inr ⟨rfl, locked⟩
    · rw [owner_other g same] at owned
      have other : (o.pid, o.page) ≠ (pid, page) := by
        intro mine
        simp only [Prod.mk.injEq] at mine
        exact same (only g (by rw [owned, ← mine.1, ← mine.2]))
      rw [page_other _ _ other, locked_other g same]
      exact agree.owner_resident g o owned
  · intro p q g loading present
    by_cases here : (p, q) = (pid, page)
    · simp only [Prod.mk.injEq] at here
      obtain ⟨rfl, rfl⟩ := here
      rw [page_here] at present
      cases present
      rcases agreeing with ⟨same, _⟩ | ⟨absent, _⟩
      · cases same
        exact ⟨owner_f, rfl⟩
      · cases absent
    · rw [page_other p q here] at present
      obtain ⟨owned, idle⟩ := agree.present_owned p q g loading present
      rw [owner_other g (elsewhere g p q owned here)]
      exact ⟨owned, idle⟩
  · intro p q loading
    by_cases here : (p, q) = (pid, page)
    · simp only [Prod.mk.injEq] at here
      obtain ⟨rfl, rfl⟩ := here
      exact ⟨f, owner_f⟩
    · rw [page_other p q here] at loading
      obtain ⟨g, owned⟩ := agree.loading_owns p q loading
      exact ⟨g, by rw [owner_other g (elsewhere g p q owned here)]; exact owned⟩
  · intro g g' o owned owned'
    by_cases same : g = f
    · by_cases same' : g' = f
      · rw [same, same']
      · rw [same, owner_f] at owned
        rw [owner_other g' same', ← owned] at owned'
        exact absurd (only g' owned') same'
    · by_cases same' : g' = f
      · rw [same', owner_f] at owned'
        rw [owner_other g same, ← owned'] at owned
        exact absurd (only g owned) same
      · rw [owner_other g same] at owned
        rw [owner_other g' same'] at owned'
        exact agree.owner_unique g g' o owned owned'

/-- Unbinding frame `v` from the page `(pid, page)` that owned it: afterwards `v` is free and
unlocked, the page is absent with no load in flight, and no other frame or page changed. -/
theorem FramesAgree.unbind (agree : FramesAgree t r) {pid page v : Nat}
    (owned_v : t.owner v = some ⟨pid, page⟩) (free_v : t'.owner v = none)
    (unlocked_v : t'.isLocked v = false)
    (owner_other : ∀ g, g ≠ v → t'.owner g = t.owner g)
    (locked_other : ∀ g, g ≠ v → t'.isLocked g = t.isLocked g)
    (page_here : r' pid page = some (none, false))
    (page_other : ∀ p q, (p, q) ≠ (pid, page) → r' p q = r p q) : FramesAgree t' r' := by
  -- every frame another page owns is not `v`
  have elsewhere : ∀ g p q, t.owner g = some ⟨p, q⟩ → (p, q) ≠ (pid, page) → g ≠ v := by
    intro g p q owned other same
    subst same
    rw [owned_v] at owned
    cases owned
    exact other rfl
  refine ⟨?_, ?_, ?_, ?_, ?_⟩
  · intro g isLocked
    by_cases same : g = v
    · subst same
      rw [unlocked_v] at isLocked
      cases isLocked
    · rw [owner_other g same]
      exact agree.locked_owned g (by rwa [← locked_other g same])
  · intro g o owned
    by_cases same : g = v
    · subst same
      rw [free_v] at owned
      cases owned
    · rw [owner_other g same] at owned
      have other : (o.pid, o.page) ≠ (pid, page) := by
        intro mine
        simp only [Prod.mk.injEq] at mine
        apply same
        apply agree.owner_unique g v o owned
        rw [owned_v, ← mine.1, ← mine.2]
      rw [page_other _ _ other, locked_other g same]
      exact agree.owner_resident g o owned
  · intro p q g loading present
    by_cases here : (p, q) = (pid, page)
    · simp only [Prod.mk.injEq] at here
      obtain ⟨rfl, rfl⟩ := here
      rw [page_here] at present
      cases present
    · rw [page_other p q here] at present
      obtain ⟨owned, idle⟩ := agree.present_owned p q g loading present
      rw [owner_other g (elsewhere g p q owned here)]
      exact ⟨owned, idle⟩
  · intro p q loading
    by_cases here : (p, q) = (pid, page)
    · simp only [Prod.mk.injEq] at here
      obtain ⟨rfl, rfl⟩ := here
      rw [page_here] at loading
      cases loading
    · rw [page_other p q here] at loading
      obtain ⟨g, owned⟩ := agree.loading_owns p q loading
      exact ⟨g, by rw [owner_other g (elsewhere g p q owned here)]; exact owned⟩
  · intro g g' o owned owned'
    have notV : ∀ g, t'.owner g = some o → g ≠ v := by
      intro g owned same
      subst same
      rw [free_v] at owned
      cases owned
    rw [owner_other g (notV g owned)] at owned
    rw [owner_other g' (notV g' owned')] at owned'
    exact agree.owner_unique g g' o owned owned'

/-- A process that ends takes its pages with it and frees every frame it owned. -/
theorem FramesAgree.release (agree : FramesAgree t r) (pid : Nat)
    (owner_after : ∀ g, t'.owner g = if (t.owner g).any (·.pid == pid) then none else t.owner g)
    (locked_after : ∀ g, t'.isLocked g = if (t.owner g).any (·.pid == pid) then false else t.isLocked g)
    (pages : ∀ p q, r' p q = if pid = p then none else r p q) : FramesAgree t' r' := by
  -- after the release, an owned frame belongs to another process and is as it was
  have kept : ∀ g o, t'.owner g = some o → o.pid ≠ pid ∧ t.owner g = some o ∧
      t'.isLocked g = t.isLocked g := by
    intro g o owned
    rw [owner_after] at owned
    split at owned
    · cases owned
    · rename_i other
      rw [owned] at other
      simp only [Option.any_some, beq_iff_eq] at other
      refine ⟨other, owned, ?_⟩
      rw [locked_after, owned]
      simp [other]
  refine ⟨?_, ?_, ?_, ?_, ?_⟩
  · intro g isLocked
    rw [locked_after] at isLocked
    rw [owner_after]
    split
    · rw [if_pos ‹_›] at isLocked
      cases isLocked
    · rw [if_neg ‹_›] at isLocked
      exact agree.locked_owned g isLocked
  · intro g o owned
    obtain ⟨other, owned, locked⟩ := kept g o owned
    rw [pages, if_neg (Ne.symm other), locked]
    exact agree.owner_resident g o owned
  · intro p q g loading present
    rw [pages] at present
    split at present
    · cases present
    · rename_i other
      obtain ⟨owned, idle⟩ := agree.present_owned p q g loading present
      refine ⟨?_, idle⟩
      rw [owner_after, owned]
      simp [Ne.symm other]
  · intro p q loading
    rw [pages] at loading
    split at loading
    · cases loading
    · rename_i other
      obtain ⟨g, owned⟩ := agree.loading_owns p q loading
      refine ⟨g, ?_⟩
      rw [owner_after, owned]
      simp [Ne.symm other]
  · intro g g' o owned owned'
    exact agree.owner_unique g g' o (kept g o owned).2.1 (kept g' o owned').2.1

/-- A process that joins with every page absent and no load in flight, under a pid that has no
pages yet, changes nothing. -/
theorem FramesAgree.join (agree : FramesAgree t r) (pid : Nat) (fresh : ∀ q, r pid q = none)
    (idle : ∀ q place, r' pid q = some place → place = (none, false))
    (others : ∀ p q, p ≠ pid → r' p q = r p q) : FramesAgree t r' := by
  -- no frame is owned by a page of the new process
  have notNew : ∀ g o, t.owner g = some o → o.pid ≠ pid := by
    intro g o owned same
    rcases agree.owner_resident g o owned with ⟨present, _⟩ | ⟨loading, _⟩
    · rw [same, fresh] at present
      cases present
    · rw [same, fresh] at loading
      cases loading
  refine ⟨agree.locked_owned, ?_, ?_, ?_, agree.owner_unique⟩
  · intro g o owned
    rw [others _ _ (notNew g o owned)]
    exact agree.owner_resident g o owned
  · intro p q g loading present
    by_cases same : p = pid
    · subst same
      cases idle q _ present
    · rw [others p q same] at present
      exact agree.present_owned p q g loading present
  · intro p q loading
    by_cases same : p = pid
    · subst same
      cases idle q _ loading
    · rw [others p q same] at loading
      exact agree.loading_owns p q loading

/-- Changing entries in what the agreement does not read keeps where every page is. -/
theorem residency_modifyEntry_of_keeps (pid vpn : Nat) (g : PageEntry → PageEntry)
    (keeps : ∀ e, (g e).frame = e.frame ∧ (g e).loading = e.loading) :
    residency (modifyEntry s pid vpn g) = residency s := by
  funext p q
  rw [residency_modifyEntry]
  split
  · simp only [residency, keeps]
  · rfl

/-- A page that is absent with no load in flight gets a load into a free frame, which is locked
until the load completes. -/
theorem FramesAgree.claim (agree : FramesAgree t (residency s)) {pid vpn f : Nat}
    (inside : f < t.size) (free : t.owner f = none)
    (idle : residency s pid vpn = some (none, false)) :
    FramesAgree ((t.assign f ⟨pid, vpn⟩).lock f)
      (residency (modifyEntry s pid vpn PageEntry.setLoading)) := by
  have absent : ∃ e, entry? s pid vpn = some e ∧ e.frame = none := by
    unfold residency at idle
    obtain ⟨e, found, view⟩ := Option.map_eq_some_iff.1 idle
    simp only [Prod.mk.injEq] at view
    exact ⟨e, found, view.1⟩
  obtain ⟨e, found, noFrame⟩ := absent
  apply agree.bind (.inl free) (fun g owned => absurd owned (agree.owns_nothing idle g))
  · rw [FrameTable.owner_lock, FrameTable.owner_assign _ _ _ _ inside, if_pos rfl]
  · intro g other
    rw [FrameTable.owner_lock, FrameTable.owner_assign _ _ _ _ inside, if_neg (Ne.symm other)]
  · intro g other
    rw [FrameTable.isLocked_lock _ (by simpa using inside), if_neg (Ne.symm other),
      FrameTable.isLocked_assign]
  · rw [residency_modifyEntry, if_pos ⟨rfl, rfl⟩, found]
    rfl
  · refine .inr ⟨?_, ?_⟩
    · simp [PageEntry.setLoading, noFrame]
    · rw [FrameTable.isLocked_lock _ (by simpa using inside), if_pos rfl]
  · intro p q other
    rw [residency_modifyEntry, if_neg]
    intro same
    exact other (by rw [same.1, same.2])

/-- The victim of an eviction holds a page present in it. -/
theorem FramesAgree.victim_present (agree : FramesAgree t r) {v : Nat}
    (victim : t.selectVictim = some v) :
    ∃ o, t.owner v = some o ∧ r o.pid o.page = some (some v, false) := by
  obtain ⟨bound, unlocked⟩ := FrameTable.selectVictim_spec _ victim
  obtain ⟨o, owned⟩ := Option.isSome_iff_exists.1 bound
  refine ⟨o, owned, ?_⟩
  rcases agree.owner_resident v o owned with ⟨present, _⟩ | ⟨_, locked⟩
  · exact present
  · rw [unlocked] at locked
    cases locked

/-- Evicting the victim takes its frame from the page present in it, which becomes absent with
no load in flight, and locks the frame. Seen through owners and locks, the victim is as if
freed. -/
theorem FramesAgree.evict {mm : MemoryManager} (agree : FramesAgree mm.frames (residency s))
    {v : Nat} (victim : mm.frames.selectVictim = some v) :
    (mm.evict s v).1.frames = mm.frames.lock v ∧ ∃ o, mm.frames.owner v = some o ∧
      FramesAgree (mm.frames.deallocate v) (residency (mm.evict s v).2) ∧
      ∀ p q, (p, q) ≠ (o.pid, o.page) → residency (mm.evict s v).2 p q = residency s p q := by
  obtain ⟨o, owned, present⟩ := agree.victim_present victim
  obtain ⟨e, found, view⟩ := Option.map_eq_some_iff.1 present
  simp only [Prod.mk.injEq] at view
  have shape : (mm.evict s v).1.frames = mm.frames.lock v ∧ ∃ slot,
      (mm.evict s v).2 = modifyEntry s o.pid o.page fun e => e.setAbsent.setSlot slot := by
    unfold MemoryManager.evict
    simp only [owned, found]
    exact ⟨rfl, _, rfl⟩
  obtain ⟨frames, slot, evicted⟩ := shape
  rw [evicted]
  -- the victim's page now reads absent, with the flag it had: no load in flight
  have others : ∀ p q, (p, q) ≠ (o.pid, o.page) →
      residency (modifyEntry s o.pid o.page fun e => e.setAbsent.setSlot slot) p q =
        residency s p q := by
    intro p q other
    rw [residency_modifyEntry, if_neg]
    intro same
    exact other (by rw [same.1, same.2])
  refine ⟨frames, o, owned, ?_, others⟩
  apply agree.unbind owned
  · rw [FrameTable.owner_deallocate, if_pos rfl]
  · rw [FrameTable.isLocked_deallocate, if_pos rfl]
  · intro g other
    rw [FrameTable.owner_deallocate, if_neg (Ne.symm other)]
  · intro g other
    rw [FrameTable.isLocked_deallocate, if_neg (Ne.symm other)]
  · rw [residency_modifyEntry, if_pos ⟨rfl, rfl⟩, found]
    simp [PageEntry.setAbsent, PageEntry.setSlot, view.2]
  · exact others

/-- Starting the load of a page that is absent with no load in flight keeps frames and page
tables agreeing: the frame found for it, free or the victim just evicted, is bound to it and
locked, and the page waits for its load. -/
theorem FramesAgree.startLoad {mm : MemoryManager} (agree : FramesAgree mm.frames (residency s))
    {pid vpn : Nat} (idle : residency s pid vpn = some (none, false)) :
    FramesAgree (mm.startLoad s pid vpn).2.1.frames (residency (mm.startLoad s pid vpn).2.2) := by
  unfold MemoryManager.startLoad
  simp only []
  split
  · exact agree
  · rename_i f mm₁ s₁ found
    -- the frame found: free, or the victim freed by its eviction
    obtain ⟨t₀, agree₀, inside, free, idle₁, owners, locks⟩ : ∃ t₀,
        FramesAgree t₀ (residency s₁) ∧ f < t₀.size ∧ t₀.owner f = none ∧
        residency s₁ pid vpn = some (none, false) ∧
        (∀ g, (mm₁.frames.lock f).owner g = ((t₀.assign f ⟨pid, vpn⟩).lock f).owner g) ∧
        (∀ g, (mm₁.frames.lock f).isLocked g = ((t₀.assign f ⟨pid, vpn⟩).lock f).isLocked g) := by
      split at found
      · rename_i f' frames allocated
        cases found
        obtain ⟨firstFree, rfl⟩ := FrameTable.allocate_some _ allocated
        obtain ⟨inside, free, _⟩ := FrameTable.firstFree_spec _ firstFree
        exact ⟨mm.frames, agree, inside, free, idle, fun _ => rfl, fun _ => rfl⟩
      · split at found
        · cases found
        · rename_i v victim
          simp only [Option.some.injEq, Prod.mk.injEq] at found
          obtain ⟨rfl, rfl, rfl⟩ := found
          obtain ⟨frames, o, owned, agree₀, others⟩ := agree.evict victim
          have inside : v < mm.frames.size := FrameTable.lt_size_of_owner _ owned
          have notVictim : (pid, vpn) ≠ (o.pid, o.page) := by
            intro same
            simp only [Prod.mk.injEq] at same
            apply agree.owns_nothing idle v
            rw [owned, same.1, same.2]
          refine ⟨mm.frames.deallocate v, agree₀, by simpa using inside, ?_, ?_, ?_, ?_⟩
          · rw [FrameTable.owner_deallocate, if_pos rfl]
          · rw [others pid vpn notVictim]
            exact idle
          · intro g
            rw [frames, FrameTable.owner_lock, FrameTable.owner_lock,
              FrameTable.owner_assign _ _ _ _ (by simpa using inside),
              FrameTable.owner_assign _ _ _ _ (by simpa using inside)]
            split
            · rfl
            · rename_i other
              rw [FrameTable.owner_lock, FrameTable.owner_deallocate, if_neg other]
          · intro g
            rw [frames, FrameTable.isLocked_lock _ (by simpa using inside),
              FrameTable.isLocked_lock _ (by simpa using inside)]
            split
            · rfl
            · rename_i other
              rw [FrameTable.isLocked_assign, FrameTable.isLocked_assign,
                FrameTable.isLocked_lock _ inside, FrameTable.isLocked_deallocate, if_neg other,
                if_neg other]
    have claimed := agree₀.claim inside free idle₁
    obtain ⟨e, found₁, _⟩ := Option.map_eq_some_iff.1 idle₁
    obtain ⟨cb, live, page⟩ := Option.bind_eq_some_iff.1 found₁
    simp only [live, page]
    exact claimed.congr owners locks

/-- A translation keeps frames and page tables agreeing: it records an access to a present page,
or starts the load of an absent page with no load in flight. -/
theorem FramesAgree.translate {mm : MemoryManager} (agree : FramesAgree mm.frames (residency s))
    (pid : Nat) (va : Int32) (write : Bool) :
    FramesAgree (mm.translate s pid va write).2.1.frames
      (residency (mm.translate s pid va write).2.2) := by
  unfold MemoryManager.translate
  split
  · exact agree
  · simp only []
    split
    · exact agree
    · rename_i e found
      split
      · dsimp only
        rw [residency_modifyEntry_of_keeps _ _ (fun e => e.touch mm.tick.1 write)
          fun _ => ⟨rfl, rfl⟩]
        exact agree
      · rename_i noFrame
        split
        · exact agree
        · rename_i notLoading
          have idle : residency s pid (va.toInt.toNat / mm.pageSize) = some (none, false) := by
            have loadingFalse : e.loading = false := by simpa using notLoading
            rw [residency, found, Option.map_some, noFrame, loadingFalse]
          have started := @FramesAgree.startLoad s mm.tick.2 agree _ _ idle
          split
          all_goals
            rename_i result
            rw [result] at started
            exact started

/-- A page whose frame it owns arrives in that frame: the frame is unlocked and the control
block put back has the page present there, its other pages as they were. -/
theorem FramesAgree.install (agree : FramesAgree t (residency s))
    {pid page frame : Nat} {cb cb' : ControlBlock} (found : s.get? pid = some cb)
    (owned : t.owner frame = some ⟨pid, page⟩) (keyed : cb'.pid = pid)
    (here : (cb'.pageTable.get? page).map (fun e => (e.frame, e.loading)) =
      some (some frame, false))
    (other : ∀ q, q ≠ page → (cb'.pageTable.get? q).map (fun e => (e.frame, e.loading)) =
      (cb.pageTable.get? q).map (fun e => (e.frame, e.loading))) :
    FramesAgree (t.unlock frame) (residency (s.insert cb')) := by
  apply agree.bind (.inr owned) (fun g mine => agree.owner_unique g frame _ mine owned)
  · rw [FrameTable.owner_unlock, owned]
  · intro g _
    rw [FrameTable.owner_unlock]
  · intro g different
    rw [FrameTable.isLocked_unlock, if_neg (Ne.symm different)]
  · rw [residency_insert, if_pos keyed]
    exact here
  · refine .inl ⟨rfl, ?_⟩
    rw [FrameTable.isLocked_unlock, if_pos rfl]
  · intro p q different
    rw [residency_insert]
    split
    · rename_i samePid
      have otherPage : q ≠ page := by
        intro samePage
        exact different (by rw [← samePid, keyed, samePage])
      rw [other q otherPage, residency, entry?, ← samePid, keyed, found]
      rfl
    · rfl

/-- A completed load, stale or not, keeps frames and page tables agreeing: it is ignored unless
the frame still belongs to the page, and then the page is present in it. -/
theorem FramesAgree.completeLoad {mm : MemoryManager} (agree : FramesAgree mm.frames (residency s))
    (wf : s.TableWF) (pid page frame : Nat) (data : List Word) :
    FramesAgree (mm.completeLoad s pid page frame data).2.1.frames
      (residency (mm.completeLoad s pid page frame data).2.2) := by
  unfold MemoryManager.completeLoad
  split
  · exact agree
  · rename_i guard
    have owned : mm.frames.owner frame = some ⟨pid, page⟩ := by simpa using guard
    simp only []
    split
    · exact agree
    · rename_i cb found
      have keyed : cb.pid = pid := wf.pid_eq found
      split
      · exact agree
      · rename_i e entry
        have arrived : (((cb.pageTable.modify page fun x => x.setPresent frame mm.tick.1).get?
            page).map fun e => (e.frame, e.loading)) = some (some frame, false) := by
          simp [entry, PageEntry.setPresent]
        split
        · split
          · dsimp only
            refine agree.install found owned keyed ?_ ?_
            · simp [entry, PageEntry.setPresent, PageEntry.touch]
            · intro q different
              simp [Ne.symm different]
          · dsimp only
            refine agree.install found owned keyed arrived ?_
            intro q different
            simp [Ne.symm different]
        · dsimp only
          refine agree.install found owned keyed arrived ?_
          intro q different
          simp [Ne.symm different]

/-- A completed save changes only where a page is kept on disk. -/
theorem residency_completeSave (pid page slot : Nat) :
    residency (completeSave s pid page slot) = residency s := by
  unfold completeSave
  split
  · split
    · exact residency_modifyEntry_of_keeps _ _ _ fun _ => ⟨rfl, rfl⟩
    · rfl
  · rfl

/-- A new process under a pid with no pages yet, all of its pages absent with no load in flight,
joins with its first page brought into a free frame when there is one. -/
theorem FramesAgree.loadInitial {mm : MemoryManager} (agree : FramesAgree mm.frames (residency s))
    {cb : ControlBlock} (fresh : s.get? cb.pid = none)
    (blank : ∀ q e, cb.pageTable.get? q = some e → e.frame = none ∧ e.loading = false) :
    FramesAgree (mm.loadInitial cb).2.1.frames (residency (s.insert (mm.loadInitial cb).2.2)) := by
  have joined : FramesAgree mm.frames (residency (s.insert cb)) := by
    apply agree.join cb.pid
    · intro q
      simp [residency, entry?, fresh]
    · intro q place inserted
      rw [residency_insert, if_pos rfl] at inserted
      obtain ⟨e, found, rfl⟩ := Option.map_eq_some_iff.1 inserted
      obtain ⟨noFrame, notLoading⟩ := blank q e found
      rw [noFrame, notLoading]
    · intro p q other
      rw [residency_insert, if_neg (Ne.symm other)]
  unfold MemoryManager.loadInitial
  split
  · exact joined
  · rename_i f frames allocated
    obtain ⟨firstFree, rfl⟩ := FrameTable.allocate_some _ allocated
    obtain ⟨inside, free, unlocked⟩ := FrameTable.firstFree_spec _ firstFree
    simp only [tick]
    split
    · rename_i e first
      have idle : residency (s.insert cb) cb.pid 0 = some (none, false) := by
        obtain ⟨noFrame, notLoading⟩ := blank 0 e first
        rw [residency_insert, if_pos rfl, first, Option.map_some, noFrame, notLoading]
      apply joined.bind (.inl free) (fun g mine => absurd mine (joined.owns_nothing idle g))
      · rw [FrameTable.owner_assign _ _ _ _ inside, if_pos rfl]
      · intro g other
        rw [FrameTable.owner_assign _ _ _ _ inside, if_neg (Ne.symm other)]
      · intro g _
        rw [FrameTable.isLocked_assign]
      · rw [residency_insert, if_pos rfl]
        simp only [PageTable.get?_modify, if_pos, first, Option.map_some, PageEntry.setPresent]
        rfl
      · exact .inl ⟨rfl, by rw [FrameTable.isLocked_assign, unlocked]⟩
      · intro p q other
        rw [residency_insert, residency_insert]
        split
        · rename_i samePid
          have otherPage : q ≠ 0 := by
            intro samePage
            exact other (by rw [← samePid, samePage])
          simp [Ne.symm otherPage]
        · rfl
    · apply joined.congr
      · intro g
        rw [FrameTable.owner_deallocate, FrameTable.owner_assign _ _ _ _ inside]
        split
        · rename_i same
          rw [← same, free]
        · rfl
      · intro g
        rw [FrameTable.isLocked_deallocate, FrameTable.isLocked_assign]
        split
        · rename_i same
          rw [← same, unlocked]
        · rfl

/-- Evicting keeps the number of frames. -/
theorem size_evict (mm : MemoryManager) (v : Nat) :
    (mm.evict s v).1.frames.size = mm.frames.size := by
  unfold MemoryManager.evict
  split
  · rfl
  · dsimp only
    split <;> simp [submit]

/-- Starting a load keeps the number of frames. -/
theorem size_startLoad (mm : MemoryManager) (pid vpn : Nat) :
    (mm.startLoad s pid vpn).2.1.frames.size = mm.frames.size := by
  unfold MemoryManager.startLoad
  simp only []
  split
  · rfl
  · rename_i f mm₁ s₁ found
    have size₁ : mm₁.frames.size = mm.frames.size := by
      split at found
      · rename_i f' frames allocated
        cases found
        obtain ⟨_, rfl⟩ := FrameTable.allocate_some _ allocated
        simp
      · split at found
        · cases found
        · simp only [Option.some.injEq, Prod.mk.injEq] at found
          obtain ⟨rfl, rfl, rfl⟩ := found
          simp [size_evict]
    split
    · simp [size₁]
    · split <;> simp [submit, size₁]

/-- A translation keeps the number of frames. -/
theorem size_translate (mm : MemoryManager) (pid : Nat) (va : Int32) (write : Bool) :
    (mm.translate s pid va write).2.1.frames.size = mm.frames.size := by
  unfold MemoryManager.translate
  split
  · rfl
  · simp only []
    split
    · rfl
    · split
      · rfl
      · split
        · rfl
        · have started := size_startLoad (s := s) mm.tick.2 pid (va.toInt.toNat / mm.pageSize)
          split
          all_goals
            rename_i result
            rw [result] at started
            exact started

/-- A completed load keeps the number of frames. -/
theorem size_completeLoad (mm : MemoryManager) (pid page frame : Nat) (data : List Word) :
    (mm.completeLoad s pid page frame data).2.1.frames.size = mm.frames.size := by
  unfold MemoryManager.completeLoad
  split
  · rfl
  · simp only []
    split
    · rfl
    · split
      · rfl
      · split
        · split <;> simp [tick]
        · simp [tick]

/-- Bringing in the first page of a new process keeps the number of frames. -/
theorem size_loadInitial (mm : MemoryManager) (cb : ControlBlock) :
    (mm.loadInitial cb).2.1.frames.size = mm.frames.size := by
  unfold MemoryManager.loadInitial
  split
  · rfl
  · rename_i f frames allocated
    obtain ⟨_, rfl⟩ := FrameTable.allocate_some _ allocated
    simp only [tick]
    split <;> simp

end MemoryManager

end PagedMachine
