import PagedMachine.Proofs.PageContents

/-!
# The order of outstanding disk operations

The disk carries out operations oldest first, so what a page holds depends on the order in which
its saves and loads wait. `MemoryManager.SavesOrdered` states the order paging keeps among the
operations outstanding: a page in memory has no save waiting; a save waiting for a live page
goes to the slot the page keeps; no save of a page waits behind a load of it; a load waiting
for a live page reads from where the page is kept; a save into a live page's slot made for
another page (one of a process that ended, whose slot was released and handed out again) waits
in front of a save of the page itself; and a console value waiting for a page belongs to a page
that is loading.

Every paging operation keeps this order (`SavesOrdered.translate`, `SavesOrdered.completeLoad`
and their siblings). From it, carrying out the oldest operation keeps the words of every
process (`wordsKept_loadHead`, `wordsKept_saveHead`): a load brings what the page held, and a
save leaves in its slot what the page held.
-/

namespace PagedMachine

namespace SwapDisk

/-- What a load from `src` brings as page `page`: the content of a slot, or the page of an image
cut as the disk cuts it. -/
def fetch (d : SwapDisk) (page : Nat) : LoadSource → List Word
  | .slot n => (d.contents[n]?.bind id).getD []
  | .image w => (imagePage? d.pageSize page w).getD []

/-- A load brings what `fetch` says, and changes neither the slots' contents nor the page size. -/
theorem perform_load (d : SwapDisk) {op : DiskOperation} {src : LoadSource}
    (kind : op.kind = .load src) :
    (d.perform op).1 = ⟨op.pid, op.page, op.frame, .loaded (d.fetch op.page src)⟩ ∧
      (d.perform op).2.contents = d.contents ∧ (d.perform op).2.pageSize = d.pageSize := by
  rcases op with ⟨pid, page, frame, kind'⟩
  simp only at kind
  subst kind
  unfold perform perform? load fetch
  cases src with
  | slot n => simp
  | image w =>
    cases cut : imagePage? d.pageSize page w with
    | none => simp [cut]
    | some data => simp [cut]

end SwapDisk

namespace MemoryManager

open Scheduler

/-- The order paging keeps among outstanding disk operations `ops`, oldest first, for a
scheduler `s` with pages of `ps` words. -/
structure SavesOrdered (ps : Nat) (s : Scheduler) (ops : List DiskOperation) : Prop where
  /-- A page in memory has no save outstanding. -/
  present : ∀ q cb g e, s.get? q = some cb → cb.pageTable.get? g = some e → e.frame.isSome →
    ∀ op ∈ ops, op.savedOf q g = none
  /-- A save outstanding for a live page goes to the slot the page keeps. -/
  slots : ∀ op ∈ ops, ∀ data slot, op.kind = .save data slot → ∀ cb e,
    s.get? op.pid = some cb → cb.pageTable.get? op.page = some e → e.slot = slot
  /-- No save of a page waits behind a load of it. -/
  loadsLast : ops.Pairwise fun op op' => op.isLoad = true → op'.savedOf op.pid op.page = none
  /-- A load outstanding for a live page reads from where the page is kept. -/
  sources : ∀ op ∈ ops, ∀ src, op.kind = .load src → ∀ cb e,
    s.get? op.pid = some cb → cb.pageTable.get? op.page = some e → src = e.source cb.image
  /-- A save into the slot of a live page, made for another page, waits in front of a save of
  the page itself. -/
  stale : ∀ q cb g e n, s.get? q = some cb → cb.pageTable.get? g = some e → e.slot = some n →
    ∀ pre op post, ops = pre ++ op :: post → (∃ data, op.kind = .save data (some n)) →
      (op.pid, op.page) ≠ (q, g) → (latestSave post q g).isSome
  /-- A console value waiting belongs to an address of a page that is loading. -/
  inputs : ∀ q cb va value, s.get? q = some cb → cb.pendingInput = some (va, value) →
    ∃ e, cb.pageTable.get? (va / ps) = some e ∧ e.frame = none ∧ e.loading = true

variable {ps : Nat} {s s' : Scheduler} {ops : List DiskOperation}

/-- The order reads each live process through its image, the console value waiting and where
each page is, so a change that keeps those of every process still live keeps the order. -/
theorem SavesOrdered.of_places (ordered : SavesOrdered ps s ops)
    (kept : ∀ q cb', s'.get? q = some cb' → ∃ cb, s.get? q = some cb ∧ cb'.image = cb.image ∧
      cb'.pendingInput = cb.pendingInput ∧
      ∀ g, (cb'.pageTable.get? g).map PageEntry.place = (cb.pageTable.get? g).map PageEntry.place) :
    SavesOrdered ps s' ops := by
  -- every entry of a live process after is one of the same process before, in the same place
  have back : ∀ q cb' g e', s'.get? q = some cb' → cb'.pageTable.get? g = some e' →
      ∃ cb e, s.get? q = some cb ∧ cb'.image = cb.image ∧ cb.pageTable.get? g = some e ∧
        e'.place = e.place := fun q cb' g e' found' entry' => by
    obtain ⟨cb, found, image, -, places⟩ := kept q cb' found'
    have view := places g
    rw [entry', Option.map_some] at view
    obtain ⟨e, entry, same⟩ := Option.map_eq_some_iff.1 view.symm
    exact ⟨cb, e, found, image, entry, same.symm⟩
  refine ⟨fun q cb' g e' found' entry' framed => ?_, fun op mem data slot kind cb' e' found' entry' => ?_,
    ordered.loadsLast, fun op mem src kind cb' e' found' entry' => ?_,
    fun q cb' g e' n found' entry' slot => ?_, fun q cb' va value found' waiting => ?_⟩
  · obtain ⟨cb, e, found, -, entry, place⟩ := back q cb' g e' found' entry'
    simp only [PageEntry.place, Prod.mk.injEq] at place
    exact ordered.present q cb g e found entry (place.1 ▸ framed)
  · obtain ⟨cb, e, found, -, entry, place⟩ := back _ cb' _ e' found' entry'
    simp only [PageEntry.place, Prod.mk.injEq] at place
    rw [place.2.1]
    exact ordered.slots op mem data slot kind cb e found entry
  · obtain ⟨cb, e, found, image, entry, place⟩ := back _ cb' _ e' found' entry'
    simp only [PageEntry.place, Prod.mk.injEq] at place
    rw [ordered.sources op mem src kind cb e found entry, image]
    unfold PageEntry.source
    rw [place.2.1]
  · obtain ⟨cb, e, found, -, entry, place⟩ := back q cb' g e' found' entry'
    simp only [PageEntry.place, Prod.mk.injEq] at place
    exact ordered.stale q cb g e n found entry (place.2.1 ▸ slot)
  · obtain ⟨cb, found, -, input, places⟩ := kept q cb' found'
    obtain ⟨e, entry, absent, loading⟩ := ordered.inputs q cb va value found (input ▸ waiting)
    have view := places (va / ps)
    rw [entry, Option.map_some] at view
    obtain ⟨e', entry', same⟩ := Option.map_eq_some_iff.1 view
    simp only [PageEntry.place, Prod.mk.injEq] at same
    exact ⟨e', entry', same.1.trans absent, same.2.2.trans loading⟩

/-- The order reads each live process through what paging owns of it. -/
theorem SavesOrdered.of_paging (ordered : SavesOrdered ps s ops)
    (kept : ∀ q cb', s'.get? q = some cb' → ∃ cb, s.get? q = some cb ∧ cb'.paging = cb.paging) :
    SavesOrdered ps s' ops :=
  ordered.of_places fun q cb' found' => by
    obtain ⟨cb, found, view⟩ := kept q cb' found'
    simp only [ControlBlock.paging, Prod.mk.injEq] at view
    exact ⟨cb, found, view.2.1, view.2.2.2.2, fun g => by rw [view.2.2.2.1]⟩

/-- Scheduling keeps the order. -/
theorem SavesOrdered.of_sameOn (ordered : SavesOrdered ps s ops)
    (same : SameOn ControlBlock.paging s s') : SavesOrdered ps s' ops :=
  ordered.of_paging fun _ _ found' => paging_of_sameOn same found'

/-- A process that ends takes its pages out of the order. -/
theorem SavesOrdered.removeProcess (ordered : SavesOrdered ps s ops) (pid : Nat) (cause : Cause) :
    SavesOrdered ps (s.removeProcess pid cause).2 ops :=
  ordered.of_paging fun q cb' found' => by
    rw [get?_removeProcess] at found'
    split at found'
    · cases found'
    · exact ⟨cb', found', rfl⟩

/-- Carrying out the oldest operation keeps the order of the rest. -/
theorem SavesOrdered.tail {op : DiskOperation} (ordered : SavesOrdered ps s (op :: ops)) :
    SavesOrdered ps s ops where
  present q cb g e found entry framed o mem :=
    ordered.present q cb g e found entry framed o (List.mem_cons_of_mem _ mem)
  slots o mem := ordered.slots o (List.mem_cons_of_mem _ mem)
  loadsLast := (List.pairwise_cons.1 ordered.loadsLast).2
  sources o mem := ordered.sources o (List.mem_cons_of_mem _ mem)
  stale q cb g e n found entry slot pre o post split :=
    ordered.stale q cb g e n found entry slot (op :: pre) o post (by rw [split]; rfl)
  inputs := ordered.inputs

/-- A position in a list with one element appended is a position in the list, or the element. -/
theorem split_append_single {α : Type} {l pre post : List α} {a x : α}
    (split : l ++ [x] = pre ++ a :: post) :
    (∃ post₀, post = post₀ ++ [x] ∧ l = pre ++ a :: post₀) ∨ (l = pre ∧ a = x ∧ post = []) := by
  rcases List.eq_nil_or_concat post with rfl | ⟨post₀, y, rfl⟩
  · obtain ⟨same, last⟩ := List.append_inj' split rfl
    exact .inr ⟨same, (List.singleton_inj.1 last).symm, rfl⟩
  · rw [List.concat_eq_append, show pre ++ a :: (post₀ ++ [y]) = (pre ++ a :: post₀) ++ [y] by
      simp] at split
    obtain ⟨same, last⟩ := List.append_inj' split rfl
    rw [List.singleton_inj.1 last]
    exact .inl ⟨post₀, List.concat_eq_append, same⟩

/-- A process after one entry changed: the process before, with that entry changed when it is
one of its pages. -/
theorem get?_modifyEntry_some {pid vpn q : Nat} {f : PageEntry → PageEntry} {cb' : ControlBlock}
    (found' : (modifyEntry s pid vpn f).get? q = some cb') :
    ∃ cb, s.get? q = some cb ∧ cb'.image = cb.image ∧ cb'.pendingInput = cb.pendingInput ∧
      ∀ g, cb'.pageTable.get? g =
        if pid = q ∧ vpn = g then (cb.pageTable.get? g).map f else cb.pageTable.get? g := by
  unfold modifyEntry at found'
  rw [get?_modify] at found'
  split at found'
  · rename_i samePid
    obtain ⟨cb, found, rfl⟩ := Option.map_eq_some_iff.1 found'
    refine ⟨cb, found, rfl, rfl, fun g => ?_⟩
    rw [PageTable.get?_modify]
    by_cases samePage : vpn = g
    · rw [if_pos samePage, if_pos ⟨samePid, samePage⟩]
    · rw [if_neg samePage, if_neg fun both => samePage both.2]
  · rename_i otherPid
    exact ⟨cb', found', rfl, rfl, fun g => by rw [if_neg fun both => otherPid both.1]⟩

/-- An entry after one entry changed: the entry before, changed when it is that page. -/
theorem get?_modifyEntry_entry {pid vpn q g : Nat} {f : PageEntry → PageEntry} {cb' : ControlBlock}
    {e' : PageEntry} (found' : (modifyEntry s pid vpn f).get? q = some cb')
    (entry' : cb'.pageTable.get? g = some e') :
    ∃ cb e, s.get? q = some cb ∧ cb'.image = cb.image ∧ cb'.pendingInput = cb.pendingInput ∧
      cb.pageTable.get? g = some e ∧ e' = if pid = q ∧ vpn = g then f e else e := by
  obtain ⟨cb, found, image, input, entries⟩ := get?_modifyEntry_some found'
  rw [entries g] at entry'
  split at entry'
  · rename_i same
    obtain ⟨e, entry, rfl⟩ := Option.map_eq_some_iff.1 entry'
    exact ⟨cb, e, found, image, input, entry, by rw [if_pos same]⟩
  · rename_i other
    exact ⟨cb, e', found, image, input, entry', by rw [if_neg other]⟩

/-- A present page has no load in flight. -/
theorem not_loading_of_present {t : FrameTable} (agree : FramesAgree t (residency s)) {pid page v : Nat}
    {e : PageEntry} (found : entry? s pid page = some e) (present : e.frame = some v) :
    e.loading = false :=
  (agree.present_owned pid page v e.loading (by simp [residency, found, present])).2

/-- The loads outstanding are each for a page that is loading. -/
def LoadsLoading (s : Scheduler) (ops : List DiskOperation) : Prop :=
  ∀ op ∈ ops, op.isLoad = true → s.contains op.pid = true → Loading s op.pid op.page

/-- Evicting a present page keeps the order: the page is absent now, with the save of its frame
last, into the slot it keeps or into one reserved now that no page keeps. -/
theorem SavesOrdered.evict (ordered : SavesOrdered ps s ops) {t : FrameTable} {d : SwapDisk}
    (agree : FramesAgree t (residency s)) (slots : SlotsAgree d (slotOf s))
    (loads : LoadsLoading s ops) {pid page v : Nat} {e : PageEntry}
    (victim : entry? s pid page = some e) (present : e.frame = some v) (data : List Word) :
    SavesOrdered ps (modifyEntry s pid page fun e' => e'.setAbsent.setSlot (d.slotFor e.slot).1)
      (ops ++ [⟨pid, page, v, .save data (d.slotFor e.slot).1⟩]) := by
  obtain ⟨cb₀, live₀, entry₀⟩ := entry?_eq_some.1 victim
  -- no load of the page waits, for a present page is not loading
  have unloaded : ∀ op ∈ ops, op.isLoad = true → (op.pid, op.page) ≠ (pid, page) := by
    rintro op mem load same
    simp only [Prod.mk.injEq] at same
    obtain ⟨fr, loading⟩ := loads op mem load (same.1 ▸ contains_of_get? live₀)
    rw [same.1, same.2] at loading
    simp [residency, victim, not_loading_of_present agree victim present] at loading
  -- nor any save of it, for it is present
  have unsaved := ordered.present pid cb₀ page e live₀ entry₀ (by rw [present]; rfl)
  have savedOf_new : ∀ q g, (q, g) ≠ (pid, page) →
      DiskOperation.savedOf q g ⟨pid, page, v, .save data (d.slotFor e.slot).1⟩ = none := by
    intro q g other
    simp only [DiskOperation.savedOf, ite_eq_right_iff]
    rintro ⟨rfl, rfl⟩
    exact absurd rfl other
  refine ⟨fun q cb' g e' found' entry' framed => ?_, fun op mem data' slot kind cb' e' found' entry' => ?_,
    ?_, fun op mem src kind cb' e' found' entry' => ?_,
    fun q cb' g e' n found' entry' slot pre op post split saving other => ?_,
    fun q cb' va value found' waiting => ?_⟩
  · -- the evicted page is absent; every other page is where it was
    obtain ⟨cb, e₁, found, -, -, entry, rfl⟩ := get?_modifyEntry_entry found' entry'
    split at framed
    · simp [PageEntry.setAbsent, PageEntry.setSlot] at framed
    · rename_i other
      intro op mem
      rcases List.mem_append.1 mem with old | new
      · exact ordered.present q cb g e₁ found entry framed op old
      · rw [List.mem_singleton.1 new]
        exact savedOf_new q g fun same => other ⟨(Prod.mk.inj same).1.symm, (Prod.mk.inj same).2.symm⟩
  · obtain ⟨cb, e₁, found, -, -, entry, rfl⟩ := get?_modifyEntry_entry found' entry'
    rcases List.mem_append.1 mem with old | new
    · split
      · -- an older save of the evicted page cannot wait, for the page was present
        rename_i same
        obtain ⟨rfl, rfl⟩ := same
        have none := unsaved op old
        simp [DiskOperation.savedOf, DiskOperation.saved?, kind] at none
      · exact ordered.slots op old data' slot kind cb e₁ found entry
    · rw [List.mem_singleton.1 new] at kind ⊢
      simp only [DiskOpKind.save.injEq] at kind
      rw [if_pos ⟨rfl, rfl⟩]
      exact kind.2
  · rw [List.pairwise_append]
    refine ⟨ordered.loadsLast, List.pairwise_singleton _ _, fun op mem op' new load => ?_⟩
    rw [List.mem_singleton.1 new]
    exact savedOf_new op.pid op.page (unloaded op mem load)
  · rcases List.mem_append.1 mem with old | new
    · obtain ⟨cb, e₁, found, image, -, entry, rfl⟩ := get?_modifyEntry_entry found' entry'
      rw [if_neg fun same => unloaded op old (by cases op; simp_all [DiskOperation.isLoad]) ?_]
      · rw [image]
        exact ordered.sources op old src kind cb e₁ found entry
      · exact Prod.ext same.1.symm same.2.symm
    · rw [List.mem_singleton.1 new] at kind
      cases kind
  · obtain ⟨cb, e₁, found, -, -, entry, rfl⟩ := get?_modifyEntry_entry found' entry'
    rcases split_append_single split with ⟨post₀, rfl, split₀⟩ | ⟨-, rfl, rfl⟩
    · by_cases same : pid = q ∧ page = g
      · -- the save just queued is the latest of the page
        obtain ⟨rfl, rfl⟩ := same
        rw [latestSave_append_single]
        simp [DiskOperation.savedOf, DiskOperation.saved?]
      · rw [if_neg same] at slot
        rw [latestSave_append_other (savedOf_new q g fun h => same ⟨(Prod.mk.inj h).1.symm,
          (Prod.mk.inj h).2.symm⟩)]
        exact ordered.stale q cb g e₁ n found entry slot pre op post₀ split₀ saving other
    · -- the save just queued goes to a slot no other page keeps
      obtain ⟨data', kind⟩ := saving
      simp only [DiskOpKind.save.injEq] at kind
      have other' : ¬(pid = q ∧ page = g) := fun same => other (by simp [same.1, same.2])
      rw [if_neg other'] at slot
      have kept : slotOf s q g = some n := by simp [slotOf, entry?, found, entry, slot]
      cases owned : e.slot with
      | some m =>
        rw [owned] at kind
        simp only [SwapDisk.slotFor, Option.some.injEq] at kind
        have mine : slotOf s pid page = some n := by
          rw [slotOf, victim, Option.bind_some, owned, kind.2]
        exact absurd (slots.unique _ _ _ _ _ mine kept) fun same => other' ⟨same.1, same.2⟩
      | none =>
        rw [owned] at kind
        simp only [SwapDisk.slotFor] at kind
        exact absurd kept (slots.reserve_unkept kind.2 q g)
  · obtain ⟨cb, found, -, input, entries⟩ := get?_modifyEntry_some found'
    obtain ⟨e₁, entry, absent, loading⟩ := ordered.inputs q cb va value found (input ▸ waiting)
    -- the page waited for is absent, so it is not the page evicted
    have other : ¬(pid = q ∧ page = va / ps) := by
      rintro ⟨rfl, rfl⟩
      rw [live₀, Option.some.injEq] at found
      subst found
      rw [entry₀, Option.some.injEq] at entry
      subst entry
      rw [present] at absent
      cases absent
    exact ⟨e₁, by rw [entries, if_neg other, entry], absent, loading⟩

/-- Marking an absent page loading and queueing its load from where the page is kept keeps the
order: the load goes last, behind every save, and reads what the page's entry names. -/
theorem SavesOrdered.setLoading (ordered : SavesOrdered ps s ops) {pid vpn f : Nat}
    {cb : ControlBlock} {e : PageEntry} (live : s.get? pid = some cb)
    (entry : cb.pageTable.get? vpn = some e) :
    SavesOrdered ps (modifyEntry s pid vpn PageEntry.setLoading)
      (ops ++ [⟨pid, vpn, f, .load (e.source cb.image)⟩]) := by
  have unsaved : ∀ q g, DiskOperation.savedOf q g ⟨pid, vpn, f, .load (e.source cb.image)⟩ = none :=
    fun q g => by simp [DiskOperation.savedOf, DiskOperation.saved?]
  -- marking a page loading moves no page and changes no slot
  have kept : ∀ q cb' g e', (modifyEntry s pid vpn PageEntry.setLoading).get? q = some cb' →
      cb'.pageTable.get? g = some e' → ∃ cb₁ e₁, s.get? q = some cb₁ ∧ cb'.image = cb₁.image ∧
        cb₁.pageTable.get? g = some e₁ ∧ e'.frame = e₁.frame ∧ e'.slot = e₁.slot := by
    intro q cb' g e' found' entry'
    obtain ⟨cb₁, e₁, found, image, -, entry₁, rfl⟩ := get?_modifyEntry_entry found' entry'
    refine ⟨cb₁, e₁, found, image, entry₁, ?_, ?_⟩ <;> split <;> rfl
  refine ⟨fun q cb' g e' found' entry' framed => ?_,
    fun op mem data slot kind cb' e' found' entry' => ?_, ?_,
    fun op mem src kind cb' e' found' entry' => ?_,
    fun q cb' g e' n found' entry' slot pre op post split saving other => ?_,
    fun q cb' va value found' waiting => ?_⟩
  · obtain ⟨cb₁, e₁, found, -, entry₁, frame, -⟩ := kept q cb' g e' found' entry'
    intro op mem
    rcases List.mem_append.1 mem with old | new
    · exact ordered.present q cb₁ g e₁ found entry₁ (frame ▸ framed) op old
    · rw [List.mem_singleton.1 new]
      exact unsaved q g
  · obtain ⟨cb₁, e₁, found, -, entry₁, -, slot'⟩ := kept _ cb' _ e' found' entry'
    rcases List.mem_append.1 mem with old | new
    · rw [slot']
      exact ordered.slots op old data slot kind cb₁ e₁ found entry₁
    · rw [List.mem_singleton.1 new] at kind
      cases kind
  · rw [List.pairwise_append]
    refine ⟨ordered.loadsLast, List.pairwise_singleton _ _, fun op _ op' new _ => ?_⟩
    rw [List.mem_singleton.1 new]
    exact unsaved op.pid op.page
  · obtain ⟨cb₁, e₁, found, image, entry₁, -, slot'⟩ := kept _ cb' _ e' found' entry'
    unfold PageEntry.source
    rw [image, slot']
    rcases List.mem_append.1 mem with old | new
    · have source := ordered.sources op old src kind cb₁ e₁ found entry₁
      unfold PageEntry.source at source
      exact source
    · -- the load just queued is of this page, whose entry is the one it was queued from
      obtain rfl := List.mem_singleton.1 new
      simp only [DiskOpKind.load.injEq] at kind
      rw [live, Option.some.injEq] at found
      subst found
      rw [entry, Option.some.injEq] at entry₁
      subst entry₁
      rw [← kind]
      rfl
  · obtain ⟨cb₁, e₁, found, -, entry₁, -, slot'⟩ := kept q cb' g e' found' entry'
    rcases split_append_single split with ⟨post₀, rfl, split₀⟩ | ⟨-, rfl, rfl⟩
    · rw [latestSave_append_load]
      exact ordered.stale q cb₁ g e₁ n found entry₁ (slot' ▸ slot) pre op post₀ split₀ saving other
    · obtain ⟨data, kind⟩ := saving
      cases kind
  · obtain ⟨cb₁, found, -, input, entries⟩ := get?_modifyEntry_some found'
    obtain ⟨e₁, entry₁, absent, loading⟩ := ordered.inputs q cb₁ va value found (input ▸ waiting)
    rw [entries, entry₁]
    split
    · exact ⟨_, rfl, absent, rfl⟩
    · exact ⟨e₁, rfl, absent, loading⟩

/-- Starting the load of an absent page keeps the order: the frame it takes is free, or the victim
is evicted first with its save queued, and the load goes last. -/
theorem SavesOrdered.startLoad {mm : MemoryManager} {held : List DiskOperation}
    (ordered : SavesOrdered ps s (held ++ mm.queue)) (agree : FramesAgree mm.frames (residency s))
    (slots : SlotsAgree mm.swap (slotOf s)) (loads : LoadsLoading s (held ++ mm.queue))
    {pid vpn : Nat} {cb : ControlBlock} {e : PageEntry} (live : s.get? pid = some cb)
    (entry : cb.pageTable.get? vpn = some e) (absent : e.frame = none) :
    SavesOrdered ps (mm.startLoad s pid vpn).2.2 (held ++ (mm.startLoad s pid vpn).2.1.queue) := by
  rcases startLoad_cases agree live entry absent with refused | ⟨f, mm₀, s₀, frames, origin, started⟩
  · rw [refused]
    exact ordered
  · rw [started]
    simp only [submit]
    rcases origin with ⟨rfl, rfl⟩ | ⟨v, o, ev, owned, victim, present, other, evicted⟩
    · rw [← List.append_assoc]
      exact ordered.setLoading live entry
    · -- the victim's save is queued first, and the page loaded keeps its entry meanwhile
      rw [evict_eq owned victim, Prod.mk.injEq] at evicted
      obtain ⟨rfl, rfl⟩ := evicted
      have evictedOrder := ordered.evict agree slots loads victim present (mm.memory.frame v)
      obtain ⟨cb₀, live₀, image₀, entry₀⟩ :=
        entry_modifyEntry_other (fun e' => e'.setAbsent.setSlot (mm.swap.slotFor ev.slot).1)
          (Ne.symm other) live entry
      have loaded := evictedOrder.setLoading live₀ entry₀ (f := f)
      rw [image₀] at loaded
      simpa only [List.append_assoc] using loaded

/-- Changing one entry without moving its page keeps the order. -/
theorem SavesOrdered.modifyEntry (ordered : SavesOrdered ps s ops) (pid vpn : Nat)
    {g : PageEntry → PageEntry} (keeps : ∀ e, (g e).place = e.place) :
    SavesOrdered ps (modifyEntry s pid vpn g) ops :=
  ordered.of_places fun q cb' found' => by
    obtain ⟨cb, found, image, input, entries⟩ := get?_modifyEntry_some found'
    refine ⟨cb, found, image, input, fun page => ?_⟩
    rw [entries page]
    split
    · rw [Option.map_map]
      exact Option.map_congr fun e _ => keeps e
    · rfl

/-- A translation keeps the order: touching a present page moves nothing, and a miss starts a
load as `SavesOrdered.startLoad` says. -/
theorem SavesOrdered.translate {mm : MemoryManager} {held : List DiskOperation}
    (ordered : SavesOrdered ps s (held ++ mm.queue)) (agree : FramesAgree mm.frames (residency s))
    (slots : SlotsAgree mm.swap (slotOf s)) (loads : LoadsLoading s (held ++ mm.queue))
    (pid : Nat) (va : Int32) (write : Bool) :
    SavesOrdered ps (mm.translate s pid va write).2.2
      (held ++ (mm.translate s pid va write).2.1.queue) := by
  unfold MemoryManager.translate
  split
  · exact ordered
  · simp only [tick]
    split
    · exact ordered
    · rename_i e found
      split
      · exact ordered.modifyEntry pid _ fun _ => rfl
      · rename_i absent
        split
        · exact ordered
        · obtain ⟨cb, live, entry⟩ := entry?_eq_some.1 found
          let ticked : MemoryManager := { mm with clock := mm.clock + 1 }
          have started := SavesOrdered.startLoad
            (show SavesOrdered ps s (held ++ ticked.queue) from ordered) agree slots loads live entry absent
          split
          · rename_i started'
            rw [started'] at started
            exact started
          · rename_i started'
            rw [started'] at started
            exact started

/-- The arrival of the page the oldest operation loads keeps the order of the rest: the page is
present now, and no save of it waits behind its load; it keeps its slot, every other page keeps
its entry, and a console value kept is one waiting for another page. -/
theorem SavesOrdered.arrive {op : DiskOperation} {rest : List DiskOperation}
    (ordered : SavesOrdered ps s (op :: rest)) (loaded : op.isLoad = true) {cb cb' : ControlBlock}
    (live : s.get? op.pid = some cb) (pid : cb'.pid = op.pid) (image : cb'.image = cb.image)
    (others : ∀ g, g ≠ op.page → cb'.pageTable.get? g = cb.pageTable.get? g)
    (arrived : ∀ e', cb'.pageTable.get? op.page = some e' →
      ∃ e, cb.pageTable.get? op.page = some e ∧ e'.slot = e.slot)
    (inputs : ∀ va value, cb'.pendingInput = some (va, value) →
      cb.pendingInput = some (va, value) ∧ va / ps ≠ op.page) :
    SavesOrdered ps (s.insert cb') rest := by
  have tail := ordered.tail
  -- an entry of the new table is one of the old, with the same slot
  have back : ∀ q c' g e', (s.insert cb').get? q = some c' → c'.pageTable.get? g = some e' →
      ∃ c e, s.get? q = some c ∧ c'.image = c.image ∧ c.pageTable.get? g = some e ∧
        e'.slot = e.slot ∧ (e'.frame = e.frame ∨ (q, g) = (op.pid, op.page)) := by
    intro q c' g e' found' entry'
    rw [get?_insert] at found'
    split at found'
    · rename_i same
      cases found'
      rw [pid] at same
      subst same
      by_cases here : g = op.page
      · subst here
        obtain ⟨e, entry, slot⟩ := arrived e' entry'
        exact ⟨cb, e, live, image, entry, slot, .inr rfl⟩
      · rw [others g here] at entry'
        exact ⟨cb, e', live, image, entry', rfl, .inl rfl⟩
    · exact ⟨c', e', found', rfl, entry', rfl, .inl rfl⟩
  refine ⟨fun q c' g e' found' entry' framed => ?_,
    fun o mem data slot kind c' e' found' entry' => ?_, tail.loadsLast,
    fun o mem src kind c' e' found' entry' => ?_,
    fun q c' g e' n found' entry' slot pre o post split saving other => ?_,
    fun q c' va value found' waiting => ?_⟩
  · obtain ⟨c, e, found, -, entry, -, moved⟩ := back q c' g e' found' entry'
    rcases moved with frame | here
    · exact tail.present q c g e found entry (frame ▸ framed)
    · -- the page that arrived: no save of it waits behind its load
      intro o mem
      rw [Prod.mk.injEq] at here
      rw [here.1, here.2]
      exact (List.pairwise_cons.1 ordered.loadsLast).1 o mem loaded
  · obtain ⟨c, e, found, -, entry, slot', -⟩ := back _ c' _ e' found' entry'
    rw [slot']
    exact tail.slots o mem data slot kind c e found entry
  · obtain ⟨c, e, found, image', entry, slot', -⟩ := back _ c' _ e' found' entry'
    unfold PageEntry.source
    rw [image', slot']
    exact tail.sources o mem src kind c e found entry
  · obtain ⟨c, e, found, -, entry, slot', -⟩ := back q c' g e' found' entry'
    exact tail.stale q c g e n found entry (slot' ▸ slot) pre o post split saving other
  · rw [get?_insert] at found'
    split at found'
    · rename_i same
      cases found'
      rw [pid] at same
      subst same
      obtain ⟨kept, elsewhere⟩ := inputs va value waiting
      obtain ⟨e, entry, absent, loading⟩ := ordered.inputs _ cb va value live kept
      exact ⟨e, by rw [others _ elsewhere]; exact entry, absent, loading⟩
    · exact tail.inputs q c' va value found' waiting

/-- A load that completes as the oldest operation keeps the order of the rest. -/
theorem SavesOrdered.completeLoad {mm : MemoryManager} {op : DiskOperation}
    {rest : List DiskOperation} (ordered : SavesOrdered mm.pageSize s (op :: rest))
    (loaded : op.isLoad = true) (wf : s.TableWF) (data : List Word) :
    SavesOrdered mm.pageSize (mm.completeLoad s op.pid op.page op.frame data).2.2 rest := by
  have tail := ordered.tail
  unfold MemoryManager.completeLoad
  split
  · exact tail
  · simp only [tick]
    split
    · exact tail
    · rename_i cb live
      have owner : cb.pid = op.pid := wf.pid_eq live
      split
      · exact tail
      · rename_i e entry
        -- the page arrives present where it was kept; a value waiting for it is stored
        have others : ∀ (g : Nat) (h : PageEntry → PageEntry), g ≠ op.page →
            (cb.pageTable.modify op.page h).get? g = cb.pageTable.get? g :=
          fun g h other => by rw [PageTable.get?_modify, if_neg (Ne.symm other)]
        have arrived : ∀ (h : PageEntry → PageEntry), (∀ e, (h e).slot = e.slot) →
            ∀ e', (cb.pageTable.modify op.page h).get? op.page = some e' →
              ∃ e, cb.pageTable.get? op.page = some e ∧ e'.slot = e.slot := by
          intro h keeps e' entry'
          rw [PageTable.get?_modify, if_pos rfl, entry, Option.map_some, Option.some.injEq] at entry'
          exact ⟨e, entry, by rw [← entry', keeps]⟩
        split
        · rename_i va value waiting
          by_cases here : va / mm.pageSize = op.page
          · simp only [here, ↓reduceIte]
            exact ordered.arrive loaded live owner rfl (fun g other => by
                simp only [PageTable.get?_modify, if_neg (Ne.symm other)]) (fun e' entry' => by
                  dsimp only at entry'
                  rw [PageTable.get?_modify, if_pos rfl] at entry'
                  obtain ⟨e₀, entry₀, rfl⟩ := Option.map_eq_some_iff.1 entry'
                  exact arrived (fun x => x.setPresent op.frame (mm.clock + 1)) (fun _ => rfl) e₀
                    entry₀) (fun _ _ none => by cases none)
          · simp only [here, ↓reduceIte]
            exact ordered.arrive loaded live owner rfl (fun g other => others g _ other)
              (arrived _ fun _ => rfl) fun va' value' kept => ⟨by rw [← kept, waiting], by
                rw [waiting, Option.some.injEq, Prod.mk.injEq] at kept
                rw [← kept.1]
                exact here⟩
        · rename_i noInput
          exact ordered.arrive loaded live owner rfl (fun g other => others g _ other)
            (arrived _ fun _ => rfl) fun va value kept => by
              rw [noInput] at kept
              cases kept

/-- A new process none of whose pages is kept on the disk, with no console value waiting and no
operation outstanding, keeps the order. -/
theorem SavesOrdered.insert (ordered : SavesOrdered ps s ops) {cb : ControlBlock}
    (fresh : ∀ op ∈ ops, op.pid ≠ cb.pid)
    (unslotted : ∀ g e, cb.pageTable.get? g = some e → e.slot = none)
    (noInput : cb.pendingInput = none) : SavesOrdered ps (s.insert cb) ops := by
  -- a lookup in the new table finds the new process or one that was live before
  have found_iff : ∀ q c, (s.insert cb).get? q = some c → cb.pid = q ∧ c = cb ∨ s.get? q = some c := by
    intro q c found
    rw [get?_insert] at found
    split at found
    · rename_i same
      exact .inl ⟨same, (Option.some.inj found).symm⟩
    · exact .inr found
  refine ⟨fun q c g e found entry framed => ?_, fun op mem data slot kind c e found entry => ?_,
    ordered.loadsLast, fun op mem src kind c e found entry => ?_,
    fun q c g e n found entry slot pre op post split saving other => ?_,
    fun q c va value found waiting => ?_⟩
  · rcases found_iff q c found with ⟨rfl, rfl⟩ | old
    · intro op mem
      simp [DiskOperation.savedOf, fresh op mem]
    · exact ordered.present q c g e old entry framed
  · rcases found_iff _ c found with ⟨same, -⟩ | old
    · exact absurd same.symm (fresh op mem)
    · exact ordered.slots op mem data slot kind c e old entry
  · rcases found_iff _ c found with ⟨same, -⟩ | old
    · exact absurd same.symm (fresh op mem)
    · exact ordered.sources op mem src kind c e old entry
  · rcases found_iff q c found with ⟨-, rfl⟩ | old
    · rw [unslotted g e entry] at slot
      cases slot
    · exact ordered.stale q c g e n old entry slot pre op post split saving other
  · rcases found_iff q c found with ⟨-, rfl⟩ | old
    · rw [noInput] at waiting
      cases waiting
    · exact ordered.inputs q c va value old waiting

/-- Keeping a console value for an address of a page that is loading keeps the order. -/
theorem SavesOrdered.setInput (ordered : SavesOrdered ps s ops) (pid va : Nat) (value : Int32)
    (loading : ∀ cb, s.get? pid = some cb →
      ∃ e, cb.pageTable.get? (va / ps) = some e ∧ e.frame = none ∧ e.loading = true) :
    SavesOrdered ps (s.modify pid fun cb => { cb with pendingInput := some (va, value) }) ops := by
  -- keeping the value changes no page
  have back : ∀ q c', (s.modify pid fun cb => { cb with pendingInput := some (va, value) }).get? q =
      some c' → ∃ c, s.get? q = some c ∧ c'.pageTable = c.pageTable ∧ c'.image = c.image ∧
        (c'.pendingInput = c.pendingInput ∨ pid = q ∧ c'.pendingInput = some (va, value)) := by
    intro q c' found'
    rw [get?_modify] at found'
    split at found'
    · rename_i same
      obtain ⟨c, found, rfl⟩ := Option.map_eq_some_iff.1 found'
      exact ⟨c, found, rfl, rfl, .inr ⟨same, rfl⟩⟩
    · exact ⟨c', found', rfl, rfl, .inl rfl⟩
  refine ⟨fun q c' g e found' entry framed => ?_, fun op mem data slot kind c' e found' entry => ?_,
    ordered.loadsLast, fun op mem src kind c' e found' entry => ?_,
    fun q c' g e n found' entry slot pre op post split saving other => ?_,
    fun q c' va' value' found' waiting => ?_⟩
  · obtain ⟨c, found, table, -, -⟩ := back q c' found'
    exact ordered.present q c g e found (table ▸ entry) framed
  · obtain ⟨c, found, table, -, -⟩ := back _ c' found'
    exact ordered.slots op mem data slot kind c e found (table ▸ entry)
  · obtain ⟨c, found, table, image, -⟩ := back _ c' found'
    rw [image]
    exact ordered.sources op mem src kind c e found (table ▸ entry)
  · obtain ⟨c, found, table, -, -⟩ := back q c' found'
    exact ordered.stale q c g e n found (table ▸ entry) slot pre op post split saving other
  · obtain ⟨c, found, table, -, input⟩ := back q c' found'
    rw [table]
    rcases input with same | ⟨rfl, kept⟩
    · exact ordered.inputs q c va' value' found (same ▸ waiting)
    · rw [kept, Option.some.injEq, Prod.mk.injEq] at waiting
      obtain ⟨rfl, rfl⟩ := waiting
      exact loading c found

/-- The save that completes as the oldest operation records no slot: a live page it was made
for keeps that slot already. -/
theorem SavesOrdered.completeSave_eq {op : DiskOperation} {rest : List DiskOperation}
    (ordered : SavesOrdered ps s (op :: rest)) {data : List Word} {n : Nat}
    (kind : op.kind = .save data (some n)) : completeSave s op.pid op.page n = s :=
  completeSave_of_slotted fun e found => by
    obtain ⟨cb, live, entry⟩ := entry?_eq_some.1 found
    exact ordered.slots op List.mem_cons_self data (some n) kind cb e live entry

/-- No save of a page among `ops` leaves it no latest save. -/
theorem latestSave_eq_none {ops : List DiskOperation} {pid page : Nat}
    (unsaved : ∀ op ∈ ops, op.savedOf pid page = none) : latestSave ops pid page = none := by
  unfold latestSave
  rw [List.filterMap_eq_nil_iff.2 unsaved]
  rfl

/-- Carrying out the oldest operation, a load, and completing it keeps every word: by the order,
the load reads where its page is kept and no save of the page waits behind it, so it brings
what the page held. -/
theorem wordsKept_loadHead (wf : s.TableWF) {mm : MemoryManager}
    (agree : FramesAgree mm.frames (residency s)) (fits : mm.Fits) {op : DiskOperation}
    {rest : List DiskOperation} (ordered : SavesOrdered mm.pageSize s (op :: rest))
    (loading : s.contains op.pid = true → Loading s op.pid op.page) {src : LoadSource}
    (kind : op.kind = .load src) {data : List Word}
    (result : (mm.swap.perform op).1.result = .loaded data) :
    WordsKept mm s (op :: rest)
      ({ mm with swap := (mm.swap.perform op).2 }.completeLoad s op.pid op.page op.frame data).2.1
      ({ mm with swap := (mm.swap.perform op).2 }.completeLoad s op.pid op.page op.frame data).2.2
      rest := by
  obtain ⟨completion, contents, diskPage⟩ := mm.swap.perform_load kind
  rw [completion] at result
  simp only [DiskResult.loaded.injEq] at result
  have unsaved : ∀ o ∈ rest, o.savedOf op.pid op.page = none :=
    fun o mem => (List.pairwise_cons.1 ordered.loadsLast).1 o mem (by simp [DiskOperation.isLoad, kind])
  -- the load itself saves nothing, so only the disk's counters change before it completes
  have dropped : WordsKept mm s (op :: rest) mm s rest :=
    wordsKept_of_saves wf fun q page _ => by
      rw [latestSave_cons]
      simp [DiskOperation.savedOf, DiskOperation.saved?, kind]
  have performed : WordsKept mm s rest { mm with swap := (mm.swap.perform op).2 } s rest :=
    wordsKept_of_store ⟨rfl, rfl, contents, diskPage⟩
  have agree' : FramesAgree ({ mm with swap := (mm.swap.perform op).2 } : MemoryManager).frames
      (residency s) := agree
  refine dropped.trans (performed.trans (wordsKept_completeLoad wf agree'
    ⟨fits.page_pos, fits.framePage, fits.room, fits.counted.perform op⟩ fun cb e live entry _ => ?_))
  have owner : cb.pid = op.pid := wf.pid_eq live
  obtain ⟨fr, resident⟩ := loading (contains_of_get? live)
  have flagged : e.loading = true := by
    simp only [residency, entry?, live, Option.bind_some, entry, Option.map_some,
      Option.some.injEq, Prod.mk.injEq] at resident
    exact resident.2
  refine ⟨?_, fun i _ => ?_⟩
  · -- a page whose load is in flight is absent
    cases framed : e.frame with
    | none => rfl
    | some f =>
      have present := agree.present_owned op.pid op.page f true
        (by simp [residency, entry?, live, entry, framed, flagged])
      cases present.2
  · have source := ordered.sources op List.mem_cons_self src kind cb e live entry
    unfold stored
    dsimp only
    rw [owner, latestSave_eq_none unsaved, ← result, source, contents, diskPage]
    unfold PageEntry.source SwapDisk.fetch
    cases e.slot <;> rfl

/-- Carrying out the oldest operation, a save into slot `n`, keeps every word: the page it was
made for keeps slot `n`, and every other live page keeping `n` has a later save to come. -/
theorem wordsKept_saveHead (wf : s.TableWF) {mm : MemoryManager} {op : DiskOperation}
    {rest : List DiskOperation} (ordered : SavesOrdered ps s (op :: rest)) {n : Nat}
    (result : (mm.swap.perform op).1.result = .saved n) :
    WordsKept mm s (op :: rest) { mm with swap := (mm.swap.perform op).2 } s rest := by
  obtain ⟨data, kind⟩ := perform_saved result
  rcases op with ⟨pid, page, frame, kind'⟩
  simp only at kind
  subst kind
  have inside : n < mm.swap.contents.size := by
    by_contra outside
    simp [SwapDisk.perform, SwapDisk.perform?, SwapDisk.save, outside] at result
  have performed : (mm.swap.perform ⟨pid, page, frame, .save data (some n)⟩).2 =
      (mm.swap.save data (some n)).2 := rfl
  rw [performed]
  refine wordsKept_saved wf (fun cb e live entry =>
    ordered.slots _ List.mem_cons_self data (some n) rfl cb e live entry) ?_ inside
  intro q cb g e live entry slot other
  exact ordered.stale q cb g e n live entry slot [] _ rest rfl ⟨data, rfl⟩ fun same => other same.symm

end MemoryManager

end PagedMachine
