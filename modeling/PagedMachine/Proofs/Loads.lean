import PagedMachine.Proofs.Frames

/-!
# Loads in flight

A page whose process touched it while it was absent gets a load started: a frame is bound to
it and locked, the page is marked loading, and a load is queued for the disk. The process waits
for that page until the load completes, and for nothing else meanwhile.

Two agreements state this. Per process (`ControlBlock.WaitsAgree`): a process waits for a page
exactly while one of its pages is loading, at most one is, and it never waits for the console
and a page at once. Between the pages and the disk operations not yet completed, queued or
taken off the queue (`MemoryManager.LoadsAgree`): no page has two loads outstanding, a load
outstanding for a live process targets the frame its page owns while the page is loading, and,
as long as no operation was dropped, every loading page has its load outstanding.

Each paging operation changes loads in one of a few ways, and one lemma says what each way
keeps: nothing that matters changes (`congr`), a load starts (`start`), a load completes
(`finish`), an operation is dropped (`drop`), a process ends (`forget`).
-/

namespace PagedMachine

/-- Page `page` of the table has a load in flight. -/
def PageTable.Loading (t : PageTable) (page : Nat) : Prop :=
  ∃ e, t.get? page = some e ∧ e.loading = true

/-- A change of one entry that keeps its loading flag starts and ends no load. -/
theorem PageTable.loading_modify_of_keeps (t : PageTable) (page : Nat) (g : PageEntry → PageEntry)
    (keeps : ∀ e, (g e).loading = e.loading) (q : Nat) :
    (t.modify page g).Loading q ↔ t.Loading q := by
  unfold PageTable.Loading
  rw [PageTable.get?_modify]
  split
  · cases t.get? q <;> simp [keeps]
  · rfl

/-- A page that arrives stops loading; the other pages are as they were. -/
theorem PageTable.loading_setPresent (t : PageTable) (page f now q : Nat) :
    (t.modify page (·.setPresent f now)).Loading q ↔ q ≠ page ∧ t.Loading q := by
  unfold PageTable.Loading
  rw [PageTable.get?_modify]
  split
  · rename_i same
    subst same
    cases t.get? page <;> simp [PageEntry.setPresent]
  · rename_i other
    exact ⟨fun loading => ⟨Ne.symm other, loading⟩, fun both => both.2⟩

namespace ControlBlock

/-- What a process waits for agrees with its pages: it waits for a page exactly while one of its
pages is loading, at most one is, and it never waits for the console and a page at once. -/
structure WaitsAgree (cb : ControlBlock) : Prop where
  fault_iff : cb.blockedOn.pageFault = true ↔ ∃ g, cb.pageTable.Loading g
  one_loading : ∀ g g', cb.pageTable.Loading g → cb.pageTable.Loading g' → g = g'
  not_both : ¬(cb.blockedOn.io = true ∧ cb.blockedOn.pageFault = true)

/-- The agreement reads a control block through its reasons and its loading pages. -/
theorem WaitsAgree.congr {cb cb' : ControlBlock} (waits : cb.WaitsAgree)
    (reasons : cb'.blockedOn = cb.blockedOn)
    (loading : ∀ g, cb'.pageTable.Loading g ↔ cb.pageTable.Loading g) : cb'.WaitsAgree where
  fault_iff := by
    rw [reasons, waits.fault_iff]
    exact exists_congr fun g => (loading g).symm
  one_loading g g' first second := waits.one_loading g g' ((loading g).1 first) ((loading g').1 second)
  not_both := reasons ▸ waits.not_both

/-- A process that waits for nothing and has no page loading. -/
theorem WaitsAgree.of_idle {cb : ControlBlock} (idle : cb.blockedOn.isEmpty = true)
    (none : ∀ g, ¬cb.pageTable.Loading g) : cb.WaitsAgree where
  fault_iff := by
    have page : cb.blockedOn.pageFault = false := by
      simp only [BlockReason.isEmpty, Bool.and_eq_true, Bool.not_eq_true'] at idle
      exact idle.2
    rw [page]
    constructor
    · rintro ⟨⟩
    · rintro ⟨g, loading⟩
      exact absurd loading (none g)
  one_loading g _ loading := absurd loading (none g)
  not_both := by
    simp only [BlockReason.isEmpty, Bool.and_eq_true, Bool.not_eq_true'] at idle
    rw [idle.1]
    exact fun both => Bool.false_ne_true both.1

end ControlBlock

namespace DiskOperation

/-- Whether the operation loads a page. -/
def isLoad (op : DiskOperation) : Bool :=
  match op.kind with
  | .load _ => true
  | .save _ _ => false

/-- Whether the operation loads page `page` of process `pid`. -/
def loads (op : DiskOperation) (pid page : Nat) : Bool :=
  op.isLoad && op.pid == pid && op.page == page

/-- An operation that loads a page is a load. -/
theorem isLoad_of_loads {op : DiskOperation} {pid page : Nat} (loading : op.loads pid page = true) :
    op.isLoad = true := by
  simp only [loads, Bool.and_eq_true] at loading
  exact loading.1.1

/-- An operation loads a page exactly when it is a load of that page of that process. -/
theorem loads_iff {op : DiskOperation} {pid page : Nat} :
    op.loads pid page = true ↔ op.isLoad = true ∧ op.pid = pid ∧ op.page = page := by
  simp [loads, and_assoc]

end DiskOperation

namespace MemoryManager

open Scheduler

variable {s s' : Scheduler}

/-- Page `page` of live process `pid` has a load in flight. -/
def Loading (s : Scheduler) (pid page : Nat) : Prop := ∃ fr, residency s pid page = some (fr, true)

/-- A page of a live process is loading exactly when its entry says so. -/
theorem loading_iff {pid : Nat} {cb : ControlBlock} (found : s.get? pid = some cb) (page : Nat) :
    Loading s pid page ↔ cb.pageTable.Loading page := by
  unfold Loading residency entry? PageTable.Loading
  rw [found, Option.bind_some]
  constructor
  · rintro ⟨fr, mapped⟩
    obtain ⟨e, entry, same⟩ := Option.map_eq_some_iff.1 mapped
    exact ⟨e, entry, (Prod.mk.inj same).2⟩
  · rintro ⟨e, entry, loading⟩
    exact ⟨e.frame, by rw [entry, Option.map_some, loading]⟩

/-- No page of a process that is not live is loading. -/
theorem not_loading_of_get?_none {pid : Nat} (missing : s.get? pid = none) (page : Nat) :
    ¬Loading s pid page := by
  rintro ⟨fr, resident⟩
  simp [residency, entry?, missing] at resident

/-- A process with a page loading is live. -/
theorem live_of_loading {pid page : Nat} (loading : Loading s pid page) : s.contains pid = true := by
  cases found : s.get? pid with
  | none => exact absurd loading (not_loading_of_get?_none found page)
  | some cb => exact contains_of_get? found

/-- Loads outstanding agree with the pages that wait for them: no page has two loads
outstanding; a load for a live process targets the frame its page owns, and the page is
loading; and unless an operation was dropped, every loading page has its load outstanding. -/
structure LoadsAgree (s : Scheduler) (t : FrameTable) (ops : List DiskOperation)
    (complete : Bool) : Prop where
  at_most_one : ∀ pid page, ops.countP (·.loads pid page) ≤ 1
  targets : ∀ op ∈ ops, op.isLoad = true → s.contains op.pid = true →
    t.owner op.frame = some ⟨op.pid, op.page⟩ ∧ Loading s op.pid op.page
  pending : complete = true → ∀ pid page, Loading s pid page → ∃ op ∈ ops, op.loads pid page = true

variable {t t' : FrameTable} {ops ops' : List DiskOperation} {complete : Bool}

/-- Keeping only the loads keeps the count of loads of each page. -/
theorem countP_loads_filter (l : List DiskOperation) (pid page : Nat) :
    (l.filter (·.isLoad)).countP (·.loads pid page) = l.countP (·.loads pid page) := by
  rw [List.countP_filter]
  apply List.countP_congr
  intro op _
  simp only [Bool.and_eq_true]
  exact ⟨fun both => both.1, fun loading => ⟨loading, DiskOperation.isLoad_of_loads loading⟩⟩

/-- A load among operations whose loads are a permutation of others' is among the others. -/
theorem mem_of_mem_filter_perm {ops ops' : List DiskOperation}
    (same : (ops'.filter (·.isLoad)).Perm (ops.filter (·.isLoad))) {op : DiskOperation}
    (mem : op ∈ ops') (load : op.isLoad = true) : op ∈ ops :=
  (List.mem_filter.1 (same.mem_iff.1 (List.mem_filter.2 ⟨mem, load⟩))).1

/-- No load is outstanding for a live page that is not loading. -/
theorem LoadsAgree.countP_eq_zero (loads : LoadsAgree s t ops complete) {pid page : Nat}
    (alive : s.contains pid = true) (idle : ¬Loading s pid page) :
    ops.countP (·.loads pid page) = 0 := by
  rw [List.countP_eq_zero]
  intro op mem loading
  obtain ⟨load, samePid, samePage⟩ := DiskOperation.loads_iff.1 loading
  subst samePid samePage
  exact idle (loads.targets op mem load alive).2

/-- Nothing that loads read changes: the same loads are outstanding, the same pages are
loading, no process with a load outstanding starts living, and every frame owned by a loading
page keeps its owner. -/
theorem LoadsAgree.congr (loads : LoadsAgree s t ops complete)
    (loading : ∀ pid page, Loading s' pid page ↔ Loading s pid page)
    (live : ∀ op ∈ ops', op.isLoad = true → s'.contains op.pid = true → s.contains op.pid = true)
    (owners : ∀ f o, t.owner f = some o → Loading s o.pid o.page → t'.owner f = some o)
    (same : (ops'.filter (·.isLoad)).Perm (ops.filter (·.isLoad))) :
    LoadsAgree s' t' ops' complete where
  at_most_one pid page := by
    rw [← countP_loads_filter, same.countP_eq, countP_loads_filter]
    exact loads.at_most_one pid page
  targets op mem load alive := by
    obtain ⟨owned, waiting⟩ :=
      loads.targets op (mem_of_mem_filter_perm same mem load) load (live op mem load alive)
    exact ⟨owners _ _ owned waiting, (loading _ _).2 waiting⟩
  pending full pid page waiting := by
    obtain ⟨op, mem, load⟩ := loads.pending full pid page ((loading pid page).1 waiting)
    exact ⟨op, mem_of_mem_filter_perm same.symm mem (DiskOperation.isLoad_of_loads load), load⟩

/-- The outstanding operations read in another order. -/
theorem LoadsAgree.perm (loads : LoadsAgree s t ops complete) (perm : ops'.Perm ops) :
    LoadsAgree s t ops' complete :=
  loads.congr (fun _ _ => Iff.rfl) (fun _ _ _ alive => alive) (fun _ _ owned _ => owned)
    (perm.filter _)

/-- A load starts for a live page that was not loading, into a frame now bound to the page;
other pages and the frames of loading pages are as they were. -/
theorem LoadsAgree.start (loads : LoadsAgree s t ops complete) {pid vpn f : Nat}
    {src : LoadSource} (alive : s.contains pid = true) (idle : ¬Loading s pid vpn)
    (loading : ∀ p g, Loading s' p g ↔ (p = pid ∧ g = vpn) ∨ Loading s p g)
    (live : ∀ p, s'.contains p = true → s.contains p = true)
    (owners : ∀ g o, t.owner g = some o → Loading s o.pid o.page → t'.owner g = some o)
    (owned : t'.owner f = some ⟨pid, vpn⟩)
    (same : (ops'.filter (·.isLoad)).Perm (ops.filter (·.isLoad) ++ [⟨pid, vpn, f, .load src⟩])) :
    LoadsAgree s' t' ops' complete where
  at_most_one p g := by
    rw [← countP_loads_filter, same.countP_eq, List.countP_append, countP_loads_filter,
      List.countP_singleton]
    by_cases here : p = pid ∧ g = vpn
    · obtain ⟨rfl, rfl⟩ := here
      rw [loads.countP_eq_zero alive idle]
      simp [DiskOperation.loads, DiskOperation.isLoad]
    · have other : (DiskOperation.loads ⟨pid, vpn, f, .load src⟩ p g) = false := by
        simp only [DiskOperation.loads, DiskOperation.isLoad, Bool.true_and, Bool.and_eq_false_iff,
          beq_eq_false_iff_ne, ne_eq]
        by_cases samePid : pid = p
        · exact .inr fun samePage => here ⟨samePid.symm, samePage.symm⟩
        · exact .inl samePid
      rw [other]
      simpa using loads.at_most_one p g
  targets op mem load alive' := by
    have filtered := same.mem_iff.1 (List.mem_filter.2 ⟨mem, load⟩)
    rcases List.mem_append.1 filtered with old | new
    · have mem := (List.mem_filter.1 old).1
      obtain ⟨ownedOld, waiting⟩ := loads.targets op mem load (live _ alive')
      exact ⟨owners _ _ ownedOld waiting, (loading _ _).2 (.inr waiting)⟩
    · rw [List.mem_singleton] at new
      subst new
      exact ⟨owned, (loading _ _).2 (.inl ⟨rfl, rfl⟩)⟩
  pending full p g waiting := by
    have listed : ∀ op, op ∈ ops.filter (·.isLoad) ++ [⟨pid, vpn, f, .load src⟩] → op ∈ ops' :=
      fun op mem => (List.mem_filter.1 (same.mem_iff.2 mem)).1
    rcases (loading p g).1 waiting with ⟨rfl, rfl⟩ | old
    · exact ⟨⟨p, g, f, .load src⟩, listed _ (List.mem_append_right _ (List.mem_singleton_self _)),
        by simp [DiskOperation.loads, DiskOperation.isLoad]⟩
    · obtain ⟨op, mem, load⟩ := loads.pending full p g old
      exact ⟨op, listed op (List.mem_append_left _ (List.mem_filter.2
        ⟨mem, DiskOperation.isLoad_of_loads load⟩)), load⟩

/-- An operation leaves the outstanding ones without changing any page: it was dropped, or it
was carried out with no effect on loads (a save, or a load for a process that has ended). -/
theorem LoadsAgree.discard (loads : LoadsAgree s t ops complete) {op : DiskOperation}
    (perm : ops.Perm (op :: ops')) {full : Bool} (drops : full = true → complete = true)
    (kept : full = true → op.isLoad = false ∨ s.contains op.pid = false) :
    LoadsAgree s t ops' full where
  at_most_one pid page := by
    have total := loads.at_most_one pid page
    rw [perm.countP_eq, List.countP_cons] at total
    omega
  targets op' mem := loads.targets op' (perm.mem_iff.2 (List.mem_cons_of_mem op mem))
  pending full' pid page waiting := by
    obtain ⟨op', mem, load⟩ := loads.pending (drops full') pid page waiting
    rcases List.mem_cons.1 (perm.mem_iff.1 mem) with same | later
    · subst same
      obtain ⟨isLoad, samePid, -⟩ := DiskOperation.loads_iff.1 load
      rcases kept full' with save | dead
      · rw [isLoad] at save
        cases save
      · rw [samePid, live_of_loading waiting] at dead
        cases dead
    · exact ⟨op', later, load⟩

/-- A load completes: it leaves the outstanding operations and its page stops loading; every
other page, and the frame of every other loading page, is as it was. -/
theorem LoadsAgree.finish (loads : LoadsAgree s t ops complete) {op : DiskOperation}
    (perm : ops.Perm (op :: ops')) (load : op.isLoad = true) (alive : s.contains op.pid = true)
    (loading : ∀ p g, Loading s' p g ↔ ¬(p = op.pid ∧ g = op.page) ∧ Loading s p g)
    (live : ∀ p, s'.contains p = true → s.contains p = true)
    (owners : ∀ g o, t.owner g = some o → Loading s o.pid o.page → o ≠ ⟨op.pid, op.page⟩ →
      t'.owner g = some o) : LoadsAgree s' t' ops' complete where
  at_most_one pid page := by
    have total := loads.at_most_one pid page
    rw [perm.countP_eq, List.countP_cons] at total
    omega
  targets op' mem load' alive' := by
    -- the completed load was the only one for its page, so `op'` is for another page
    have other : ¬(op'.pid = op.pid ∧ op'.page = op.page) := by
      rintro ⟨samePid, samePage⟩
      have total := loads.at_most_one op.pid op.page
      rw [perm.countP_eq, List.countP_cons] at total
      have mine : op.loads op.pid op.page = true := DiskOperation.loads_iff.2 ⟨load, rfl, rfl⟩
      have theirs : op'.loads op.pid op.page = true :=
        DiskOperation.loads_iff.2 ⟨load', samePid, samePage⟩
      have counted : 0 < ops'.countP (·.loads op.pid op.page) :=
        List.countP_pos_iff.2 ⟨op', mem, theirs⟩
      rw [if_pos mine] at total
      omega
    obtain ⟨owned, waiting⟩ :=
      loads.targets op' (perm.mem_iff.2 (List.mem_cons_of_mem op mem)) load' (live _ alive')
    refine ⟨owners _ _ owned waiting ?_, (loading _ _).2 ⟨other, waiting⟩⟩
    intro same
    simp only [FrameOwner.mk.injEq] at same
    exact other same
  pending full p g waiting := by
    obtain ⟨notDone, old⟩ := (loading p g).1 waiting
    obtain ⟨op', mem, load'⟩ := loads.pending full p g old
    rcases List.mem_cons.1 (perm.mem_iff.1 mem) with same | later
    · subst same
      obtain ⟨-, samePid, samePage⟩ := DiskOperation.loads_iff.1 load'
      exact absurd ⟨samePid.symm, samePage.symm⟩ notDone
    · exact ⟨op', later, load'⟩

/-- A process ends: its pages are gone and its frames may be given back; loads outstanding for
it are left to be ignored. -/
theorem LoadsAgree.forget (loads : LoadsAgree s t ops complete) {pid : Nat}
    (loading : ∀ p g, Loading s' p g ↔ p ≠ pid ∧ Loading s p g)
    (live : ∀ p, s'.contains p = true → s.contains p = true ∧ p ≠ pid)
    (owners : ∀ g o, t.owner g = some o → o.pid ≠ pid → t'.owner g = some o) :
    LoadsAgree s' t' ops complete where
  at_most_one := loads.at_most_one
  targets op mem load alive := by
    obtain ⟨alive', other⟩ := live _ alive
    obtain ⟨owned, waiting⟩ := loads.targets op mem load alive'
    exact ⟨owners _ _ owned other, (loading _ _).2 ⟨other, waiting⟩⟩
  pending full p g waiting := loads.pending full p g ((loading p g).1 waiting).2

/-- A page is loading exactly when its residency carries the loading flag. -/
theorem loading_iff_flag {pid page : Nat} :
    Loading s pid page ↔ (residency s pid page).map Prod.snd = some true := by
  unfold Loading
  constructor
  · rintro ⟨fr, resident⟩
    rw [resident]
    rfl
  · intro flagged
    obtain ⟨⟨fr, l⟩, resident, rfl⟩ := Option.map_eq_some_iff.1 flagged
    exact ⟨fr, resident⟩

/-- A change of one entry that keeps its loading flag starts and ends no load. -/
theorem loading_modifyEntry_of_keeps (pid vpn : Nat) (g : PageEntry → PageEntry)
    (keeps : ∀ e, (g e).loading = e.loading) (p q : Nat) :
    Loading (modifyEntry s pid vpn g) p q ↔ Loading s p q := by
  rw [loading_iff_flag, loading_iff_flag, residency_modifyEntry]
  split
  · simp only [residency, Option.map_map, Function.comp_def, keeps]
  · rfl

/-- Marking an existing page loading makes that page loading, and no other. -/
theorem loading_setLoading {pid vpn : Nat} {e : PageEntry} (found : entry? s pid vpn = some e)
    (p q : Nat) :
    Loading (modifyEntry s pid vpn PageEntry.setLoading) p q ↔ (p = pid ∧ q = vpn) ∨ Loading s p q := by
  rw [loading_iff_flag, loading_iff_flag, residency_modifyEntry]
  split
  · rename_i here
    obtain ⟨rfl, rfl⟩ := here
    simp [found, PageEntry.setLoading]
  · rename_i other
    constructor
    · exact .inr
    · rintro (⟨rfl, rfl⟩ | loading)
      · exact absurd ⟨rfl, rfl⟩ other
      · exact loading

/-- An eviction makes a page absent and keeps whether it is loading. -/
theorem loading_evict (mm : MemoryManager) (v p q : Nat) :
    Loading (mm.evict s v).2 p q ↔ Loading s p q := by
  unfold MemoryManager.evict
  split
  · rfl
  · split
    · rfl
    · dsimp only
      split
      all_goals
        apply loading_modifyEntry_of_keeps
        intro e
        rfl

/-- A page with a residency belongs to a live process. -/
theorem contains_of_residency {pid page : Nat} {place : Option Nat × Bool}
    (resident : residency s pid page = some place) : s.contains pid = true := by
  cases found : s.get? pid with
  | none => simp [residency, entry?, found] at resident
  | some cb => exact contains_of_get? found

/-- An eviction queues at most a save of the page holding the victim, and no load. -/
theorem queue_evict (mm : MemoryManager) (v : Nat) :
    ∃ saves, (mm.evict s v).1.queue = mm.queue ++ saves ∧ saves.filter (·.isLoad) = [] ∧
      ∀ op ∈ saves, mm.frames.owner v = some ⟨op.pid, op.page⟩ := by
  unfold MemoryManager.evict
  split
  · exact ⟨[], by simp⟩
  · rename_i o owned
    split
    · exact ⟨[], by simp⟩
    · dsimp only
      split
      all_goals
        refine ⟨[_], rfl, rfl, fun op mem => ?_⟩
        rw [List.mem_singleton] at mem
        rw [mem, owned]

/-- What starting the load of page `vpn` of `pid` does to loads, read through the frame table
and the disk queue, from `t`, `queue` and `s` to `t'`, `queue'` and `s'`: the page is now
loading into a frame bound to it, and its load is queued behind the save of the page evicted for
it, if any, which is of a live process; no other page started or stopped loading, and the frames
of loading pages kept their owners. -/
structure LoadStarted (t : FrameTable) (queue : List DiskOperation) (s : Scheduler) (pid vpn : Nat)
    (t' : FrameTable) (queue' : List DiskOperation) (s' : Scheduler) : Prop where
  queued : ∃ f src saves, queue' = queue ++ saves ++ [⟨pid, vpn, f, .load src⟩] ∧
    saves.filter (·.isLoad) = [] ∧ (∀ op ∈ saves, s.contains op.pid = true) ∧
    t'.owner f = some ⟨pid, vpn⟩
  kept : ∀ g o, t.owner g = some o → Loading s o.pid o.page → t'.owner g = some o
  loading : ∀ p q, Loading s' p q ↔ (p = pid ∧ q = vpn) ∨ Loading s p q

/-- Starting the load of a page that is absent with no load in flight either finds no frame and
changes nothing, or starts the load. -/
theorem startLoad_loads {mm : MemoryManager} (agree : FramesAgree mm.frames (residency s))
    {pid vpn : Nat} (idle : residency s pid vpn = some (none, false)) :
    mm.startLoad s pid vpn = (.error .framesExhausted, mm, s) ∨
      (mm.startLoad s pid vpn).1 = .ok () ∧
        LoadStarted mm.frames mm.queue s pid vpn (mm.startLoad s pid vpn).2.1.frames
          (mm.startLoad s pid vpn).2.1.queue (mm.startLoad s pid vpn).2.2 := by
  unfold MemoryManager.startLoad
  simp only []
  split
  · exact .inl rfl
  · rename_i f mm₁ s₁ found
    -- the frame found, free or the victim just evicted, is bound to the page
    obtain ⟨saves, queued, noLoads, saved, owned, kept, loading, e, entry⟩ : ∃ saves,
        mm₁.queue = mm.queue ++ saves ∧ saves.filter (·.isLoad) = [] ∧
        (∀ op ∈ saves, s.contains op.pid = true) ∧ mm₁.frames.owner f = some ⟨pid, vpn⟩ ∧
        (∀ g o, mm.frames.owner g = some o → Loading s o.pid o.page →
          mm₁.frames.owner g = some o) ∧
        (∀ p q, Loading s₁ p q ↔ Loading s p q) ∧ ∃ e, entry? s₁ pid vpn = some e := by
      split at found
      · rename_i f' frames allocated
        simp only [Option.some.injEq, Prod.mk.injEq] at found
        obtain ⟨rfl, rfl, rfl⟩ := found
        obtain ⟨firstFree, rfl⟩ := FrameTable.allocate_some _ allocated
        obtain ⟨inside, free, _⟩ := FrameTable.firstFree_spec _ firstFree
        obtain ⟨e, entry, _⟩ := Option.map_eq_some_iff.1 idle
        refine ⟨[], by simp, rfl, nofun, ?_, ?_, fun _ _ => Iff.rfl, e, entry⟩
        · rw [FrameTable.owner_assign _ _ _ _ inside, if_pos rfl]
        · intro g o ownedBefore _
          have other : f' ≠ g := by
            rintro rfl
            rw [free] at ownedBefore
            cases ownedBefore
          rw [FrameTable.owner_assign _ _ _ _ inside, if_neg other, ownedBefore]
      · split at found
        · cases found
        · rename_i v victim
          simp only [Option.some.injEq, Prod.mk.injEq] at found
          obtain ⟨rfl, rfl, rfl⟩ := found
          obtain ⟨frames, o, owned, -, others⟩ := agree.evict victim
          obtain ⟨o', owned', present⟩ := agree.victim_present victim
          rw [owned] at owned'
          cases owned'
          obtain ⟨saves, queued, noLoads, victims⟩ := queue_evict (s := s) mm v
          have inside : v < (mm.frames.lock v).size := by
            simpa using FrameTable.lt_size_of_owner _ owned
          have notVictim : (pid, vpn) ≠ (o.pid, o.page) := by
            intro same
            simp only [Prod.mk.injEq] at same
            rw [← same.1, ← same.2, idle] at present
            cases present
          obtain ⟨e, entry, _⟩ := Option.map_eq_some_iff.1 ((others pid vpn notVictim).trans idle)
          refine ⟨saves, queued, noLoads, fun op mem => ?_, ?_, ?_, loading_evict mm v, e, entry⟩
          · rw [owned] at victims
            cases victims op mem
            exact contains_of_residency present
          · simp only [frames]
            rw [FrameTable.owner_assign _ _ _ _ inside, if_pos rfl]
          · intro g o' ownedBefore waiting
            -- the victim's page is present, so the frames of loading pages are others
            have other : v ≠ g := by
              rintro rfl
              rw [owned] at ownedBefore
              cases ownedBefore
              rw [loading_iff_flag, present] at waiting
              cases waiting
            simp only [frames]
            rw [FrameTable.owner_assign _ _ _ _ inside, if_neg other, FrameTable.owner_lock,
              ownedBefore]
    obtain ⟨cb, live, page⟩ := Option.bind_eq_some_iff.1 entry
    simp only [live, page]
    refine .inr ⟨trivial, ⟨f, _, saves, congrArg (· ++ [_]) queued, noLoads, saved, ?_⟩, ?_, ?_⟩
    · show (mm₁.frames.lock f).owner f = _
      rw [FrameTable.owner_lock]
      exact owned
    · intro g o ownedBefore waiting
      show (mm₁.frames.lock f).owner g = _
      rw [FrameTable.owner_lock]
      exact kept g o ownedBefore waiting
    · intro p q
      rw [loading_setLoading entry, loading]

/-- A page that is absent with no load in flight belongs to a live process and is not loading. -/
theorem idle_spec {pid vpn : Nat} (idle : residency s pid vpn = some (none, false)) :
    s.contains pid = true ∧ ¬Loading s pid vpn := by
  refine ⟨contains_of_residency idle, ?_⟩
  rw [loading_iff_flag, idle]
  simp

/-- Loads after a translation: nothing that loads read changed, and a page fault means that the
page was loading already; or the page touched was absent with no load in flight, its load
started, and the access faults. -/
theorem translate_loads {mm : MemoryManager} (agree : FramesAgree mm.frames (residency s))
    (pid : Nat) (va : Int32) (write : Bool) :
    ((mm.translate s pid va write).2.1.frames = mm.frames ∧
        (mm.translate s pid va write).2.1.queue = mm.queue ∧
        (∀ p q, Loading (mm.translate s pid va write).2.2 p q ↔ Loading s p q) ∧
        ∀ vpn, (mm.translate s pid va write).1 = .error (.pageFault vpn) → Loading s pid vpn) ∨
      ∃ vpn, (mm.translate s pid va write).1 = .error (.pageFault vpn) ∧
        residency s pid vpn = some (none, false) ∧
        LoadStarted mm.frames mm.queue s pid vpn (mm.translate s pid va write).2.1.frames
          (mm.translate s pid va write).2.1.queue (mm.translate s pid va write).2.2 := by
  unfold MemoryManager.translate
  split
  · exact .inl ⟨rfl, rfl, fun _ _ => Iff.rfl, fun _ fault => by cases fault⟩
  · simp only []
    split
    · exact .inl ⟨rfl, rfl, fun _ _ => Iff.rfl, fun _ fault => by cases fault⟩
    · rename_i e found
      split
      · refine .inl ⟨rfl, rfl, ?_, fun _ fault => by cases fault⟩
        exact loading_modifyEntry_of_keeps _ _ _ (fun _ => rfl)
      · rename_i noFrame
        split
        · rename_i isLoading
          refine .inl ⟨rfl, rfl, fun _ _ => Iff.rfl, fun vpn fault => ?_⟩
          cases fault
          rw [loading_iff_flag, residency, found, Option.map_some, Option.map_some, isLoading]
        · rename_i notLoading
          have idle : residency s pid (va.toInt.toNat / mm.pageSize) = some (none, false) := by
            have loadingFalse : e.loading = false := by simpa using notLoading
            rw [residency, found, Option.map_some, noFrame, loadingFalse]
          rcases @startLoad_loads s mm.tick.2 agree _ _ idle with failed | ⟨ok, started⟩
          · rw [failed]
            exact .inl ⟨rfl, rfl, fun _ _ => Iff.rfl, fun _ fault => by cases fault⟩
          · split
            · rename_i err mm' s' result
              rw [result] at ok
              cases ok
            · rename_i mm' s' result
              rw [result] at started
              exact .inr ⟨_, rfl, idle, started⟩

/-- Putting back a control block places its loading pages and no others. -/
theorem loading_insert (cb : ControlBlock) (p q : Nat) :
    Loading (s.insert cb) p q ↔ if cb.pid = p then cb.pageTable.Loading q else Loading s p q := by
  rw [loading_iff_flag, residency_insert]
  split
  · unfold PageTable.Loading
    cases cb.pageTable.get? q <;> simp
  · rw [loading_iff_flag]

/-- Loads after a load completes: a stale completion changes nothing and wakes nobody; otherwise
the frame belongs to the page of a live process, the page arrives in it and stops loading, and
the process is woken. Frames keep their owners and nothing is queued. -/
theorem completeLoad_loads (wf : s.TableWF) (mm : MemoryManager) (pid page frame : Nat)
    (data : List Word) :
    ((mm.completeLoad s pid page frame data).1 = none ∧
        ¬(mm.frames.owner frame = some ⟨pid, page⟩ ∧ Loading s pid page) ∧
        (mm.completeLoad s pid page frame data).2.1.frames = mm.frames ∧
        (mm.completeLoad s pid page frame data).2.1.queue = mm.queue ∧
        (mm.completeLoad s pid page frame data).2.2 = s) ∨
      ((mm.completeLoad s pid page frame data).1 = some pid ∧ s.contains pid = true ∧
        mm.frames.owner frame = some ⟨pid, page⟩ ∧
        (mm.completeLoad s pid page frame data).2.1.queue = mm.queue ∧
        (∀ g, (mm.completeLoad s pid page frame data).2.1.frames.owner g = mm.frames.owner g) ∧
        ∀ p q, Loading (mm.completeLoad s pid page frame data).2.2 p q ↔
          ¬(p = pid ∧ q = page) ∧ Loading s p q) := by
  unfold MemoryManager.completeLoad
  split
  · rename_i stale
    exact .inl ⟨rfl, fun both => stale both.1, rfl, rfl, rfl⟩
  · rename_i guard
    have owned : mm.frames.owner frame = some ⟨pid, page⟩ := by simpa using guard
    simp only []
    split
    · rename_i missing
      exact .inl ⟨rfl, fun both => not_loading_of_get?_none missing page both.2, rfl, rfl, rfl⟩
    · rename_i cb found
      have keyed : cb.pid = pid := wf.pid_eq found
      split
      · rename_i noPage
        refine .inl ⟨rfl, fun both => ?_, rfl, rfl, rfl⟩
        obtain ⟨e, entry, _⟩ := (loading_iff found page).1 both.2
        rw [noPage] at entry
        cases entry
      · -- the control block put back: the page arrived, the others are as they were
        have arrived : ∀ cb' : ControlBlock, cb'.pid = pid →
            (∀ q, cb'.pageTable.Loading q ↔ q ≠ page ∧ cb.pageTable.Loading q) →
            ∀ p q, Loading (s.insert cb') p q ↔ ¬(p = pid ∧ q = page) ∧ Loading s p q := by
          intro cb' keyed' tables p q
          rw [loading_insert, keyed']
          split
          · rename_i same
            subst same
            rw [tables, loading_iff found]
            simp
          · rename_i other
            simp [Ne.symm other]
        have present := PageTable.loading_setPresent cb.pageTable page frame mm.tick.1
        split
        · split
          · dsimp only
            refine .inr ⟨rfl, contains_of_get? found, owned, rfl,
              fun g => FrameTable.owner_unlock _ frame g, arrived _ keyed ?_⟩
            intro q
            rw [PageTable.loading_modify_of_keeps _ page (fun x => x.touch mm.tick.1 true)
              (fun _ => rfl), present]
          · dsimp only
            exact .inr ⟨rfl, contains_of_get? found, owned, rfl,
              fun g => FrameTable.owner_unlock _ frame g, arrived _ keyed present⟩
        · dsimp only
          exact .inr ⟨rfl, contains_of_get? found, owned, rfl,
            fun g => FrameTable.owner_unlock _ frame g, arrived _ keyed present⟩

/-- A finished save records its slot and starts and ends no load. -/
theorem loading_completeSave (pid page slot p q : Nat) :
    Loading (completeSave s pid page slot) p q ↔ Loading s p q := by
  unfold completeSave
  split
  · split
    · exact loading_modifyEntry_of_keeps pid page (fun e => e.setSlot (some slot)) (fun _ => rfl) p q
    · exact .rfl
  · exact .rfl

/-- A load started for a page that was absent with no load in flight, whatever the devices hold
beyond the queue. -/
theorem LoadsAgree.started {queue queue' held : List DiskOperation}
    (loads : LoadsAgree s t (queue ++ held) complete) {pid vpn : Nat}
    (started : LoadStarted t queue s pid vpn t' queue' s')
    (idle : residency s pid vpn = some (none, false))
    (live : ∀ p, s'.contains p = true → s.contains p = true) :
    LoadsAgree s' t' (queue' ++ held) complete := by
  obtain ⟨alive, notLoading⟩ := idle_spec idle
  obtain ⟨f, src, saves, queued, noLoads, -, owned⟩ := started.queued
  have loadOnly : [(⟨pid, vpn, f, .load src⟩ : DiskOperation)].filter (·.isLoad) =
      [⟨pid, vpn, f, .load src⟩] := rfl
  -- the saves queued before the load are no loads
  have same : ((queue' ++ held).filter (·.isLoad)).Perm
      ((queue ++ held).filter (·.isLoad) ++ [⟨pid, vpn, f, .load src⟩]) := by
    rw [queued, List.filter_append, List.filter_append, List.filter_append, noLoads, loadOnly,
      List.filter_append, List.append_nil, List.append_assoc, List.append_assoc]
    exact List.Perm.append_left _ List.perm_append_comm
  exact loads.start alive notLoading started.loading live started.kept owned same

/-- Bringing in the first page of a new process binds at most a free frame, queues nothing and
starts no load. -/
theorem loadInitial_keeps (mm : MemoryManager) (cb : ControlBlock) :
    (mm.loadInitial cb).2.1.queue = mm.queue ∧
      (∀ g o, mm.frames.owner g = some o → (mm.loadInitial cb).2.1.frames.owner g = some o) ∧
      ∀ g, (mm.loadInitial cb).2.2.pageTable.Loading g → cb.pageTable.Loading g := by
  unfold MemoryManager.loadInitial
  split
  · exact ⟨rfl, fun _ _ owned => owned, fun _ loading => loading⟩
  · rename_i f frames allocated
    obtain ⟨firstFree, rfl⟩ := FrameTable.allocate_some _ allocated
    obtain ⟨inside, free, _⟩ := FrameTable.firstFree_spec _ firstFree
    -- the frame bound was free, so every frame owned before keeps its owner
    have kept : ∀ g o, mm.frames.owner g = some o →
        (mm.frames.assign f ⟨cb.pid, 0⟩).owner g = some o := by
      intro g o owned
      have other : f ≠ g := by
        rintro rfl
        rw [free] at owned
        cases owned
      rw [FrameTable.owner_assign _ _ _ _ inside, if_neg other, owned]
    simp only [tick]
    split
    · refine ⟨rfl, kept, fun g loading => ?_⟩
      exact ((PageTable.loading_setPresent _ _ _ _ g).1 loading).2
    · refine ⟨rfl, fun g o owned => ?_, fun _ loading => loading⟩
      have other : f ≠ g := by
        rintro rfl
        rw [free] at owned
        cases owned
      rw [FrameTable.owner_deallocate, if_neg other]
      exact kept g o owned

end MemoryManager

namespace Scheduler

open MemoryManager

variable {s s' : Scheduler}

/-- Every live process waits for what its pages say. -/
def WaitsAgree (s : Scheduler) : Prop := ∀ pid cb, s.get? pid = some cb → cb.WaitsAgree

/-- What a process waits for, and its pages. -/
def waitView (cb : ControlBlock) : BlockReason × PageTable := (cb.blockedOn, cb.pageTable)

/-- What a process waits for, and its pages, are a view queueing cannot change. -/
theorem unqueued_waitView : Unqueued waitView := ⟨fun _ _ _ => rfl⟩

/-- A process whose reasons and loading pages are as they were still agrees. -/
theorem WaitsAgree.keep (waits : s.WaitsAgree) {pid : Nat} {cb' : ControlBlock}
    (found' : s'.get? pid = some cb')
    (reasons : (s'.get? pid).map (·.blockedOn) = (s.get? pid).map (·.blockedOn))
    (loading : ∀ g, Loading s' pid g ↔ Loading s pid g) : cb'.WaitsAgree := by
  rw [found', Option.map_some] at reasons
  obtain ⟨cb, found, same⟩ := Option.map_eq_some_iff.1 reasons.symm
  refine (waits pid cb found).congr same.symm fun g => ?_
  rw [← loading_iff found', ← loading_iff found]
  exact loading g

/-- Paging changes no reasons; when it starts and ends no load, every process still agrees. -/
theorem WaitsAgree.repage (waits : s.WaitsAgree) (reasons : SameOn ControlBlock.blockedOn s s')
    (loading : ∀ p g, Loading s' p g ↔ Loading s p g) : s'.WaitsAgree :=
  fun pid _ found' => waits.keep found' (reasons pid) (loading pid)

/-- Scheduling that leaves reasons and pages alone keeps every process agreeing. -/
theorem WaitsAgree.of_sameOn (waits : s.WaitsAgree) (same : SameOn waitView s s') :
    s'.WaitsAgree := by
  have tables : SameOn ControlBlock.pageTable s s' := same.comp Prod.snd
  refine waits.repage (same.comp Prod.fst) fun p g => ?_
  rw [loading_iff_flag, loading_iff_flag, residency_of_sameOn tables]

/-- Only `pid` changed its reasons or its loading pages: when it agrees, every process does. -/
theorem WaitsAgree.update (waits : s.WaitsAgree) (pid : Nat)
    (reasons : ∀ q, q ≠ pid → (s'.get? q).map (·.blockedOn) = (s.get? q).map (·.blockedOn))
    (loading : ∀ q g, q ≠ pid → (Loading s' q g ↔ Loading s q g))
    (mine : ∀ cb, s'.get? pid = some cb → cb.WaitsAgree) : s'.WaitsAgree := by
  intro q cb' found'
  by_cases same : q = pid
  · subst same
    exact mine cb' found'
  · exact waits.keep found' (reasons q same) fun g => loading q g same

end Scheduler

end PagedMachine
