import PagedMachine.Proofs.Frames
import Mathlib

/-!
# What the frame agreement guarantees

`FramesAgree` is stated frame by frame. This module draws the consequences a user of the memory
manager sees: the memory manager's own audit of frames against page tables passes
(`FramesAgree.audit_eq_ok`), no frame is claimed by two present pages
(`FramesAgree.present_unique`), and the frames add up: the free frames and the pages that
are present or loading, over all live processes, are as many as there are frames
(`FramesAgree.freeCount_add_held`).

The audit is two nested loops that may fail, so its proof goes through `Returns`, the
statement that an `Except` computation returns normally with a value satisfying a
postcondition, with one rule per way such computations are built and a loop rule carrying an
invariant over the prefix already done. The count compares two lists without repetition:
the owners recorded in the frame table (`FrameTable.holders`) and the pages of live processes
that hold a frame (`heldPages`), which the agreement makes permutations of each other.
-/

namespace PagedMachine

section Returns

variable {ε β γ : Type}

/-- The computation returns normally, with a value satisfying `post`. -/
def Returns (post : β → Prop) : Except ε β → Prop
  | .ok c => post c
  | .error _ => False

/-- A value satisfying the postcondition is returned by `pure`. -/
theorem Returns.pure {post : β → Prop} {c : β} (holds : post c) :
    Returns post (pure c : Except ε β) :=
  holds

/-- A computation that returns into `P`, followed by one that returns into `Q` from any `P` value,
returns into `Q`. -/
theorem Returns.bind {P : β → Prop} {Q : γ → Prop} {x : Except ε β} {k : β → Except ε γ}
    (first : Returns P x) (rest : ∀ c, P c → Returns Q (k c)) : Returns Q (x >>= k) := by
  cases x with
  | error e => exact first.elim
  | ok c => exact rest c first

/-- A computation of no result that returns normally is `ok`. -/
theorem Returns.eq_ok {x : Except ε Unit} (returns : Returns (fun _ => True) x) : x = .ok () := by
  cases x with
  | error e => exact returns.elim
  | ok c => rfl

/-- A loop returns normally when its body, from a state the invariant allows after a prefix of
the list, continues with a state the invariant allows after one more element. -/
theorem Returns.forIn {α : Type} (xs : List α) (b : β) (body : α → β → Except ε (ForInStep β))
    (inv : List α → β → Prop) (start : inv [] b)
    (step : ∀ pre x post c, pre ++ x :: post = xs → inv pre c →
      Returns (fun r => ∃ c', r = .yield c' ∧ inv (pre ++ [x]) c') (body x c)) :
    Returns (inv xs) (forIn xs b body) := by
  -- the loop is run on a suffix, with the invariant holding for the prefix already done
  suffices run : ∀ post pre c, pre ++ post = xs → inv pre c →
      Returns (inv xs) (ForIn.forIn post c body)
    from run xs [] b rfl start
  intro post
  induction post with
  | nil =>
    intro pre c split holds
    rw [List.append_nil] at split
    exact split ▸ holds
  | cons x rest ih =>
    intro pre c split holds
    rw [List.forIn_cons]
    refine (step pre x rest c split holds).bind ?_
    rintro _ ⟨c', rfl, holds'⟩
    exact ih (pre ++ [x]) c' (by rw [List.append_assoc, List.singleton_append, split]) holds'

end Returns

/-- In a list without repeated images, an element's image is not among those before it. -/
theorem not_mem_map_prefix {α δ : Type} {f : α → δ} {pre post : List α} {x : α}
    (nodup : ((pre ++ x :: post).map f).Nodup) : f x ∉ pre.map f := by
  rw [List.map_append, List.nodup_append] at nodup
  intro mem
  exact nodup.2.2 _ mem _ (by simp) rfl

/-- A key found by `lookup` is paired with the value found. -/
theorem lookup_mem {l : List (Nat × Nat)} {a b : Nat} (found : l.lookup a = some b) :
    (a, b) ∈ l := by
  induction l with
  | nil => simp at found
  | cons p rest ih =>
    obtain ⟨k, v⟩ := p
    by_cases same : a = k
    · subst same
      simp [List.lookup] at found
      simp [found]
    · have differ : (a == k) = false := by simpa using same
      rw [List.lookup, differ] at found
      exact List.mem_cons_of_mem _ (ih found)

/-- Counting either of two conditions that never hold together adds their counts. -/
theorem countP_or_of_disjoint {α : Type} {p q : α → Bool} (l : List α)
    (apart : ∀ a ∈ l, ¬(p a = true ∧ q a = true)) :
    l.countP (fun a => p a || q a) = l.countP p + l.countP q := by
  induction l with
  | nil => rfl
  | cons a rest ih =>
    simp only [List.countP_cons]
    rw [ih fun b mem => apart b (List.mem_cons_of_mem a mem)]
    have single := apart a List.mem_cons_self
    cases hp : p a <;> cases hq : q a <;> simp [hp, hq] at single ⊢ <;> omega

/-- Collecting by index what `g` keeps of a list's elements collects what it keeps of the list. -/
theorem filterMap_range_getElem? {α δ : Type} (g : α → Option δ) (l : List α) :
    (List.range l.length).filterMap (fun i => l[i]?.bind g) = l.filterMap g := by
  induction l with
  | nil => rfl
  | cons a rest ih =>
    rw [List.length_cons, List.range_succ_eq_map, List.filterMap_cons, List.filterMap_map]
    have shifted : ((fun i => (a :: rest)[i]?.bind g) ∘ Nat.succ) = fun i => rest[i]?.bind g := by
      funext i
      simp
    rw [shifted, ih]
    simp [List.filterMap_cons]

/-- Pids of the table's control blocks, in table order, are all different. -/
theorem Scheduler.TableWF.nodup_pids {s : Scheduler} (wf : s.TableWF) :
    (s.table.values.map ControlBlock.pid).Nodup := by
  have keys : s.table.values.map ControlBlock.pid = s.table.keys := by
    unfold PidMap.values PidMap.keys
    rw [List.map_map]
    exact List.map_congr_left fun e mem => wf.keyed e mem
  rw [keys]
  exact wf.sorted.imp Nat.ne_of_lt

namespace PageTable

/-- A page table lists a page with an entry exactly when that is the page's entry. -/
theorem mem_pages {t : PageTable} {page : Nat} {e : PageEntry} :
    (page, e) ∈ t.pages ↔ t.get? page = some e := by
  unfold PageTable.pages PageTable.get?
  simp only [List.mem_map, Prod.mk.injEq, Prod.exists]
  constructor
  · rintro ⟨e', i, mem, rfl, rfl⟩
    rw [List.mem_zipIdx_iff_getElem?] at mem
    simpa using mem
  · intro found
    refine ⟨e, page, ?_, rfl, rfl⟩
    rw [List.mem_zipIdx_iff_getElem?]
    simpa using found

/-- The pages a page table lists are its page numbers in order. -/
theorem pages_map_fst (t : PageTable) : t.pages.map Prod.fst = List.range t.size := by
  unfold PageTable.pages PageTable.size
  rw [List.map_map, List.zipIdx_eq_zip_range', List.range_eq_range']
  have swapped : (Prod.fst ∘ fun (x : PageEntry × Nat) => (x.2, x.1)) = Prod.snd := rfl
  rw [swapped, List.map_snd_zip] <;> simp

/-- The entries a page table lists are its entries in order. -/
theorem pages_map_snd (t : PageTable) : t.pages.map Prod.snd = t.entries.toList := by
  unfold PageTable.pages
  rw [List.map_map]
  exact List.zipIdx_map_fst 0 t.entries.toList

/-- A page table lists each page number once. -/
theorem nodup_pages (t : PageTable) : (t.pages.map Prod.fst).Nodup := by
  rw [t.pages_map_fst]
  exact List.nodup_range

end PageTable

namespace FrameTable

variable {t : FrameTable}

/-- The pages that hold a frame, by frame. -/
def holders (t : FrameTable) : List FrameOwner := (List.range t.size).filterMap t.owner

/-- The free frames and the frames with an owner are all the frames. -/
theorem freeCount_add_length_holders (t : FrameTable) :
    t.freeCount + t.holders.length = t.size := by
  have listed : t.holders = t.frames.toList.filterMap Frame.owner := by
    unfold holders owner size
    rw [← Array.length_toList]
    simp only [← Array.getElem?_toList]
    exact filterMap_range_getElem? Frame.owner t.frames.toList
  rw [listed, List.length_filterMap_eq_countP, freeCount, ← Array.countP_toList, size,
    ← Array.length_toList,
    List.length_eq_countP_add_countP (fun fr : Frame => fr.owner.isNone) (l := t.frames.toList)]
  congr 1
  apply List.countP_congr
  intro fr _
  cases fr.owner <;> simp

/-- A page holds a frame exactly when some frame names it as owner. -/
theorem mem_holders {o : FrameOwner} : o ∈ t.holders ↔ ∃ f, t.owner f = some o := by
  unfold holders
  rw [List.mem_filterMap]
  constructor
  · rintro ⟨f, -, owned⟩
    exact ⟨f, owned⟩
  · rintro ⟨f, owned⟩
    exact ⟨f, List.mem_range.2 (lt_size_of_owner _ owned), owned⟩

/-- Frames with different owners give owners listed once. -/
theorem nodup_holders (unique : ∀ f f' o, t.owner f = some o → t.owner f' = some o → f = f') :
    t.holders.Nodup :=
  List.nodup_range.filterMap fun f f' o owned owned' => unique f f' o owned owned'

end FrameTable

namespace MemoryManager

open Scheduler

variable {s : Scheduler}

/-- A listed page of a live process is resident as its entry says. -/
theorem residency_of_mem_pages (wf : s.TableWF) {cb : ControlBlock} (mem : cb ∈ s.table.values)
    {page : Nat} {e : PageEntry} (mem' : (page, e) ∈ cb.pageTable.pages) :
    residency s cb.pid page = some (e.frame, e.loading) := by
  rw [residency, entry?, wf.get?_of_mem_values mem, Option.bind_some,
    PageTable.mem_pages.1 mem', Option.map_some]

/-! ## The audit -/

/-- Every frame in the audit's claimed list is owned by a page the audit has already visited:
a page of a process in `done`, or one of `pages` of process `pid`. -/
def Visited (t : FrameTable) (done : List Nat) (pid : Nat) (pages : List Nat)
    (claimed : List (Nat × Nat)) : Prop :=
  ∀ f p, (f, p) ∈ claimed → ∃ g, t.owner f = some ⟨p, g⟩ ∧ (p ∈ done ∨ p = pid ∧ g ∈ pages)

section Visited

variable {t : FrameTable} {done : List Nat} {pid : Nat} {pages : List Nat}
  {claimed : List (Nat × Nat)}

/-- Visiting one more page keeps every claimed frame visited. -/
theorem Visited.extend (visited : Visited t done pid pages claimed) (page : Nat) :
    Visited t done pid (pages ++ [page]) claimed := by
  intro f p mem
  obtain ⟨g, owner, seen⟩ := visited f p mem
  refine ⟨g, owner, ?_⟩
  rcases seen with seen | ⟨rfl, seen⟩
  · exact Or.inl seen
  · exact Or.inr ⟨rfl, List.mem_append_left _ seen⟩

/-- A frame owned by the page just visited may be claimed. -/
theorem Visited.claim (visited : Visited t done pid pages claimed) {f page : Nat}
    (owned : t.owner f = some ⟨pid, page⟩) :
    Visited t done pid (pages ++ [page]) ((f, pid) :: claimed) := by
  intro f' p mem
  rcases List.mem_cons.1 mem with new | old
  · obtain ⟨rfl, rfl⟩ := Prod.mk.inj new
    exact ⟨page, owned, Or.inr ⟨rfl, by simp⟩⟩
  · exact visited.extend page f' p old

/-- A frame owned by a page not visited yet is not in the claimed list. -/
theorem Visited.lookup_eq_none (visited : Visited t done pid pages claimed) {f page : Nat}
    (owned : t.owner f = some ⟨pid, page⟩) (fresh : pid ∉ done) (fresh' : page ∉ pages) :
    claimed.lookup f = none := by
  cases found : claimed.lookup f with
  | none => rfl
  | some first =>
    obtain ⟨g, owner, seen⟩ := visited f first (lookup_mem found)
    rw [owned, Option.some.injEq, FrameOwner.mk.injEq] at owner
    obtain ⟨rfl, rfl⟩ := owner
    rcases seen with seen | ⟨-, seen⟩
    · exact absurd seen fresh
    · exact absurd seen fresh'

/-- Entering a process, with its pages not yet visited, keeps every claimed frame visited. -/
theorem Visited.enter (visited : Visited t done 0 [] claimed) (pid : Nat) :
    Visited t done pid [] claimed := by
  intro f p mem
  obtain ⟨g, owner, seen⟩ := visited f p mem
  exact ⟨g, owner, Or.inl (by simpa using seen)⟩

/-- Leaving a process adds it to the processes done. -/
theorem Visited.leave (visited : Visited t done pid pages claimed) :
    Visited t (done ++ [pid]) 0 [] claimed := by
  intro f p mem
  obtain ⟨g, owner, seen⟩ := visited f p mem
  refine ⟨g, owner, Or.inl ?_⟩
  rcases seen with seen | ⟨rfl, -⟩
  · exact List.mem_append_left _ seen
  · simp

end Visited

/-- Under the agreement the memory manager's audit passes: each present page owns its frame,
and the frame was not claimed before, since the pages visited before it are other pages. -/
theorem FramesAgree.audit_eq_ok {mm : MemoryManager} (agree : FramesAgree mm.frames (residency s))
    (wf : s.TableWF) : mm.audit s = .ok () := by
  unfold audit
  dsimp only
  -- between processes no page is being visited; pid 0 and no pages stand for that
  refine Returns.eq_ok (Returns.bind (Returns.forIn _ _ _
    (fun done claimed => Visited mm.frames (done.map ControlBlock.pid) 0 [] claimed) ?_ ?_)
    fun _ _ => Returns.pure trivial)
  · intro f p mem
    simp at mem
  · intro done cb later claimed split visited
    have here : cb ∈ s.table.values := by rw [← split]; simp
    have fresh : cb.pid ∉ done.map ControlBlock.pid := not_mem_map_prefix (split ▸ wf.nodup_pids)
    refine Returns.bind (Returns.forIn _ _ _ (fun pages claimed =>
      Visited mm.frames (done.map ControlBlock.pid) cb.pid (pages.map Prod.fst) claimed)
      (visited.enter cb.pid) ?_) ?_
    · rintro pre ⟨page, e⟩ post c pages visited'
      have fresh' : page ∉ pre.map Prod.fst :=
        not_mem_map_prefix (f := Prod.fst) (pages ▸ cb.pageTable.nodup_pages)
      have resident := residency_of_mem_pages wf here
        (pages ▸ (by simp) : (page, e) ∈ cb.pageTable.pages)
      simp only [List.map_append, List.map_cons, List.map_nil]
      cases frame : e.frame with
      | none => exact Returns.pure ⟨c, rfl, visited'.extend page⟩
      | some f =>
        have owned := (agree.present_owned _ _ _ _ (frame ▸ resident)).1
        dsimp only
        rw [visited'.lookup_eq_none owned fresh fresh']
        dsimp only
        rw [if_neg (not_not.2 owned)]
        exact Returns.pure ⟨_, rfl, visited'.claim owned⟩
    · intro c visited'
      rw [List.map_append, List.map_singleton]
      exact Returns.pure ⟨c, rfl, visited'.leave⟩

variable {t : FrameTable} {r : Nat → Nat → Option (Option Nat × Bool)}

/-- Two present pages in one frame are the same page of the same process. -/
theorem FramesAgree.present_unique (agree : FramesAgree t r) {pid pid' page page' f : Nat}
    {l l' : Bool} (first : r pid page = some (some f, l)) (second : r pid' page' = some (some f, l')) :
    pid = pid' ∧ page = page' := by
  have owner := (agree.present_owned _ _ _ _ first).1
  rw [(agree.present_owned _ _ _ _ second).1, Option.some.injEq, FrameOwner.mk.injEq] at owner
  exact ⟨owner.1.symm, owner.2.symm⟩

/-! ## Counting frames -/

/-- Whether a page holds a frame: it is in memory, or a load into a frame is in flight. -/
def holdsFrame (e : PageEntry) : Bool := e.isPresent || e.loading

/-- The pages of the live processes that hold a frame, by pid and then by page. -/
def heldPages (s : Scheduler) : List FrameOwner :=
  s.table.values.flatMap fun cb =>
    (cb.pageTable.pages.filter fun x => holdsFrame x.2).map fun x => ⟨cb.pid, x.1⟩

/-- The pages that hold a frame are as many as the entries that hold one, over the live processes.
-/
theorem length_heldPages (s : Scheduler) :
    (heldPages s).length =
      (s.table.values.map fun cb => cb.pageTable.entries.countP holdsFrame).sum := by
  unfold heldPages
  rw [List.length_flatMap]
  congr 1
  apply List.map_congr_left
  intro cb _
  rw [List.length_map, ← List.countP_eq_length_filter, ← Array.countP_toList,
    ← cb.pageTable.pages_map_snd, List.countP_map]
  rfl

/-- A page is listed as holding a frame exactly when its entry holds one. -/
theorem mem_heldPages (wf : s.TableWF) (o : FrameOwner) :
    o ∈ heldPages s ↔ ∃ e, entry? s o.pid o.page = some e ∧ holdsFrame e = true := by
  unfold heldPages entry?
  simp only [List.mem_flatMap, List.mem_map, List.mem_filter]
  constructor
  · rintro ⟨cb, here, ⟨page, e⟩, ⟨mem, held⟩, rfl⟩
    refine ⟨e, ?_, held⟩
    rw [wf.get?_of_mem_values here, Option.bind_some]
    exact PageTable.mem_pages.1 mem
  · rintro ⟨e, found, held⟩
    obtain ⟨cb, live, entry⟩ := Option.bind_eq_some_iff.1 found
    refine ⟨cb, List.mem_map_of_mem (f := Prod.snd) (PidMap.mem_of_find? live), ⟨o.page, e⟩,
      ⟨PageTable.mem_pages.2 entry, held⟩, ?_⟩
    rw [wf.pid_eq live]

/-- No page is listed twice as holding a frame. -/
theorem nodup_heldPages (wf : s.TableWF) : (heldPages s).Nodup := by
  unfold heldPages
  rw [List.nodup_flatMap]
  constructor
  · intro cb _
    -- within one process the pages differ, so the owners built from them do
    have pages : ((cb.pageTable.pages.filter fun x => holdsFrame x.2).map Prod.fst).Nodup :=
      cb.pageTable.nodup_pages.sublist ((List.filter_sublist).map Prod.fst)
    have split : ((cb.pageTable.pages.filter fun x => holdsFrame x.2).map
          fun x => (⟨cb.pid, x.1⟩ : FrameOwner)) =
        ((cb.pageTable.pages.filter fun x => holdsFrame x.2).map Prod.fst).map
          (FrameOwner.mk cb.pid) := by
      rw [List.map_map]
      rfl
    rw [split]
    exact pages.map fun _ _ same => (FrameOwner.mk.inj same).2
  · refine (List.pairwise_map.1 wf.nodup_pids).imp fun {cb cb'} differ => ?_
    simp only [Function.onFun, List.disjoint_left, List.mem_map]
    rintro _ ⟨x, -, rfl⟩ ⟨y, -, same⟩
    exact differ (FrameOwner.mk.inj same).1.symm

/-- A page is resident with a frame or a load in flight exactly when its entry holds a frame. -/
theorem residency_held_iff (pid page : Nat) :
    (∃ fr l, residency s pid page = some (fr, l) ∧ (fr.isSome || l) = true) ↔
      ∃ e, entry? s pid page = some e ∧ holdsFrame e = true := by
  unfold residency
  constructor
  · rintro ⟨fr, l, resident, held⟩
    obtain ⟨e, found, same⟩ := Option.map_eq_some_iff.1 resident
    obtain ⟨rfl, rfl⟩ := Prod.mk.inj same
    exact ⟨e, found, held⟩
  · rintro ⟨e, found, held⟩
    exact ⟨e.frame, e.loading, by rw [found, Option.map_some], held⟩

/-- A page owns a frame exactly when it is present or loading. -/
theorem FramesAgree.owned_iff (agree : FramesAgree t r) (o : FrameOwner) :
    (∃ f, t.owner f = some o) ↔
      ∃ fr l, r o.pid o.page = some (fr, l) ∧ (fr.isSome || l) = true := by
  constructor
  · rintro ⟨f, owned⟩
    rcases agree.owner_resident f o owned with ⟨present, -⟩ | ⟨loading, -⟩
    · exact ⟨some f, false, present, rfl⟩
    · exact ⟨none, true, loading, rfl⟩
  · rintro ⟨fr, l, resident, held⟩
    cases fr with
    | some f => exact ⟨f, (agree.present_owned _ _ f l resident).1⟩
    | none =>
      have loading : l = true := by simpa using held
      subst loading
      exact agree.loading_owns _ _ resident

/-- Under the agreement no present page is also loading. -/
theorem FramesAgree.not_loading_of_present (agree : FramesAgree t (residency s)) (wf : s.TableWF)
    {cb : ControlBlock} (here : cb ∈ s.table.values) {e : PageEntry}
    (mem : e ∈ cb.pageTable.entries.toList) (present : e.isPresent = true) : e.loading = false := by
  rw [← cb.pageTable.pages_map_snd, List.mem_map] at mem
  obtain ⟨⟨page, e⟩, mem, rfl⟩ := mem
  obtain ⟨f, frame⟩ := Option.isSome_iff_exists.1 present
  dsimp only at frame ⊢
  have resident := residency_of_mem_pages wf here mem
  rw [frame] at resident
  exact (agree.present_owned _ _ _ _ resident).2

/-- Every frame is free or held by exactly one present or loading page of a live process. -/
theorem FramesAgree.freeCount_add_held (agree : FramesAgree t (residency s)) (wf : s.TableWF) :
    t.freeCount + (s.table.values.map fun cb =>
      cb.pageTable.presentPages + cb.pageTable.entries.countP (·.loading)).sum = t.size := by
  have perm : t.holders.Perm (heldPages s) := by
    rw [List.perm_ext_iff_of_nodup (FrameTable.nodup_holders agree.owner_unique)
      (nodup_heldPages wf)]
    intro o
    rw [FrameTable.mem_holders, agree.owned_iff, mem_heldPages wf, residency_held_iff]
  have split : ∀ cb ∈ s.table.values, cb.pageTable.entries.countP holdsFrame =
      cb.pageTable.presentPages + cb.pageTable.entries.countP (·.loading) := by
    intro cb here
    unfold holdsFrame PageTable.presentPages
    rw [← Array.countP_toList, ← Array.countP_toList, ← Array.countP_toList]
    refine countP_or_of_disjoint _ fun e mem both => ?_
    have idle := agree.not_loading_of_present wf here mem both.1
    simp [idle] at both
  rw [← List.map_congr_left split, ← length_heldPages, ← perm.length_eq]
  exact t.freeCount_add_length_holders

end MemoryManager

end PagedMachine
