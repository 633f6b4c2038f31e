import PagedMachine.Task.Scheduler
import Mathlib.Data.List.Nodup

/-!
# The process table

The scheduler keeps its control blocks in a `PidMap`, sorted by pid with each pid at most
once, and a control block always sits under its own pid. This module states that shape as
`Scheduler.TableWF`, shows that every way the table is changed keeps it, and gives the
lookup laws the invariants of later modules are proved through: what `get?` and `contains`
return after an insert, a change of one control block, a transition or an erase, and how the
sorted pid lists of blocked and released processes behave under `insertPid` and `erase`.
-/

namespace PagedMachine

namespace PidMap

variable {α : Type}

/-- Updating the values under `k` changes the lookup of `k` alone, by `f`. -/
theorem find?_map_update (k q : Nat) (f : α → α) (es : List (Nat × α)) :
    ((es.map fun (e : Nat × α) => if e.1 = k then (e.1, f e.2) else (e.1, e.2)).find?
        (·.1 == q)).map (·.2) =
      if k = q then ((es.find? (·.1 == q)).map (·.2)).map f else (es.find? (·.1 == q)).map (·.2) := by
  induction es with
  | nil => simp
  | cons e rest ih =>
    obtain ⟨k', v⟩ := e
    by_cases hq : k' = q
    · subst hq
      by_cases hk : k' = k
      · subst hk
        simp
      · simp [hk, Ne.symm hk]
    · have key : (if k' = k then (k', f v) else (k', v)).1 = k' := by split <;> rfl
      have differ : (k' == q) = false := by simpa using hq
      simp only [List.map_cons, List.find?_cons, key, differ]
      exact ih

/-- Changing the value of `k` changes what a lookup of `k` finds and nothing else. -/
theorem find?_modify (m : PidMap α) (k q : Nat) (f : α → α) :
    (m.modify k f).find? q = if k = q then (m.find? q).map f else m.find? q := by
  unfold find? modify
  rw [← find?_map_update k q f m.entries]

/-- A key is held exactly when looking it up finds a value. -/
theorem contains_eq_isSome (m : PidMap α) (k : Nat) : m.contains k = (m.find? k).isSome := by
  unfold contains find?
  rw [Option.isSome_map]
  apply Bool.eq_iff_iff.2
  rw [List.any_eq_true, List.find?_isSome]

/-- A lookup finds an entry of the map under the key it was asked for. -/
theorem mem_of_find? {m : PidMap α} {k : Nat} {v : α} (found : m.find? k = some v) :
    (k, v) ∈ m.entries := by
  unfold find? at found
  obtain ⟨e, he, rfl⟩ := Option.map_eq_some_iff.1 found
  have key := List.find?_some he
  simp only [beq_iff_eq] at key
  rw [← key]
  exact List.mem_of_find?_eq_some he

/-- In entries sorted by key, looking up a key finds the value stored with it. -/
theorem find?_of_mem_entries {k : Nat} {v : α} (es : List (Nat × α))
    (sorted : (es.map (·.1)).Pairwise (· < ·)) (mem : (k, v) ∈ es) :
    (es.find? (·.1 == k)).map (·.2) = some v := by
  induction es with
  | nil => simp at mem
  | cons e rest ih =>
    obtain ⟨k', v'⟩ := e
    simp only [List.map_cons, List.pairwise_cons, List.mem_map] at sorted
    rcases List.mem_cons.1 mem with same | later
    · cases same
      simp
    · have larger : k' < k := sorted.1 k ⟨(k, v), later, rfl⟩
      have differ : (k' == k) = false := by simp; omega
      simp only [List.find?_cons, differ]
      exact ih sorted.2 later

/-- In a sorted map the entry under a key is the one a lookup finds. -/
theorem find?_of_mem {m : PidMap α} (sorted : m.Sorted) {k : Nat} {v : α}
    (mem : (k, v) ∈ m.entries) : m.find? k = some v :=
  find?_of_mem_entries m.entries sorted mem

/-- Erasing a key keeps the map sorted. -/
theorem Sorted.erase {m : PidMap α} (sorted : m.Sorted) (k : Nat) : (m.erase k).Sorted := by
  unfold Sorted keys PidMap.erase at *
  exact sorted.sublist (List.filter_sublist.map _)

/-- Changing the value under a key keeps the map sorted. -/
theorem Sorted.modify {m : PidMap α} (sorted : m.Sorted) (k : Nat) (f : α → α) :
    (m.modify k f).Sorted := by
  unfold Sorted keys PidMap.modify at *
  have same : (m.entries.map fun (e : Nat × α) =>
      if e.1 = k then (e.1, f e.2) else (e.1, e.2)).map (·.1) = m.entries.map (·.1) := by
    simp only [List.map_map]
    congr 1
    funext e
    show (if e.1 = k then (e.1, f e.2) else (e.1, e.2)).1 = e.1
    split <;> rfl
  rw [same]
  exact sorted

end PidMap

/-- The pids of a sorted list, with `p` added. -/
theorem mem_insertPid (p x : Nat) (l : List Nat) : x ∈ insertPid p l ↔ x = p ∨ x ∈ l := by
  induction l with
  | nil => simp [insertPid]
  | cons q rest ih =>
    unfold insertPid
    split
    · simp
    · split
      · rename_i same
        subst same
        simp only [List.mem_cons]
        constructor
        · intro h; exact .inr h
        · rintro (h | h)
          · exact .inl h
          · exact h
      · simp only [List.mem_cons, ih]
        exact or_left_comm

/-- Inserting into a strictly increasing list keeps it strictly increasing. -/
theorem insertPid_sorted (p : Nat) {l : List Nat} (sorted : l.Pairwise (· < ·)) :
    (insertPid p l).Pairwise (· < ·) := by
  induction l with
  | nil => simp [insertPid]
  | cons q rest ih =>
    simp only [List.pairwise_cons] at sorted
    unfold insertPid
    split
    · rename_i smaller
      simp only [List.pairwise_cons, List.mem_cons]
      refine ⟨?_, sorted.1, sorted.2⟩
      rintro x (rfl | hx)
      · exact smaller
      · exact Nat.lt_trans smaller (sorted.1 x hx)
    · split
      · simp only [List.pairwise_cons]
        exact sorted
      · simp only [List.pairwise_cons]
        refine ⟨?_, ih sorted.2⟩
        intro x hx
        rcases (mem_insertPid p x rest).1 hx with rfl | hx
        · omega
        · exact sorted.1 x hx

/-- In a strictly increasing list `erase` removes exactly the one pid. -/
theorem mem_erase_of_sorted {l : List Nat} (sorted : l.Pairwise (· < ·)) (p x : Nat) :
    x ∈ l.erase p ↔ x ≠ p ∧ x ∈ l :=
  List.Nodup.mem_erase_iff (sorted.imp Nat.ne_of_lt)

/-- A loop whose body yields at every element ends without an error. The audits are such
loops over the table. -/
theorem forIn_eq_pure {ε α : Type} (xs : List α) (body : α → PUnit → Except ε (ForInStep PUnit))
    (yields : ∀ x ∈ xs, body x () = pure (.yield ())) : forIn xs () body = pure () := by
  induction xs with
  | nil => rfl
  | cons x rest ih =>
    rw [List.forIn_cons, yields x List.mem_cons_self]
    exact ih fun y mem => yields y (List.mem_cons_of_mem x mem)

namespace Scheduler

/-- The table is sorted by pid and every control block sits under its own pid. -/
structure TableWF (s : Scheduler) : Prop where
  sorted : s.table.Sorted
  keyed : ∀ e ∈ s.table.entries, e.2.pid = e.1

variable {s : Scheduler}

/-- A pid is live exactly when the table has a control block for it. -/
theorem contains_iff (s : Scheduler) (pid : Nat) :
    s.contains pid = true ↔ ∃ cb, s.get? pid = some cb := by
  unfold contains get?
  rw [PidMap.contains_eq_isSome, Option.isSome_iff_exists]

/-- A pid with a control block is live. -/
theorem contains_of_get? {pid : Nat} {cb : ControlBlock} (found : s.get? pid = some cb) :
    s.contains pid = true :=
  (contains_iff s pid).2 ⟨cb, found⟩

/-- A live pid has a control block. -/
theorem get?_of_contains {pid : Nat} (live : s.contains pid = true) :
    ∃ cb, s.get? pid = some cb :=
  (contains_iff s pid).1 live

/-- A control block is found under its own pid. -/
theorem TableWF.pid_eq (wf : s.TableWF) {pid : Nat} {cb : ControlBlock}
    (found : s.get? pid = some cb) : cb.pid = pid :=
  wf.keyed _ (PidMap.mem_of_find? found)

/-- Every control block of the table is the one found under its pid. -/
theorem TableWF.get?_of_mem_values (wf : s.TableWF) {cb : ControlBlock}
    (mem : cb ∈ s.table.values) : s.get? cb.pid = some cb := by
  unfold PidMap.values at mem
  obtain ⟨⟨k, v⟩, he, rfl⟩ := List.mem_map.1 mem
  have key : v.pid = k := wf.keyed _ he
  rw [key]
  exact PidMap.find?_of_mem wf.sorted he

/-- A lookup in a scheduler built field by field reads its table. -/
@[simp] theorem get?_mk (t : PidMap ControlBlock) (ready blocked : List Nat) (running : Option Nat)
    (autoSchedule : Bool) (released : List Nat) (log : TransitionLog) (cpu : Cpu) (q : Nat) :
    (Scheduler.mk t ready blocked running autoSchedule released log cpu).get? q = t.find? q := rfl

/-- Looking a pid up in the table is `get?`. -/
@[simp] theorem find?_table (q : Nat) : s.table.find? q = s.get? q := rfl

/-- A scheduler built from a table holds the pids of that table. -/
@[simp] theorem contains_mk (t : PidMap ControlBlock) (ready blocked : List Nat)
    (running : Option Nat) (autoSchedule : Bool) (released : List Nat) (log : TransitionLog)
    (cpu : Cpu) (q : Nat) :
    (Scheduler.mk t ready blocked running autoSchedule released log cpu).contains q =
      t.contains q := rfl

/-- The table holds exactly the live pids. -/
@[simp] theorem contains_table (q : Nat) : s.table.contains q = s.contains q := rfl

/-- Inserting a control block puts it under its pid and leaves every other pid. -/
@[simp] theorem get?_insert (cb : ControlBlock) (q : Nat) :
    (s.insert cb).get? q = if cb.pid = q then some cb else s.get? q :=
  PidMap.find?_insert _ _ _ _

/-- Changing one control block changes the lookup of its pid alone. -/
@[simp] theorem get?_modify (pid q : Nat) (f : ControlBlock → ControlBlock) :
    (s.modify pid f).get? q = if pid = q then (s.get? q).map f else s.get? q :=
  PidMap.find?_modify _ _ _ _

/-- A transition changes the status of its process and no other control block. -/
@[simp] theorem get?_transition (pid q : Nat) (c : Cause) (t : TaskStatus) :
    (s.transition pid c t).get? q =
      if pid = q then (s.get? q).map ({ · with status := t }) else s.get? q := by
  unfold transition
  split
  · rename_i cb found
    by_cases same : pid = q
    · subst same
      simp only [get?, PidMap.find?_insert, if_true]
      rw [show s.table.find? pid = some cb from found]
      rfl
    · simp [same]
  · rename_i missing
    by_cases same : pid = q
    · subst same
      simp [missing]
    · simp [same]

/-- A status change keeps the live pids. -/
@[simp] theorem contains_transition (pid q : Nat) (c : Cause) (t : TaskStatus) :
    (s.transition pid c t).contains q = s.contains q := by
  apply Bool.eq_iff_iff.2
  rw [contains_iff, contains_iff, get?_transition]
  by_cases same : pid = q
  · simp [same]
  · simp [same]

/-- Changing a control block keeps the live pids. -/
@[simp] theorem contains_modify (pid q : Nat) (f : ControlBlock → ControlBlock) :
    (s.modify pid f).contains q = s.contains q := by
  apply Bool.eq_iff_iff.2
  rw [contains_iff, contains_iff, get?_modify]
  by_cases same : pid = q
  · simp [same]
  · simp [same]

/-- A status change leaves the blocked set. -/
@[simp] theorem transition_blocked (pid : Nat) (c : Cause) (t : TaskStatus) :
    (s.transition pid c t).blocked = s.blocked := by
  unfold transition; split <;> rfl

/-- A status change leaves the released processes. -/
@[simp] theorem transition_released (pid : Nat) (c : Cause) (t : TaskStatus) :
    (s.transition pid c t).released = s.released := by
  unfold transition; split <;> rfl

/-- A status change leaves automatic scheduling as it was. -/
@[simp] theorem transition_autoSchedule (pid : Nat) (c : Cause) (t : TaskStatus) :
    (s.transition pid c t).autoSchedule = s.autoSchedule := by
  unfold transition; split <;> rfl

/-- A status change leaves the processor. -/
@[simp] theorem transition_cpu (pid : Nat) (c : Cause) (t : TaskStatus) :
    (s.transition pid c t).cpu = s.cpu := by
  unfold transition; split <;> rfl

/-- Changing a control block leaves the ready queue. -/
@[simp] theorem modify_ready (pid : Nat) (f : ControlBlock → ControlBlock) :
    (s.modify pid f).ready = s.ready := rfl

/-- Changing a control block leaves the blocked set. -/
@[simp] theorem modify_blocked (pid : Nat) (f : ControlBlock → ControlBlock) :
    (s.modify pid f).blocked = s.blocked := rfl

/-- Changing a control block leaves the running process. -/
@[simp] theorem modify_running (pid : Nat) (f : ControlBlock → ControlBlock) :
    (s.modify pid f).running = s.running := rfl

/-- Changing a control block leaves the released processes. -/
@[simp] theorem modify_released (pid : Nat) (f : ControlBlock → ControlBlock) :
    (s.modify pid f).released = s.released := rfl

/-- Changing a control block leaves the processor. -/
@[simp] theorem modify_cpu (pid : Nat) (f : ControlBlock → ControlBlock) :
    (s.modify pid f).cpu = s.cpu := rfl

/-- Inserting a control block leaves the ready queue. -/
@[simp] theorem insert_ready (cb : ControlBlock) : (s.insert cb).ready = s.ready := rfl

/-- Inserting a control block leaves the blocked set. -/
@[simp] theorem insert_blocked (cb : ControlBlock) : (s.insert cb).blocked = s.blocked := rfl

/-- Inserting a control block leaves the running process. -/
@[simp] theorem insert_running (cb : ControlBlock) : (s.insert cb).running = s.running := rfl

/-- Inserting a control block leaves the released processes. -/
@[simp] theorem insert_released (cb : ControlBlock) : (s.insert cb).released = s.released := rfl

/-- A pid is live exactly when its lookup finds a control block. -/
theorem contains_eq_isSome (s : Scheduler) (q : Nat) : s.contains q = (s.get? q).isSome :=
  PidMap.contains_eq_isSome _ _

/-- After an insert the live pids are the old ones and the inserted one. -/
@[simp] theorem contains_insert (cb : ControlBlock) (q : Nat) :
    (s.insert cb).contains q = (decide (cb.pid = q) || s.contains q) := by
  rw [contains_eq_isSome, contains_eq_isSome, get?_insert]
  by_cases same : cb.pid = q
  · simp [same]
  · simp [same]

/-- A sorted table whose lookups find control blocks under their own pids is well formed. -/
theorem TableWF.of_get? (sorted : s.table.Sorted)
    (keyed : ∀ pid cb, s.get? pid = some cb → cb.pid = pid) : s.TableWF :=
  ⟨sorted, fun e he => keyed e.1 e.2 (PidMap.find?_of_mem sorted he)⟩

/-- Inserting a control block keeps the table well formed. -/
theorem TableWF.insert (wf : s.TableWF) (cb : ControlBlock) : (s.insert cb).TableWF := by
  apply TableWF.of_get? (PidMap.sorted_insert _ _ _ wf.sorted)
  intro pid cb' found
  rw [get?_insert] at found
  split at found
  · rename_i same
    rw [← Option.some.inj found, same]
  · exact wf.pid_eq found

/-- A change that keeps every control block's pid keeps the table well formed. -/
theorem TableWF.modify (wf : s.TableWF) (pid : Nat) (f : ControlBlock → ControlBlock)
    (keeps_pid : ∀ cb, (f cb).pid = cb.pid) : (s.modify pid f).TableWF := by
  apply TableWF.of_get? (wf.sorted.modify pid f)
  intro q cb found
  rw [get?_modify] at found
  split at found
  · obtain ⟨cb', found', rfl⟩ := Option.map_eq_some_iff.1 found
    rw [keeps_pid, wf.pid_eq found']
  · exact wf.pid_eq found

/-- A status change keeps the table well formed. -/
theorem TableWF.transition (wf : s.TableWF) (pid : Nat) (c : Cause) (t : TaskStatus) :
    (s.transition pid c t).TableWF := by
  have sorted : (s.transition pid c t).table.Sorted := by
    unfold Scheduler.transition
    split
    · exact PidMap.sorted_insert _ _ _ wf.sorted
    · exact wf.sorted
  apply TableWF.of_get? sorted
  intro q cb found
  rw [get?_transition] at found
  split at found
  · obtain ⟨cb', found', rfl⟩ := Option.map_eq_some_iff.1 found
    exact (wf.pid_eq found' :)
  · exact wf.pid_eq found

/-- Erasing a pid keeps the table well formed. -/
theorem TableWF.erase (wf : s.TableWF) (pid : Nat) :
    ({ s with table := s.table.erase pid } : Scheduler).TableWF := by
  constructor
  · exact wf.sorted.erase pid
  · intro e he
    exact wf.keyed e (List.mem_of_mem_filter he)

variable {β : Type}

/-- Two schedulers whose live processes read the same through `f`: the same pids, and
control blocks that `f` cannot tell apart. -/
def SameOn (f : ControlBlock → β) (s s' : Scheduler) : Prop :=
  ∀ q, (s'.get? q).map f = (s.get? q).map f

/-- A scheduler reads the same as itself through any view. -/
theorem SameOn.refl (f : ControlBlock → β) (s : Scheduler) : SameOn f s s := fun _ => rfl

/-- Reading the same through a view is transitive. -/
theorem SameOn.trans {f : ControlBlock → β} {s₁ s₂ s₃ : Scheduler} (first : SameOn f s₁ s₂)
    (second : SameOn f s₂ s₃) : SameOn f s₁ s₃ :=
  fun q => (second q).trans (first q)

/-- What a view cannot tell apart, no view of that view can. -/
theorem SameOn.comp {f : ControlBlock → β} {s' : Scheduler} {γ : Type} (same : SameOn f s s')
    (g : β → γ) : SameOn (g ∘ f) s s' := by
  intro q
  rw [← Option.map_map, ← Option.map_map, same q]

/-- The same change made on both sides keeps a view the same, when the change reads the view
only. -/
theorem SameOn.modify {f : ControlBlock → β} {s' : Scheduler} (same : SameOn f s s') (pid : Nat)
    (g : ControlBlock → ControlBlock) (h : β → β) (through : ∀ cb, f (g cb) = h (f cb)) :
    SameOn f (s.modify pid g) (s'.modify pid g) := by
  intro q
  rw [get?_modify, get?_modify]
  split
  · have composed : f ∘ g = h ∘ f := funext through
    rw [Option.map_map, Option.map_map, composed, ← Option.map_map, ← Option.map_map, same q]
  · exact same q

/-- Schedulers that read the same through a view have the same live pids. -/
theorem SameOn.contains_eq {f : ControlBlock → β} {s' : Scheduler} (same : SameOn f s s')
    (q : Nat) : s'.contains q = s.contains q := by
  rw [contains_eq_isSome, contains_eq_isSome, ← Option.isSome_map (f := f), same q,
    Option.isSome_map]

/-- A change to one control block that a view cannot see keeps the scheduler the same through it. -/
theorem sameOn_modify {f : ControlBlock → β} (pid : Nat) (g : ControlBlock → ControlBlock)
    (keeps : ∀ cb, f (g cb) = f cb) : SameOn f s (s.modify pid g) := by
  intro q
  rw [get?_modify]
  split
  · rw [Option.map_map]
    exact Option.map_congr fun cb _ => keeps cb
  · rfl

/-- A status change that a view cannot see keeps the scheduler the same through it. -/
theorem sameOn_transition {f : ControlBlock → β} (pid : Nat) (c : Cause) (t : TaskStatus)
    (keeps : ∀ cb : ControlBlock, f { cb with status := t } = f cb) :
    SameOn f s (s.transition pid c t) := by
  intro q
  rw [get?_transition]
  split
  · rw [Option.map_map]
    exact Option.map_congr fun cb _ => keeps cb
  · rfl

/-- Replacing a control block by one that `f` cannot tell from it. -/
theorem sameOn_insert {f : ControlBlock → β} (cb : ControlBlock)
    (replaces : (s.get? cb.pid).map f = some (f cb)) : SameOn f s (s.insert cb) := by
  intro q
  rw [get?_insert]
  split
  · rename_i same
    rw [← same, replaces]
    rfl
  · rfl

end Scheduler

end PagedMachine
