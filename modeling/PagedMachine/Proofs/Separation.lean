import PagedMachine.Proofs.Queues
import PagedMachine.MemoryManager

/-!
# What scheduling and paging leave to each other

A control block holds state of two kinds. Its status, saved context and reasons belong to
scheduling; its page table and a console value waiting for a page belong to paging. Each side
leaves the other's alone.

Scheduling operations read every control block through views that ignore the scheduling
fields (`Unscheduled`), so they never change a page table: frames and page tables are checked
against each other whatever is scheduled. Those that only move processes between queues
ignore the reasons too (`Unqueued`). Paging operations change only the process table,
and there no pid, status or reason (`Repaged`), so the queues stay placed whatever is paged in
or out (`QueuesAgree.of_repaged`).
-/

namespace PagedMachine

namespace Scheduler

variable {β : Type} {f : ControlBlock → β} {s : Scheduler}

/-- A view of a control block that queueing cannot change: it ignores the status and the saved
context. -/
structure Unqueued (f : ControlBlock → β) : Prop where
  ignores : ∀ (cb : ControlBlock) status context, f { cb with status, context } = f cb

/-- A view of a control block that scheduling cannot change: it ignores the status, the saved
context and the reasons. -/
structure Unscheduled (f : ControlBlock → β) : Prop where
  ignores : ∀ (cb : ControlBlock) status context blockedOn,
    f { cb with status, context, blockedOn } = f cb

/-- A view scheduling cannot change cannot be changed by queueing either. -/
theorem Unscheduled.unqueued (blind : Unscheduled f) : Unqueued f :=
  ⟨fun cb status context => blind.ignores cb status context cb.blockedOn⟩

/-- The page tables are such a view. -/
theorem unscheduled_pageTable : Unscheduled ControlBlock.pageTable :=
  ⟨fun _ _ _ _ => rfl⟩

/-- Dispatching changes only the status of the process it puts on the processor. -/
theorem Unqueued.dispatchNext (blind : Unqueued f) : SameOn f s s.dispatchNext.2 := by
  intro q
  unfold Scheduler.dispatchNext
  split
  · rfl
  · split
    · rfl
    · split
      · rfl
      · dsimp only
        split <;> simp only [get?_mk, find?_table, get?_transition] <;> split_ifs <;>
          simp [Option.map_map, Function.comp_def, blind.ignores]

/-- An expired slice saves a context and changes statuses, then dispatches. -/
theorem Unqueued.onTimerExpired (blind : Unqueued f) : SameOn f s s.onTimerExpired := by
  intro q
  unfold Scheduler.onTimerExpired
  rw [blind.dispatchNext q]
  cases running : s.running with
  | none => simp [takeRunning, running]
  | some pid =>
    simp only [takeRunning, running, get?_mk, find?_table, get?_transition, get?_modify]
    split_ifs <;> simp [Option.map_map, Function.comp_def, blind.ignores]

/-- Making a process ready changes its status alone. -/
theorem Unqueued.addToReady (blind : Unqueued f) (pid : Nat) (cause : Cause) :
    SameOn f s (s.addToReady pid cause) := by
  intro q
  unfold Scheduler.addToReady
  split
  · dsimp only
    split <;> simp only [get?_mk, find?_table, get?_transition] <;> split_ifs <;>
      simp [Option.map_map, Function.comp_def, blind.ignores]
  · rfl

/-- Releasing a process may make it ready, and changes nothing else in the table. -/
theorem Unqueued.release (blind : Unqueued f) (pid : Nat) : SameOn f s (s.release pid) := by
  intro q
  unfold Scheduler.release
  split
  · dsimp only
    split
    · exact blind.addToReady (s := { s with released := _ }) pid .created q
    · rfl
  · rfl

/-- Blocking the running process is, for a view that ignores statuses and contexts, adding the
reasons to it. -/
theorem Unqueued.blockRunning (blind : Unqueued f) {pid : Nat} (running : s.running = some pid)
    (reason : BlockReason) (cause : Cause) :
    SameOn f (s.modify pid fun cb => { cb with blockedOn := cb.blockedOn.union reason })
      (s.blockRunning reason cause) := by
  intro q
  unfold Scheduler.blockRunning
  rw [blind.dispatchNext q]
  simp only [takeRunning, running, get?_mk, find?_table, get?_transition, get?_modify]
  split_ifs
  · simp only [Option.map_map, Function.comp_def]
    exact Option.map_congr fun x _ =>
      blind.ignores { x with blockedOn := x.blockedOn.union reason } _ _
  · rfl

/-- Blocking a process that is not running is, for such a view, adding the reasons to it. -/
theorem Unqueued.block (blind : Unqueued f) {pid : Nat} (idle : s.running ≠ some pid)
    (reason : BlockReason) (cause : Cause) :
    SameOn f (s.modify pid fun cb => { cb with blockedOn := cb.blockedOn.union reason })
      (s.block pid reason cause) := by
  intro q
  unfold Scheduler.block
  rw [if_neg idle]
  split
  · rename_i missing
    simp only [get?_modify]
    split_ifs with same
    · rw [← same, missing]
      rfl
    · rfl
  · dsimp only
    split
    · -- a ready process leaves the queue and is recorded blocked
      simp only [get?_mk, find?_table, get?_transition, get?_modify]
      split_ifs
      · simp only [Option.map_map, Function.comp_def]
        exact Option.map_congr fun x _ =>
          blind.ignores { x with blockedOn := x.blockedOn.union reason } _ _
      · rfl
    · rfl

/-- Clearing reasons is, for such a view, removing them from the process. -/
theorem Unqueued.unblock (blind : Unqueued f) (pid : Nat) (reason : BlockReason) (cause : Cause) :
    SameOn f (s.modify pid fun cb => { cb with blockedOn := cb.blockedOn.diff reason })
      (s.unblock pid reason cause).2 := by
  intro q
  unfold Scheduler.unblock
  split
  · rename_i missing
    simp only [get?_modify]
    split_ifs with same
    · rw [← same, missing]
      rfl
    · rfl
  · rename_i cb found
    dsimp only
    split
    · simp only [get?_modify]
      split_ifs with same
      · subst same
        rw [found]
        rfl
      · rfl
    · rw [blind.addToReady pid cause q, get?_modify, get?_modify]
      split_ifs with same
      · subst same
        rw [found]
        rfl
      · rfl

/-- A dispatch keeps the scheduler the same through a view scheduling cannot change. -/
theorem Unscheduled.dispatchNext (blind : Unscheduled f) : SameOn f s s.dispatchNext.2 :=
  blind.unqueued.dispatchNext

/-- A time slice running out keeps the scheduler the same through a view scheduling cannot change.
-/
theorem Unscheduled.onTimerExpired (blind : Unscheduled f) : SameOn f s s.onTimerExpired :=
  blind.unqueued.onTimerExpired

/-- Blocking the running process saves its context and adds reasons, then dispatches. -/
theorem Unscheduled.blockRunning (blind : Unscheduled f) (reason : BlockReason) (cause : Cause) :
    SameOn f s (s.blockRunning reason cause) := by
  intro q
  unfold Scheduler.blockRunning
  rw [blind.dispatchNext q]
  cases running : s.running with
  | none => simp [takeRunning, running]
  | some pid =>
    simp only [takeRunning, running, get?_mk, find?_table, get?_transition, get?_modify]
    split_ifs <;>
      simp [Option.map_map, Function.comp_def, blind.ignores]

/-- Queueing a process as ready keeps the scheduler the same through a view scheduling cannot
change. -/
theorem Unscheduled.addToReady (blind : Unscheduled f) (pid : Nat) (cause : Cause) :
    SameOn f s (s.addToReady pid cause) :=
  blind.unqueued.addToReady pid cause

/-- Blocking a process that is not running adds reasons and may change its status. -/
theorem Unscheduled.block (blind : Unscheduled f) (pid : Nat) (reason : BlockReason)
    (cause : Cause) : SameOn f s (s.block pid reason cause) := by
  intro q
  unfold Scheduler.block
  split
  · rfl
  · split
    · rfl
    · dsimp only
      split <;> simp only [get?_mk, find?_table, get?_transition, get?_modify] <;> split_ifs <;>
        simp [Option.map_map, Function.comp_def, blind.ignores]

/-- Clearing a reason changes reasons and may make the process ready. -/
theorem Unscheduled.unblock (blind : Unscheduled f) (pid : Nat) (reason : BlockReason)
    (cause : Cause) : SameOn f s (s.unblock pid reason cause).2 := by
  intro q
  unfold Scheduler.unblock
  split
  · rfl
  · dsimp only
    split
    · simp only [get?_modify]
      split_ifs <;> simp [Option.map_map, Function.comp_def, blind.ignores]
    · rw [blind.addToReady pid cause q, get?_modify]
      split_ifs <;> simp [Option.map_map, Function.comp_def, blind.ignores]

/-- Releasing a process keeps the scheduler the same through a view scheduling cannot change. -/
theorem Unscheduled.release (blind : Unscheduled f) (pid : Nat) : SameOn f s (s.release pid) :=
  blind.unqueued.release pid

/-- Removing a process drops its control block and no other. -/
theorem get?_removeProcess (pid q : Nat) (cause : Cause) :
    (s.removeProcess pid cause).2.get? q = if pid = q then none else s.get? q := by
  unfold Scheduler.removeProcess
  split
  · by_cases same : pid = q <;> simp [same]
  · rename_i missing
    split_ifs with same
    · subst same
      simpa [contains_eq_isSome] using missing
    · rfl


/-- Removing a process hands back its control block, marked terminated. -/
theorem fst_removeProcess (pid : Nat) (cause : Cause) :
    (s.removeProcess pid cause).1 = (s.get? pid).map fun cb => { cb with status := .terminated } := by
  unfold Scheduler.removeProcess
  split
  · simp
  · rename_i missing
    have absent : s.get? pid = none := by simpa [contains_eq_isSome] using missing
    rw [absent]
    rfl

/-- After a removal the live pids are the old ones less the one removed. -/
@[simp] theorem contains_removeProcess (pid q : Nat) (cause : Cause) :
    (s.removeProcess pid cause).2.contains q = (decide (pid ≠ q) && s.contains q) := by
  rw [contains_eq_isSome, contains_eq_isSome, get?_removeProcess]
  by_cases same : pid = q
  · simp [same]
  · simp [same]

/-- `s'` is `s` after paging: only the table changed, every process is still there with its
status and reasons, and a well-formed table stays well formed. -/
structure Repaged (s s' : Scheduler) : Prop where
  only_table : ∃ t, s' = { s with table := t }
  same_standing : SameOn standing s s'
  keyed : s.TableWF → s'.TableWF

/-- A scheduler is itself after paging. -/
theorem Repaged.refl (s : Scheduler) : Repaged s s :=
  ⟨⟨s.table, rfl⟩, .refl _ _, id⟩

/-- Paging after paging is paging. -/
theorem Repaged.trans {s₁ s₂ s₃ : Scheduler} (first : Repaged s₁ s₂) (second : Repaged s₂ s₃) :
    Repaged s₁ s₃ := by
  refine ⟨?_, first.same_standing.trans second.same_standing, second.keyed ∘ first.keyed⟩
  obtain ⟨t₁, rfl⟩ := first.only_table
  obtain ⟨t₂, rfl⟩ := second.only_table
  exact ⟨t₂, rfl⟩

/-- Changing a control block in what paging owns, its pid, status and reasons kept. -/
theorem Repaged.modify (pid : Nat) (g : ControlBlock → ControlBlock)
    (keeps_pid : ∀ cb, (g cb).pid = cb.pid) (keeps : ∀ cb, standing (g cb) = standing cb) :
    Repaged s (s.modify pid g) :=
  ⟨⟨_, rfl⟩, sameOn_modify pid g keeps, fun wf => wf.modify pid g keeps_pid⟩

/-- Replacing a control block by one with the same pid, status and reasons. -/
theorem Repaged.insert (cb : ControlBlock) {cb' : ControlBlock} (found : s.get? cb'.pid = some cb)
    (keeps : standing cb' = standing cb) : Repaged s (s.insert cb') :=
  ⟨⟨_, rfl⟩, sameOn_insert cb' (by rw [found, Option.map_some, keeps]), fun wf => wf.insert cb'⟩

/-- Paging leaves the processor alone. -/
theorem Repaged.running_eq {s' : Scheduler} (repaged : Repaged s s') : s'.running = s.running := by
  obtain ⟨t, rfl⟩ := repaged.only_table
  rfl

/-- A change made by paging keeps the queues agreeing. -/
theorem QueuesAgree.of_repaged {s' : Scheduler} (agree : s.QueuesAgree) (repaged : Repaged s s') :
    s'.QueuesAgree := by
  obtain ⟨t, rfl⟩ := repaged.only_table
  exact agree.of_sameOn (repaged.keyed agree.wf) repaged.same_standing rfl rfl rfl rfl

end Scheduler

namespace MemoryManager

open Scheduler

variable {s : Scheduler}

/-- Changing one page entry is paging. -/
theorem repaged_modifyEntry (pid vpn : Nat) (g : PageEntry → PageEntry) :
    Repaged s (modifyEntry s pid vpn g) :=
  Repaged.modify pid _ (fun _ => rfl) fun _ => rfl

/-- Evicting a frame marks its page absent in the owner's table. -/
theorem repaged_evict (mm : MemoryManager) (frame : Nat) : Repaged s (mm.evict s frame).2 := by
  unfold evict
  split
  · exact .refl s
  · dsimp only
    split
    · exact .refl s
    · exact repaged_modifyEntry _ _ _

/-- Starting a load may evict a page, then marks the page loading. -/
theorem repaged_startLoad (mm : MemoryManager) (pid vpn : Nat) :
    Repaged s (mm.startLoad s pid vpn).2.2 := by
  unfold startLoad
  simp only []
  split
  · exact .refl s
  · rename_i f mm' s' found
    have first : Repaged s s' := by
      split at found
      · cases found
        exact .refl s
      · split at found
        · cases found
        · cases found
          exact repaged_evict mm _
    split
    · exact first
    · split
      · exact first
      · exact first.trans (repaged_modifyEntry _ _ _)

/-- A translation touches a present page or starts a load, and changes nothing else. -/
theorem repaged_translate (mm : MemoryManager) (pid : Nat) (va : Int32) (write : Bool) :
    Repaged s (mm.translate s pid va write).2.2 := by
  unfold translate
  split
  · exact .refl s
  · dsimp only
    split
    · exact .refl s
    · split
      · exact repaged_modifyEntry _ _ _
      · split
        · exact .refl s
        · split
          all_goals
            rename_i started
            have started' := repaged_startLoad (s := s) mm.tick.2 pid (va.toInt.toNat / mm.pageSize)
            rw [started] at started'
            exact started'

/-- The scheduler a translation hands back is `s` after paging. -/
theorem repaged_of_translate {mm mm' : MemoryManager} {s' : Scheduler} {pid : Nat} {va : Int32}
    {write : Bool} {r : Except AccessFault Nat} (translated : mm.translate s pid va write = (r, mm', s')) :
    Repaged s s' := by
  have repaged := repaged_translate (s := s) mm pid va write
  rw [translated] at repaged
  exact repaged

/-- Bringing in the first page of a new process changes its page table alone. -/
theorem loadInitial_pageTable_only (mm : MemoryManager) (cb : ControlBlock) :
    ∃ pt, (mm.loadInitial cb).2.2 = { cb with pageTable := pt } := by
  unfold loadInitial
  split
  · exact ⟨cb.pageTable, rfl⟩
  · dsimp only
    split
    · exact ⟨_, rfl⟩
    · exact ⟨cb.pageTable, rfl⟩

/-- A completed load installs the page, and a console value waiting for it, in a control
block that keeps its pid, status and reasons. -/
theorem repaged_completeLoad (wf : s.TableWF) (mm : MemoryManager) (pid page frame : Nat)
    (data : List Word) : Repaged s (mm.completeLoad s pid page frame data).2.2 := by
  unfold completeLoad
  split
  · exact .refl s
  · dsimp only
    split
    · exact .refl s
    · rename_i cb found
      split
      · exact .refl s
      · have keyed := wf.pid_eq found
        split
        · split
          · exact Repaged.insert cb (by simpa [keyed] using found) rfl
          · exact Repaged.insert cb (by simpa [keyed] using found) rfl
        · exact Repaged.insert cb (by simpa [keyed] using found) rfl

/-- The scheduler a completed load hands back is `s` after paging. -/
theorem repaged_of_completeLoad {mm mm' : MemoryManager} {s' : Scheduler} {pid page frame : Nat}
    {data : List Word} {woken : Option Nat} (wf : s.TableWF)
    (loaded : mm.completeLoad s pid page frame data = (woken, mm', s')) : Repaged s s' := by
  have repaged := repaged_completeLoad wf mm pid page frame data
  rw [loaded] at repaged
  exact repaged

/-- A completed save records the slot of an absent page. -/
theorem repaged_completeSave (pid page slot : Nat) : Repaged s (completeSave s pid page slot) := by
  unfold completeSave
  split
  · split
    · exact repaged_modifyEntry _ _ _
    · exact .refl s
  · exact .refl s

end MemoryManager

end PagedMachine
