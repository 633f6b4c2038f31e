import PagedMachine.Proofs.Separation

/-!
# The context of each process across scheduling

The context of a process is the processor's while it runs and the one saved in its control
block otherwise (`Scheduler.contextOf`). Scheduling moves contexts between the two places:
taking a process off the processor saves the processor's context into its control block, and a
dispatch loads the saved context onto the processor. So scheduling never changes the context of
a process. `Scheduler.ContextsKept s s'` says so of a change from `s` to `s'`: every process live
after was live before, with the same context.

Main statements: a dispatch, an expired slice, blocking the running process and removing a
process keep every context (`ContextsKept.dispatchNext`, `ContextsKept.onTimerExpired`,
`ContextsKept.blockRunning`, `ContextsKept.removeProcess`), and so do the changes of status and
reasons around them.
-/

namespace PagedMachine

namespace Scheduler

variable {s s' s'' : Scheduler}

/-- Every process live in `s'` was live in `s`, with the same context. -/
def ContextsKept (s s' : Scheduler) : Prop :=
  ∀ q cb', s'.get? q = some cb' → ∃ cb, s.get? q = some cb ∧ s'.contextOf cb' = s.contextOf cb

/-- Doing nothing keeps every context. -/
theorem ContextsKept.refl (s : Scheduler) : ContextsKept s s := fun _ cb found => ⟨cb, found, rfl⟩

/-- Keeping every context is transitive. -/
theorem ContextsKept.trans (first : ContextsKept s s') (second : ContextsKept s' s'') :
    ContextsKept s s'' := fun q cb'' found'' => by
  obtain ⟨cb', found', same'⟩ := second q cb'' found''
  obtain ⟨cb, found, same⟩ := first q cb' found'
  exact ⟨cb, found, same'.trans same⟩

/-- A change that keeps which process runs, the processor's context, and the pid and saved
context of every process keeps every context. -/
theorem ContextsKept.of_table (running : s'.running = s.running)
    (cpu : s'.cpu.context = s.cpu.context)
    (table : ∀ q cb', s'.get? q = some cb' →
      ∃ cb, s.get? q = some cb ∧ cb'.pid = cb.pid ∧ cb'.context = cb.context) :
    ContextsKept s s' := fun q cb' found' => by
  obtain ⟨cb, found, pid, context⟩ := table q cb' found'
  refine ⟨cb, found, ?_⟩
  unfold contextOf
  rw [running, cpu, pid, context]

/-- A status change keeps every context. -/
theorem ContextsKept.transition (pid : Nat) (c : Cause) (t : TaskStatus) :
    ContextsKept s (s.transition pid c t) := by
  refine ContextsKept.of_table (transition_running s pid c t) (by rw [transition_cpu])
    fun q cb' found' => ?_
  rw [get?_transition] at found'
  split at found'
  · obtain ⟨cb, found, rfl⟩ := Option.map_eq_some_iff.1 found'
    exact ⟨cb, found, rfl, rfl⟩
  · exact ⟨cb', found', rfl, rfl⟩

/-- A change that keeps every control block's pid and context keeps every context. -/
theorem ContextsKept.modify (pid : Nat) {g : ControlBlock → ControlBlock}
    (keeps : ∀ cb, (g cb).pid = cb.pid ∧ (g cb).context = cb.context) :
    ContextsKept s (s.modify pid g) := by
  refine ContextsKept.of_table rfl rfl fun q cb' found' => ?_
  rw [get?_modify] at found'
  split at found'
  · obtain ⟨cb, found, rfl⟩ := Option.map_eq_some_iff.1 found'
    exact ⟨cb, found, keeps cb⟩
  · exact ⟨cb', found', rfl, rfl⟩

/-- Queueing a process as ready keeps every context. -/
theorem ContextsKept.addToReady (pid : Nat) (cause : Cause) :
    ContextsKept s (s.addToReady pid cause) := by
  unfold Scheduler.addToReady
  split
  · dsimp only
    -- the queues change around the transition; the table and processor only in it
    split
    all_goals
      show ContextsKept s (Scheduler.transition { s with blocked := _ } pid cause .ready)
      exact ContextsKept.transition pid cause .ready
  · exact .refl s

/-- Releasing a process keeps every context. -/
theorem ContextsKept.release (pid : Nat) : ContextsKept s (s.release pid) := by
  unfold Scheduler.release
  split
  · dsimp only
    split
    · exact ContextsKept.addToReady (s := { s with released := _ }) pid .created
    · exact .refl s
  · exact .refl s

/-- Blocking a process keeps every context. -/
theorem ContextsKept.block (pid : Nat) (reason : BlockReason) (cause : Cause) :
    ContextsKept s (s.block pid reason cause) := by
  unfold Scheduler.block
  split
  · exact .refl s
  · split
    · exact .refl s
    · let marked := s.modify pid fun cb => { cb with blockedOn := cb.blockedOn.union reason }
      have kept : ContextsKept s marked := .modify pid fun _ => ⟨rfl, rfl⟩
      dsimp only
      split
      · exact kept.trans (ContextsKept.transition (s := { marked with ready := _ }) pid cause .blocked)
      · exact kept

/-- Unblocking a process keeps every context. -/
theorem ContextsKept.unblock (pid : Nat) (reason : BlockReason) (cause : Cause) :
    ContextsKept s (s.unblock pid reason cause).2 := by
  unfold Scheduler.unblock
  split
  · exact .refl s
  · rename_i cb found
    have marked : ContextsKept s
        (s.modify pid fun cb' => { cb' with blockedOn := cb.blockedOn.diff reason }) :=
      .modify pid fun _ => ⟨rfl, rfl⟩
    dsimp only
    split
    · exact marked
    · exact marked.trans (.addToReady pid cause)

/-- Switching automatic scheduling keeps every context. -/
theorem ContextsKept.setAuto (on : Bool) : ContextsKept s (s.setAuto on) :=
  .of_table rfl rfl fun _ cb' found' => ⟨cb', found', rfl, rfl⟩

/-- Taking the running process off the processor saves the processor's context as its own. -/
theorem ContextsKept.takeRunning (wf : s.TableWF) : ContextsKept s s.takeRunning.2 := by
  unfold Scheduler.takeRunning
  split
  · rename_i pid running
    intro q cb' found'
    change (s.modify pid fun cb => { cb with context := s.cpu.context }).get? q = some cb' at found'
    rw [get?_modify] at found'
    split at found'
    · rename_i same
      obtain ⟨cb, found, rfl⟩ := Option.map_eq_some_iff.1 found'
      have runs : s.running = some cb.pid := by rw [wf.pid_eq found, ← same, running]
      exact ⟨cb, found, by simp [contextOf, runs]⟩
    · rename_i other
      -- another process did not run before and does not now
      have idle : s.running ≠ some cb'.pid := by
        rw [running, wf.pid_eq found', Ne, Option.some.injEq]
        exact other
      exact ⟨cb', found', by simp [contextOf, idle]⟩
  · exact .refl s

/-- A dispatch loads the saved context of the process it puts on the processor. -/
theorem ContextsKept.dispatchNext (wf : s.TableWF) : ContextsKept s s.dispatchNext.2 := by
  unfold Scheduler.dispatchNext
  split
  · exact .refl s
  · rename_i busy
    have idle : s.running = none := by simpa using busy
    split
    · exact .refl s
    · split
      · exact .refl s
      · rename_i i _ _ pid _
        let moved := { s with ready := s.ready.eraseIdx i }.transition pid .dispatched .running
        have kept : ContextsKept s moved := ContextsKept.transition pid .dispatched .running
        dsimp only
        split
        · rename_i cb found
          have quiet : moved.running = none := by rw [transition_running]; exact idle
          have wfMoved : moved.TableWF :=
            TableWF.transition (s := { s with ready := s.ready.eraseIdx i }) ⟨wf.sorted, wf.keyed⟩ pid _ _
          show ContextsKept s { moved with cpu := moved.cpu.load cb.context, running := some pid }
          intro q cb' found'
          change moved.get? q = some cb' at found'
          obtain ⟨cb₀, found₀, same⟩ := kept q cb' found'
          refine ⟨cb₀, found₀, ?_⟩
          rw [← same]
          have pidEq : cb'.pid = q := wfMoved.pid_eq found'
          by_cases here : q = pid
          · -- the process dispatched runs with the context it saved
            subst here
            rw [found, Option.some.injEq] at found'
            subst found'
            simp [contextOf, quiet, pidEq]
          · have other : some pid ≠ some cb'.pid := by
              rw [pidEq, Ne, Option.some.injEq]
              exact fun same => here same.symm
            simp [contextOf, other, quiet]
        · exact kept

/-- Taking the running process off the processor keeps the table well formed. -/
theorem TableWF.takeRunning (wf : s.TableWF) : s.takeRunning.2.TableWF := by
  unfold Scheduler.takeRunning
  split
  · rename_i pid _
    have modified := wf.modify pid (fun cb => { cb with context := s.cpu.context }) fun _ => rfl
    exact ⟨modified.sorted, modified.keyed⟩
  · exact wf

/-- An expired slice saves the running context, then dispatches. -/
theorem ContextsKept.onTimerExpired (wf : s.TableWF) : ContextsKept s s.onTimerExpired := by
  unfold Scheduler.onTimerExpired
  have taken := ContextsKept.takeRunning wf
  have wfTaken := wf.takeRunning
  split
  · rename_i pid s₁ took
    rw [took] at taken wfTaken
    have moved := wfTaken.transition pid .timeSliceExpired .ready
    exact (taken.trans (ContextsKept.transition pid .timeSliceExpired .ready)).trans
      (ContextsKept.dispatchNext
        (s := { s₁.transition pid .timeSliceExpired .ready with ready := _ })
        ⟨moved.sorted, moved.keyed⟩)
  · rename_i s₁ took
    rw [took] at taken wfTaken
    exact taken.trans (.dispatchNext wfTaken)

/-- Blocking the running process saves its context, then dispatches. -/
theorem ContextsKept.blockRunning (wf : s.TableWF) (reason : BlockReason) (cause : Cause) :
    ContextsKept s (s.blockRunning reason cause) := by
  unfold Scheduler.blockRunning
  have taken := ContextsKept.takeRunning wf
  have wfTaken := wf.takeRunning
  split
  · rename_i pid s₁ took
    rw [took] at taken wfTaken
    let marked := s₁.modify pid fun cb => { cb with blockedOn := cb.blockedOn.union reason }
    have moved := (wfTaken.modify pid (fun cb => { cb with blockedOn := cb.blockedOn.union reason })
      fun _ => rfl).transition pid cause .blocked
    have kept : ContextsKept s₁ marked := .modify pid fun _ => ⟨rfl, rfl⟩
    exact ((taken.trans kept).trans (ContextsKept.transition (s := marked) pid cause .blocked)).trans
      (ContextsKept.dispatchNext (s := { marked.transition pid cause .blocked with blocked := _ })
        ⟨moved.sorted, moved.keyed⟩)
  · rename_i s₁ took
    rw [took] at taken wfTaken
    exact taken.trans (.dispatchNext wfTaken)

/-- Removing a process keeps the context of every other: one that ran still runs, and the
processor is untouched. -/
theorem ContextsKept.removeProcess (wf : s.TableWF) (pid : Nat) (cause : Cause) :
    ContextsKept s (s.removeProcess pid cause).2 := by
  intro q cb' found'
  rw [get?_removeProcess] at found'
  split at found'
  · cases found'
  · rename_i other
    refine ⟨cb', found', ?_⟩
    have cpu : (s.removeProcess pid cause).2.cpu = s.cpu := by
      unfold Scheduler.removeProcess
      split <;> simp
    have running : (s.removeProcess pid cause).2.running = some q ↔ s.running = some q := by
      unfold Scheduler.removeProcess
      split
      · simp only [transition_running]
        split
        · rename_i ran
          rw [ran, Option.some.injEq]
          exact ⟨nofun, fun same => absurd same other⟩
        · exact Iff.rfl
      · exact Iff.rfl
    unfold contextOf
    rw [wf.pid_eq found', cpu]
    by_cases runs : s.running = some q
    · rw [if_pos (running.2 runs), if_pos runs]
    · rw [if_neg (mt running.1 runs), if_neg runs]

/-- The pid and the saved context of a control block, which is all `contextOf` reads of it. -/
def contextView (cb : ControlBlock) : Nat × Context := (cb.pid, cb.context)

/-- A change that keeps which process runs, the processor's context and the pid and saved
context of every process keeps every context. -/
theorem ContextsKept.of_sameOn (same : SameOn contextView s s') (running : s'.running = s.running)
    (cpu : s'.cpu.context = s.cpu.context) : ContextsKept s s' :=
  .of_table running cpu fun q cb' found' => by
    have view := same q
    rw [found', Option.map_some] at view
    obtain ⟨cb, found, eq⟩ := Option.map_eq_some_iff.1 view.symm
    simp only [contextView, Prod.mk.injEq] at eq
    exact ⟨cb, found, eq.1.symm, eq.2.symm⟩

end Scheduler

namespace MemoryManager

open Scheduler

variable {β : Type} {f : ControlBlock → β} {s : Scheduler}

/-- A view of a control block that changing page entries cannot change: it ignores the page
table. -/
structure Untabled (f : ControlBlock → β) : Prop where
  ignores : ∀ (cb : ControlBlock) pageTable, f { cb with pageTable } = f cb

/-- A view of a control block that paging cannot change: it ignores the page table and the
console value waiting for a page. -/
structure Unpaged (f : ControlBlock → β) : Prop where
  ignores : ∀ (cb : ControlBlock) pageTable pendingInput, f { cb with pageTable, pendingInput } = f cb

/-- A view that paging cannot change cannot be changed by page entries either. -/
theorem Unpaged.untabled (blind : Unpaged f) : Untabled f :=
  ⟨fun cb pageTable => blind.ignores cb pageTable cb.pendingInput⟩

/-- The pid and saved context of a process are a view paging cannot change. -/
theorem unpaged_contextView : Unpaged contextView := ⟨fun _ _ _ => rfl⟩

/-- The console value waiting is such a view. -/
theorem untabled_pendingInput : Untabled ControlBlock.pendingInput := ⟨fun _ _ => rfl⟩

/-- Changing a page entry keeps the scheduler the same through a view that ignores page tables. -/
theorem Untabled.modifyEntry (blind : Untabled f) (pid vpn : Nat) (g : PageEntry → PageEntry) :
    SameOn f s (modifyEntry s pid vpn g) :=
  sameOn_modify pid _ fun cb => blind.ignores cb _

/-- Evicting a frame keeps the scheduler the same through a view that ignores page tables. -/
theorem Untabled.evict (blind : Untabled f) (mm : MemoryManager) (frame : Nat) :
    SameOn f s (mm.evict s frame).2 := by
  unfold MemoryManager.evict
  split
  · exact .refl f s
  · dsimp only
    split
    · exact .refl f s
    · exact blind.modifyEntry _ _ _

/-- Starting a load keeps the scheduler the same through a view that ignores page tables. -/
theorem Untabled.startLoad (blind : Untabled f) (mm : MemoryManager) (pid vpn : Nat) :
    SameOn f s (mm.startLoad s pid vpn).2.2 := by
  unfold MemoryManager.startLoad
  simp only []
  split
  · exact .refl f s
  · rename_i frame mm' s' found
    have first : SameOn f s s' := by
      split at found
      · cases found
        exact .refl f s
      · split at found
        · cases found
        · cases found
          exact blind.evict mm _
    split
    · exact first
    · split
      · exact first
      · exact first.trans (blind.modifyEntry _ _ _)

/-- Translating an address keeps the scheduler the same through a view that ignores page tables. -/
theorem Untabled.translate (blind : Untabled f) (mm : MemoryManager) (pid : Nat) (va : Int32)
    (write : Bool) : SameOn f s (mm.translate s pid va write).2.2 := by
  unfold MemoryManager.translate
  split
  · exact .refl f s
  · dsimp only
    split
    · exact .refl f s
    · split
      · exact blind.modifyEntry _ _ _
      · split
        · exact .refl f s
        · split
          all_goals
            rename_i started
            have started' := blind.startLoad (s := s) mm.tick.2 pid (va.toInt.toNat / mm.pageSize)
            rw [started] at started'
            exact started'

/-- Completing a save keeps the scheduler the same through a view that ignores page tables. -/
theorem Untabled.completeSave (blind : Untabled f) (pid page slot : Nat) :
    SameOn f s (completeSave s pid page slot) := by
  unfold MemoryManager.completeSave
  split
  · split
    · exact blind.modifyEntry _ _ _
    · exact .refl f s
  · exact .refl f s

/-- Completing a load keeps the scheduler the same through a view that paging cannot change. -/
theorem Unpaged.completeLoad (blind : Unpaged f) (wf : s.TableWF) (mm : MemoryManager)
    (pid page frame : Nat) (data : List Word) :
    SameOn f s (mm.completeLoad s pid page frame data).2.2 := by
  unfold MemoryManager.completeLoad
  split
  · exact .refl f s
  · dsimp only
    split
    · exact .refl f s
    · rename_i cb found
      have keyed : s.get? cb.pid = some cb := by rw [wf.pid_eq found]; exact found
      split
      · exact .refl f s
      · split
        · split
          all_goals exact sameOn_insert _ (by rw [keyed, Option.map_some]; exact congrArg some (blind.ignores cb _ _).symm)
        · exact sameOn_insert _ (by rw [keyed, Option.map_some]; exact congrArg some (blind.ignores cb _ _).symm)

/-- A translation keeps every context. -/
theorem contextsKept_translate (mm : MemoryManager) (pid : Nat) (va : Int32) (write : Bool) :
    ContextsKept s (mm.translate s pid va write).2.2 :=
  have repaged := repaged_translate (s := s) mm pid va write
  .of_sameOn (unpaged_contextView.untabled.translate mm pid va write) repaged.running_eq
    (by obtain ⟨t, same⟩ := repaged.only_table; rw [same])

/-- A completed load keeps every context. -/
theorem contextsKept_completeLoad (wf : s.TableWF) (mm : MemoryManager) (pid page frame : Nat)
    (data : List Word) : ContextsKept s (mm.completeLoad s pid page frame data).2.2 :=
  have repaged := repaged_completeLoad wf mm pid page frame data
  .of_sameOn (unpaged_contextView.completeLoad wf mm pid page frame data) repaged.running_eq
    (by obtain ⟨t, same⟩ := repaged.only_table; rw [same])

end MemoryManager

end PagedMachine
