import PagedMachine.Proofs.ConsoleRead
import PagedMachine.Proofs.SaveOrder
import PagedMachine.Proofs.KernelChecked

/-!
# A console value waiting for its page

A console value read for an address whose page is absent waits in the control block of its
process while the page's load is in flight (`Kernel.ReadAnswered`). Until the load completes,
whatever else happens keeps it there: other processes fault, run, are created and end, pages
are evicted, saves and other loads complete. The process stays blocked on that page alone
(`Kernel.Waiting`), unless it ends. When the load completes the value is stored, once, in the
cell of its address in the frame the page arrives in, over the words loaded, and the process is
made ready (`Kernel.InputStored`).

The invariant carried along is `Kernel.InputWaits`: the process keeps the value and its page is
loading. Every kernel operation but the completion of that load keeps it, and in a served run
the one event that can end it is the disk carrying out that load (`Event.loadDone`).

Main statements: every served run from a settled kernel with a value waiting keeps the process
waiting until the load of its page is carried out, which stores the value
(`Kernel.WaitsUntilStored`, `Kernel.InputWaits.waitsUntilStored`); and a console read answered
in a served run from a new kernel goes as `ReadAnswered` says, and then, when the page was
absent, as `WaitsUntilStored` says (`Kernel.console_read_stored_once`).
-/

namespace PagedMachine

namespace MemoryManager

open Scheduler

variable {s : Scheduler} {p q : Nat}

/-- A change of one entry that keeps loading flags set ends no load. -/
theorem loading_modifyEntry_mono (pid vpn : Nat) (g : PageEntry → PageEntry)
    (keeps : ∀ e, e.loading = true → (g e).loading = true) (loading : Loading s p q) :
    Loading (modifyEntry s pid vpn g) p q := by
  rw [loading_iff_flag] at loading ⊢
  rw [residency_modifyEntry]
  split
  · rename_i same
    obtain ⟨rfl, rfl⟩ := same
    obtain ⟨place, resident, flag⟩ := Option.map_eq_some_iff.1 loading
    unfold residency at resident
    obtain ⟨e, found, rfl⟩ := Option.map_eq_some_iff.1 resident
    simp only at flag
    simp [found, keeps e flag]
  · exact loading

/-- Starting a load ends no other. -/
theorem loading_startLoad (mm : MemoryManager) (pid vpn : Nat) (loading : Loading s p q) :
    Loading (mm.startLoad s pid vpn).2.2 p q := by
  unfold startLoad
  simp only []
  split
  · exact loading
  · rename_i f mm' s' found
    have first : Loading s' p q := by
      split at found
      · cases found
        exact loading
      · split at found
        · cases found
        · cases found
          exact (loading_evict mm _ p q).2 loading
    split
    · exact first
    · split
      · exact first
      · exact loading_modifyEntry_mono _ _ _ (fun _ _ => rfl) first

/-- A translation ends no load. -/
theorem loading_translate (mm : MemoryManager) (pid : Nat) (va : Int32) (write : Bool)
    (loading : Loading s p q) : Loading (mm.translate s pid va write).2.2 p q := by
  unfold translate
  split
  · exact loading
  · dsimp only
    split
    · exact loading
    · split
      · exact loading_modifyEntry_mono _ _ _ (fun _ flag => flag) loading
      · split
        · exact loading
        · split
          all_goals
            rename_i started
            have kept := loading_startLoad mm.tick.2 pid (va.toInt.toNat / mm.pageSize) loading
            rw [started] at kept
            exact kept

/-- A completed load for a page whose process keeps a console value for it: the page arrives in
its frame with the loaded words, the value is written over the cell of its address, the page is
marked written, and the value is no longer kept. -/
theorem completeLoad_of_input {pid page f va : Nat} {value : Int32} {cb : ControlBlock}
    {e : PageEntry} (mm : MemoryManager) (data : List Word)
    (owned : mm.frames.owner f = some ⟨pid, page⟩) (found : s.get? pid = some cb)
    (entry : cb.pageTable.get? page = some e) (input : cb.pendingInput = some (va, value))
    (inPage : va / mm.pageSize = page) :
    mm.completeLoad s pid page f data =
      (some pid,
        { mm with
          clock := mm.clock + 1
          memory := (mm.memory.fillFrame f data).write (f * mm.pageSize + va % mm.pageSize)
            (.data value)
          frames := mm.frames.unlock f },
        s.insert
          { cb with
            pageTable := (cb.pageTable.modify page (·.setPresent f (mm.clock + 1))).modify page
              (·.touch (mm.clock + 1) true)
            pendingInput := none }) := by
  unfold completeLoad
  simp only [owned, ne_eq, not_true_eq_false, if_false, tick, found, entry, input, inPage,
    if_true]

end MemoryManager

namespace Scheduler

open MemoryManager

variable {s s' : Scheduler} {t vpn a : Nat} {v : Int32}

/-- While process `t` lives, it keeps the console value `v` for address `a`, and its page `vpn`
is loading. -/
def KeepsInput (t vpn a : Nat) (v : Int32) (s : Scheduler) : Prop :=
  ∀ cb, s.get? t = some cb → cb.pendingInput = some (a, v) ∧ cb.pageTable.Loading vpn

/-- Changing pages while keeping every console value and ending no load keeps the value
waiting. -/
theorem KeepsInput.of_paging (keeps : s.KeepsInput t vpn a v)
    (input : SameOn ControlBlock.pendingInput s s') (loading : Loading s t vpn → Loading s' t vpn) :
    s'.KeepsInput t vpn a v := by
  intro cb' found'
  have view := input t
  rw [found', Option.map_some] at view
  obtain ⟨cb, found, same⟩ := Option.map_eq_some_iff.1 view.symm
  obtain ⟨kept, waiting⟩ := keeps cb found
  exact ⟨same ▸ kept, (loading_iff found' vpn).1 (loading ((loading_iff found vpn).2 waiting))⟩

/-- Scheduling keeps the value waiting. -/
theorem KeepsInput.of_sameOn (keeps : s.KeepsInput t vpn a v)
    (same : SameOn ControlBlock.paging s s') : s'.KeepsInput t vpn a v := by
  have tables : SameOn ControlBlock.pageTable s s' := same.comp fun p => p.2.2.2.1
  refine keeps.of_paging (same.comp fun p => p.2.2.2.2) fun loading => ?_
  unfold Loading at loading ⊢
  rwa [residency_of_sameOn tables]

/-- Removing a process keeps another's console value waiting, and ends the wait of the one removed.
-/
theorem KeepsInput.removeProcess (keeps : s.KeepsInput t vpn a v) (pid : Nat) (cause : Cause) :
    (s.removeProcess pid cause).2.KeepsInput t vpn a v := by
  intro cb found
  rw [get?_removeProcess] at found
  split at found
  · cases found
  · exact keeps cb found

/-- Inserting another process keeps the console value waiting. -/
theorem KeepsInput.insert (keeps : s.KeepsInput t vpn a v) {cb : ControlBlock} (other : cb.pid ≠ t) :
    (s.insert cb).KeepsInput t vpn a v := by
  intro cb' found'
  rw [get?_insert, if_neg other] at found'
  exact keeps cb' found'

/-- Changing another process keeps the console value waiting. -/
theorem KeepsInput.modify (keeps : s.KeepsInput t vpn a v) {pid : Nat} (other : pid ≠ t)
    (g : ControlBlock → ControlBlock) : (s.modify pid g).KeepsInput t vpn a v := by
  intro cb' found'
  rw [get?_modify, if_neg other] at found'
  exact keeps cb' found'

/-- A translation, of any process's address, keeps the value waiting. -/
theorem KeepsInput.translate (keeps : s.KeepsInput t vpn a v) {mm mm' : MemoryManager} {pid : Nat}
    {va : Int32} {write : Bool} {r : Except AccessFault Nat}
    (translated : mm.translate s pid va write = (r, mm', s')) : s'.KeepsInput t vpn a v := by
  have input := untabled_pendingInput.translate mm pid va write (s := s)
  have loading := loading_translate (p := t) (q := vpn) mm pid va write (s := s)
  rw [translated] at input loading
  exact keeps.of_paging input loading

/-- A completed save keeps the value waiting. -/
theorem KeepsInput.completeSave (keeps : s.KeepsInput t vpn a v) (pid page slot : Nat) :
    (completeSave s pid page slot).KeepsInput t vpn a v :=
  keeps.of_paging (untabled_pendingInput.completeSave pid page slot)
    (loading_completeSave pid page slot t vpn).2

/-- A completed load of another page keeps the value waiting: the value is for `vpn` alone. -/
theorem KeepsInput.completeLoad (keeps : s.KeepsInput t vpn a v) (wf : s.TableWF)
    (mm : MemoryManager) {pid page frame : Nat} (data : List Word) (other : ¬(pid = t ∧ page = vpn))
    (inPage : a / mm.pageSize = vpn) :
    (mm.completeLoad s pid page frame data).2.2.KeepsInput t vpn a v := by
  unfold MemoryManager.completeLoad
  split
  · exact keeps
  · dsimp only
    split
    · exact keeps
    · rename_i cb found
      have keyed : cb.pid = pid := wf.pid_eq found
      split
      · exact keeps
      · by_cases mine : pid = t
        · subst mine
          have otherPage : page ≠ vpn := fun same => other ⟨rfl, same⟩
          obtain ⟨kept, waiting⟩ := keeps cb found
          -- the value is for another page: it stays, and so does the load of that page
          have stays : ¬a / mm.pageSize = page := fun same => otherPage (same.symm.trans inPage)
          simp only [kept, tick, stays, if_false]
          intro cb' found'
          rw [get?_insert, if_pos keyed, Option.some.injEq] at found'
          subst found'
          refine ⟨rfl, ?_⟩
          exact (PageTable.loading_setPresent _ _ _ _ _).2 ⟨Ne.symm otherPage, waiting⟩
        · split
          · split
            all_goals exact keeps.insert (by rw [keyed]; exact mine)
          · exact keeps.insert (by rw [keyed]; exact mine)

end Scheduler

namespace Kernel

open Scheduler MemoryManager

variable {k : Kernel} {d : Devices} {t vpn a : Nat} {v : Int32}

/-- Process `t` of kernel `k` waits with the console value `v` for address `a` of its page
`vpn`: `t` was handed out, `a` lies in page `vpn`, and while `t` lives it keeps the value and
the page is loading. -/
structure InputWaits (t vpn a : Nat) (v : Int32) (k : Kernel) : Prop where
  issued : t < k.nextPid
  page : a / k.mm.pageSize = vpn
  keeps : k.sched.KeepsInput t vpn a v

/-- The wait as the kernel shows it: while `t` lives it is blocked, on its page alone, keeps
the value for `a`, and the page is loading. -/
def Waiting (t vpn a : Nat) (v : Int32) (k : Kernel) : Prop :=
  ∀ cb, k.sched.get? t = some cb → cb.status = .blocked ∧
    cb.blockedOn = BlockReason.pageFaultOnly ∧ cb.pendingInput = some (a, v) ∧
    cb.pageTable.Loading vpn

/-- In a settled kernel a process keeping a value for a loading page waits for that page
alone, so it is blocked. -/
theorem InputWaits.waiting (waits : k.InputWaits t vpn a v) (settled : k.Settled d) :
    Waiting t vpn a v k := by
  intro cb found
  obtain ⟨kept, loading⟩ := waits.keeps cb found
  have agree := settled.protocol.waits t cb found
  have reasons := agree.eq_pageFaultOnly (agree.fault_iff.2 ⟨vpn, loading⟩)
  have blocked := ((settled.sched.agree.placed t cb found).waits).2 (by rw [reasons]; rfl)
  exact ⟨blocked, reasons, kept, loading⟩

/-- Scheduling that keeps what paging owns of every process keeps the console value waiting. -/
theorem InputWaits.reschedule (waits : k.InputWaits t vpn a v) {s : Scheduler}
    (same : SameOn ControlBlock.paging k.sched s) : ({ k with sched := s } : Kernel).InputWaits t vpn a v :=
  ⟨waits.issued, waits.page, waits.keeps.of_sameOn same⟩

/-- Halting keeps the console value waiting. -/
theorem InputWaits.halt (waits : k.InputWaits t vpn a v) (e : KernelError) :
    (k.halt e).InputWaits t vpn a v :=
  ⟨waits.issued, waits.page, waits.keeps⟩

/-- Another processor state keeps the console value waiting. -/
theorem InputWaits.withCpu (waits : k.InputWaits t vpn a v) (cpu : Cpu) :
    (k.withCpu cpu).InputWaits t vpn a v :=
  waits.reschedule fun _ => rfl

/-- Ending a process, whichever, keeps the value waiting; if it was `t`, nothing waits any more. -/
theorem InputWaits.terminate (waits : k.InputWaits t vpn a v) (pid : Nat) (cause : Cause) :
    (k.terminate pid cause).InputWaits t vpn a v := by
  have pageSize : (k.terminate pid cause).mm.pageSize = k.mm.pageSize := by
    unfold Kernel.terminate
    dsimp only
    split <;> rfl
  refine ⟨waits.issued, pageSize ▸ waits.page, ?_⟩
  exact (waits.keeps.removeProcess pid cause).of_sameOn unscheduled_paging.dispatchNext

/-- Ending the running process keeps the console value waiting while its process lives. -/
theorem InputWaits.endRunning (waits : k.InputWaits t vpn a v) (cause : Cause) :
    (k.endRunning cause).InputWaits t vpn a v := by
  unfold Kernel.endRunning
  split
  · exact waits.terminate _ cause
  · exact waits

/-- Every trap an instruction raises is handled keeping the value waiting. -/
theorem InputWaits.trap (waits : k.InputWaits t vpn a v) (trap : Trap) :
    (k.handle (.trap trap)).InputWaits t vpn a v := by
  cases trap with
  | timer => exact waits.reschedule unscheduled_paging.onTimerExpired
  | pageFault page =>
    simp only [Kernel.handle]
    split
    · exact waits.reschedule (unscheduled_paging.blockRunning _ _)
    · exact waits
  | ioWait => exact waits.reschedule (unscheduled_paging.blockRunning _ _)
  | framesExhausted => exact waits.halt _
  | invalidAddress | overflow | invalidInstruction | stop => exact waits.endRunning _

/-- A translation, of whichever process's address, keeps the value waiting, whatever is then
written to memory. -/
theorem InputWaits.translate (waits : k.InputWaits t vpn a v) {pid : Nat} {va : Int32}
    {write : Bool} {r : Except AccessFault Nat} {mm' : MemoryManager} {s' : Scheduler}
    (translated : k.mm.translate k.sched pid va write = (r, mm', s')) (mm'' : MemoryManager)
    (pageSize : mm''.pageSize = mm'.pageSize) :
    ({ k with mm := mm'', sched := s' } : Kernel).InputWaits t vpn a v := by
  have kept := shapeKept_translate k.mm k.sched pid va write
  rw [translated] at kept
  exact ⟨waits.issued, by rw [pageSize, kept.pageSize]; exact waits.page,
    waits.keeps.translate translated⟩

/-- The accesses of an instruction, of whichever process, keep the value waiting. -/
theorem bus_keeps_input (t vpn a : Nat) (v : Int32) (pid limit : Nat) :
    Exec.Keeps (bus pid limit) (fun k => k.InputWaits t vpn a v ∧ k.sched.running = some pid)
      fun _ k => k.InputWaits t vpn a v := by
  refine bus_keeps pid limit (fun k _ _ pa mm s holds translated => ?_)
    (fun k _ _ _ mm s holds translated => holds.1.translate translated mm rfl)
    fun k holds => ⟨holds.1, holds.1, holds.1, holds.1⟩
  have running : s.running = some pid := (repaged_of_translate translated).running_eq.trans holds.2
  exact ⟨⟨holds.1.translate translated mm rfl, running⟩,
    fun w _ => ⟨holds.1.translate translated (mm.write pa w) rfl, running⟩⟩

/-- A step keeps the value waiting, whichever process it runs. -/
theorem InputWaits.step (waits : k.InputWaits t vpn a v) : k.step.2.InputWaits t vpn a v := by
  refine @step_keeps (InputWaits t vpn a v) (InputWaits t vpn a v) (fun _ => InputWaits t vpn a v)
    ?_ (bus_keeps_input t vpn a v) ?_ ?_ ?_ ?_ ?_ k waits
  · intro k waits _ _
    exact waits.reschedule unscheduled_paging.dispatchNext
  · intro pid limit kind k waits _
    exact ⟨waits.issued, waits.page, waits.keeps⟩
  · intro k cpu waits
    exact waits.withCpu cpu
  · intro k cpu waits
    exact (waits.withCpu cpu).trap _
  · intro k cpu waits
    exact (waits.withCpu cpu).trap _
  · intro trap k cpu waits
    exact (waits.withCpu cpu).trap _

/-- A new process takes a pid that was never handed out, so it is not `t`. -/
theorem InputWaits.createProcess (waits : k.InputWaits t vpn a v) (name : String) :
    (k.createProcess name).2.InputWaits t vpn a v := by
  unfold Kernel.createProcess
  split
  · exact waits
  · split
    · exact waits
    · rename_i program _ _
      dsimp only
      have shape := loadInitial_pageTable_only k.mm (ControlBlock.new k.nextPid program k.config.pageSize)
      have kept := shapeKept_loadInitial k.mm (ControlBlock.new k.nextPid program k.config.pageSize)
      generalize k.mm.loadInitial (ControlBlock.new k.nextPid program k.config.pageSize) = loaded
        at shape kept
      obtain ⟨_, mm, cb⟩ := loaded
      obtain ⟨pt, rfl⟩ := shape
      have fresh : ({ ControlBlock.new k.nextPid program k.config.pageSize with pageTable := pt } :
          ControlBlock).pid ≠ t := Nat.ne_of_gt waits.issued
      exact ⟨Nat.lt_succ_of_lt waits.issued, by rw [kept.pageSize]; exact waits.page,
        (waits.keeps.insert fresh).of_sameOn (unscheduled_paging.addToReady _ _)⟩

/-- A disk completion keeps the value waiting, unless it brings the page the value waits for. -/
theorem InputWaits.diskDone (waits : k.InputWaits t vpn a v) (wf : k.sched.TableWF)
    (c : Completion) (other : ∀ data, c.result = .loaded data → ¬(c.pid = t ∧ c.page = vpn)) :
    (k.diskDone c).InputWaits t vpn a v := by
  unfold Kernel.diskDone
  split
  · rename_i data loaded
    have keeps : (k.mm.completeLoad k.sched c.pid c.page c.frame data).2.2.KeepsInput t vpn a v :=
      waits.keeps.completeLoad wf k.mm data (other data loaded) waits.page
    have kept := shapeKept_completeLoad k.mm k.sched c.pid c.page c.frame data
    rcases completed : k.mm.completeLoad k.sched c.pid c.page c.frame data with ⟨woken, mm, s⟩
    rw [completed] at keeps kept
    dsimp only at keeps kept ⊢
    have arrived : ({ k with mm, sched := s } : Kernel).InputWaits t vpn a v :=
      ⟨waits.issued, by rw [kept.pageSize]; exact waits.page, keeps⟩
    cases woken with
    | none => exact arrived
    | some pid => exact arrived.reschedule (unscheduled_paging.unblock _ _ _)
  · exact ⟨waits.issued, waits.page, waits.keeps.completeSave _ _ _⟩
  · split
    · exact waits.terminate _ _
    · exact waits

/-- A console completion keeps the value waiting, unless it is a value read for `t` while `t`
lives. -/
theorem InputWaits.ioDone (waits : k.InputWaits t vpn a v) (c : IoCompletion)
    (quiet : ∀ addr value, c = .read t addr value → k.sched.contains t = false) :
    (k.ioDone c).InputWaits t vpn a v := by
  cases c with
  | write pid => exact waits.reschedule (unscheduled_paging.unblock _ _ _)
  | read pid addr value =>
    simp only [Kernel.ioDone]
    split
    · exact waits
    · rename_i live
      have other : pid ≠ t := by
        rintro rfl
        simp [quiet addr value rfl] at live
      split
      · rename_i pa mm' s' translated
        exact (waits.translate translated (mm'.write pa (.data value)) rfl).reschedule
          (unscheduled_paging.unblock _ _ _)
      · rename_i page mm' s' translated
        have stored := waits.translate translated mm' rfl
        -- the value read for `pid` is kept in its control block, not in that of `t`
        have deferred : (deferInput s' pid addr value).KeepsInput t vpn a v := by
          unfold deferInput
          split
          · exact stored.keeps
          · exact stored.keeps.modify other _
        exact ⟨waits.issued, stored.page, (deferred.of_sameOn (unscheduled_paging.block _ _ _)).of_sameOn
          (unscheduled_paging.unblock _ _ _)⟩
      · exact (waits.translate ‹_› _ rfl).terminate pid _
      · exact (waits.translate ‹_› _ rfl).halt _

/-- The completion of a load whose page keeps a value for one of its cells: the kernel fills the
frame, writes the value over its cell, and wakes the process from its wait for the page. -/
theorem diskDone_of_input {c : Completion} {data : List Word} {cb : ControlBlock}
    {e : PageEntry} {va : Nat} {value : Int32} (loaded : c.result = .loaded data)
    (owned : k.mm.frames.owner c.frame = some ⟨c.pid, c.page⟩)
    (found : k.sched.get? c.pid = some cb) (entry : cb.pageTable.get? c.page = some e)
    (input : cb.pendingInput = some (va, value)) (inPage : va / k.mm.pageSize = c.page) :
    k.diskDone c =
      { k with
        mm :=
          { k.mm with
            clock := k.mm.clock + 1
            memory := (k.mm.memory.fillFrame c.frame data).write
              (c.frame * k.mm.pageSize + va % k.mm.pageSize) (.data value)
            frames := k.mm.frames.unlock c.frame }
        sched := ((k.sched.insert
          { cb with
            pageTable := (cb.pageTable.modify c.page (·.setPresent c.frame (k.mm.clock + 1))).modify
              c.page (·.touch (k.mm.clock + 1) true)
            pendingInput := none }).unblock c.pid BlockReason.pageFaultOnly .pageLoaded).2 } := by
  simp only [diskDone, loaded, MemoryManager.completeLoad_of_input k.mm data owned found entry input
    inPage]

/-- The load of page `vpn` of process `t` that an event carries out, if it carries out one. -/
def Event.loadDone (d : Devices) (t vpn : Nat) : Event → Option DiskOperation
  | .perform i => (d.held[i]?).filter (·.loads t vpn)
  | _ => none

/-- In a settled kernel, every event of a served run keeps the value waiting, but the one that
carries out the load of its page. In particular no console answer comes for `t`: it waits for
a page, so it asked the console for nothing. -/
theorem InputWaits.happen (waits : k.InputWaits t vpn a v) (settled : k.Settled d) (e : Event)
    (other : e.loadDone d t vpn = none) : (k.happen d e).1.InputWaits t vpn a v := by
  cases e with
  | create name => exact waits.createProcess name
  | remove pid =>
    simp only [Kernel.happen, Kernel.removeProcess]
    split
    · exact waits.terminate pid _
    · exact waits
  | exec pid =>
    simp only [Kernel.happen, Kernel.execProcess]
    split
    · exact waits
    · split
      · exact waits
      · exact waits
      · exact waits
      · exact waits.reschedule (unscheduled_paging.release pid)
      · exact waits.reschedule (unscheduled_paging.release pid)
  | setAuto on => exact waits.reschedule fun _ => rfl
  | step => exact waits.step
  | dispatch =>
    simp only [Kernel.happen, Kernel.dispatchNext]
    split
    · exact waits
    · exact waits.reschedule unscheduled_paging.dispatchNext
  | takeDisk => exact ⟨waits.issued, waits.page, waits.keeps⟩
  | perform i =>
    simp only [Kernel.happen]
    split
    · rename_i op found
      have notMine : op.loads t vpn = false := by
        simpa [Event.loadDone, found] using other
      obtain ⟨pid, page, -, load⟩ := SwapDisk.perform_spec k.mm.swap op
      have swapped : ({ k with mm := { k.mm with swap := (k.mm.swap.perform op).2 } } :
          Kernel).InputWaits t vpn a v := ⟨waits.issued, waits.page, waits.keeps⟩
      refine swapped.diskDone settled.sched.agree.wf _ fun data loaded mine => ?_
      have loads : op.loads t vpn = true := DiskOperation.loads_iff.2
        ⟨load.2 ⟨data, loaded⟩, pid ▸ mine.1, page ▸ mine.2⟩
      rw [notMine] at loads
      cases loads
    · exact waits
  | drop i =>
    simp only [Kernel.happen]
    split
    · exact waits
    · exact waits
  | takeConsole => exact ⟨waits.issued, waits.page, waits.keeps⟩
  | answer i value =>
    simp only [Kernel.happen]
    split
    · rename_i req found
      refine waits.ioDone _ fun addr value' answered => ?_
      have mine : req.pid = t := by
        unfold IoRequest.answer at answered
        split at answered
        · cases answered
          rfl
        · cases answered
      cases live : k.sched.contains t with
      | false => rfl
      | true =>
        obtain ⟨cb, found'⟩ := get?_of_contains live
        have listed : req ∈ k.console ++ d.taken := List.mem_append_right _ (List.mem_of_getElem? found)
        have io := settled.protocol.console.asked req listed cb (by rw [mine]; exact found')
        have agree := settled.protocol.waits t cb found'
        exact absurd ⟨io, agree.fault_iff.2 ⟨vpn, (waits.keeps cb found').2⟩⟩ agree.not_both
    · exact waits

/-- What carrying out load `op` of page `vpn` of `t` does from `k` to `k'`, when `t` keeps the
value `v` for address `a` of that page. If `t` lives, the load brings words `data`; each cell of
its frame then holds its word of `data`, padded with `DATA 0`, but the cell of `a`, which holds
`v`; every cell outside the frame is as it was; the page owns the frame; and `t` is ready,
waits for nothing and keeps no value, with the page present in the frame and marked written,
and its other pages as they were. -/
def InputStored (t vpn a : Nat) (v : Int32) (k : Kernel) (op : DiskOperation) (k' : Kernel) : Prop :=
  ∀ cb, k.sched.get? t = some cb → ∃ data,
    (k.mm.swap.perform op).1.result = .loaded data ∧
    (∀ j < k.config.pageSize, k'.mm.memory.read (op.frame * k.config.pageSize + j) =
      if j = a % k.config.pageSize then .data v else data.getD j (.data 0)) ∧
    (∀ q, q < op.frame * k.config.pageSize ∨
        op.frame * k.config.pageSize + k.config.pageSize ≤ q →
      k'.mm.memory.read q = k.mm.memory.read q) ∧
    k'.mm.frames.owner op.frame = some ⟨t, vpn⟩ ∧
    ∃ pt, k'.sched.get? t =
        some
          { cb with
            status := .ready
            blockedOn := {}
            pendingInput := none
            pageTable := pt } ∧
      (∃ e, pt.get? vpn = some e ∧ e.frame = some op.frame ∧ e.modified = true ∧
        e.loading = false) ∧
      ∀ g, g ≠ vpn → pt.get? g = cb.pageTable.get? g

/-- The frame a load fills, with one value written over a cell of it: that cell holds the value,
the others the loaded words, and memory outside the frame is as it was. -/
theorem read_fill_write (fits : k.mm.Fits) {f : Nat} (inside : f < k.mm.frames.size)
    (data : List Word) (a : Nat) (v : Int32) (q : Nat) :
    ((k.mm.memory.fillFrame f data).write (f * k.mm.pageSize + a % k.mm.pageSize) (.data v)).read q =
      if f * k.mm.pageSize ≤ q ∧ q < f * k.mm.pageSize + k.mm.pageSize then
        (if q - f * k.mm.pageSize = a % k.mm.pageSize then .data v
          else data.getD (q - f * k.mm.pageSize) (.data 0))
      else k.mm.memory.read q := by
  have room := fits.lt_size inside
  have short := Nat.mod_lt a fits.page_pos
  rw [PhysicalMemory.read_write, PhysicalMemory.size_fillFrame, PhysicalMemory.read_fillFrame,
    fits.framePage]
  by_cases mine : f * k.mm.pageSize ≤ q ∧ q < f * k.mm.pageSize + k.mm.pageSize
  · -- a cell of the frame lies inside memory
    have below : q < k.mm.memory.size := by
      have := room (q - f * k.mm.pageSize)
      rwa [Nat.mod_eq_of_lt (by omega), Nat.add_sub_cancel' mine.1] at this
    rw [if_pos mine, if_pos (And.intro mine.1 (And.intro mine.2 below))]
    by_cases cell : q - f * k.mm.pageSize = a % k.mm.pageSize
    · have written : f * k.mm.pageSize + a % k.mm.pageSize = q := by omega
      rw [if_pos cell, if_pos (And.intro written below)]
    · have elsewhere : f * k.mm.pageSize + a % k.mm.pageSize ≠ q := by omega
      rw [if_neg cell, if_neg fun both => elsewhere both.1]
  · have elsewhere : f * k.mm.pageSize + a % k.mm.pageSize ≠ q := by omega
    rw [if_neg mine, if_neg fun both => elsewhere both.1, if_neg fun cond => mine ⟨cond.1, cond.2.1⟩]

/-- In a settled kernel, the event that carries out the load of the page a value waits for
stores the value: see `InputStored`. -/
theorem InputWaits.stored (waits : k.InputWaits t vpn a v) (settled : k.Settled d)
    (bounded : k.Bounded d.held) {e : Event} {op : DiskOperation}
    (done : e.loadDone d t vpn = some op) : InputStored t vpn a v k op (k.happen d e).1 := by
  -- only a disk operation the disk held carries out a load
  obtain ⟨i, rfl, held, loads⟩ :
      ∃ i, e = .perform i ∧ d.held[i]? = some op ∧ op.loads t vpn = true := by
    cases e <;> simp only [Event.loadDone, reduceCtorEq] at done
    rename_i i
    obtain ⟨held, loads⟩ := Option.filter_eq_some_iff.1 done
    exact ⟨i, rfl, held, loads⟩
  intro cb found
  obtain ⟨isLoad, opPid, opPage⟩ := DiskOperation.loads_iff.1 loads
  obtain ⟨cPid, cPage, cFrame, result⟩ := SwapDisk.perform_spec k.mm.swap op
  obtain ⟨data, loaded⟩ := result.1 isLoad
  obtain ⟨kept, entry, present, loading⟩ := waits.keeps cb found
  obtain ⟨blocked, reasons, -, -⟩ := waits.waiting settled cb found
  -- the load fills the frame its page owns
  have listed : op ∈ k.mm.queue ++ d.held := List.mem_append_right _ (List.mem_of_getElem? held)
  have owned : k.mm.frames.owner op.frame = some ⟨t, vpn⟩ := by
    have target := (settled.protocol.loads.targets op listed isLoad
      (by rw [opPid]; exact contains_of_get? found)).1
    rwa [opPid, opPage] at target
  have inside := k.mm.frames.lt_size_of_owner owned
  have ps := bounded.pageSize
  have pid := settled.sched.agree.wf.pid_eq found
  -- the kernel after the completion, as `diskDone_of_input` gives it
  have arrived : (k.happen d (.perform i)).1 =
      { k with
        mm :=
          { k.mm with
            swap := (k.mm.swap.perform op).2
            clock := k.mm.clock + 1
            memory := (k.mm.memory.fillFrame op.frame data).write
              (op.frame * k.mm.pageSize + a % k.mm.pageSize) (.data v)
            frames := k.mm.frames.unlock op.frame }
        sched := ((k.sched.insert
          { cb with
            pageTable := (cb.pageTable.modify vpn (·.setPresent op.frame (k.mm.clock + 1))).modify
              vpn (·.touch (k.mm.clock + 1) true)
            pendingInput := none }).unblock t BlockReason.pageFaultOnly .pageLoaded).2 } := by
    rw [show (k.happen d (.perform i)).1 = (k.perform op).2 by simp only [Kernel.happen, held]]
    show ({ k with mm := { k.mm with swap := (k.mm.swap.perform op).2 } } : Kernel).diskDone
      (k.mm.swap.perform op).1 = _
    rw [diskDone_of_input loaded (by rw [cFrame, cPid, cPage, opPid, opPage]; exact owned)
      (by rw [cPid, opPid]; exact found) (by rw [cPage, opPage]; exact present) kept
      (by rw [cPage, opPage]; exact waits.page), cFrame, cPid, cPage, opPid, opPage]
  refine ⟨data, loaded, ?_, ?_, ?_, ?_⟩
  · -- the frame holds the loaded words and the value
    intro j short
    rw [arrived]
    dsimp only
    rw [read_fill_write bounded.fits inside, ← ps, if_pos (by omega), Nat.add_sub_cancel_left]
  · -- memory outside the frame is untouched
    intro q outside
    rw [arrived]
    dsimp only
    rw [← ps] at outside
    rw [read_fill_write bounded.fits inside, if_neg (by omega)]
  · rw [arrived]
    exact (FrameTable.owner_unlock _ _ _).trans owned
  · -- the process wakes, its page present in the frame and written
    refine ⟨(cb.pageTable.modify vpn (·.setPresent op.frame (k.mm.clock + 1))).modify vpn
      (·.touch (k.mm.clock + 1) true), ?_,
      ⟨(entry.setPresent op.frame (k.mm.clock + 1)).touch (k.mm.clock + 1) true, ?_, rfl, rfl, rfl⟩,
      fun g other => ?_⟩
    · rw [arrived]
      dsimp only
      have woken : (cb.blockedOn.diff BlockReason.pageFaultOnly).isEmpty = true := by
        rw [reasons]
        rfl
      rw [Scheduler.get?_unblock (by rw [Scheduler.get?_insert, if_pos pid]),
        if_pos (And.intro woken blocked)]
      simp only [reasons]
      rfl
    · simp only [PageTable.get?_modify, present, Option.map_some, if_true]
    · simp only [PageTable.get?_modify, Ne.symm other, if_false]

/-- From `kd` on, along the events `more`, the value `v` for address `a` waits, `t` blocked on
page `vpn` alone, up to the event that carries out the page's load, which stores it as `InputStored`
says. -/
def WaitsUntilStored (t vpn a : Nat) (v : Int32) : Kernel × Devices → List Event → Prop
  | kd, [] => Waiting t vpn a v kd.1
  | kd, e :: more =>
    Waiting t vpn a v kd.1 ∧
      (∀ op, e.loadDone kd.2 t vpn = some op → InputStored t vpn a v kd.1 op (kd.1.happen kd.2 e).1) ∧
      (e.loadDone kd.2 t vpn = none → WaitsUntilStored t vpn a v (kd.1.happen kd.2 e) more)

/-- A value waiting in a settled kernel waits along every run until its page's load stores it.
The induction is on the run; `InputWaits` with `Settled` and `Bounded` carries it. -/
theorem InputWaits.waitsUntilStored (waits : k.InputWaits t vpn a v) (settled : k.Settled d)
    (bounded : k.Bounded d.held) (more : List Event) : WaitsUntilStored t vpn a v (k, d) more := by
  induction more generalizing k d with
  | nil => exact waits.waiting settled
  | cons e more ih =>
    refine ⟨waits.waiting settled, fun op done => waits.stored settled bounded done, fun other => ?_⟩
    exact ih (waits.happen settled e other) (settled.happen e) (bounded.happen settled.sched e)

/-- A console read answered in a served run from a new kernel, of process `t` at a nonnegative
address `a` of page `vpn`. While `t` lives it was blocked, waiting for the console alone, and
the answer goes as `ReadAnswered` says: stored at once if the page was present, deferred if a
frame could be had, the kernel halted otherwise. When deferred, the value then waits, `t`
blocked on its page alone, along every run that follows, until the event that carries out the
page's load stores it, as `InputStored` says. -/
theorem console_read_stored_once {c : Config} {k₀ : Kernel} (created : Kernel.new c = some (.ok k₀))
    (events : List Event) {i t : Nat} {addr : Int32} (v : Int32)
    (asked : (serve (k₀, {}) events).2.taken[i]? = some ⟨t, .read addr⟩)
    (valid : 0 ≤ addr.toInt) :
    let k := (serve (k₀, {}) events).1
    let answered := k.happen (serve (k₀, {}) events).2 (.answer i v)
    let a := addr.toInt.toNat
    let vpn := a / k.config.pageSize
    ∀ cb, k.sched.get? t = some cb →
      cb.status = .blocked ∧ cb.blockedOn = BlockReason.ioOnly ∧
      ReadAnswered k t cb a v answered.1 ∧
      ∀ e, cb.pageTable.get? vpn = some e → e.frame = none →
        (∃ f < k.mm.frames.size, k.mm.frames.owner f = none ∨ k.mm.frames.isLocked f = false) →
        ∀ more, WaitsUntilStored t vpn a v answered more := by
  have kept := serve_keeps (fun kd => kd.1.Settled kd.2 ∧ kd.1.Bounded kd.2.held)
    (fun _ _ e held => ⟨held.1.happen e, held.2.happen held.1.sched e⟩) events (k₀, {})
    ⟨Settled.new created, Bounded.new created⟩
  generalize serve (k₀, {}) events = kd at asked kept ⊢
  obtain ⟨k, d⟩ := kd
  obtain ⟨settled, bounded⟩ := kept
  dsimp only at asked ⊢
  intro cb found
  -- the request is outstanding, so `t` waits for the console alone
  have listed : (⟨t, .read addr⟩ : IoRequest) ∈ k.console ++ d.taken :=
    List.mem_append_right _ (List.mem_of_getElem? asked)
  have agree := settled.protocol.waits t cb found
  have io := agree.eq_ioOnly (settled.protocol.console.asked _ listed cb found)
  have answer : (k.happen d (.answer i v)).1 = k.ioDone (.read t addr v) := by
    simp only [Kernel.happen, asked]
    rfl
  have result := ioDone_read settled found io bounded valid v
  rw [← answer] at result
  refine ⟨settled.blocked_of_io found io, io, result, fun e entry absent free more => ?_⟩
  obtain ⟨-, -, -, pt, found', loading⟩ := result.deferred e entry absent free
  -- the value now waits for the page, as `InputWaits` has it
  have issued : t < (k.happen d (.answer i v)).1.nextPid := by
    have same : (k.ioDone (.read t addr v)).nextPid = k.nextPid := untouched_nextPid.handle k (.ioDone _)
    rw [answer, same]
    exact settled.protocol.requests_issued _ listed
  have page : addr.toInt.toNat / (k.happen d (.answer i v)).1.mm.pageSize =
      addr.toInt.toNat / k.config.pageSize := by
    have same : (k.ioDone (.read t addr v)).config = k.config := untouched_config.handle k (.ioDone _)
    rw [(bounded.happen settled.sched (.answer i v)).pageSize, answer, same]
  have keeps : (k.happen d (.answer i v)).1.sched.KeepsInput t (addr.toInt.toNat / k.config.pageSize)
      addr.toInt.toNat v := by
    intro cb' found''
    rw [found'] at found''
    cases found''
    exact ⟨rfl, _, loading, rfl⟩
  exact InputWaits.waitsUntilStored ⟨issued, page, keeps⟩ (settled.happen _)
    (bounded.happen settled.sched _) more

/-- The default machine, with `echo` asking the console for a value for address 10 once the
page of that address has come in. -/
theorem default_console_read_stored_once :
    let k₀ : Kernel := ⟨{}, .new {}, .new false 5, [], 1, none⟩
    let events : List Event :=
      [.create "echo", .setAuto true, .step, .step, .step, .takeDisk, .perform 0, .step, .takeConsole]
    Kernel.new {} = some (.ok k₀) ∧ (serve (k₀, {}) events).2.taken[0]? = some ⟨1, .read 10⟩ ∧
      0 ≤ (10 : Int32).toInt ∧
      let k := (serve (k₀, {}) events).1
      let answered := k.happen (serve (k₀, {}) events).2 (.answer 0 42)
      let a := (10 : Int32).toInt.toNat
      let vpn := a / k.config.pageSize
      ∀ cb, k.sched.get? 1 = some cb →
        cb.status = .blocked ∧ cb.blockedOn = BlockReason.ioOnly ∧
        ReadAnswered k 1 cb a 42 answered.1 ∧
        ∀ e, cb.pageTable.get? vpn = some e → e.frame = none →
          (∃ f < k.mm.frames.size, k.mm.frames.owner f = none ∨ k.mm.frames.isLocked f = false) →
          ∀ more, WaitsUntilStored 1 vpn a 42 answered more := by
  intro k₀ events
  have asked : (serve (k₀, {}) events).2.taken[0]? = some ⟨1, .read 10⟩ := by decide +kernel
  exact ⟨rfl, asked, by decide, console_read_stored_once (c := {}) rfl events 42 asked (by decide)⟩

end Kernel

end PagedMachine
