import PagedMachine.Proofs.Separation

/-!
# Page faults in the transition log

A process blocked by a page fault must not run before its page arrives. In the transition log
this reads: the next record of a process after one caused by a page fault is the page's
arrival, taking the process from blocked to ready, or the end of the process
(`FaultsResolved`). The property is stated over the records in order and kept by recording
(`FaultsResolved.append`) and by dropping the oldest records (`FaultsResolved.drop`).

The scheduler keeps it because of what it knows when it records: whenever the last record of
a process was caused by a page fault, that process is still blocked waiting for a page
(`Scheduler.FaultLog`). Each scheduling operation keeps the pair, once it is known that a
process waiting for a page is woken only by its page (`FaultLog.move` and the lemmas after it).
-/

namespace PagedMachine

/-- A record that may follow one caused by a page fault of the same process: the page arrived
and took the process from blocked to ready, or the process ended. -/
def Transition.ResolvesFault (y : Transition) : Prop :=
  (y.cause = .pageLoaded ∧ y.source = .blocked ∧ y.target = .ready) ∨ y.target = .terminated

/-- The first record of process `pid` in a list of records. -/
def firstOf (l : List Transition) (pid : Nat) : Option Transition := l.find? (·.pid == pid)

/-- The last record of process `pid` in a list of records. -/
def lastOf (l : List Transition) (pid : Nat) : Option Transition :=
  l.reverse.find? (·.pid == pid)

/-- Every record caused by a page fault is followed, as the next record of its process, by one
that resolves the fault. -/
def FaultsResolved : List Transition → Prop
  | [] => True
  | x :: rest =>
    (x.cause = .pageFault → ∀ y, firstOf rest x.pid = some y → y.ResolvesFault) ∧
      FaultsResolved rest

section Records

variable {l : List Transition} {pid : Nat}

/-- A record added last is the first of its process only if none came before. -/
theorem firstOf_append_singleton (l : List Transition) (y : Transition) (pid : Nat) :
    firstOf (l ++ [y]) pid = (firstOf l pid).or (if y.pid = pid then some y else none) := by
  unfold firstOf
  rw [List.find?_append]
  by_cases same : y.pid = pid <;> simp [same]

/-- The last record of a process is found after the first record, or is the first record. -/
theorem lastOf_cons (x : Transition) (l : List Transition) (pid : Nat) :
    lastOf (x :: l) pid = (lastOf l pid).or (if x.pid = pid then some x else none) := by
  unfold lastOf
  rw [List.reverse_cons, List.find?_append]
  by_cases same : x.pid = pid <;> simp [same]

/-- A record added last is the last of its process. -/
theorem lastOf_append_singleton (l : List Transition) (y : Transition) (pid : Nat) :
    lastOf (l ++ [y]) pid = if y.pid = pid then some y else lastOf l pid := by
  unfold lastOf
  rw [List.reverse_append, List.reverse_singleton, List.singleton_append, List.find?_cons]
  by_cases same : y.pid = pid
  · simp [same]
  · have differ : (y.pid == pid) = false := by simpa using same
    rw [differ, if_neg same]

/-- A list has a first record of a process exactly when it has a last one. -/
theorem firstOf_eq_none_iff : firstOf l pid = none ↔ lastOf l pid = none := by
  unfold firstOf lastOf
  rw [List.find?_eq_none, List.find?_eq_none]
  simp only [List.mem_reverse]

/-- The last record of a process among the newest records is its last record of all. -/
theorem lastOf_drop {x : Transition} (n : Nat) (last : lastOf (l.drop n) pid = some x) :
    lastOf l pid = some x := by
  induction n generalizing l with
  | zero => simpa using last
  | succ n ih =>
    cases l with
    | nil => simp [lastOf] at last
    | cons a rest =>
      rw [List.drop_succ_cons] at last
      rw [lastOf_cons, ih last, Option.some_or]

/-- Dropping the oldest records keeps every page fault resolved. -/
theorem FaultsResolved.drop (resolved : FaultsResolved l) (n : Nat) :
    FaultsResolved (l.drop n) := by
  induction n generalizing l with
  | zero => simpa using resolved
  | succ n ih =>
    cases l with
    | nil => trivial
    | cons a rest => exact ih resolved.2

/-- A record may be added when the last record of its process, if caused by a page fault, is
resolved by it. -/
theorem FaultsResolved.append (resolved : FaultsResolved l) {y : Transition}
    (next : ∀ x, lastOf l y.pid = some x → x.cause = .pageFault → y.ResolvesFault) :
    FaultsResolved (l ++ [y]) := by
  induction l with
  | nil => exact ⟨fun _ z found => by simp [firstOf] at found, trivial⟩
  | cons x rest ih =>
    obtain ⟨head, tail⟩ := resolved
    rw [List.cons_append]
    refine ⟨?_, ih tail fun x' last fault => next x' ?_ fault⟩
    · intro fault z found
      rw [firstOf_append_singleton] at found
      cases first : firstOf rest x.pid with
      | some z' =>
        rw [first, Option.some_or] at found
        exact head fault z (first.trans found)
      | none =>
        -- no later record of the process in `rest`: the new record is the next one, and the
        -- last record of the process before it is `x`
        rw [first, Option.none_or] at found
        by_cases same : y.pid = x.pid
        · rw [if_pos same, Option.some.injEq] at found
          subst found
          have none : lastOf rest y.pid = none := same ▸ firstOf_eq_none_iff.1 first
          refine next x ?_ fault
          rw [lastOf_cons, none, Option.none_or, if_pos same.symm]
        · rw [if_neg same] at found
          cases found
    · rw [lastOf_cons, last, Option.some_or]

end Records

namespace TransitionLog

variable (log : TransitionLog) (pid : Nat) (name : String) (cause : Cause)
  (source target : TaskStatus) (pages : PageTable)

/-- Recording a move that resolves the process's pending page fault keeps every page fault resolved.
-/
theorem faultsResolved_record (resolved : FaultsResolved log.toList)
    (next : ∀ x, lastOf log.toList pid = some x → x.cause = .pageFault →
      Transition.ResolvesFault ⟨log.seq + 1, pid, name, cause, source, target, pages⟩) :
    FaultsResolved (log.record pid name cause source target pages).toList := by
  rw [toList_record]
  split
  · exact (resolved.drop 1).append fun x last => next x (lastOf_drop 1 last)
  · exact resolved.append next

/-- After a record, the last record of its process is the new one. -/
theorem lastOf_record_self :
    lastOf (log.record pid name cause source target pages).toList pid =
      some ⟨log.seq + 1, pid, name, cause, source, target, pages⟩ := by
  rw [toList_record, lastOf_append_singleton, if_pos rfl]

/-- A record leaves the last record of any other process as it was, or drops it with the
oldest records. -/
theorem lastOf_record_other {q : Nat} (other : pid ≠ q) {x : Transition}
    (last : lastOf (log.record pid name cause source target pages).toList q = some x) :
    lastOf log.toList q = some x := by
  rw [toList_record, lastOf_append_singleton, if_neg other] at last
  split at last
  · exact lastOf_drop 1 last
  · exact last

end TransitionLog

namespace Scheduler

variable {s s' : Scheduler}

/-- Process `pid` is live, blocked, and waiting for a page. -/
def WaitsForPage (s : Scheduler) (pid : Nat) : Prop :=
  ∃ cb, s.get? pid = some cb ∧ cb.status = .blocked ∧ cb.blockedOn.pageFault = true

/-- The log agrees with the scheduler: every page fault in it is resolved by the next record
of its process, and a process whose last record was caused by a page fault still waits for
its page. -/
structure FaultLog (s : Scheduler) : Prop where
  resolved : FaultsResolved s.log.toList
  pending : ∀ pid x, lastOf s.log.toList pid = some x → x.cause = .pageFault → s.WaitsForPage pid

/-- Changing a control block leaves the log. -/
@[simp] theorem log_modify (pid : Nat) (f : ControlBlock → ControlBlock) :
    (s.modify pid f).log = s.log := rfl

/-- Inserting a control block leaves the log. -/
@[simp] theorem log_insert (cb : ControlBlock) : (s.insert cb).log = s.log := rfl

/-- A status change of a live process records its move from the status it had. -/
theorem log_transition {pid : Nat} {cb : ControlBlock} (found : s.get? pid = some cb)
    (cause : Cause) (target : TaskStatus) :
    (s.transition pid cause target).log =
      s.log.record pid cb.name cause cb.status target cb.pageTable := by
  unfold transition
  rw [found]

/-- A change that records nothing keeps the log agreeing when every process waiting for a page
still waits for it. -/
theorem FaultLog.of_log (faults : s.FaultLog) (log : s'.log = s.log)
    (kept : ∀ q, s.WaitsForPage q → s'.WaitsForPage q) : s'.FaultLog := by
  refine ⟨log ▸ faults.resolved, fun q x last fault => kept q ?_⟩
  rw [log] at last
  exact faults.pending q x last fault

/-- A change of standing that scheduling makes keeps the log agreeing when it records
nothing. -/
theorem FaultLog.of_sameOn (faults : s.FaultLog) (same : SameOn standing s s')
    (log : s'.log = s.log) : s'.FaultLog := by
  refine faults.of_log log fun q ⟨cb, found, status, fault⟩ => ?_
  have view := same q
  rw [found, Option.map_some] at view
  obtain ⟨cb', found', standing'⟩ := Option.map_eq_some_iff.1 view
  simp only [standing, Prod.mk.injEq] at standing'
  exact ⟨cb', found', standing'.1.trans status, standing'.2 ▸ fault⟩

/-- Paging records nothing and changes no standing. -/
theorem FaultLog.repage (faults : s.FaultLog) (repaged : Repaged s s') : s'.FaultLog :=
  faults.of_sameOn repaged.same_standing (by obtain ⟨t, rfl⟩ := repaged.only_table; rfl)

/-- A change that records one transition of a live process `pid` and changes no other process
keeps the log agreeing, when a process waiting for a page can only be woken by its page or
ended, and a transition caused by a page fault leaves the process waiting for one. -/
theorem FaultLog.move (faults : s.FaultLog) {pid : Nat} {cb : ControlBlock} {cause : Cause}
    {target : TaskStatus} {name : String} {pages : PageTable} (found : s.get? pid = some cb)
    (log : s'.log = s.log.record pid name cause cb.status target pages)
    (allowed : cb.status = .blocked → cb.blockedOn.pageFault = true →
      (cause = .pageLoaded ∧ target = .ready) ∨ target = .terminated)
    (others : ∀ q, q ≠ pid → s'.get? q = s.get? q)
    (moved : cause = .pageFault → s'.WaitsForPage pid) : s'.FaultLog := by
  constructor
  · rw [log]
    refine s.log.faultsResolved_record pid name cause cb.status target pages faults.resolved ?_
    intro x last fault
    obtain ⟨cb', found', status, waiting⟩ := faults.pending pid x last fault
    rw [found, Option.some.injEq] at found'
    subst found'
    rcases allowed status waiting with ⟨loaded, ready⟩ | ended
    · exact .inl ⟨loaded, status, ready⟩
    · exact .inr ended
  · intro q x last fault
    rw [log] at last
    by_cases same : q = pid
    · subst same
      rw [TransitionLog.lastOf_record_self, Option.some.injEq] at last
      subst last
      exact moved fault
    · obtain ⟨cb', found', status, waiting⟩ :=
        faults.pending q x (s.log.lastOf_record_other pid name cause cb.status target pages
          (Ne.symm same) last) fault
      exact ⟨cb', (others q same).trans found', status, waiting⟩

/-- Dispatching records the move of a ready process to the processor, and a ready process
waits for nothing. -/
theorem FaultLog.dispatchNext (faults : s.FaultLog)
    (ready : ∀ pid ∈ s.ready, ∃ cb, s.get? pid = some cb ∧ cb.status = .ready) :
    s.dispatchNext.2.FaultLog := by
  unfold Scheduler.dispatchNext
  split
  · exact faults
  · split
    · exact faults
    · rename_i i _
      split
      · exact faults
      · rename_i pid at_i
        obtain ⟨cb, found, status⟩ := ready pid (List.mem_of_getElem? at_i)
        have found' : ({ s with ready := s.ready.eraseIdx i } : Scheduler).get? pid = some cb := by
          simpa using found
        simp only [get?_transition, get?_mk, find?_table, found, ↓reduceIte, Option.map_some]
        refine faults.move found (log_transition found' .dispatched .running) ?_ ?_ ?_
        · intro blocked
          rw [status] at blocked
          cases blocked
        · intro q other
          simp [Ne.symm other]
        · intro fault
          cases fault

/-- The running process, its slice used up, goes back to the queue, and the next one is
dispatched. -/
theorem FaultLog.onTimerExpired (faults : s.FaultLog) (agree : s.QueuesAgree) :
    s.onTimerExpired.FaultLog := by
  unfold Scheduler.onTimerExpired
  cases running : s.running with
  | none =>
    simp only [takeRunning, running]
    exact faults.dispatchNext fun q mem => agree.get?_of_ready mem
  | some pid =>
    obtain ⟨cb, found, status, notReady, found'⟩ := agree.get?_takeRunning running
    simp only [takeRunning, running]
    apply FaultLog.dispatchNext
    · refine faults.move found (log_transition found' .timeSliceExpired .ready) ?_ ?_ ?_
      · intro blocked
        rw [status] at blocked
        cases blocked
      · intro q other
        simp [Ne.symm other]
      · intro fault
        cases fault
    · intro q mem
      rw [transition_ready, List.mem_append, List.mem_singleton] at mem
      rcases mem with queued | rfl
      · obtain ⟨cb', found'', ready⟩ := agree.get?_of_ready queued
        have other : pid ≠ q := fun same => notReady (same ▸ queued)
        exact ⟨cb', by simp [other, found''], ready⟩
      · exact ⟨{ cb with context := s.cpu.context, status := .ready }, by simp [found], rfl⟩

/-- Blocking the running process records its move to the blocked set; blocked by a page
fault, it waits for a page. -/
theorem FaultLog.blockRunning (faults : s.FaultLog) (agree : s.QueuesAgree)
    {reason : BlockReason} {cause : Cause} (reasoned : cause = .pageFault → reason.pageFault = true) :
    (s.blockRunning reason cause).FaultLog := by
  unfold Scheduler.blockRunning
  cases running : s.running with
  | none =>
    simp only [takeRunning, running]
    exact faults.dispatchNext fun q mem => agree.get?_of_ready mem
  | some pid =>
    obtain ⟨cb, found, status, notReady, -⟩ := agree.get?_takeRunning running
    have found' : ({ s.modify pid (fun cb => { cb with context := s.cpu.context }) with
        running := none }.modify pid fun cb => { cb with blockedOn := cb.blockedOn.union reason } :
          Scheduler).get? pid =
        some { cb with context := s.cpu.context, blockedOn := cb.blockedOn.union reason } := by
      simp [found]
    simp only [takeRunning, running]
    apply FaultLog.dispatchNext
    · refine faults.move found (log_transition found' cause .blocked) ?_ ?_ ?_
      · intro blocked
        rw [status] at blocked
        cases blocked
      · intro q other
        simp [Ne.symm other]
      · intro fault
        refine ⟨{ cb with context := s.cpu.context, blockedOn := cb.blockedOn.union reason,
                          status := .blocked }, by simp [found], rfl, ?_⟩
        simp [BlockReason.union, reasoned fault]
    · intro q mem
      have queued : q ∈ s.ready := by simpa using mem
      obtain ⟨cb', found'', ready⟩ := agree.get?_of_ready queued
      have other : pid ≠ q := fun same => notReady (same ▸ queued)
      exact ⟨cb', by simp [other, found''], ready⟩

/-- Blocking a process that is not running: a ready one is recorded moving to the blocked set,
a blocked one only waits for more. -/
theorem FaultLog.block (faults : s.FaultLog) (pid : Nat)
    {reason : BlockReason} {cause : Cause} (reasoned : cause = .pageFault → reason.pageFault = true) :
    (s.block pid reason cause).FaultLog := by
  unfold Scheduler.block
  split
  · exact faults
  · cases found : s.get? pid with
    | none => exact faults
    | some cb =>
      have found' : (s.modify pid fun cb => { cb with blockedOn := cb.blockedOn.union reason }).get?
          pid = some { cb with blockedOn := cb.blockedOn.union reason } := by
        simp [found]
      simp only
      split
      · rename_i ready
        have found'' : ({ s.modify pid (fun cb => { cb with blockedOn := cb.blockedOn.union reason })
            with ready := s.ready.filter (· ≠ pid) } : Scheduler).get? pid =
              some { cb with blockedOn := cb.blockedOn.union reason } := by
          simpa using found'
        refine faults.move found (log_transition found'' cause .blocked) ?_ ?_ ?_
        · intro blocked
          rw [ready] at blocked
          cases blocked
        · intro q other
          simp [Ne.symm other]
        · intro fault
          refine ⟨{ cb with blockedOn := cb.blockedOn.union reason, status := .blocked },
            by simp [found], rfl, ?_⟩
          simp [BlockReason.union, reasoned fault]
      · refine faults.of_log rfl fun q waits => ?_
        obtain ⟨cb', found'', status, fault⟩ := waits
        by_cases same : pid = q
        · subst same
          rw [found, Option.some.injEq] at found''
          subst found''
          exact ⟨{ cb with blockedOn := cb.blockedOn.union reason }, found', status,
            by simp [BlockReason.union, fault]⟩
        · exact ⟨cb', by simp [same, found''], status, fault⟩

/-- Making a process ready records it, when the process is not waiting for a page. -/
theorem FaultLog.addToReady (faults : s.FaultLog) (pid : Nat) (cause : Cause)
    (idle : ∀ cb, s.get? pid = some cb → cb.status ≠ .blocked) (ready : cause ≠ .pageFault) :
    (s.addToReady pid cause).FaultLog := by
  unfold Scheduler.addToReady
  split
  · rename_i live
    obtain ⟨cb, found⟩ := get?_of_contains live
    have found' : ({ s with blocked := s.blocked.erase pid } : Scheduler).get? pid = some cb := by
      simpa using found
    have moved : ({ s with blocked := s.blocked.erase pid } : Scheduler).transition pid cause
        .ready |>.FaultLog := by
      refine faults.move found (log_transition found' cause .ready) ?_ ?_ ?_
      · intro blocked
        exact absurd blocked (idle cb found)
      · intro q other
        simp [Ne.symm other]
      · intro fault
        exact absurd fault ready
    dsimp only
    split
    · exact moved
    · exact ⟨moved.resolved, moved.pending⟩
  · exact faults

/-- Releasing a process records it made ready if it was new. -/
theorem FaultLog.release (faults : s.FaultLog) (pid : Nat) : (s.release pid).FaultLog := by
  unfold Scheduler.release
  split
  · rename_i cb found
    dsimp only
    split
    · rename_i new
      have released : ({ s with released := insertPid pid s.released } : Scheduler).FaultLog :=
        ⟨faults.resolved, faults.pending⟩
      refine released.addToReady pid .created ?_ (by decide)
      intro cb' found'
      have same : cb' = cb := by simpa [found] using found'.symm
      rw [same, new]
      exact nofun
    · exact ⟨faults.resolved, faults.pending⟩
  · exact faults

/-- Clearing a reason: a process left waiting for nothing is recorded made ready. A process
waiting for a page is woken only by its page, and then waits for nothing else. -/
theorem FaultLog.unblock (faults : s.FaultLog) (pid : Nat)
    {reason : BlockReason} {cause : Cause} (ready : cause ≠ .pageFault)
    (clears : ∀ cb, s.get? pid = some cb → cb.blockedOn.pageFault = true →
      reason.pageFault = true → (cb.blockedOn.diff reason).isEmpty = true ∧ cause = .pageLoaded) :
    (s.unblock pid reason cause).2.FaultLog := by
  unfold Scheduler.unblock
  split
  · exact faults
  · rename_i cb found
    have found' : (s.modify pid fun cb' => { cb' with blockedOn := cb.blockedOn.diff reason }).get?
        pid = some { cb with blockedOn := cb.blockedOn.diff reason } := by
      simp [found]
    dsimp only
    split
    · rename_i waiting
      refine faults.of_log rfl fun q waits => ?_
      obtain ⟨cb', found'', status, fault⟩ := waits
      by_cases same : pid = q
      · subst same
        rw [found, Option.some.injEq] at found''
        subst found''
        have kept : reason.pageFault = false := by
          cases page : reason.pageFault
          · rfl
          · have cleared := (clears cb found fault page).1
            simp [cleared, status] at waiting
        exact ⟨{ cb with blockedOn := cb.blockedOn.diff reason }, found', status,
          by simp [BlockReason.diff, fault, kept]⟩
      · exact ⟨cb', by simp [same, found''], status, fault⟩
    · rename_i woken
      simp only [Bool.or_eq_true, Bool.not_eq_true', ne_eq, decide_eq_true_eq, not_or,
        Bool.not_eq_false, Decidable.not_not] at woken
      obtain ⟨empty, blocked⟩ := woken
      have live : (s.modify pid fun cb' => { cb' with blockedOn := cb.blockedOn.diff reason }).contains
          pid = true := contains_of_get? found'
      unfold Scheduler.addToReady
      rw [if_pos live]
      have found'' : ({ s.modify pid (fun cb' => { cb' with blockedOn := cb.blockedOn.diff reason })
          with blocked := s.blocked.erase pid } : Scheduler).get? pid =
            some { cb with blockedOn := cb.blockedOn.diff reason } := by
        simpa using found'
      have moved : (({ s.modify pid (fun cb' => { cb' with blockedOn := cb.blockedOn.diff reason })
          with blocked := s.blocked.erase pid } : Scheduler).transition pid cause .ready).FaultLog := by
        refine faults.move found (log_transition found'' cause .ready) ?_ ?_ ?_
        · intro _ fault
          -- nothing is left to wait for, so the page was among the reasons cleared
          have page : reason.pageFault = true := by
            cases page : reason.pageFault
            · simp [BlockReason.isEmpty, BlockReason.diff, fault, page] at empty
            · rfl
          exact .inl ⟨(clears cb found fault page).2, rfl⟩
        · intro q other
          simp [Ne.symm other]
        · intro fault
          exact absurd fault ready
      dsimp only
      split
      · exact moved
      · exact ⟨moved.resolved, moved.pending⟩

/-- Ending a process records its end; its last record is then not a page fault. -/
theorem FaultLog.removeProcess (faults : s.FaultLog) (pid : Nat) {cause : Cause}
    (ended : cause ≠ .pageFault) : (s.removeProcess pid cause).2.FaultLog := by
  by_cases live : s.contains pid
  · obtain ⟨cb, found⟩ := get?_of_contains live
    have log : (s.removeProcess pid cause).2.log =
        s.log.record pid cb.name cause cb.status .terminated cb.pageTable := by
      unfold Scheduler.removeProcess
      rw [if_pos live]
      exact log_transition found cause .terminated
    refine faults.move found log (fun _ _ => .inr rfl) ?_ ?_
    · intro q other
      rw [get?_removeProcess, if_neg (Ne.symm other)]
    · intro fault
      exact absurd fault ended
  · have same : (s.removeProcess pid cause).2 = s := by
      unfold Scheduler.removeProcess
      rw [if_neg live]
    rw [same]
    exact faults

/-- A new process under a pid no live process has records nothing. -/
theorem FaultLog.insert (faults : s.FaultLog) {cb : ControlBlock} (fresh : s.get? cb.pid = none) :
    (s.insert cb).FaultLog := by
  refine faults.of_log rfl fun q waits => ?_
  obtain ⟨cb', found, status, fault⟩ := waits
  have other : cb.pid ≠ q := fun same => by rw [same, found] at fresh; cases fresh
  exact ⟨cb', by simp [other, found], status, fault⟩

end Scheduler

end PagedMachine
