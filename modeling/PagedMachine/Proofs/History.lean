import PagedMachine.Proofs.Termination
import PagedMachine.Proofs.ReadyOrder

/-!
# The history of status changes

Every change of a process's status is recorded in the transition log, numbered from 1; the log
keeps the latest `historyLimit` records. `Kernel.history` is the whole history a run makes: the
records each call adds, those numbered past the count before it.

The process state machine says which moves a cause allows (`Cause.allows`). The records of one
process walk it from `new` (`Walk`): each starts where the one before ended, and each is a move
its cause allows, so none stays in place and none leaves `terminated`.

Along every run, the history and the scheduler agree (`Scheduler.Chronicle`): the history is
numbered 1, 2, ... without a gap, the log holds its latest records and counts them all, the
records of every process walk the state machine from `new`, and those of a live process end at
its status. Each scheduling operation records the moves it makes and keeps the agreement
(`Scheduler.Continues`), because of what the queues tell about the process it moves: a ready
process is dispatched, the running one is sent back, blocked or ended, a blocked one is woken.

Main statement: `Kernel.run_history_walks`.
-/

namespace PagedMachine

/-- The moves of the process state machine, by cause. A new process is made ready, a ready one
dispatched; a running one is sent back by the timer, blocked by a page fault or a console
request, or ended by its own instruction; a page fault also blocks a ready one; a page arriving
or a console transfer finishing wakes a blocked one; an invalid address, a full disk or a
removal ends one that is ready, running or blocked. -/
def Cause.allows : Cause → TaskStatus → TaskStatus → Bool
  | .created, .new, .ready => true
  | .dispatched, .ready, .running => true
  | .timeSliceExpired, .running, .ready => true
  | .pageFault, .running, .blocked | .pageFault, .ready, .blocked => true
  | .ioRequested, .running, .blocked => true
  | .pageLoaded, .blocked, .ready | .ioCompleted, .blocked, .ready => true
  | .stopped, .running, .terminated | .overflow, .running, .terminated => true
  | .invalidInstruction, .running, .terminated => true
  | .invalidAddress, .ready, .terminated | .invalidAddress, .running, .terminated => true
  | .invalidAddress, .blocked, .terminated => true
  | .diskFull, .ready, .terminated | .diskFull, .running, .terminated => true
  | .diskFull, .blocked, .terminated => true
  | .removed, .ready, .terminated | .removed, .running, .terminated => true
  | .removed, .blocked, .terminated => true
  | _, _, _ => false

namespace Cause

/-- No move stays in place. -/
theorem allows_self (c : Cause) (s : TaskStatus) : c.allows s s = false := by
  cases c <;> cases s <;> rfl

/-- No move leaves `terminated`. -/
theorem allows_terminated (c : Cause) (t : TaskStatus) : c.allows .terminated t = false := by
  cases c <;> cases t <;> rfl

/-- A move the state machine allows changes the status. -/
theorem source_ne_target {c : Cause} {s t : TaskStatus} (allowed : c.allows s t = true) : s ≠ t := by
  rintro rfl
  rw [allows_self] at allowed
  cases allowed

/-- An invalid address, a full disk or a removal ends a process in any status it can be in
while live. -/
theorem allows_end {c : Cause} (any : c = .invalidAddress ∨ c = .diskFull ∨ c = .removed)
    {s : TaskStatus} (settled : s ≠ .new ∧ s ≠ .terminated) : c.allows s .terminated = true := by
  rcases any with rfl | rfl | rfl <;> cases s <;> simp_all [allows]

end Cause

/-- The records `l` of one process walk the state machine from status `start` to `finish`: each
starts where the one before it ended, and each is a move its cause allows. -/
inductive Walk : TaskStatus → List Transition → TaskStatus → Prop
  | nil (s : TaskStatus) : Walk s [] s
  | cons {s t : TaskStatus} {x : Transition} {rest : List Transition} (starts : x.source = s)
      (allowed : x.cause.allows x.source x.target = true) (tail : Walk x.target rest t) :
      Walk s (x :: rest) t

namespace Walk

variable {s t : TaskStatus} {l : List Transition}

/-- A walk goes on by a record that starts where it ended. -/
theorem snoc (walk : Walk s l t) {y : Transition} (starts : y.source = t)
    (allowed : y.cause.allows y.source y.target = true) : Walk s (l ++ [y]) y.target := by
  induction walk with
  | nil s => exact .cons starts allowed (.nil _)
  | cons first allowed' _ ih => exact .cons first allowed' (ih starts)

/-- Every step of a walk is a move its cause allows. -/
theorem allowed (walk : Walk s l t) : ∀ x ∈ l, x.cause.allows x.source x.target = true := by
  induction walk with
  | nil => intro x mem; cases mem
  | cons _ allowed _ ih =>
    intro x mem
    rcases List.mem_cons.1 mem with rfl | later
    · exact allowed
    · exact ih x later

/-- A walk ends where its last step ends, or where it started when it has none. -/
theorem finish_eq (walk : Walk s l t) : (l.getLast?.map (·.target)).getD s = t := by
  induction walk with
  | nil => rfl
  | @cons s t x rest _ _ tail ih =>
    cases rest with
    | nil =>
      cases tail
      rfl
    | cons y more =>
      rw [List.getLast?_cons_cons]
      exact ih

/-- A walk that ends elsewhere than it started has a last step, and it ends there. -/
theorem last_target (walk : Walk s l t) (moved : t ≠ s) : l.getLast?.map (·.target) = some t := by
  have finish := walk.finish_eq
  cases last : l.getLast? with
  | none =>
    rw [last] at finish
    exact absurd finish.symm moved
  | some y =>
    rw [last] at finish
    exact congrArg some finish

/-- A step to `terminated` is the last of a walk. -/
theorem ends {pre post : List Transition} {x : Transition} (walk : Walk s (pre ++ x :: post) t)
    (ended : x.target = .terminated) : post = [] := by
  induction pre generalizing s with
  | nil =>
    cases walk with
    | cons _ _ tail =>
      cases tail with
      | nil => rfl
      | cons starts allowed _ =>
        rw [starts, ended, Cause.allows_terminated] at allowed
        cases allowed
  | cons a rest ih =>
    cases walk with
    | cons _ _ tail => exact ih tail

end Walk

namespace TransitionLog

variable (log : TransitionLog) (pid : Nat) (name : String) (cause : Cause)
  (source target : TaskStatus) (pages : PageTable)

/-- A log that holds the latest records of a history and counts them all does so after one
more record. -/
theorem toList_record_of_drop {H : List Transition}
    (kept : log.toList = H.drop (H.length - historyLimit)) (count : log.seq = H.length) :
    (log.record pid name cause source target pages).toList =
      (H ++ [(⟨H.length + 1, pid, name, cause, source, target, pages⟩ : Transition)]).drop
        (H.length + 1 - historyLimit) := by
  have positive : 0 < historyLimit := by decide
  rw [toList_record, kept, count, length_eq, kept, List.length_drop,
    List.drop_append_of_le_length (by omega)]
  by_cases full : H.length - (H.length - historyLimit) = historyLimit
  · -- the log is full: its oldest record goes
    have shift : H.length + 1 - historyLimit = H.length - historyLimit + 1 := by omega
    rw [if_pos full, List.drop_drop, shift]
  · have short : H.length + 1 - historyLimit = H.length - historyLimit := by omega
    rw [if_neg full, short]

end TransitionLog


/-- The records of process `pid` among `H`, in order. -/
def recordsOf (H : List Transition) (pid : Nat) : List Transition := H.filter (·.pid == pid)

/-- A record added last joins the records of its own process alone. -/
theorem recordsOf_append_single (H : List Transition) (y : Transition) (pid : Nat) :
    recordsOf (H ++ [y]) pid = if y.pid = pid then recordsOf H pid ++ [y] else recordsOf H pid := by
  unfold recordsOf
  rw [List.filter_append]
  by_cases same : y.pid = pid <;> simp [same]

namespace Scheduler

variable {s s' s'' : Scheduler} {H : List Transition} {n : Nat}

/-- The history `H` agrees with scheduler `s`: it is numbered 1, 2, ... without a gap, the log
counts all its records and holds the latest, the records of every process walk the state
machine from `new`, and those of a live process end at its status. -/
structure Chronicle (s : Scheduler) (H : List Transition) : Prop where
  numbered : H.map (·.seq) = List.range' 1 H.length
  count : s.log.seq = H.length
  kept : s.log.toList = H.drop (H.length - historyLimit)
  walks : ∀ pid, ∃ t, Walk .new (recordsOf H pid) t
  current : ∀ pid cb, s.get? pid = some cb → Walk .new (recordsOf H pid) cb.status

/-- A change that records nothing and moves no process keeps the agreement; it may drop
processes. -/
theorem Chronicle.quiet (chron : s.Chronicle H) (log : s'.log = s.log)
    (statuses : ∀ q cb', s'.get? q = some cb' → ∃ cb, s.get? q = some cb ∧ cb.status = cb'.status) :
    s'.Chronicle H := by
  refine ⟨chron.numbered, by rw [log]; exact chron.count, by rw [log]; exact chron.kept,
    chron.walks, fun q cb' found' => ?_⟩
  obtain ⟨cb, found, same⟩ := statuses q cb' found'
  exact same ▸ chron.current q cb found

/-- The agreement reads the scheduler through its table and its log alone. -/
theorem Chronicle.of_table (chron : s.Chronicle H) (log : s'.log = s.log)
    (table : s'.table = s.table) : s'.Chronicle H :=
  chron.quiet log fun q cb' found' => ⟨cb', by rwa [get?, table] at found', rfl⟩

/-- `s'` continues the history `H` of `s` by at most `n` records, each of a process live in
`s`. -/
def Continues (s : Scheduler) (H : List Transition) (s' : Scheduler) (n : Nat) : Prop :=
  ∃ new, new.length ≤ n ∧ (∀ x ∈ new, s.contains x.pid = true) ∧ s'.Chronicle (H ++ new)

/-- A scheduler agreeing with `H` continues it by no record. -/
theorem Chronicle.continues (chron : s'.Chronicle H) : Continues s H s' n :=
  ⟨[], Nat.zero_le _, by simp, by simpa using chron⟩

/-- Continuing by at most `n` records is continuing by at most any more. -/
theorem Continues.mono {m : Nat} (cont : Continues s H s' n) (le : n ≤ m) : Continues s H s' m := by
  obtain ⟨new, short, live, chron⟩ := cont
  exact ⟨new, Nat.le_trans short le, live, chron⟩

/-- Continuing by `a` records and then by `b` continues by `a + b`, when no process became live. -/
theorem Continues.trans {a b : Nat} (first : Continues s H s' a)
    (second : ∀ H', s'.Chronicle H' → Continues s' H' s'' b)
    (live : ∀ q, s'.contains q = true → s.contains q = true) : Continues s H s'' (a + b) := by
  obtain ⟨new, short, recorded, chron⟩ := first
  obtain ⟨new', short', recorded', chron'⟩ := second _ chron
  refine ⟨new ++ new', by rw [List.length_append]; omega, fun x mem => ?_,
    by rwa [← List.append_assoc]⟩
  rcases List.mem_append.1 mem with old | later
  · exact recorded x old
  · exact live x.pid (recorded' x later)

/-- A change of the queues, the processor or the releases leaves the history continued. -/
theorem Continues.of_table (cont : Continues s H s' n) (log : s''.log = s'.log)
    (table : s''.table = s'.table) : Continues s H s'' n := by
  obtain ⟨new, short, recorded, chron⟩ := cont
  exact ⟨new, short, recorded, chron.of_table log table⟩

/-- Records of processes live in one scheduler are of processes live in one with more. -/
theorem Continues.from (cont : Continues s' H s'' n)
    (live : ∀ q, s'.contains q = true → s.contains q = true) : Continues s H s'' n := by
  obtain ⟨new, short, recorded, chron⟩ := cont
  exact ⟨new, short, fun x mem => live x.pid (recorded x mem), chron⟩

/-- A change that records one move of a live process `pid`, allowed by its cause, and changes
the status of no other process continues the history by that record. -/
theorem Chronicle.move (chron : s.Chronicle H) {pid : Nat} {cb : ControlBlock} {cause : Cause}
    {target : TaskStatus} {name : String} {pages : PageTable} (found : s.get? pid = some cb)
    (log : s'.log = s.log.record pid name cause cb.status target pages)
    (allowed : cause.allows cb.status target = true)
    (moved : ∀ cb', s'.get? pid = some cb' → cb'.status = target)
    (others : ∀ q, q ≠ pid → s'.get? q = s.get? q) : Continues s H s' 1 := by
  let y : Transition := ⟨H.length + 1, pid, name, cause, cb.status, target, pages⟩
  have walked : Walk .new (recordsOf H pid ++ [y]) target :=
    (chron.current pid cb found).snoc rfl allowed
  refine ⟨[y], Nat.le_refl _, fun x mem => ?_, ⟨?_, ?_, ?_, fun q => ?_, fun q cb' found' => ?_⟩⟩
  · rw [List.mem_singleton.1 mem]
    exact contains_of_get? found
  · rw [List.map_append, chron.numbered, List.length_append, List.length_singleton,
      List.range'_concat]
    simp [y, Nat.add_comm]
  · rw [log, TransitionLog.seq_record, chron.count, List.length_append, List.length_singleton]
  · rw [log, TransitionLog.toList_record_of_drop _ _ _ _ _ _ _ chron.kept chron.count,
      List.length_append, List.length_singleton]
  · rw [recordsOf_append_single]
    split
    · rename_i same
      subst same
      exact ⟨target, walked⟩
    · exact chron.walks q
  · rw [recordsOf_append_single]
    by_cases same : pid = q
    · subst same
      rw [if_pos rfl, moved cb' found']
      exact walked
    · rw [if_neg (show y.pid ≠ q from same)]
      rw [others q (Ne.symm same)] at found'
      exact chron.current q cb' found'

/-- Recording the move of a live process of `t`, a scheduler with the log of `s` that changed no
status, continues the history of `s` by that record. -/
theorem Chronicle.transition (chron : s.Chronicle H) {t : Scheduler} {pid : Nat}
    {cb cb' : ControlBlock} (found : s.get? pid = some cb) (found' : t.get? pid = some cb')
    (status : cb'.status = cb.status) (log : t.log = s.log)
    (others : ∀ q, q ≠ pid → t.get? q = s.get? q) (cause : Cause) (target : TaskStatus)
    (allowed : cause.allows cb.status target = true) :
    Continues s H (t.transition pid cause target) 1 := by
  refine chron.move found (by rw [log_transition found', status, log]) allowed
    (fun cb'' moved => ?_) fun q other => ?_
  · rw [get?_transition, if_pos rfl, found', Option.map_some, Option.some.injEq] at moved
    rw [← moved]
  · rw [get?_transition, if_neg (Ne.symm other), others q other]

/-- Dispatching records the move of a ready process to the processor. -/
theorem Chronicle.dispatchNext (chron : s.Chronicle H)
    (ready : ∀ pid ∈ s.ready, ∃ cb, s.get? pid = some cb ∧ cb.status = .ready) :
    Continues s H s.dispatchNext.2 1 := by
  unfold Scheduler.dispatchNext
  split
  · exact chron.continues
  · split
    · exact chron.continues
    · rename_i i _
      split
      · exact chron.continues
      · rename_i pid at_i
        obtain ⟨cb, found, status⟩ := ready pid (List.mem_of_getElem? at_i)
        have found' : ({ s with ready := s.ready.eraseIdx i } : Scheduler).get? pid = some cb := by
          simpa using found
        simp only [get?_transition, get?_mk, find?_table, found, ↓reduceIte, Option.map_some]
        exact (chron.transition found found' rfl rfl (fun _ _ => rfl) .dispatched .running
          (by rw [status]; rfl)).of_table rfl rfl

/-- The running process, its slice used up, is recorded going back to the queue, and the next
one is dispatched. -/
theorem Chronicle.onTimerExpired (chron : s.Chronicle H) (agree : s.QueuesAgree) :
    Continues s H s.onTimerExpired 2 := by
  unfold Scheduler.onTimerExpired
  cases running : s.running with
  | none =>
    simp only [takeRunning, running]
    exact (chron.dispatchNext fun q mem => agree.get?_of_ready mem).mono (by decide)
  | some pid =>
    obtain ⟨cb, found, status, notReady, found'⟩ := agree.get?_takeRunning running
    simp only [takeRunning, running]
    refine Continues.trans (a := 1) (b := 1) ?_ (fun H' chron' => chron'.dispatchNext ?_) ?_
    · exact (chron.transition found found' rfl rfl (fun q other => by simp [Ne.symm other])
        .timeSliceExpired .ready (by rw [status]; rfl)).of_table rfl rfl
    · intro q mem
      rw [transition_ready, List.mem_append, List.mem_singleton] at mem
      rcases mem with queued | rfl
      · obtain ⟨cb', found'', ready⟩ := agree.get?_of_ready queued
        have other : pid ≠ q := fun same => notReady (same ▸ queued)
        exact ⟨cb', by simp [other, found''], ready⟩
      · exact ⟨{ cb with context := s.cpu.context, status := .ready }, by simp [found], rfl⟩
    · intro q alive
      simpa using alive

/-- Blocking the running process records its move to the blocked set, and the next one is
dispatched. -/
theorem Chronicle.blockRunning (chron : s.Chronicle H) (agree : s.QueuesAgree)
    {reason : BlockReason} {cause : Cause} (allowed : cause.allows .running .blocked = true) :
    Continues s H (s.blockRunning reason cause) 2 := by
  unfold Scheduler.blockRunning
  cases running : s.running with
  | none =>
    simp only [takeRunning, running]
    exact (chron.dispatchNext fun q mem => agree.get?_of_ready mem).mono (by decide)
  | some pid =>
    obtain ⟨cb, found, status, notReady, -⟩ := agree.get?_takeRunning running
    have found' : ({ s.modify pid (fun cb => { cb with context := s.cpu.context }) with
        running := none }.modify pid fun cb => { cb with blockedOn := cb.blockedOn.union reason } :
          Scheduler).get? pid =
        some { cb with context := s.cpu.context, blockedOn := cb.blockedOn.union reason } := by
      simp [found]
    simp only [takeRunning, running]
    refine Continues.trans (a := 1) (b := 1) ?_ (fun H' chron' => chron'.dispatchNext ?_) ?_
    · exact (chron.transition found found' rfl rfl (fun q other => by simp [Ne.symm other]) cause
        .blocked (by rw [status]; exact allowed)).of_table rfl rfl
    · intro q mem
      have queued : q ∈ s.ready := by simpa using mem
      obtain ⟨cb', found'', ready⟩ := agree.get?_of_ready queued
      have other : pid ≠ q := fun same => notReady (same ▸ queued)
      exact ⟨cb', by simp [other, found''], ready⟩
    · intro q alive
      simpa using alive

/-- Blocking a process that is not running records the move of a ready one to the blocked set;
one that is not ready only waits for more. -/
theorem Chronicle.block (chron : s.Chronicle H) (pid : Nat) {reason : BlockReason}
    {cause : Cause} (allowed : cause.allows .ready .blocked = true) :
    Continues s H (s.block pid reason cause) 1 := by
  unfold Scheduler.block
  split
  · exact chron.continues
  · cases found : s.get? pid with
    | none => exact chron.continues
    | some cb =>
      simp only
      split
      · rename_i ready
        have found' : ({ s.modify pid (fun cb => { cb with blockedOn := cb.blockedOn.union reason })
            with ready := s.ready.filter (· ≠ pid) } : Scheduler).get? pid =
              some { cb with blockedOn := cb.blockedOn.union reason } := by
          simp [found]
        exact (chron.transition found found' rfl rfl (fun q other => by simp [Ne.symm other]) cause
          .blocked (by rw [ready]; exact allowed)).of_table rfl rfl
      · refine Chronicle.continues (chron.quiet rfl fun q cb' found' => ?_)
        by_cases same : pid = q
        · subst same
          simp only [get?_modify, if_true, found, Option.map_some, Option.some.injEq] at found'
          exact ⟨cb, found, by rw [← found']⟩
        · exact ⟨cb', by simpa [same] using found', rfl⟩

/-- Making a process ready records its move, when its cause allows the move from its status. -/
theorem Chronicle.addToReady (chron : s.Chronicle H) (pid : Nat) (cause : Cause)
    (allowed : ∀ cb, s.get? pid = some cb → cause.allows cb.status .ready = true) :
    Continues s H (s.addToReady pid cause) 1 := by
  unfold Scheduler.addToReady
  split
  · rename_i live
    obtain ⟨cb, found⟩ := get?_of_contains live
    have found' : ({ s with blocked := s.blocked.erase pid } : Scheduler).get? pid = some cb := by
      simpa using found
    have moved : Continues s H
        (({ s with blocked := s.blocked.erase pid } : Scheduler).transition pid cause .ready) 1 :=
      chron.transition found found' rfl rfl (fun _ _ => rfl) cause .ready (allowed cb found)
    dsimp only
    split
    · exact moved
    · exact moved.of_table rfl rfl
  · exact chron.continues

/-- Releasing a process records it made ready if it was new. -/
theorem Chronicle.release (chron : s.Chronicle H) (pid : Nat) :
    Continues s H (s.release pid) 1 := by
  unfold Scheduler.release
  split
  · rename_i cb found
    dsimp only
    split
    · rename_i new
      have released : ({ s with released := insertPid pid s.released } : Scheduler).Chronicle H :=
        chron.of_table rfl rfl
      refine (released.addToReady pid .created fun cb' found' => ?_).from fun q alive => alive
      have same : cb' = cb := by simpa [found] using found'.symm
      rw [same, new]
      rfl
    · exact Chronicle.continues (chron.of_table rfl rfl)
  · exact chron.continues

/-- Clearing a reason records a blocked process made ready when none is left. -/
theorem Chronicle.unblock (chron : s.Chronicle H) (pid : Nat) (reason : BlockReason)
    {cause : Cause} (allowed : cause.allows .blocked .ready = true) :
    Continues s H (s.unblock pid reason cause).2 1 := by
  unfold Scheduler.unblock
  split
  · exact chron.continues
  · rename_i cb found
    have reasons : (s.modify pid fun cb' => { cb' with blockedOn := cb.blockedOn.diff reason }).Chronicle
        H := by
      refine chron.quiet rfl fun q cb' found' => ?_
      by_cases same : pid = q
      · subst same
        simp only [get?_modify, if_true, found, Option.map_some, Option.some.injEq] at found'
        exact ⟨cb, found, by rw [← found']⟩
      · exact ⟨cb', by simpa [same] using found', rfl⟩
    dsimp only
    split
    · exact reasons.continues
    · rename_i woken
      simp only [Bool.or_eq_true, Bool.not_eq_true', ne_eq, decide_eq_true_eq, not_or,
        Bool.not_eq_false, Decidable.not_not] at woken
      refine (reasons.addToReady pid cause fun cb' found' => ?_).from fun q alive => by
        simpa using alive
      simp only [get?_modify, if_true, found, Option.map_some, Option.some.injEq] at found'
      rw [← found', woken.2]
      exact allowed

/-- Ending a live process records its end, when its cause allows the end from its status. -/
theorem Chronicle.removeProcess (chron : s.Chronicle H) (pid : Nat) {cause : Cause}
    (allowed : ∀ cb, s.get? pid = some cb → cause.allows cb.status .terminated = true) :
    Continues s H (s.removeProcess pid cause).2 1 := by
  by_cases live : s.contains pid
  · obtain ⟨cb, found⟩ := get?_of_contains live
    have log : (s.removeProcess pid cause).2.log =
        s.log.record pid cb.name cause cb.status .terminated cb.pageTable := by
      unfold Scheduler.removeProcess
      rw [if_pos live]
      exact log_transition found cause .terminated
    refine chron.move found log (allowed cb found) ?_ ?_
    · intro cb' gone
      rw [get?_removeProcess, if_pos rfl] at gone
      cases gone
    · intro q other
      rw [get?_removeProcess, if_neg (Ne.symm other)]
  · have same : (s.removeProcess pid cause).2 = s := by
      unfold Scheduler.removeProcess
      rw [if_neg live]
    rw [same]
    exact chron.continues

/-- A new process, under a pid with no records, records nothing. -/
theorem Chronicle.insert (chron : s.Chronicle H) {cb : ControlBlock} (new : cb.status = .new) (unrecorded : recordsOf H cb.pid = []) : (s.insert cb).Chronicle H := by
  refine ⟨chron.numbered, chron.count, chron.kept, chron.walks, fun q cb' found' => ?_⟩
  rw [get?_insert] at found'
  split at found'
  · rename_i same
    cases found'
    rw [← same, unrecorded, new]
    exact .nil _
  · exact chron.current q cb' found'

/-- Paging records nothing and changes no status. -/
theorem Chronicle.repage (chron : s.Chronicle H) (repaged : Repaged s s') : s'.Chronicle H := by
  refine chron.quiet (by obtain ⟨t, rfl⟩ := repaged.only_table; rfl) fun q cb' found' => ?_
  have view := repaged.same_standing q
  rw [found', Option.map_some] at view
  obtain ⟨cb, found, standing'⟩ := Option.map_eq_some_iff.1 view.symm
  simp only [standing, Prod.mk.injEq] at standing'
  exact ⟨cb, found, standing'.1⟩

end Scheduler


namespace Kernel

open Scheduler MemoryManager

variable {k k' : Kernel} {H : List Transition} {n : Nat}

/-- The kernel agrees with the history `H`: its scheduler does, and every record is of a pid it
has handed out. -/
structure Chronicled (k : Kernel) (H : List Transition) : Prop where
  sched : k.sched.Chronicle H
  issued : ∀ x ∈ H, x.pid < k.nextPid

/-- `k` continues the history `H` by at most `n` records. -/
def Continued (k : Kernel) (H : List Transition) (n : Nat) : Prop :=
  ∃ new, new.length ≤ n ∧ k.Chronicled (H ++ new)

/-- A kernel agreeing with `H` continues it by no record. -/
theorem Chronicled.continued (chron : k.Chronicled H) : k.Continued H n :=
  ⟨[], Nat.zero_le _, by simpa using chron⟩

/-- Continuing by at most `n` records is continuing by at most any more. -/
theorem Continued.mono {m : Nat} (cont : k.Continued H n) (le : n ≤ m) : k.Continued H m := by
  obtain ⟨new, short, chron⟩ := cont
  exact ⟨new, Nat.le_trans short le, chron⟩

/-- Continuing by `a` records and then by `b` continues by `a + b`. -/
theorem Continued.trans {a b : Nat} (first : k.Continued H a)
    (second : ∀ H', k.Chronicled H' → k'.Continued H' b) : k'.Continued H (a + b) := by
  obtain ⟨new, short, chron⟩ := first
  obtain ⟨new', short', chron'⟩ := second _ chron
  refine ⟨new ++ new', by rw [List.length_append]; omega, ?_⟩
  rwa [← List.append_assoc]

/-- A scheduler that continues the history of one whose processes all have pids below the
counter continues it in the kernel. -/
theorem Continued.of_sched {s : Scheduler} (cont : s.Continues H k.sched n)
    (live : ∀ q, s.contains q = true → q < k.nextPid) (issued : ∀ x ∈ H, x.pid < k.nextPid) :
    k.Continued H n := by
  obtain ⟨new, short, recorded, chron⟩ := cont
  refine ⟨new, short, chron, fun x mem => ?_⟩
  rcases List.mem_append.1 mem with old | made
  · exact issued x old
  · exact live x.pid (recorded x made)

/-- A scheduling operation that hands out no pid continues the history in the kernel. -/
theorem Chronicled.lift (chron : k.Chronicled H) (sched : k.Scheduled)
    (cont : k.sched.Continues H k'.sched n) (next : k.nextPid ≤ k'.nextPid) : k'.Continued H n :=
  Continued.of_sched cont (fun q alive => Nat.lt_of_lt_of_le (sched.issued q alive) next)
    fun x mem => Nat.lt_of_lt_of_le (chron.issued x mem) next

/-- Halting keeps the agreement with the history. -/
theorem Chronicled.halt (chron : k.Chronicled H) (e : KernelError) : (k.halt e).Chronicled H :=
  ⟨chron.sched, chron.issued⟩

/-- Another processor state keeps the agreement with the history. -/
theorem Chronicled.withCpu (chron : k.Chronicled H) (cpu : Cpu) : (k.withCpu cpu).Chronicled H :=
  ⟨chron.sched.of_table rfl rfl, chron.issued⟩

/-- Paging keeps the agreement with the history. -/
theorem Chronicled.repage (chron : k.Chronicled H) {s : Scheduler} (repaged : Repaged k.sched s)
    (mm : MemoryManager) : ({ k with mm, sched := s } : Kernel).Chronicled H :=
  ⟨chron.sched.repage repaged, chron.issued⟩

/-- A process the kernel ends is ready, running or blocked, and any cause that ends such a
process allows it. -/
theorem Chronicled.terminate (chron : k.Chronicled H) (sched : k.Scheduled) (pid : Nat)
    {cause : Cause}
    (allowed : ∀ cb, k.sched.get? pid = some cb → cause.allows cb.status .terminated = true) :
    (k.terminate pid cause).Continued H 2 := by
  refine chron.lift sched (Continues.trans (a := 1) (b := 1)
    (chron.sched.removeProcess pid allowed) (fun H' chron' => chron'.dispatchNext fun q mem =>
      (sched.agree.removeProcess pid cause).get?_of_ready mem) fun q alive => ?_) (Nat.le_refl _)
  simp only [contains_removeProcess, Bool.and_eq_true] at alive
  exact alive.2

/-- An invalid address, a full disk or a removal may end any live process. -/
theorem Chronicled.terminate_any (chron : k.Chronicled H) (sched : k.Scheduled) (pid : Nat)
    {cause : Cause} (any : cause = .invalidAddress ∨ cause = .diskFull ∨ cause = .removed) :
    (k.terminate pid cause).Continued H 2 :=
  chron.terminate sched pid fun cb found => Cause.allows_end any (sched.agree.placed pid cb found).settled

/-- The running process may be ended by its own instruction. -/
theorem Chronicled.endRunning (chron : k.Chronicled H) (sched : k.Scheduled) {cause : Cause}
    (allowed : cause.allows .running .terminated = true) : (k.endRunning cause).Continued H 2 := by
  unfold Kernel.endRunning
  split
  · rename_i pid running
    refine chron.terminate sched pid fun cb found => ?_
    rw [(sched.agree.placed pid cb found).running.2 running]
    exact allowed
  · exact chron.continued

/-- Waking a blocked process, for a cause that allows it, continues the history by one record. -/
theorem Chronicled.unblock (chron : k.Chronicled H) (sched : k.Scheduled) (pid : Nat)
    (reason : BlockReason) {cause : Cause} (allowed : cause.allows .blocked .ready = true) :
    ({ k with sched := (k.sched.unblock pid reason cause).2 } : Kernel).Continued H 1 :=
  chron.lift sched (chron.sched.unblock pid reason allowed) (Nat.le_refl _)

/-- Any disk completion at all records at most the end of one process and the start of the
next. -/
theorem Chronicled.diskDone (chron : k.Chronicled H) (sched : k.Scheduled) (c : Completion) :
    (k.diskDone c).Continued H 2 := by
  unfold Kernel.diskDone
  split
  · rename_i data _
    rcases loaded : k.mm.completeLoad k.sched c.pid c.page c.frame data with ⟨woken, mm, s⟩
    have repaged := repaged_of_completeLoad sched.agree.wf loaded
    have installed := chron.repage repaged mm
    dsimp only
    split
    · exact (installed.unblock (sched.repage repaged mm) _ _ rfl).mono (by decide)
    · exact installed.continued
  · exact (chron.repage (repaged_completeSave _ _ _) k.mm).continued
  · split
    · exact chron.terminate_any sched _ (.inr (.inl rfl))
    · exact chron.continued

/-- Any console completion at all records at most two moves: a value whose page is absent
blocks a ready process on the page before the console reason is cleared. -/
theorem Chronicled.ioDone (chron : k.Chronicled H) (sched : k.Scheduled) (c : IoCompletion) :
    (k.ioDone c).Continued H 2 := by
  cases c with
  | write pid => exact (chron.unblock sched pid _ rfl).mono (by decide)
  | read pid addr value =>
    simp only [Kernel.ioDone]
    split
    · exact chron.continued
    · split
      · rename_i pa mm s translated
        have repaged := repaged_of_translate translated
        exact ((chron.repage repaged (mm.write pa (.data value))).unblock
          (sched.repage repaged (mm.write pa (.data value))) pid _ rfl).mono (by decide)
      · rename_i page mm s translated
        have repaged := (repaged_of_translate translated).trans (repaged_deferInput s pid addr value)
        have paged := chron.repage repaged mm
        have blocked : (deferInput s pid addr value).Continues H
            ((deferInput s pid addr value).block pid BlockReason.pageFaultOnly .pageFault) 1 :=
          paged.sched.block pid rfl
        refine paged.lift (sched.repage repaged mm) (Continues.trans (a := 1) (b := 1) blocked
          (fun H' chron' => chron'.unblock pid _ rfl) fun q alive => ?_) (Nat.le_refl _)
        rwa [(unscheduled_pageTable.block pid _ _).contains_eq] at alive
      · rename_i mm s translated
        have repaged := repaged_of_translate translated
        exact (chron.repage repaged mm).terminate_any (sched.repage repaged mm) pid (.inl rfl)
      · rename_i mm s translated
        exact ((chron.repage (repaged_of_translate translated) mm).halt _).continued

/-- Any interrupt at all records at most two moves. -/
theorem Chronicled.handle (chron : k.Chronicled H) (sched : k.Scheduled) (irq : Interrupt) :
    (k.handle irq).Continued H 2 := by
  cases irq with
  | trap t =>
    cases t with
    | timer => exact chron.lift sched (chron.sched.onTimerExpired sched.agree) (Nat.le_refl _)
    | pageFault page =>
      simp only [Kernel.handle]
      split
      · exact chron.lift sched (chron.sched.blockRunning sched.agree rfl) (Nat.le_refl _)
      · exact chron.continued
    | ioWait => exact chron.lift sched (chron.sched.blockRunning sched.agree rfl) (Nat.le_refl _)
    | framesExhausted => exact (chron.halt _).continued
    | invalidAddress | overflow | invalidInstruction | stop => exact chron.endRunning sched rfl
  | diskDone c => exact chron.diskDone sched c
  | ioDone c => exact chron.ioDone sched c

/-- The accesses of an instruction only page. -/
theorem bus_keeps_chronicled (H : List Transition) (pid limit : Nat) :
    Exec.Keeps (bus pid limit) (fun k => k.Chronicled H ∧ k.sched.running = some pid)
      fun _ k => k.Chronicled H :=
  bus_keeps_of_repage (fun _ _ mm chron repaged => chron.repage repaged mm) pid limit

/-- Dispatching before an instruction records at most the dispatch. -/
theorem Chronicled.dispatched (chron : k.Chronicled H) (sched : k.Scheduled) :
    k.dispatched.Continued H 1 := by
  unfold Kernel.dispatched
  split
  · exact chron.lift sched (chron.sched.dispatchNext fun q mem => sched.agree.get?_of_ready mem)
      (Nat.le_refl _)
  · exact chron.continued

/-- Dispatching before a step keeps the queues agreeing with the table. -/
theorem Scheduled.dispatched (sched : k.Scheduled) : k.dispatched.Scheduled := by
  unfold Kernel.dispatched
  split
  · exact sched.reschedule sched.agree.dispatchNext unscheduled_pageTable.dispatchNext
  · exact sched

/-- A step records at most three moves: a dispatch, then none for the instruction, which only
pages, then at most two for the trap it raises. -/
theorem Chronicled.step (chron : k.Chronicled H) (sched : k.Scheduled) : k.step.2.Continued H 3 := by
  rw [step_eq]
  split
  · exact chron.continued
  · refine (chron.dispatched sched).trans (b := 2) fun H' chron' => ?_
    split
    · exact chron'.continued
    · rename_i pid current
      have outcome := @Cpu.step_post _ _ _ (fun k => k.Scheduled ∧ k.Chronicled H') _
        ((bus_keeps_scheduled pid (((k.dispatched.sched.get? pid).map (·.size)).getD 0)).and
          (bus_keeps_chronicled H' pid _))
        (fun kind k' h => ⟨⟨h.1.1.agree, h.1.1.issued⟩, ⟨h.2.1.sched, h.2.1.issued⟩⟩)
        k.dispatched.sched.cpu _ ⟨⟨sched.dispatched, current⟩, ⟨chron', current⟩⟩
      dsimp only
      generalize (k.dispatched.sched.cpu.step (bus pid _)).run k.dispatched = r at outcome ⊢
      -- whatever the instruction did, it recorded nothing and left the queues agreeing
      have after : r.2.Scheduled ∧ r.2.Chronicled H' := by
        rcases outcome with ⟨_, h⟩ | ⟨_, h⟩ | ⟨_, h⟩ | ⟨_, _, h⟩
        · exact ⟨h.1.1, h.2.1⟩
        · exact ⟨h.1.1, h.2.1⟩
        · exact h
        · exact h
      split
      · exact (after.2.withCpu _).handle (after.1.withCpu _) _
      · exact (after.2.withCpu _).continued

/-- A creation records the new process made ready, under the next pid, which has no records. -/
theorem Chronicled.createProcess (chron : k.Chronicled H) (sched : k.Scheduled) (name : String) :
    (k.createProcess name).2.Continued H 1 := by
  rcases createProcess_cases k name with same | ⟨program, mm, pt, -, -, -, created⟩
  · rw [same]
    exact chron.continued
  · rw [created]
    have unrecorded : recordsOf H k.nextPid = [] := by
      refine List.filter_eq_nil_iff.2 fun x mem same => ?_
      exact Nat.lt_irrefl k.nextPid (beq_iff_eq.1 same ▸ chron.issued x mem)
    refine Continued.of_sched ((chron.sched.insert (by rfl) (by exact unrecorded)).addToReady
      k.nextPid .created fun cb' found' => ?_) (fun q alive => ?_)
      fun x mem => Nat.lt_succ_of_lt (chron.issued x mem)
    · rw [get?_insert] at found'
      split at found'
      · cases found'
        rfl
      · rename_i other
        exact absurd rfl other
    · rw [contains_insert] at alive
      simp only [Bool.or_eq_true, decide_eq_true_eq] at alive
      rcases alive with same | alive
      · exact same ▸ Nat.lt_succ_self _
      · exact Nat.lt_succ_of_lt (sched.issued q alive)

/-- Every call records at most three moves, each allowed, and keeps the history agreeing. -/
theorem Chronicled.call (chron : k.Chronicled H) (sched : k.Scheduled) (c : Call) :
    (k.call c).Continued H 3 := by
  cases c with
  | create name => exact (chron.createProcess sched name).mono (by decide)
  | remove pid =>
    simp only [Kernel.call, Kernel.removeProcess]
    split
    · exact (chron.terminate_any sched pid (.inr (.inr rfl))).mono (by decide)
    · exact chron.continued
  | exec pid =>
    have released : ({ k with sched := k.sched.release pid } : Kernel).Continued H 1 :=
      chron.lift sched (chron.sched.release pid) (Nat.le_refl _)
    simp only [Kernel.call, Kernel.execProcess]
    split
    · exact chron.continued
    · split
      all_goals first
        | exact chron.continued
        | exact released.mono (by decide)
  | setAuto on => exact Chronicled.continued ⟨chron.sched.of_table rfl rfl, chron.issued⟩
  | step => exact chron.step sched
  | dispatch =>
    simp only [Kernel.call, Kernel.dispatchNext]
    split
    · exact chron.continued
    · have dispatched : ({ k with sched := k.sched.dispatchNext.2 } : Kernel).Continued H 1 :=
        chron.lift sched (chron.sched.dispatchNext fun q mem => sched.agree.get?_of_ready mem)
          (Nat.le_refl _)
      exact dispatched.mono (by decide)
  | interrupt irq => exact (chron.handle sched irq).mono (by decide)
  | perform op =>
    simp only [Kernel.call, Kernel.perform]
    have swapped : ({ k with mm := { k.mm with swap := (k.mm.swap.perform op).2 } } :
        Kernel).Chronicled H := ⟨chron.sched, chron.issued⟩
    exact (swapped.handle ⟨sched.agree, sched.issued⟩ _).mono (by decide)
  | takeDisk => exact Chronicled.continued ⟨chron.sched, chron.issued⟩
  | takeConsole => exact Chronicled.continued ⟨chron.sched, chron.issued⟩

/-- The records of `k'` numbered past the count of `k`: those made since `k`. -/
def madeBy (k k' : Kernel) : List Transition :=
  k'.sched.log.toList.filter fun x => k.sched.log.seq < x.seq

/-- The whole history a run from `k` makes: the records each call adds, in order. -/
def history (k : Kernel) : List Call → List Transition
  | [] => []
  | c :: rest => madeBy k (k.call c) ++ (k.call c).history rest

/-- In a history numbered from 1, a prefix holds the numbers up to its length and the rest
those past it. -/
theorem seq_split {H new : List Transition}
    (numbered : (H ++ new).map (·.seq) = List.range' 1 (H ++ new).length) :
    (∀ x ∈ H, x.seq ≤ H.length) ∧ ∀ x ∈ new, H.length < x.seq := by
  rw [List.map_append, List.length_append, ← List.range'_append] at numbered
  obtain ⟨old, made⟩ := List.append_inj numbered (by simp)
  constructor
  · intro x mem
    have range : x.seq ∈ List.range' 1 H.length := by
      rw [← old]
      exact List.mem_map_of_mem mem
    rw [List.mem_range'_1] at range
    omega
  · intro x mem
    have range : x.seq ∈ List.range' (1 + 1 * H.length) new.length := by
      rw [← made]
      exact List.mem_map_of_mem mem
    rw [List.mem_range'_1] at range
    omega

/-- What a call adds to the history is read off the log after it, as long as it adds no more
than the log keeps. -/
theorem madeBy_eq {new : List Transition} (before : k.sched.Chronicle H)
    (after : k'.sched.Chronicle (H ++ new)) (short : new.length ≤ historyLimit) :
    madeBy k k' = new := by
  obtain ⟨old, made⟩ := seq_split after.numbered
  unfold madeBy
  rw [after.kept, List.length_append, List.drop_append_of_le_length (by omega), List.filter_append,
    before.count]
  have gone : (H.drop (H.length + new.length - historyLimit)).filter
      (fun x => decide (H.length < x.seq)) = [] :=
    List.filter_eq_nil_iff.2 fun x mem => by simpa using old x (List.mem_of_mem_drop mem)
  have kept : new.filter (fun x => decide (H.length < x.seq)) = new :=
    List.filter_eq_self.2 fun x mem => by simpa using made x mem
  rw [gone, kept, List.nil_append]

/-- Along any run the kernel agrees with the history it started with followed by the one the run
makes. -/
theorem Chronicled.run (chron : k.Chronicled H) (sched : k.Scheduled) (calls : List Call) :
    (k.run calls).Chronicled (H ++ k.history calls) := by
  induction calls generalizing k H with
  | nil => simpa [Kernel.run, history] using chron
  | cons c rest ih =>
    -- one call adds at most three records, fewer than the log keeps
    obtain ⟨new, short, chron'⟩ := chron.call sched c
    have made : madeBy k (k.call c) = new :=
      madeBy_eq chron.sched chron'.sched (Nat.le_trans short (by decide))
    rw [history, made, ← List.append_assoc]
    exact ih chron' (sched.call c)

/-- A new kernel has no history: its log is empty and it has no processes. -/
theorem Chronicled.new {c : Config} (created : Kernel.new c = some (.ok k)) : k.Chronicled [] := by
  obtain ⟨-, -, rfl⟩ := Kernel.new_eq_ok.1 created
  refine ⟨⟨rfl, rfl, rfl, fun pid => ⟨.new, .nil _⟩, fun pid cb found => ?_⟩, ?_⟩
  · cases found
  · intro x mem
    cases mem

/-- Along every run of the kernel, the history of status changes is numbered 1, 2, ... without
a gap, and the log counts it all and holds its latest `historyLimit` records. The records of
each process walk the state machine from `new`: each starts where the one before ended, and each
is a move its cause allows, so none stays in place. The last record of a live process ends at
its status, and a record that ends a process is its last. -/
theorem run_history_walks {c : Config} (created : Kernel.new c = some (.ok k)) (calls : List Call) :
    (k.run calls).sched.Chronicle (k.history calls) ∧
      (∀ x ∈ k.history calls, x.cause.allows x.source x.target = true ∧ x.source ≠ x.target) ∧
      (∀ pid cb, (k.run calls).sched.get? pid = some cb →
        (recordsOf (k.history calls) pid).getLast?.map (·.target) = some cb.status) ∧
      ∀ pid pre x post, recordsOf (k.history calls) pid = pre ++ x :: post →
        x.target = .terminated → post = [] := by
  have chron := (Chronicled.new created).run (Scheduled.new created) calls
  rw [List.nil_append] at chron
  have sched := run_keeps Scheduled (fun _ c sched => sched.call c) calls k (Scheduled.new created)
  refine ⟨chron.sched, fun x mem => ?_, fun pid cb found => ?_, fun pid pre x post split ended => ?_⟩
  · obtain ⟨t, walk⟩ := chron.sched.walks x.pid
    have allowed := walk.allowed x (List.mem_filter.2 ⟨mem, by simp⟩)
    exact ⟨allowed, Cause.source_ne_target allowed⟩
  · -- a live process has left `new`, so it has a last record
    exact (chron.sched.current pid cb found).last_target
      (sched.agree.placed pid cb found).settled.1
  · obtain ⟨t, walk⟩ := chron.sched.walks pid
    rw [split] at walk
    exact walk.ends ended

/-- The default machine, after creating a process, starting it and running one instruction. -/
theorem default_run_history_walks :
    Kernel.new {} = some (.ok { config := {}, mm := .new {}, sched := .new false 5 }) ∧
      (Kernel.run { config := {}, mm := .new {}, sched := .new false 5 }
        [.create "factorial", .setAuto true, .step]).sched.Chronicle
        (Kernel.history { config := {}, mm := .new {}, sched := .new false 5 }
          [.create "factorial", .setAuto true, .step]) ∧
      (∀ x ∈ Kernel.history { config := {}, mm := .new {}, sched := .new false 5 }
          [.create "factorial", .setAuto true, .step],
        x.cause.allows x.source x.target = true ∧ x.source ≠ x.target) ∧
      (∀ pid cb, (Kernel.run { config := {}, mm := .new {}, sched := .new false 5 }
          [.create "factorial", .setAuto true, .step]).sched.get? pid = some cb →
        (recordsOf (Kernel.history { config := {}, mm := .new {}, sched := .new false 5 }
          [.create "factorial", .setAuto true, .step]) pid).getLast?.map (·.target) =
            some cb.status) ∧
      ∀ pid pre x post,
        recordsOf (Kernel.history { config := {}, mm := .new {}, sched := .new false 5 }
          [.create "factorial", .setAuto true, .step]) pid = pre ++ x :: post →
        x.target = .terminated → post = [] :=
  ⟨rfl, run_history_walks (c := {}) rfl _⟩

end Kernel

end PagedMachine
