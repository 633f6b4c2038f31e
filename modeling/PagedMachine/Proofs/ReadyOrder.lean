import PagedMachine.Proofs.FaultLog

/-!
# The order of the ready queue

A dispatch takes the process `Scheduler.pick` names: the front of the ready queue under
automatic scheduling, and otherwise the first process of the queue released by hand
(`dispatchNext_of_pick`); `canDispatch` says whether one would be taken (`canDispatch_iff`).

The queue is kept in the order its members last became ready, as the transition log tells
(`Scheduler.ReadyOrdered`). The log keeps only its newest records, so the order is stated on the
records it still holds (`EnteredBefore`): members whose last record is gone come first, and the
kept last records grow newer along the queue. Under automatic scheduling the process dispatched
is then the one that became ready first (`ReadyOrdered.dispatched_first`).

One call of the kernel applies several scheduling operations, and `Scheduler.InOrder` carries
what holds between them: the queue is in order, and every dispatch recorded since the call
began, like the process now running, was allowed by the automatic scheduling and the releases
in force when it began. Each operation keeps it by recording one move of one process that
leaves the queue (`InOrder.leave`) or enters it at the back (`InOrder.enter`), or by recording
nothing (`InOrder.quiet`). Releasing by hand changes the releases and dispatches nothing
(`gated_release`).
-/

namespace PagedMachine

namespace TransitionLog

variable {log log' log'' : TransitionLog} {P Q : Transition → Prop}

/-- The records are numbered in the order they were made, and none is ahead of the count. -/
structure Numbered (log : TransitionLog) : Prop where
  increasing : log.toList.Pairwise (·.seq < ·.seq)
  bounded : ∀ x ∈ log.toList, x.seq ≤ log.seq

/-- `log'` came after `log`: it has counted no fewer records, and each record it holds was
already in `log` or was made since, and then satisfies `P`. -/
def Extends (log log' : TransitionLog) (P : Transition → Prop) : Prop :=
  log.seq ≤ log'.seq ∧ ∀ x ∈ log'.toList, x ∈ log.toList ∨ log.seq < x.seq ∧ P x

/-- A log extends itself. -/
theorem Extends.refl (log : TransitionLog) (P : Transition → Prop) : log.Extends log P :=
  ⟨Nat.le_refl _, fun _ mem => .inl mem⟩

/-- Extending a log that extends another extends the first. -/
theorem Extends.trans (first : log.Extends log' P) (second : log'.Extends log'' P) :
    log.Extends log'' P := by
  refine ⟨Nat.le_trans first.1 second.1, fun x mem => ?_⟩
  rcases second.2 x mem with kept | ⟨newer, holds⟩
  · exact first.2 x kept
  · exact .inr ⟨Nat.lt_of_le_of_lt first.1 newer, holds⟩

/-- An extension whose new records satisfy `P` is one for any weaker condition. -/
theorem Extends.mono (ext : log.Extends log' P) (weaker : ∀ x, P x → Q x) : log.Extends log' Q :=
  ⟨ext.1, fun x mem => (ext.2 x mem).imp_right fun ⟨newer, holds⟩ => ⟨newer, weaker x holds⟩⟩

/-- The records a log holds beyond an earlier one are those made since. -/
theorem Extends.made (ext : log.Extends log' P) (numbered : log.Numbered) {x : Transition}
    (mem : x ∈ log'.toList) (newer : log.seq < x.seq) : P x := by
  rcases ext.2 x mem with kept | ⟨_, holds⟩
  · exact absurd (numbered.bounded x kept) (Nat.not_le.2 newer)
  · exact holds

variable (pid : Nat) (name : String) (cause : Cause) (source target : TaskStatus) (pages : PageTable)

/-- Recording a transition counts one more record. -/
@[simp] theorem seq_record : (log.record pid name cause source target pages).seq = log.seq + 1 := rfl

/-- Recording a transition extends the log by it. -/
theorem extends_record (holds : P ⟨log.seq + 1, pid, name, cause, source, target, pages⟩) :
    log.Extends (log.record pid name cause source target pages) P := by
  refine ⟨Nat.le_succ _, fun x mem => ?_⟩
  rw [toList_record, List.mem_append, List.mem_singleton] at mem
  rcases mem with kept | rfl
  · split at kept
    · exact .inl (List.mem_of_mem_drop kept)
    · exact .inl kept
  · exact .inr ⟨Nat.lt_succ_self _, holds⟩

/-- A new record is numbered after every record kept. -/
theorem Numbered.record (numbered : log.Numbered) :
    (log.record pid name cause source target pages).Numbered := by
  have older : ∀ x ∈ log.toList, x.seq < log.seq + 1 :=
    fun x mem => Nat.lt_succ_of_le (numbered.bounded x mem)
  constructor
  · rw [toList_record]
    apply List.pairwise_append.2
    refine ⟨?_, List.pairwise_singleton _ _, ?_⟩
    · split
      · exact numbered.increasing.sublist (List.drop_sublist 1 _)
      · exact numbered.increasing
    · intro x kept y added
      rw [List.mem_singleton] at added
      subst added
      split at kept
      · exact older x (List.mem_of_mem_drop kept)
      · exact older x kept
  · intro x mem
    rw [toList_record, List.mem_append, List.mem_singleton] at mem
    rcases mem with kept | rfl
    · split at kept
      · exact Nat.le_succ_of_le (numbered.bounded x (List.mem_of_mem_drop kept))
      · exact Nat.le_succ_of_le (numbered.bounded x kept)
    · exact Nat.le_refl _

end TransitionLog

/-- Process `p` entered the ready queue before `q`, as far as the log `l` tells: when the last
record of `q` is no longer kept neither is that of `p`, and when both are kept the one of `p`
is older. -/
def EnteredBefore (l : List Transition) (p q : Nat) : Prop :=
  (lastOf l q = none → lastOf l p = none) ∧
    ∀ x y, lastOf l p = some x → lastOf l q = some y → x.seq < y.seq

/-- The last record of a process in a list is in the list and is of that process. -/
theorem mem_of_lastOf {l : List Transition} {p : Nat} {x : Transition}
    (found : lastOf l p = some x) : x ∈ l ∧ x.pid = p := by
  unfold lastOf at found
  exact ⟨List.mem_reverse.1 (List.mem_of_find?_eq_some found),
    by simpa using List.find?_some found⟩

/-- Dropping the oldest record keeps the order of entry. -/
theorem EnteredBefore.tail {h : Transition} {t : List Transition} {p q : Nat}
    (before : EnteredBefore (h :: t) p q) (increasing : (h :: t).Pairwise (·.seq < ·.seq)) :
    EnteredBefore t p q := by
  have last : ∀ r x, lastOf t r = some x → lastOf (h :: t) r = some x := by
    intro r x found
    rw [lastOf_cons, found, Option.some_or]
  constructor
  · intro gone
    cases kept : lastOf t p with
    | none => rfl
    | some x =>
      -- the last record of `q` was the oldest one, older than that of `p`
      have newer : h.seq < x.seq :=
        (List.pairwise_cons.1 increasing).1 x (mem_of_lastOf kept).1
      have lq : lastOf (h :: t) q = if h.pid = q then some h else none := by
        rw [lastOf_cons, gone, Option.none_or]
      split at lq
      · exact absurd (before.2 x h (last p x kept) lq) (Nat.lt_asymm newer)
      · have dropped := before.1 lq
        rw [last p x kept] at dropped
        cases dropped
  · intro x y lp lq
    exact before.2 x y (last p x lp) (last q y lq)

/-- Dropping the oldest records keeps the order of entry. -/
theorem EnteredBefore.drop_one {l : List Transition} {p q : Nat} (before : EnteredBefore l p q)
    (increasing : l.Pairwise (·.seq < ·.seq)) : EnteredBefore (l.drop 1) p q := by
  cases l with
  | nil => exact before
  | cons h t => exact before.tail increasing

/-- A record of a third process leaves the order of entry of `p` and `q` alone. -/
theorem EnteredBefore.append_other {l : List Transition} {p q : Nat} {y : Transition}
    (before : EnteredBefore l p q) (hp : y.pid ≠ p) (hq : y.pid ≠ q) :
    EnteredBefore (l ++ [y]) p q := by
  unfold EnteredBefore
  rw [lastOf_append_singleton, lastOf_append_singleton, if_neg hp, if_neg hq]
  exact before

/-- A process whose record is the newest entered after every other. -/
theorem EnteredBefore.append_self {l : List Transition} {p : Nat} {y : Transition}
    (older : ∀ x ∈ l, x.seq < y.seq) (other : y.pid ≠ p) :
    EnteredBefore (l ++ [y]) p y.pid := by
  unfold EnteredBefore
  rw [lastOf_append_singleton, lastOf_append_singleton, if_neg other, if_pos rfl]
  refine ⟨(fun gone => by cases gone), fun x z lp lq => ?_⟩
  cases lq
  exact older x (mem_of_lastOf lp).1

namespace TransitionLog

variable {log : TransitionLog} (pid : Nat) (name : String) (cause : Cause)
  (source target : TaskStatus) (pages : PageTable)

/-- Recording a transition of a third process keeps the order of entry of `p` and `q`. -/
theorem enteredBefore_record (numbered : log.Numbered) {p q : Nat}
    (before : EnteredBefore log.toList p q) (hp : pid ≠ p) (hq : pid ≠ q) :
    EnteredBefore (log.record pid name cause source target pages).toList p q := by
  rw [toList_record]
  apply EnteredBefore.append_other _ hp hq
  split
  · exact before.drop_one numbered.increasing
  · exact before

/-- The process a transition is recorded for entered after every other. -/
theorem enteredBefore_record_self (numbered : log.Numbered) {p : Nat} (other : pid ≠ p) :
    EnteredBefore (log.record pid name cause source target pages).toList p pid := by
  rw [toList_record]
  apply EnteredBefore.append_self (y := ⟨log.seq + 1, pid, name, cause, source, target, pages⟩)
    _ other
  intro x kept
  split at kept
  · exact Nat.lt_succ_of_le (numbered.bounded x (List.mem_of_mem_drop kept))
  · exact Nat.lt_succ_of_le (numbered.bounded x kept)

end TransitionLog

/-- A record that dispatches a process only if automatic scheduling was `a = true` or the
process is among `r`, the processes released by hand. -/
def Transition.Allowed (a : Bool) (r : List Nat) (x : Transition) : Prop :=
  x.cause = .dispatched → a = true ∨ x.pid ∈ r

namespace Scheduler

variable {s s' : Scheduler} {log : TransitionLog} {a : Bool} {r : List Nat} {o : Option Nat}

/-- Changing a control block leaves automatic scheduling as it was. -/
@[simp] theorem modify_autoSchedule (pid : Nat) (f : ControlBlock → ControlBlock) :
    (s.modify pid f).autoSchedule = s.autoSchedule := rfl

/-- The process the next dispatch takes: the front of the ready queue while automatic scheduling
is on, the first process of the queue released by hand while it is off. -/
def pick (s : Scheduler) : Option Nat :=
  if s.autoSchedule then s.ready.head? else s.ready.find? (· ∈ s.released)

/-- The index a dispatch looks at holds the process the rule picks. -/
theorem pick_eq_bind : s.pick = s.nextReady.bind (s.ready[·]?) := by
  unfold pick nextReady
  split
  · cases s.ready <;> rfl
  · exact List.find?_eq_bind_findIdx?_getElem?

/-- The index a dispatch looks at is inside the ready queue. -/
theorem nextReady_lt {i : Nat} (next : s.nextReady = some i) : i < s.ready.length := by
  unfold nextReady at next
  split at next
  · split at next
    · cases next
    · rename_i nonempty
      cases next
      exact List.length_pos_iff.2 (by simpa using nonempty)
  · exact (List.findIdx?_eq_some_iff_getElem.1 next).1

/-- A process is picked exactly when some queued process may be dispatched. -/
theorem isSome_pick : s.pick.isSome = s.nextReady.isSome := by
  rw [pick_eq_bind]
  cases next : s.nextReady with
  | none => rfl
  | some i => simp [nextReady_lt next]

/-- The process picked is queued, and released unless scheduling is automatic. -/
theorem pick_mem {pid : Nat} (picked : s.pick = some pid) :
    pid ∈ s.ready ∧ (s.autoSchedule = true ∨ pid ∈ s.released) := by
  unfold pick at picked
  split at picked
  · exact ⟨List.mem_of_head? picked, .inl ‹_›⟩
  · exact ⟨List.mem_of_find?_eq_some picked, .inr (by simpa using List.find?_some picked)⟩

/-- With a process running, a dispatch does nothing. -/
theorem dispatchNext_of_running {p : Nat} (busy : s.running = some p) :
    s.dispatchNext = (none, s) := by
  simp [dispatchNext, busy]

/-- With no process to pick, a dispatch does nothing. -/
theorem dispatchNext_of_pick_none (nothing : s.pick = none) : s.dispatchNext = (none, s) := by
  rw [pick_eq_bind, Option.bind_eq_none_iff] at nothing
  unfold dispatchNext
  split
  · rfl
  · cases next : s.nextReady with
    | none => rfl
    | some i => simp [nothing i next]

/-- A dispatch on an idle processor takes the process picked out of the queue and, when it is
live, records its move and runs it. -/
theorem dispatchNext_of_pick {pid : Nat} (idle : s.running = none) (picked : s.pick = some pid)
    (nodup : s.ready.Nodup) :
    s.dispatchNext = match s.get? pid with
      | some cb => (some pid, { s with
          table := s.table.insert pid { cb with status := .running }
          ready := s.ready.erase pid
          log := s.log.record pid cb.name .dispatched cb.status .running cb.pageTable
          cpu := s.cpu.load cb.context
          running := some pid })
      | none => (none, { s with ready := s.ready.erase pid }) := by
  rw [pick_eq_bind] at picked
  obtain ⟨i, next, at_i⟩ := Option.bind_eq_some_iff.1 picked
  obtain ⟨inside, rfl⟩ := List.getElem?_eq_some_iff.1 at_i
  unfold dispatchNext
  cases found : s.get? s.ready[i] <;>
    simp [idle, next, at_i, found, transition, ← nodup.erase_getElem i inside]

/-- A dispatch puts a process on the processor exactly when the processor is free and the rule
picks a live process, and then it is that one. -/
theorem dispatchNext_fst (live : ∀ p ∈ s.ready, s.contains p = true) :
    s.dispatchNext.1 = if s.running.isSome then none else s.pick := by
  unfold dispatchNext
  split
  · rfl
  · rw [pick_eq_bind]
    cases next : s.nextReady with
    | none => rfl
    | some i =>
      simp only [Option.bind_some]
      cases at_i : s.ready[i]? with
      | none => rfl
      | some pid =>
        obtain ⟨cb, found⟩ := get?_of_contains (live pid (List.mem_of_getElem? at_i))
        simp [found]

/-- Whether a dispatch would put a process on the processor. -/
theorem canDispatch_iff (live : ∀ p ∈ s.ready, s.contains p = true) :
    s.canDispatch = true ↔ s.dispatchNext.1.isSome = true := by
  rw [dispatchNext_fst live, canDispatch, ← isSome_pick]
  cases s.running <;> simp


/-- The ready queue is in the order its members last entered it: no process is queued twice,
along the queue the last records of the members grow newer, those no longer kept coming first,
and each kept one is a move to ready. The log is numbered in order. -/
structure ReadyOrdered (s : Scheduler) : Prop where
  numbered : s.log.Numbered
  nodup : s.ready.Nodup
  ordered : s.ready.Pairwise (EnteredBefore s.log.toList)
  entered : ∀ p ∈ s.ready, ∀ x, lastOf s.log.toList p = some x → x.target = .ready

/-- A change that records nothing and keeps the ready queue or drops some of it. -/
theorem ReadyOrdered.quiet (ordered : s.ReadyOrdered) (log : s'.log = s.log)
    (ready : s'.ready.Sublist s.ready) : s'.ReadyOrdered := by
  refine ⟨log ▸ ordered.numbered, ordered.nodup.sublist ready, ?_, fun p mem x last => ?_⟩
  · rw [log]
    exact ordered.ordered.sublist ready
  · rw [log] at last
    exact ordered.entered p (ready.subset mem) x last

/-- A change that records a transition of `pid` and leaves it out of the ready queue, which
otherwise keeps its order or drops some of it. -/
theorem ReadyOrdered.leave (ordered : s.ReadyOrdered) {pid : Nat} {name : String} {cause : Cause}
    {source target : TaskStatus} {pages : PageTable}
    (log : s'.log = s.log.record pid name cause source target pages)
    (ready : s'.ready.Sublist s.ready) (gone : pid ∉ s'.ready) : s'.ReadyOrdered := by
  refine ⟨log ▸ ordered.numbered.record pid name cause source target pages,
    ordered.nodup.sublist ready, ?_, fun p mem x last => ?_⟩
  · rw [log]
    refine (ordered.ordered.sublist ready).imp_of_mem fun {p q} hp hq before => ?_
    exact s.log.enteredBefore_record pid name cause source target pages ordered.numbered before
      (fun same => gone (same ▸ hp)) (fun same => gone (same ▸ hq))
  · rw [log] at last
    have other : pid ≠ p := fun same => gone (same ▸ mem)
    exact ordered.entered p (ready.subset mem) x
      (s.log.lastOf_record_other pid name cause source target pages other last)

/-- A change that records the move of `pid` to ready and puts it at the back of the queue. -/
theorem ReadyOrdered.enter (ordered : s.ReadyOrdered) {pid : Nat} {name : String} {cause : Cause}
    {source : TaskStatus} {pages : PageTable}
    (log : s'.log = s.log.record pid name cause source .ready pages)
    (ready : s'.ready = s.ready ++ [pid]) (fresh : pid ∉ s.ready) : s'.ReadyOrdered := by
  refine ⟨log ▸ ordered.numbered.record pid name cause source .ready pages, ?_, ?_,
    fun p mem x last => ?_⟩
  · rw [ready, ← List.concat_eq_append]
    exact (List.nodup_concat _ _).2 ⟨fresh, ordered.nodup⟩
  · rw [log, ready, List.pairwise_append]
    refine ⟨?_, List.pairwise_singleton _ _, fun p mem q added => ?_⟩
    · refine ordered.ordered.imp_of_mem fun {p q} hp hq before => ?_
      exact s.log.enteredBefore_record pid name cause source .ready pages ordered.numbered before
        (fun same => fresh (same ▸ hp)) (fun same => fresh (same ▸ hq))
    · rw [List.mem_singleton] at added
      subst added
      exact s.log.enteredBefore_record_self q name cause source .ready pages ordered.numbered
        (fun same => fresh (same ▸ mem))
  · rw [log] at last
    rw [ready, List.mem_append, List.mem_singleton] at mem
    by_cases same : pid = p
    · subst same
      rw [TransitionLog.lastOf_record_self, Option.some.injEq] at last
      subst last
      rfl
    · rcases mem with queued | rfl
      · exact ordered.entered p queued x
          (s.log.lastOf_record_other pid name cause source .ready pages same last)
      · exact absurd rfl same

/-- Under automatic scheduling a dispatch takes the process that entered the ready queue before
every process left waiting: processes run first in, first out. -/
theorem ReadyOrdered.dispatched_first (ordered : s.ReadyOrdered) (auto : s.autoSchedule = true)
    {pid : Nat} (dispatched : s.dispatchNext.1 = some pid) :
    ∀ q ∈ s.dispatchNext.2.ready, EnteredBefore s.log.toList pid q := by
  cases running : s.running with
  | some p => simp [dispatchNext_of_running running] at dispatched
  | none =>
    cases picked : s.pick with
    | none => simp [dispatchNext_of_pick_none picked] at dispatched
    | some p =>
      have front : s.ready.head? = some p := by simpa [pick, auto] using picked
      obtain ⟨rest, queue⟩ := List.head?_eq_some_iff.1 front
      rw [dispatchNext_of_pick running picked ordered.nodup] at dispatched ⊢
      have taken : pid = p := by
        cases found : s.get? p <;> simp [found] at dispatched
        exact dispatched.symm
      subst taken
      have before := ordered.ordered
      rw [queue, List.pairwise_cons] at before
      intro q waiting
      cases found : s.get? pid <;> simp only [found, queue, List.erase_cons_head] at waiting <;>
        exact before.1 q waiting


/-- `s'` grants nothing `s` did not: automatic scheduling is as it was, and no process is
released or put on the processor. -/
structure Narrows (s s' : Scheduler) : Prop where
  auto : s'.autoSchedule = s.autoSchedule
  released : ∀ p ∈ s'.released, p ∈ s.released
  running : ∀ p, s'.running = some p → s.running = some p

/-- A change that keeps automatic scheduling, the releases and the running process grants nothing.
-/
theorem Narrows.of_eq (auto : s'.autoSchedule = s.autoSchedule) (released : s'.released = s.released)
    (running : s'.running = s.running) : Narrows s s' :=
  ⟨auto, fun _ mem => released ▸ mem, fun _ on => running ▸ on⟩

/-- Partway through a call that started with log `log`, automatic scheduling `a`, released
processes `r` and process `o` on the processor: the ready queue is in order, automatic
scheduling is as it was, no process was released since, and every dispatch recorded since, as
well as the process now running, is allowed by `a` and `r`. -/
structure InOrder (log : TransitionLog) (a : Bool) (r : List Nat) (o : Option Nat)
    (s : Scheduler) : Prop where
  ordered : s.ReadyOrdered
  auto : s.autoSchedule = a
  released : ∀ p ∈ s.released, p ∈ r
  dispatches : log.Extends s.log (Transition.Allowed a r)
  running : ∀ p, s.running = some p → o = some p ∨ a = true ∨ p ∈ r

/-- At the start of a call an ordered scheduler is in order. -/
theorem InOrder.start (ordered : s.ReadyOrdered) :
    s.InOrder s.log s.autoSchedule s.released s.running :=
  ⟨ordered, rfl, fun _ => id, .refl _ _, fun _ on => .inl on⟩

/-- A change that records nothing and keeps the ready queue or drops some of it. -/
theorem InOrder.quiet (inOrder : s.InOrder log a r o) (same : s'.log = s.log)
    (ready : s'.ready.Sublist s.ready) (narrows : Narrows s s') : s'.InOrder log a r o :=
  ⟨inOrder.ordered.quiet same ready, narrows.auto.trans inOrder.auto,
    fun p mem => inOrder.released p (narrows.released p mem), same ▸ inOrder.dispatches,
    fun p on => inOrder.running p (narrows.running p on)⟩

/-- A change that records a move of `pid` other than a dispatch and leaves `pid` out of the
ready queue. -/
theorem InOrder.leave (inOrder : s.InOrder log a r o) {pid : Nat} {name : String} {cause : Cause}
    {source target : TaskStatus} {pages : PageTable}
    (recorded : s'.log = s.log.record pid name cause source target pages)
    (ready : s'.ready.Sublist s.ready) (gone : pid ∉ s'.ready) (narrows : Narrows s s')
    (notDispatch : cause ≠ .dispatched) : s'.InOrder log a r o :=
  ⟨inOrder.ordered.leave recorded ready gone, narrows.auto.trans inOrder.auto,
    fun p mem => inOrder.released p (narrows.released p mem),
    recorded ▸ inOrder.dispatches.trans (s.log.extends_record pid name cause source target pages
      fun dispatched => absurd dispatched notDispatch),
    fun p on => inOrder.running p (narrows.running p on)⟩

/-- A change that records the move of `pid` to ready and puts it at the back of the queue. -/
theorem InOrder.enter (inOrder : s.InOrder log a r o) {pid : Nat} {name : String} {cause : Cause}
    {source : TaskStatus} {pages : PageTable}
    (recorded : s'.log = s.log.record pid name cause source .ready pages)
    (ready : s'.ready = s.ready ++ [pid]) (fresh : pid ∉ s.ready) (narrows : Narrows s s')
    (notDispatch : cause ≠ .dispatched) : s'.InOrder log a r o :=
  ⟨inOrder.ordered.enter recorded ready fresh, narrows.auto.trans inOrder.auto,
    fun p mem => inOrder.released p (narrows.released p mem),
    recorded ▸ inOrder.dispatches.trans (s.log.extends_record pid name cause source .ready pages
      fun dispatched => absurd dispatched notDispatch),
    fun p on => inOrder.running p (narrows.running p on)⟩

/-- A dispatch takes the process the rule picks, which the rule allows, and the rest of the
queue keeps its order. -/
theorem InOrder.dispatchNext (inOrder : s.InOrder log a r o) :
    s.dispatchNext.2.InOrder log a r o := by
  cases running : s.running with
  | some p =>
    rw [dispatchNext_of_running running]
    exact inOrder
  | none =>
    cases picked : s.pick with
    | none =>
      rw [dispatchNext_of_pick_none picked]
      exact inOrder
    | some pid =>
      rw [dispatchNext_of_pick running picked inOrder.ordered.nodup]
      have gone : pid ∉ s.ready.erase pid := inOrder.ordered.nodup.not_mem_erase
      have allowed : a = true ∨ pid ∈ r := by
        rw [← inOrder.auto]
        exact (pick_mem picked).2.imp_right (inOrder.released pid)
      cases found : s.get? pid with
      | none => exact inOrder.quiet rfl (List.erase_sublist) (.of_eq rfl rfl rfl)
      | some cb =>
        refine ⟨inOrder.ordered.leave rfl (List.erase_sublist) gone, inOrder.auto,
          inOrder.released, ?_, ?_⟩
        · exact inOrder.dispatches.trans (s.log.extends_record pid _ _ _ _ _ fun _ => allowed)
        · intro p on
          cases on
          exact .inr allowed


/-- The running process, its slice used up, goes to the back of the queue, behind every process
already waiting, and the next one is dispatched. -/
theorem InOrder.onTimerExpired (inOrder : s.InOrder log a r o) (agree : s.QueuesAgree) :
    s.onTimerExpired.InOrder log a r o := by
  unfold Scheduler.onTimerExpired
  apply InOrder.dispatchNext
  cases running : s.running with
  | none =>
    simp only [takeRunning, running]
    exact inOrder
  | some pid =>
    obtain ⟨cb, found, -, notReady, found'⟩ := agree.get?_takeRunning running
    simp only [takeRunning, running]
    exact inOrder.enter (log_transition found' .timeSliceExpired .ready) (by simp) notReady
      ⟨by simp, by simp, by simp⟩ (by decide)

/-- The running process leaves the processor for the blocked set, and the next one is
dispatched. -/
theorem InOrder.blockRunning (inOrder : s.InOrder log a r o) (agree : s.QueuesAgree)
    (reason : BlockReason) {cause : Cause} (notDispatch : cause ≠ .dispatched) :
    (s.blockRunning reason cause).InOrder log a r o := by
  unfold Scheduler.blockRunning
  apply InOrder.dispatchNext
  cases running : s.running with
  | none =>
    simp only [takeRunning, running]
    exact inOrder
  | some pid =>
    obtain ⟨cb, found, -, notReady, -⟩ := agree.get?_takeRunning running
    have found' : ({ s.modify pid (fun cb => { cb with context := s.cpu.context }) with
        running := none }.modify pid fun cb => { cb with blockedOn := cb.blockedOn.union reason } :
          Scheduler).get? pid =
        some { cb with context := s.cpu.context, blockedOn := cb.blockedOn.union reason } := by
      simp [found]
    simp only [takeRunning, running]
    exact inOrder.leave (log_transition found' cause .blocked) (by simp) (by simpa using notReady)
      ⟨by simp, by simp, by simp⟩ notDispatch

/-- Blocking a ready process takes it out of the queue; the others keep their order. -/
theorem InOrder.block (inOrder : s.InOrder log a r o) (pid : Nat) (reason : BlockReason)
    {cause : Cause} (notDispatch : cause ≠ .dispatched) :
    (s.block pid reason cause).InOrder log a r o := by
  unfold Scheduler.block
  split
  · exact inOrder
  · cases found : s.get? pid with
    | none => exact inOrder
    | some cb =>
      have found' : ({ s.modify pid (fun cb => { cb with blockedOn := cb.blockedOn.union reason })
          with ready := s.ready.filter (· ≠ pid) } : Scheduler).get? pid =
            some { cb with blockedOn := cb.blockedOn.union reason } := by
        simp [found]
      simp only
      split
      · exact inOrder.leave (log_transition found' cause .blocked) (by simp [List.filter_sublist])
          (by simp) (.of_eq (by simp) (by simp) (by simp)) notDispatch
      · exact inOrder.quiet rfl (by simp) (.of_eq rfl rfl rfl)

/-- Making a process ready that is not queued puts it at the back of the queue. -/
theorem InOrder.addToReady (inOrder : s.InOrder log a r o) {pid : Nat} (fresh : pid ∉ s.ready)
    {cause : Cause} (notDispatch : cause ≠ .dispatched) :
    (s.addToReady pid cause).InOrder log a r o := by
  unfold Scheduler.addToReady
  split
  · rename_i live
    obtain ⟨cb, found⟩ := get?_of_contains live
    have found' : ({ s with blocked := s.blocked.erase pid } : Scheduler).get? pid = some cb := by
      simpa using found
    simp only [transition_ready, if_neg fresh]
    exact inOrder.enter (log_transition found' cause .ready) rfl fresh
      (.of_eq (by simp) (by simp) (by simp)) notDispatch
  · exact inOrder

/-- Clearing the last reason of a blocked process puts it at the back of the queue. -/
theorem InOrder.unblock (inOrder : s.InOrder log a r o) (agree : s.QueuesAgree) (pid : Nat)
    (reason : BlockReason) {cause : Cause} (notDispatch : cause ≠ .dispatched) :
    (s.unblock pid reason cause).2.InOrder log a r o := by
  unfold Scheduler.unblock
  split
  · exact inOrder
  · rename_i cb found
    have modified : (s.modify pid fun cb' => { cb' with blockedOn := cb.blockedOn.diff reason }
        ).InOrder log a r o := inOrder.quiet rfl (by simp) (.of_eq rfl rfl rfl)
    dsimp only
    split
    · exact modified
    · rename_i woken
      -- only a blocked process is woken, and a blocked process is not queued
      have blocked : cb.status = .blocked := by
        simp only [Bool.or_eq_true, Bool.not_eq_true', ne_eq, decide_eq_true_eq, not_or,
          Bool.not_eq_false, Decidable.not_not] at woken
        exact woken.2
      have notReady : pid ∉ s.ready := by
        rw [← (agree.placed pid cb found).ready, blocked]
        exact nofun
      exact modified.addToReady (by simpa using notReady) notDispatch

/-- Ending a process takes it off the queues and the processor. -/
theorem InOrder.removeProcess (inOrder : s.InOrder log a r o) (pid : Nat) {cause : Cause}
    (notDispatch : cause ≠ .dispatched) : (s.removeProcess pid cause).2.InOrder log a r o := by
  unfold Scheduler.removeProcess
  split
  · rename_i live
    obtain ⟨cb, found⟩ := get?_of_contains live
    refine inOrder.leave (log_transition found cause .terminated) (by simp [List.filter_sublist])
      (by simp) ⟨by simp, fun p mem => ?_, fun p on => ?_⟩ notDispatch
    · simp only [transition_released] at mem
      exact List.mem_of_mem_erase mem
    · simp only [transition_running] at on
      split at on
      · cases on
      · exact on
  · exact inOrder


/-- Under automatic scheduling a dispatch on an idle processor runs the front of the queue. -/
theorem dispatchNext_auto {q : List Nat} (queue : s.ready = q) (auto : s.autoSchedule = true)
    (idle : s.running = none) (live : ∀ p ∈ q, s.contains p = true) (nodup : q.Nodup) :
    s.dispatchNext.2.running = q.head? ∧ s.dispatchNext.2.ready = q.tail := by
  cases q with
  | nil =>
    have nothing : s.pick = none := by simp [pick, auto, queue]
    simp [dispatchNext_of_pick_none nothing, idle, queue]
  | cons p rest =>
    have picked : s.pick = some p := by simp [pick, auto, queue]
    obtain ⟨cb, found⟩ := get?_of_contains (live p List.mem_cons_self)
    rw [dispatchNext_of_pick idle picked (queue ▸ nodup), found]
    simp [queue]

/-- Under automatic scheduling the process whose slice ran out goes behind every process that
was waiting, and the front of the queue runs. -/
theorem onTimerExpired_auto {p : Nat} (agree : s.QueuesAgree) (auto : s.autoSchedule = true)
    (running : s.running = some p) :
    s.onTimerExpired.running = (s.ready ++ [p]).head? ∧
      s.onTimerExpired.ready = (s.ready ++ [p]).tail := by
  obtain ⟨cb, found, status⟩ := agree.get?_of_running running
  have notReady := ((agree.placed p cb found).not_queued_of_running status).1
  unfold onTimerExpired
  simp only [takeRunning, running]
  refine dispatchNext_auto (by simp) (by simpa using auto) (by simp) (fun q mem => ?_) ?_
  · rw [List.mem_append, List.mem_singleton] at mem
    rcases mem with queued | rfl
    · simpa using agree.ready_live q queued
    · simpa using agree.running_live q running
  · rw [← List.concat_eq_append]
    exact (List.nodup_concat _ _).2 ⟨notReady, agree.ready_nodup⟩


/-- Between `s` and `s'` a process was put on the processor only if automatic scheduling was on
in `s` or `s` had it released: every dispatch recorded since, and the process running now
unless it already ran in `s`. -/
structure Gated (s s' : Scheduler) : Prop where
  dispatches : s.log.Extends s'.log (Transition.Allowed s.autoSchedule s.released)
  running : ∀ p, s'.running = some p → s.running = some p ∨ s.autoSchedule = true ∨ p ∈ s.released

/-- The order of a scheduler reads neither its table nor its processor. -/
theorem InOrder.frame {log : TransitionLog} {a : Bool} {r : List Nat} {o : Option Nat}
    (inOrder : s.InOrder log a r o) (t : PidMap ControlBlock) (cpu : Cpu) :
    ({ s with table := t, cpu } : Scheduler).InOrder log a r o :=
  inOrder.quiet rfl (List.Sublist.refl _) (.of_eq rfl rfl rfl)

/-- A scheduler in order since the start of a call dispatched only what the call allowed. -/
theorem InOrder.gated (inOrder : s'.InOrder s.log s.autoSchedule s.released s.running) :
    s.Gated s' :=
  ⟨inOrder.dispatches, inOrder.running⟩

/-- Releasing a process dispatches nothing: at most it records a new process made ready. -/
theorem gated_release (pid : Nat) : s.Gated (s.release pid) := by
  have quiet : ∀ s', s'.log = s.log → s'.running = s.running → s.Gated s' :=
    fun s' same running => ⟨same ▸ .refl _ _, fun _ on => .inl (running ▸ on)⟩
  unfold release
  split
  · dsimp only
    split
    · unfold addToReady
      split
      · rename_i live
        obtain ⟨cb, found⟩ := get?_of_contains live
        have found' : ({ { s with released := insertPid pid s.released } with
            blocked := s.blocked.erase pid } : Scheduler).get? pid = some cb := by
          simpa using found
        have made : s.log.Extends (({ { s with released := insertPid pid s.released } with
            blocked := s.blocked.erase pid } : Scheduler).transition pid .created .ready).log
              (Transition.Allowed s.autoSchedule s.released) := by
          rw [log_transition found']
          exact s.log.extends_record pid _ _ _ _ _ fun dispatched => by cases dispatched
        dsimp only
        split
        · exact ⟨made, fun p on => .inl (by simpa using on)⟩
        · exact ⟨made, fun p on => .inl (by simpa using on)⟩
      · exact quiet _ rfl rfl
    · exact quiet _ rfl rfl
  · exact quiet _ rfl rfl

/-- Releasing a process keeps the ready queue in order: a new process goes to its back. -/
theorem ReadyOrdered.release (ordered : s.ReadyOrdered) (agree : s.QueuesAgree) (pid : Nat) :
    (s.release pid).ReadyOrdered := by
  unfold Scheduler.release
  split
  · rename_i cb found
    dsimp only
    split
    · rename_i new
      have notReady : pid ∉ s.ready := by
        rw [← (agree.placed pid cb found).ready, new]
        exact nofun
      have kept : ({ s with released := insertPid pid s.released } : Scheduler).ReadyOrdered :=
        ordered.quiet rfl (List.Sublist.refl _)
      exact ((InOrder.start kept).addToReady notReady (by decide)).ordered
    · exact ordered.quiet rfl (List.Sublist.refl _)
  · exact ordered

end Scheduler

end PagedMachine
