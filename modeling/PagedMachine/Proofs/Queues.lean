import PagedMachine.Proofs.Table

/-!
# Queues and statuses

A live process is ready, blocked or running, and the scheduler keeps it in the matching place:
the ready queue, the blocked set or the processor. It waits for something exactly while it is
blocked, so it becomes ready only when its last reason is cleared. `QueuesAgree` states this
for every live process, together with the shape of the queues (`Shape`): no pid twice in the
ready queue, blocked and released pids increasing, and only live pids queued. From it the
queues are disjoint (`QueuesAgree.exclusive`) and the audit passes (`audit_eq_ok`).

Each scheduling operation keeps the invariant under the condition its callers in the kernel
meet. `addToReady` is the one that needs care: it is given a process that is new or blocked
with no reason left, never the running one, and it is stated for a state where only that
process is out of place.
-/

namespace PagedMachine

namespace BlockReason

/-- Two reasons joined are empty exactly when both are. -/
theorem isEmpty_union (r s : BlockReason) : (r.union s).isEmpty = (r.isEmpty && s.isEmpty) := by
  rcases r with ⟨_ | _, _ | _⟩ <;> rcases s with ⟨_ | _, _ | _⟩ <;> rfl

/-- Taking reasons away from an empty reason leaves it empty. -/
theorem isEmpty_diff_of_isEmpty {r : BlockReason} (empty : r.isEmpty = true) (s : BlockReason) :
    (r.diff s).isEmpty = true := by
  cases r; cases s; simp_all [diff, isEmpty]

end BlockReason

namespace Scheduler

variable {s : Scheduler}

/-- Where a live process stands agrees with the queues, it is past creation and not ended,
and it waits for something exactly while it is blocked. -/
structure Placed (s : Scheduler) (pid : Nat) (cb : ControlBlock) : Prop where
  ready : cb.status = .ready ↔ pid ∈ s.ready
  blocked : cb.status = .blocked ↔ pid ∈ s.blocked
  running : cb.status = .running ↔ s.running = some pid
  settled : cb.status ≠ .new ∧ cb.status ≠ .terminated
  waits : cb.status = .blocked ↔ cb.blockedOn.isEmpty = false

/-- The queues are well formed: the table is, no pid is twice in the ready queue, blocked and
released pids strictly increase, and only live pids are queued, running or released. -/
structure Shape (s : Scheduler) : Prop where
  wf : s.TableWF
  ready_nodup : s.ready.Nodup
  blocked_sorted : s.blocked.Pairwise (· < ·)
  released_sorted : s.released.Pairwise (· < ·)
  ready_live : ∀ pid ∈ s.ready, s.contains pid
  blocked_live : ∀ pid ∈ s.blocked, s.contains pid
  running_live : ∀ pid, s.running = some pid → s.contains pid
  released_live : ∀ pid ∈ s.released, s.contains pid

/-- The queues are well formed and every live process stands where its status says. -/
structure QueuesAgree (s : Scheduler) : Prop extends Shape s where
  placed : ∀ pid cb, s.get? pid = some cb → s.Placed pid cb

/-- A process whose place in the queues did not change stays placed. -/
theorem Placed.of_queues {s' : Scheduler} {q : Nat} {cb : ControlBlock} (placed : s.Placed q cb)
    (ready : q ∈ s'.ready ↔ q ∈ s.ready) (blocked : q ∈ s'.blocked ↔ q ∈ s.blocked)
    (running : s'.running = some q ↔ s.running = some q) : s'.Placed q cb :=
  ⟨placed.ready.trans ready.symm, placed.blocked.trans blocked.symm,
    placed.running.trans running.symm, placed.settled, placed.waits⟩

/-- A ready process waits for nothing. -/
theorem Placed.idle_of_ready {pid : Nat} {cb : ControlBlock} (placed : s.Placed pid cb)
    (ready : cb.status = .ready) : cb.blockedOn.isEmpty = true := by
  have notBlocked : cb.status ≠ .blocked := by rw [ready]; exact nofun
  simpa [placed.waits] using notBlocked

/-- A running process waits for nothing. -/
theorem Placed.idle_of_running {pid : Nat} {cb : ControlBlock} (placed : s.Placed pid cb)
    (running : cb.status = .running) : cb.blockedOn.isEmpty = true := by
  have notBlocked : cb.status ≠ .blocked := by rw [running]; exact nofun
  simpa [placed.waits] using notBlocked

/-- A running process is neither queued nor blocked. -/
theorem Placed.not_queued_of_running {pid : Nat} {cb : ControlBlock} (placed : s.Placed pid cb)
    (running : cb.status = .running) : pid ∉ s.ready ∧ pid ∉ s.blocked := by
  rw [← placed.ready, ← placed.blocked, running]
  exact ⟨nofun, nofun⟩

/-- A live process that is neither ready nor running is blocked. -/
theorem Placed.blocked_of_not_ready {pid : Nat} {cb : ControlBlock} (placed : s.Placed pid cb)
    (notReady : cb.status ≠ .ready) (notRunning : s.running ≠ some pid) :
    cb.status = .blocked := by
  have notRunning' : cb.status ≠ .running := fun running => notRunning (placed.running.1 running)
  obtain ⟨notNew, notTerminated⟩ := placed.settled
  cases status : cb.status <;> simp_all

/-- A queued process is live and ready. -/
theorem QueuesAgree.get?_of_ready (agree : s.QueuesAgree) {pid : Nat} (mem : pid ∈ s.ready) :
    ∃ cb, s.get? pid = some cb ∧ cb.status = .ready := by
  obtain ⟨cb, found⟩ := get?_of_contains (agree.ready_live pid mem)
  exact ⟨cb, found, ((agree.placed pid cb found).ready).2 mem⟩

/-- The running process is live and running. -/
theorem QueuesAgree.get?_of_running (agree : s.QueuesAgree) {pid : Nat}
    (running : s.running = some pid) : ∃ cb, s.get? pid = some cb ∧ cb.status = .running := by
  obtain ⟨cb, found⟩ := get?_of_contains (agree.running_live pid running)
  exact ⟨cb, found, ((agree.placed pid cb found).running).2 running⟩

/-- The running process is live, running and not queued; taken off the processor, its control
block keeps the processor's context. -/
theorem QueuesAgree.get?_takeRunning (agree : s.QueuesAgree) {pid : Nat}
    (running : s.running = some pid) :
    ∃ cb, s.get? pid = some cb ∧ cb.status = .running ∧ pid ∉ s.ready ∧
      ({ s.modify pid (fun cb => { cb with context := s.cpu.context }) with running := none } :
        Scheduler).get? pid = some { cb with context := s.cpu.context } := by
  obtain ⟨cb, found, status⟩ := agree.get?_of_running running
  exact ⟨cb, found, status, ((agree.placed pid cb found).not_queued_of_running status).1,
    by simp [found]⟩

/-- No pid is in two of the ready queue, the blocked set and the processor, nor twice in one. -/
theorem QueuesAgree.exclusive (agree : s.QueuesAgree) :
    (s.ready ++ s.blocked ++ s.running.toList).Nodup := by
  have blockedNodup : s.blocked.Nodup := agree.blocked_sorted.imp Nat.ne_of_lt
  have readyBlocked : ∀ pid ∈ s.ready, pid ∉ s.blocked := by
    intro pid mem inBlocked
    obtain ⟨cb, found, ready⟩ := agree.get?_of_ready mem
    have blocked := ((agree.placed pid cb found).blocked).2 inBlocked
    rw [ready] at blocked
    exact nomatch blocked
  have notRunning : ∀ pid, s.running = some pid → pid ∉ s.ready ∧ pid ∉ s.blocked := by
    intro pid running
    obtain ⟨cb, found, status⟩ := agree.get?_of_running running
    exact (agree.placed pid cb found).not_queued_of_running status
  rw [List.nodup_append, List.nodup_append]
  refine ⟨⟨agree.ready_nodup, blockedNodup, fun a ha b hb same => readyBlocked a ha (same ▸ hb)⟩,
    ?_, ?_⟩
  · cases h : s.running <;> simp
  · intro a ha b hb same
    cases h : s.running with
    | none => simp [h] at hb
    | some pid =>
      simp only [h, Option.toList_some, List.mem_singleton] at hb
      subst hb
      have := notRunning b h
      rcases List.mem_append.1 ha with ha | ha
      · exact this.1 (same ▸ ha)
      · exact this.2 (same ▸ ha)

/-- A list without repeats, none of whose entries was seen, has no first repeat. -/
theorem firstRepeated_eq_none : ∀ {l seen : List Nat}, l.Nodup → (∀ p ∈ l, p ∉ seen) →
    firstRepeated l seen = none
  | [], _, _, _ => rfl
  | p :: rest, seen, nodup, fresh => by
    obtain ⟨notLater, restNodup⟩ := List.nodup_cons.1 nodup
    rw [firstRepeated, if_neg (fresh p List.mem_cons_self)]
    apply firstRepeated_eq_none restNodup
    intro q mem seenNow
    rcases List.mem_cons.1 seenNow with rfl | seenBefore
    · exact notLater mem
    · exact fresh q (List.mem_cons_of_mem p mem) seenBefore

/-- When the queues agree, the audit passes: no pid is queued twice and every status matches
its queue. -/
theorem QueuesAgree.audit_eq_ok (agree : s.QueuesAgree) : s.audit = .ok () := by
  have noRepeat := firstRepeated_eq_none agree.exclusive fun _ _ => List.not_mem_nil
  unfold audit
  simp only [noRepeat]
  rw [forIn_eq_pure]
  · rfl
  · intro cb mem
    have placed := agree.placed cb.pid cb (agree.wf.get?_of_mem_values mem)
    cases status : cb.status
    case ready => simp [placed.ready.1 status]
    case blocked => simp [placed.blocked.1 status]
    case running => simp [placed.running.1 status]
    case new => exact absurd status placed.settled.1
    case terminated => exact absurd status placed.settled.2

/-- In a list without repeats, dropping the entry at `i` drops exactly the pid there. -/
theorem mem_eraseIdx_of_nodup {l : List Nat} (nodup : l.Nodup) {i x : Nat} (at_i : l[i]? = some x)
    (y : Nat) : y ∈ l.eraseIdx i ↔ y ≠ x ∧ y ∈ l := by
  obtain ⟨inside, rfl⟩ := List.getElem?_eq_some_iff.1 at_i
  rw [← nodup.erase_getElem i inside]
  exact nodup.mem_erase_iff

/-- Making a process ready that is new, or blocked with no reason left, puts it at the back
of the ready queue and out of the blocked set; every other process keeps its place. It is
stated for a state where only that process may be out of place, which is where the kernel
calls it. -/
theorem addToReady_agree {pid : Nat} (cb : ControlBlock) (c : Cause) (shape : s.Shape)
    (others : ∀ q cb', s.get? q = some cb' → q ≠ pid → s.Placed q cb')
    (found : s.get? pid = some cb) (idle : cb.blockedOn.isEmpty = true)
    (notReady : pid ∉ s.ready) (notRunning : s.running ≠ some pid) :
    (s.addToReady pid c).QueuesAgree := by
  have live : s.contains pid = true := contains_of_get? found
  have unfolded : s.addToReady pid c =
      { ({ s with blocked := s.blocked.erase pid } : Scheduler).transition pid c .ready with
        ready := s.ready ++ [pid] } := by
    simp [addToReady, live, notReady]
  have blockedMem : ∀ q, q ∈ s.blocked.erase pid ↔ q ≠ pid ∧ q ∈ s.blocked :=
    mem_erase_of_sorted shape.blocked_sorted pid
  have wf : (({ s with blocked := s.blocked.erase pid } : Scheduler).transition pid c
      .ready).TableWF := TableWF.transition (s := { s with blocked := s.blocked.erase pid })
      ⟨shape.wf.sorted, shape.wf.keyed⟩ pid c .ready
  rw [unfolded]
  refine ⟨⟨⟨wf.sorted, wf.keyed⟩, ?_, ?_, ?_, ?_, ?_, ?_, ?_⟩, ?_⟩
  · exact List.nodup_append.2 ⟨shape.ready_nodup, List.nodup_singleton pid,
      fun a ha b hb same => by simp at hb; subst hb; subst same; exact notReady ha⟩
  · simpa using shape.blocked_sorted.sublist List.erase_sublist
  · simpa using shape.released_sorted
  · intro q mem
    rcases List.mem_append.1 mem with mem | mem
    · simpa using shape.ready_live q mem
    · simp only [List.mem_singleton] at mem
      subst mem
      simpa using live
  · intro q mem
    simp only [transition_blocked] at mem
    simpa using shape.blocked_live q ((blockedMem q).1 mem).2
  · intro q running
    simpa using shape.running_live q (by simpa using running)
  · intro q mem
    simpa using shape.released_live q (by simpa using mem)
  · intro q cb' found'
    simp only [get?_mk, find?_table, get?_transition] at found'
    by_cases same : pid = q
    · subst same
      rw [if_pos rfl, found] at found'
      cases found'
      constructor
      · simp
      · simp [blockedMem]
      · simpa using notRunning
      · simp
      · simpa using idle
    · rw [if_neg same] at found'
      apply (others q cb' found' (Ne.symm same)).of_queues
      · simp only [List.mem_append, List.mem_singleton]
        constructor
        · rintro (mem | rfl)
          · exact mem
          · exact absurd rfl same
        · exact .inl
      · simp [blockedMem, Ne.symm same]
      · simp

/-- The frame of the invariant: a change that leaves every process but `pid`, and where it
stands, as it was keeps the queues agreeing, once the queues keep their shape, `pid` is queued
only while live and stands where its status says. -/
theorem QueuesAgree.of_frame {s' : Scheduler} (agree : s.QueuesAgree) (pid : Nat)
    (wf : s'.TableWF) (ready_nodup : s'.ready.Nodup)
    (blocked_sorted : s'.blocked.Pairwise (· < ·)) (released_sorted : s'.released.Pairwise (· < ·))
    (others : ∀ q, q ≠ pid → s'.get? q = s.get? q)
    (ready : ∀ q, q ≠ pid → (q ∈ s'.ready ↔ q ∈ s.ready))
    (blocked : ∀ q, q ≠ pid → (q ∈ s'.blocked ↔ q ∈ s.blocked))
    (running : ∀ q, q ≠ pid → (s'.running = some q ↔ s.running = some q))
    (released : ∀ q, q ≠ pid → q ∈ s'.released → q ∈ s.released)
    (queued : pid ∈ s'.ready ∨ pid ∈ s'.blocked ∨ s'.running = some pid ∨ pid ∈ s'.released →
      s'.contains pid = true)
    (placed : ∀ cb, s'.get? pid = some cb → s'.Placed pid cb) : s'.QueuesAgree := by
  have live : ∀ q, q ≠ pid → s.contains q = true → s'.contains q = true := by
    intro q other live
    obtain ⟨cb, found⟩ := get?_of_contains live
    exact contains_of_get? ((others q other).trans found)
  refine ⟨⟨wf, ready_nodup, blocked_sorted, released_sorted, ?_, ?_, ?_, ?_⟩, ?_⟩
  · intro q mem
    by_cases same : q = pid
    · subst same
      exact queued (.inl mem)
    · exact live q same (agree.ready_live q ((ready q same).1 mem))
  · intro q mem
    by_cases same : q = pid
    · subst same
      exact queued (.inr (.inl mem))
    · exact live q same (agree.blocked_live q ((blocked q same).1 mem))
  · intro q current
    by_cases same : q = pid
    · subst same
      exact queued (.inr (.inr (.inl current)))
    · exact live q same (agree.running_live q ((running q same).1 current))
  · intro q mem
    by_cases same : q = pid
    · subst same
      exact queued (.inr (.inr (.inr mem)))
    · exact live q same (agree.released_live q (released q same mem))
  · intro q cb found
    by_cases same : q = pid
    · subst same
      exact placed cb found
    · rw [others q same] at found
      exact (agree.placed q cb found).of_queues (ready q same) (blocked q same) (running q same)

/-- A change that moves the live process `pid` alone, to where its new status says. -/
theorem QueuesAgree.move {s' : Scheduler} (agree : s.QueuesAgree) (pid : Nat) (cb : ControlBlock)
    (wf : s'.TableWF) (ready_nodup : s'.ready.Nodup)
    (blocked_sorted : s'.blocked.Pairwise (· < ·)) (released_sorted : s'.released.Pairwise (· < ·))
    (found : s'.get? pid = some cb) (placed : s'.Placed pid cb)
    (others : ∀ q, q ≠ pid → s'.get? q = s.get? q)
    (ready : ∀ q, q ≠ pid → (q ∈ s'.ready ↔ q ∈ s.ready))
    (blocked : ∀ q, q ≠ pid → (q ∈ s'.blocked ↔ q ∈ s.blocked))
    (running : ∀ q, q ≠ pid → (s'.running = some q ↔ s.running = some q))
    (released : ∀ q, q ≠ pid → q ∈ s'.released → q ∈ s.released) : s'.QueuesAgree :=
  agree.of_frame pid wf ready_nodup blocked_sorted released_sorted others ready blocked running
    released (fun _ => contains_of_get? found)
    (fun _ found' => Option.some.inj (found.symm.trans found') ▸ placed)

/-- What the queues are checked against: the status of a process and what it waits for. -/
def standing (cb : ControlBlock) : TaskStatus × BlockReason := (cb.status, cb.blockedOn)

/-- A change that keeps the queues, and every status and reason, keeps them agreeing. -/
theorem QueuesAgree.of_sameOn {s' : Scheduler} (agree : s.QueuesAgree) (wf : s'.TableWF)
    (same : SameOn standing s s') (ready : s'.ready = s.ready) (blocked : s'.blocked = s.blocked)
    (running : s'.running = s.running) (released : s'.released = s.released) :
    s'.QueuesAgree := by
  have live : ∀ q, s'.contains q = s.contains q := same.contains_eq
  refine ⟨⟨wf, ready ▸ agree.ready_nodup, blocked ▸ agree.blocked_sorted,
    released ▸ agree.released_sorted, ?_, ?_, ?_, ?_⟩, ?_⟩
  · intro q mem
    rw [live]
    exact agree.ready_live q (ready ▸ mem)
  · intro q mem
    rw [live]
    exact agree.blocked_live q (blocked ▸ mem)
  · intro q current
    rw [live]
    exact agree.running_live q (running ▸ current)
  · intro q mem
    rw [live]
    exact agree.released_live q (released ▸ mem)
  · intro q cb' found'
    have standing' := same q
    rw [found', Option.map_some] at standing'
    obtain ⟨cb, found, sameStanding⟩ := Option.map_eq_some_iff.1 standing'.symm
    simp only [standing, Prod.mk.injEq] at sameStanding
    obtain ⟨status, reasons⟩ := sameStanding
    have placed := agree.placed q cb found
    constructor
    · rw [← status, ready]
      exact placed.ready
    · rw [← status, blocked]
      exact placed.blocked
    · rw [← status, running]
      exact placed.running
    · rw [← status]
      exact placed.settled
    · rw [← status, ← reasons]
      exact placed.waits

/-- Dispatching takes a ready process off the queue and puts it on the processor. -/
theorem QueuesAgree.dispatchNext (agree : s.QueuesAgree) : s.dispatchNext.2.QueuesAgree := by
  unfold Scheduler.dispatchNext
  split
  · exact agree
  · rename_i busy
    have idle : s.running = none := by simpa using busy
    split
    · exact agree
    · rename_i i _
      split
      · exact agree
      · rename_i pid at_i
        obtain ⟨cb, found, ready⟩ := agree.get?_of_ready (List.mem_of_getElem? at_i)
        have placed := agree.placed pid cb found
        have readyMem := mem_eraseIdx_of_nodup agree.ready_nodup at_i
        have notBlocked : pid ∉ s.blocked := by
          rw [← placed.blocked, ready]
          exact nofun
        have found' : (({ s with ready := s.ready.eraseIdx i } : Scheduler).transition pid
            .dispatched .running).get? pid = some { cb with status := .running } := by
          simp [found]
        have wf := TableWF.transition (s := { s with ready := s.ready.eraseIdx i })
          ⟨agree.wf.sorted, agree.wf.keyed⟩ pid .dispatched .running
        simp only [found']
        apply agree.move pid { cb with status := .running }
        · exact ⟨wf.sorted, wf.keyed⟩
        · simpa using agree.ready_nodup.sublist (List.eraseIdx_sublist _ _)
        · simpa using agree.blocked_sorted
        · simpa using agree.released_sorted
        · simp [found]
        · constructor
          · simp [readyMem]
          · simpa using notBlocked
          · simp
          · simp
          · simpa using placed.idle_of_ready ready
        · intro q other
          simp [Ne.symm other]
        · intro q other
          simp [readyMem, other]
        · intro q _
          simp
        · intro q other
          simp [idle, Ne.symm other]
        · intro q _ mem
          simpa using mem

/-- The process on the processor, taken off it with its context saved, goes to the back of
the ready queue, and the next one is dispatched. -/
theorem QueuesAgree.onTimerExpired (agree : s.QueuesAgree) : s.onTimerExpired.QueuesAgree := by
  unfold Scheduler.onTimerExpired
  apply QueuesAgree.dispatchNext
  cases running : s.running with
  | none => simpa [takeRunning, running] using agree
  | some pid =>
    obtain ⟨cb, found, status⟩ := agree.get?_of_running running
    have placed := agree.placed pid cb found
    obtain ⟨notReady, notBlocked⟩ := placed.not_queued_of_running status
    have saved := agree.wf.modify pid (fun cb => { cb with context := s.cpu.context }) fun _ => rfl
    have wf := TableWF.transition
      (s := { s.modify pid (fun cb => { cb with context := s.cpu.context }) with running := none })
      ⟨saved.sorted, saved.keyed⟩ pid .timeSliceExpired .ready
    simp only [takeRunning, running]
    apply agree.move pid { cb with context := s.cpu.context, status := .ready }
    · exact ⟨wf.sorted, wf.keyed⟩
    · rw [transition_ready, modify_ready, ← List.concat_eq_append]
      exact (List.nodup_concat _ _).2 ⟨notReady, agree.ready_nodup⟩
    · simpa using agree.blocked_sorted
    · simpa using agree.released_sorted
    · simp [found]
    · constructor
      · simp
      · simpa using notBlocked
      · simp
      · simp
      · simpa using placed.idle_of_running status
    · intro q other
      simp [Ne.symm other]
    · intro q other
      simp [other]
    · intro q _
      simp
    · intro q other
      simp [running, Ne.symm other]
    · intro q _ mem
      simpa using mem

/-- The process on the processor, taken off it with its context saved, is blocked for a
nonempty `reason`, and the next one is dispatched. -/
theorem QueuesAgree.blockRunning (agree : s.QueuesAgree) {reason : BlockReason}
    (nonempty : reason.isEmpty = false) (cause : Cause) :
    (s.blockRunning reason cause).QueuesAgree := by
  unfold Scheduler.blockRunning
  apply QueuesAgree.dispatchNext
  cases running : s.running with
  | none => simpa [takeRunning, running] using agree
  | some pid =>
    obtain ⟨cb, found, status⟩ := agree.get?_of_running running
    have placed := agree.placed pid cb found
    obtain ⟨notReady, notBlocked⟩ := placed.not_queued_of_running status
    have saved := agree.wf.modify pid (fun cb => { cb with context := s.cpu.context }) fun _ => rfl
    have waiting := TableWF.modify
      (s := { s.modify pid (fun cb => { cb with context := s.cpu.context }) with running := none })
      ⟨saved.sorted, saved.keyed⟩ pid (fun cb => { cb with blockedOn := cb.blockedOn.union reason })
      fun _ => rfl
    have wf := waiting.transition pid cause .blocked
    simp only [takeRunning, running]
    apply agree.move pid
      { cb with context := s.cpu.context, blockedOn := cb.blockedOn.union reason,
                status := .blocked }
    · exact ⟨wf.sorted, wf.keyed⟩
    · simpa using agree.ready_nodup
    · simpa using insertPid_sorted pid agree.blocked_sorted
    · simpa using agree.released_sorted
    · simp [found]
    · constructor
      · simpa using notReady
      · simp [mem_insertPid]
      · simp
      · simp
      · simp [BlockReason.isEmpty_union, nonempty]
    · intro q other
      simp [Ne.symm other]
    · intro q _
      simp
    · intro q other
      simp [mem_insertPid, other]
    · intro q other
      simp [running, Ne.symm other]
    · intro q _ mem
      simpa using mem

/-- Blocking a process that is not running for a nonempty `reason`: a ready one leaves the
queue for the blocked set, a blocked one waits for one more thing. -/
theorem QueuesAgree.block (agree : s.QueuesAgree) (pid : Nat) {reason : BlockReason}
    (nonempty : reason.isEmpty = false) (cause : Cause) :
    (s.block pid reason cause).QueuesAgree := by
  unfold Scheduler.block
  split
  · exact agree
  · rename_i notRunning
    cases found : s.get? pid with
    | none => exact agree
    | some cb =>
      have placed := agree.placed pid cb found
      have waiting := agree.wf.modify pid
        (fun cb => { cb with blockedOn := cb.blockedOn.union reason }) fun _ => rfl
      have blockedOn : (cb.blockedOn.union reason).isEmpty = false := by
        simp [BlockReason.isEmpty_union, nonempty]
      simp only
      split
      · rename_i ready
        have notBlocked : pid ∉ s.blocked := by
          rw [← placed.blocked, ready]
          exact nofun
        have wf := TableWF.transition (s := { s.modify pid (fun cb =>
          { cb with blockedOn := cb.blockedOn.union reason }) with
            ready := s.ready.filter (· ≠ pid) }) ⟨waiting.sorted, waiting.keyed⟩ pid cause .blocked
        apply agree.move pid { cb with blockedOn := cb.blockedOn.union reason, status := .blocked }
        · exact ⟨wf.sorted, wf.keyed⟩
        · simpa using agree.ready_nodup.filter _
        · simpa using insertPid_sorted pid agree.blocked_sorted
        · simpa using agree.released_sorted
        · simp [found]
        · constructor
          · simp
          · simp [mem_insertPid]
          · simpa using notRunning
          · simp
          · simpa using blockedOn
        · intro q other
          simp [Ne.symm other]
        · intro q other
          simp [other]
        · intro q other
          simp [mem_insertPid, other]
        · intro q _
          simp
        · intro q _ mem
          simpa using mem
      · rename_i notReady
        have blocked := placed.blocked_of_not_ready notReady notRunning
        apply agree.move pid { cb with blockedOn := cb.blockedOn.union reason }
        · exact waiting
        · simpa using agree.ready_nodup
        · simpa using agree.blocked_sorted
        · simpa using agree.released_sorted
        · simp [found]
        · apply Placed.of_queues (s := s) _ (by simp) (by simp) (by simp)
          exact ⟨placed.ready, placed.blocked, placed.running, placed.settled,
            by simpa [blocked] using blockedOn⟩
        · intro q other
          simp [Ne.symm other]
        · intro q _
          simp
        · intro q _
          simp
        · intro q _
          simp
        · intro q _ mem
          simpa using mem

/-- Clearing a reason: a process left waiting for nothing is made ready if it was blocked,
and every process stays placed. -/
theorem QueuesAgree.unblock (agree : s.QueuesAgree) (pid : Nat) (reason : BlockReason)
    (cause : Cause) : (s.unblock pid reason cause).2.QueuesAgree := by
  unfold Scheduler.unblock
  cases found : s.get? pid with
  | none => exact agree
  | some cb =>
    have placed := agree.placed pid cb found
    have cleared := agree.wf.modify pid
      (fun cb' => { cb' with blockedOn := cb.blockedOn.diff reason }) fun _ => rfl
    simp only
    split
    · rename_i stays
      dsimp only
      have waits : cb.status = .blocked ↔ (cb.blockedOn.diff reason).isEmpty = false := by
        by_cases blocked : cb.status = .blocked
        · simpa [blocked] using stays
        · have idle : cb.blockedOn.isEmpty = true := by simpa [placed.waits] using blocked
          simp [blocked, BlockReason.isEmpty_diff_of_isEmpty idle]
      apply agree.move pid { cb with blockedOn := cb.blockedOn.diff reason }
      · exact cleared
      · simpa using agree.ready_nodup
      · simpa using agree.blocked_sorted
      · simpa using agree.released_sorted
      · simp [found]
      · apply Placed.of_queues (s := s) _ (by simp) (by simp) (by simp)
        exact ⟨placed.ready, placed.blocked, placed.running, placed.settled, waits⟩
      · intro q other
        simp [Ne.symm other]
      · intro q _
        simp
      · intro q _
        simp
      · intro q _
        simp
      · intro q _ mem
        simpa using mem
    · rename_i clears
      simp only [Bool.or_eq_true, Bool.not_eq_true', decide_eq_true_eq, not_or,
        Bool.not_eq_false, not_not] at clears
      obtain ⟨idle, blocked⟩ := clears
      have notReady : pid ∉ s.ready := by
        rw [← placed.ready, blocked]
        exact nofun
      have notRunning : s.running ≠ some pid := fun current => by
        have running := placed.running.2 current
        rw [blocked] at running
        exact nomatch running
      dsimp only
      apply addToReady_agree { cb with blockedOn := cb.blockedOn.diff reason } _
        ⟨cleared, ?_, ?_, ?_, ?_, ?_, ?_, ?_⟩ _ (by simp [found]) idle
        (by simpa using notReady) (by simpa using notRunning)
      · simpa using agree.ready_nodup
      · simpa using agree.blocked_sorted
      · simpa using agree.released_sorted
      · intro q mem
        simpa using agree.ready_live q mem
      · intro q mem
        simpa using agree.blocked_live q mem
      · intro q current
        simpa using agree.running_live q current
      · intro q mem
        simpa using agree.released_live q mem
      · intro q cb' found' other
        rw [get?_modify, if_neg (Ne.symm other)] at found'
        exact (agree.placed q cb' found').of_queues Iff.rfl Iff.rfl Iff.rfl

/-- Removing a process drops it from the table and from every queue. -/
theorem QueuesAgree.removeProcess (agree : s.QueuesAgree) (pid : Nat) (cause : Cause) :
    (s.removeProcess pid cause).2.QueuesAgree := by
  unfold Scheduler.removeProcess
  split
  · dsimp only
    have ended := agree.wf.transition pid cause .terminated
    have wf := TableWF.erase (s := { s.transition pid cause .terminated with
      ready := s.ready.filter (· ≠ pid), blocked := s.blocked.erase pid,
      released := s.released.erase pid,
      running := if s.running = some pid then none else s.running })
      ⟨ended.sorted, ended.keyed⟩ pid
    have blockedMem := mem_erase_of_sorted agree.blocked_sorted pid
    have releasedMem := mem_erase_of_sorted agree.released_sorted pid
    apply agree.of_frame pid
    · exact ⟨wf.sorted, wf.keyed⟩
    · simpa using agree.ready_nodup.filter _
    · simpa using agree.blocked_sorted.sublist List.erase_sublist
    · simpa using agree.released_sorted.sublist List.erase_sublist
    · intro q other
      simp [Ne.symm other]
    · intro q other
      simp [other]
    · intro q other
      simp [blockedMem, other]
    · intro q other
      by_cases current : s.running = some pid
      · simp [current, Ne.symm other]
      · simp [current]
    · intro q other mem
      rw [transition_released, releasedMem] at mem
      exact mem.2
    · intro queued
      simp [blockedMem, releasedMem] at queued
    · intro cb found
      simp at found
  · exact agree

/-- Releasing a live process marks it released; it was past creation, so it is not queued
again. -/
theorem QueuesAgree.release (agree : s.QueuesAgree) (pid : Nat) : (s.release pid).QueuesAgree := by
  unfold Scheduler.release
  cases found : s.get? pid with
  | none => exact agree
  | some cb =>
    have placed := agree.placed pid cb found
    simp only [placed.settled.1, if_false]
    apply agree.move pid cb
    · exact ⟨agree.wf.sorted, agree.wf.keyed⟩
    · exact agree.ready_nodup
    · exact agree.blocked_sorted
    · exact insertPid_sorted pid agree.released_sorted
    · exact found
    · exact placed.of_queues Iff.rfl Iff.rfl Iff.rfl
    · intro q _
      rfl
    · intro q _
      rfl
    · intro q _
      rfl
    · intro q _
      rfl
    · intro q other mem
      simpa [mem_insertPid, other] using mem

/-- A new control block under a fresh pid, made ready at once, is placed at the back of the
queue. -/
theorem QueuesAgree.insert_addToReady (agree : s.QueuesAgree) {cb : ControlBlock}
    (fresh : s.contains cb.pid = false)
    (idle : cb.blockedOn.isEmpty = true) : ((s.insert cb).addToReady cb.pid .created).QueuesAgree := by
  have notReady : cb.pid ∉ s.ready := fun mem => by
    simp [agree.ready_live _ mem] at fresh
  have notRunning : s.running ≠ some cb.pid := fun current => by
    simp [agree.running_live _ current] at fresh
  have keep : ∀ q, s.contains q = true → (s.insert cb).contains q = true := by
    intro q live
    simp [live]
  apply addToReady_agree cb _ ⟨agree.wf.insert cb, agree.ready_nodup, agree.blocked_sorted,
    agree.released_sorted, ?_, ?_, ?_, ?_⟩ _ (by simp) idle (by simpa using notReady)
    (by simpa using notRunning)
  · intro q mem
    exact keep q (agree.ready_live q mem)
  · intro q mem
    exact keep q (agree.blocked_live q mem)
  · intro q current
    exact keep q (agree.running_live q current)
  · intro q mem
    exact keep q (agree.released_live q mem)
  · intro q cb' found other
    rw [get?_insert, if_neg (Ne.symm other)] at found
    exact (agree.placed q cb' found).of_queues Iff.rfl Iff.rfl Iff.rfl

end Scheduler

end PagedMachine
