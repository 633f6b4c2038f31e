import PagedMachine.Proofs.ConsoleAnswer

/-!
# Paging is transparent

Every process computes what its reference machine computes (`ControlBlock.reference`): the
machine runs the process's program over flat memory, where no page is ever absent. Along a run
of events that serves the disk in the order the kernel queued its operations, each process is
seen to complete instructions and to take answers of the console (`Kernel.Event.seenBy`,
`Kernel.observed`). After exactly those inputs its reference machine has the context the process
has and made the console requests the process made, and unless the kernel halted the two hold
the same words.

The run lemma is `Kernel.Tracked.serve`. Its step lemma gathers those of the modules before:
scheduling, the disk and taking the queues are seen by no process (`Kernel.Unseen`), a step moves
on the process whose instruction completed (`Kernel.Mirrored.step`), an answer the process
answered (`Kernel.Mirrored.answer`), and a new process starts where its machine starts
(`Kernel.Mirrored.createProcess`).

Main statement: `Kernel.paging_transparent`.
-/

namespace PagedMachine

namespace Kernel

open Scheduler MemoryManager Reference

variable {k : Kernel} {d : Devices} {inputs : Nat → List Input}

/-- No save outstanding is for a pid not yet handed out. -/
theorem latestSave_unborn (settled : k.Settled d) (page : Nat) :
    latestSave (k.outstanding d) k.nextPid page = none := by
  unfold latestSave
  rw [List.filterMap_eq_nil_iff.2 fun op listed => ?_]
  · rfl
  have issued := settled.protocol.ops_issued op
    (List.mem_append.2 (List.mem_append.1 listed).symm)
  simp [DiskOperation.savedOf, Nat.ne_of_lt issued]

/-- No console request names a pid not handed out yet. -/
theorem Settled.pending_unborn (settled : k.Settled d) : k.pending d k.nextPid = [] := by
  unfold pending
  rw [List.filter_eq_nil_iff.2 fun req listed => ?_]
  · rfl
  have issued := settled.protocol.requests_issued req
    (List.mem_append.2 (List.mem_append.1 listed).symm)
  simpa using Nat.ne_of_lt issued

/-- The running process has been handed its pid. -/
theorem Scheduled.running_lt (scheduled : k.Scheduled) {pid : Nat}
    (current : k.sched.running = some pid) : pid < k.nextPid := by
  obtain ⟨cb, found, -⟩ := scheduled.agree.get?_of_running current
  exact scheduled.issued _ (contains_of_get? found)

/-- A process that has not run matches its reference machine before any input: it has the
initial context, has asked the console for nothing, and holds its image padded with `DATA 0`
in as many words as its pages hold. -/
theorem Matches.fresh {q : Nat} {cb : ControlBlock} (context : k.sched.contextOf cb = {})
    (quiet : k.pending d q = [])
    (image : ∀ a, k.mm.wordAt? (k.outstanding d) cb a =
      if a < cb.pageTable.size * k.config.pageSize then some (cb.image.getD a (.data 0))
      else none) :
    k.Matches d [] q cb where
  context := context
  requests := by
    rw [quiet]
    rfl
  words _ a := by
    rw [image a, ControlBlock.reference, drive_nil, start_words]

/-- Creating a process is seen by no other process, and the new one matches its reference
machine before any input: it starts from the initial context with no console request, holding
its image padded with `DATA 0`. -/
theorem Mirrored.createProcess (mirrored : k.Mirrored d inputs) (settled : k.Settled d)
    (stored : k.Stored d) (unborn : inputs k.nextPid = []) (name : String) :
    (k.createProcess name).2.Mirrored d inputs := by
  cases found : Program.find? name with
  | none => simpa [Kernel.createProcess, found] using mirrored
  | some program =>
    by_cases running : k.halted = none
    · have spec := loadInitial_spec k.mm (blank_of_new k.nextPid program k.config.pageSize)
      -- the first page goes in without changing a word of any live process
      have kept : WordsKept k.mm k.sched (k.outstanding d) _ k.sched (k.outstanding d) :=
        wordsKept_loadInitial settled.frames.agree stored.bounded.fits
          (ControlBlock.new k.nextPid program k.config.pageSize)
      have count : (ControlBlock.new k.nextPid program k.config.pageSize).pageTable.size =
          Program.pageCount k.mm.pageSize program.requiredWords := by
        simp [ControlBlock.new, PageTable.new, PageTable.size, stored.bounded.pageSize]
      -- and the new process holds its image, whether or not its first page went in
      have words := wordAt?_loadInitial stored.bounded.fits
        (stored.bounded.diskPage.trans stored.bounded.pageSize.symm) count
        (fun g e entry => ⟨(blank_of_new _ _ _ g e entry).1, (blank_of_new _ _ _ g e entry).2.2⟩)
        (latestSave_unborn settled) rfl
      rcases loaded : k.mm.loadInitial (ControlBlock.new k.nextPid program k.config.pageSize) with
        ⟨placed, mm, cb⟩
      rw [loaded] at spec kept words
      dsimp only at spec kept words
      obtain ⟨pt, made, pages⟩ := spec.table
      have pid : cb.pid = k.nextPid := by rw [made]; rfl
      have unqueued : cb.pid ∉ k.sched.ready := fun mem =>
        Nat.lt_irrefl _ (settled.sched.issued _ (pid ▸ settled.sched.agree.ready_live _ mem))
      obtain ⟨queued, -, others⟩ := insert_addToReady (s := k.sched) cb unqueued .created
      have contexts := ContextsKept.addToReady (s := k.sched.insert cb) cb.pid .created
      rw [createProcess_of_found found running loaded, ← pid]
      dsimp only
      intro q c' found'
      obtain ⟨c, inserted, context⟩ := contexts q c' found'
      by_cases new : q = cb.pid
      · subst new
        -- the new process runs nowhere yet and asked the console for nothing
        have idle : k.sched.running ≠ some cb.pid := fun current =>
          Nat.lt_irrefl _ (pid ▸ settled.sched.running_lt current)
        have quiet : k.pending d cb.pid = [] := pid ▸ settled.pending_unborn
        rw [get?_insert, if_pos rfl, Option.some.injEq] at inserted
        subst inserted
        rw [queued, Option.some.injEq] at found'
        subst found'
        rw [show inputs cb.pid = [] from pid ▸ unborn]
        refine Matches.fresh ?_ quiet fun a => ?_
        · rw [context]
          show (if k.sched.running = some cb.pid then _ else cb.context) = _
          rw [if_neg idle, made]
          rfl
        · have held : mm.wordAt? (d.held ++ mm.queue) { cb with status := .ready } a =
              mm.wordAt? (k.outstanding d) cb a := by
            rw [spec.queue]
            exact wordAt?_of_paging rfl a
          show mm.wordAt? (d.held ++ mm.queue) { cb with status := .ready } a = _
          rw [held, words a, made]
          simp only [pages, stored.bounded.pageSize]
      · have before : k.sched.get? q = some c' := by rwa [others q new] at found'
        rw [get?_insert, if_neg (Ne.symm new), before, Option.some.injEq] at inserted
        subst inserted
        refine (mirrored q c' before).keep before (fun c'' found'' => ?_) rfl found'
        rw [found', Option.some.injEq] at found''
        subst found''
        obtain ⟨c₀, found₀, -, -, -, same⟩ := kept.words q c' before
        rw [before, Option.some.injEq] at found₀
        subst found₀
        refine ⟨c', before, rfl, context, rfl, fun halted => ⟨halted, fun a => ?_⟩⟩
        show mm.wordAt? (d.held ++ mm.queue) c' a = _
        rw [spec.queue]
        exact same a
    · have stopped : k.halted.isSome = true := Option.ne_none_iff_isSome.1 running
      simp only [Kernel.createProcess, found, stopped, if_true]
      exact mirrored

/-- A new kernel keeps what paging stores: it has no process and no operation. -/
theorem Stored.new {c : Config} (created : Kernel.new c = some (.ok k)) : k.Stored {} := by
  refine ⟨SlotsOwned.new created, Bounded.new created, ?_⟩
  obtain ⟨-, -, rfl⟩ := Kernel.new_eq_ok.1 created
  constructor <;> simp [Scheduler.get?, Scheduler.new, PidMap.find?, outstanding,
    MemoryManager.new]

/-- The pid counter never goes back. -/
theorem nextPid_le_happen (k : Kernel) (d : Devices) (e : Event) :
    k.nextPid ≤ (k.happen d e).1.nextPid := by
  obtain ⟨calls, ran⟩ := happen_fst k d e
  rw [ran]
  exact run_keeps (fun k' => k.nextPid ≤ k'.nextPid)
    (fun k' c before => before.trans (nextPid_le_call k' c)) calls k (Nat.le_refl _)

/-- A step completes an instruction of a process already created. -/
theorem completer_lt (settled : k.Settled d) {q : Nat} (completes : k.completer = some q) :
    q < k.nextPid := by
  have scheduled := settled.dispatched.sched
  unfold completer at completes
  split at completes
  · cases completes
  · split at completes
    · cases completes
    · rename_i pid current
      split at completes
      · cases completes
        exact (dispatched_same k).2.1 ▸ scheduled.running_lt current
      · cases completes

/-- What process `q` was seen to do in event `e`, served from kernel `k` with devices `d`: a
step completing an instruction of `q`, or the console's answer to the request of `q` it took. -/
def Event.seenBy (k : Kernel) (d : Devices) (e : Event) (q : Nat) : List Input :=
  match e with
  | .step => if k.completer = some q then [.step] else []
  | .answer i value =>
    match d.taken[i]? with
    | some req => if q = req.pid then [.answer req.kind value] else []
    | none => []
  | _ => []

/-- What process `q` was seen to do along the events served from `kd`, in order. -/
def observed : Kernel × Devices → List Event → Nat → List Input
  | _, [], _ => []
  | kd, e :: rest, q => e.seenBy kd.1 kd.2 q ++ observed (kd.1.happen kd.2 e) rest q

/-- A pid not handed out yet is seen to do nothing. -/
theorem seenBy_unborn (settled : k.Settled d) {q : Nat} (late : k.nextPid ≤ q) (e : Event) :
    e.seenBy k d q = [] := by
  cases e with
  | step =>
    have idle : k.completer ≠ some q := fun completes =>
      absurd late (Nat.not_le.2 (completer_lt settled completes))
    simp only [Event.seenBy, idle, if_false]
  | answer i value =>
    simp only [Event.seenBy]
    cases taken : d.taken[i]? with
    | none => rfl
    | some req =>
      have issued := settled.protocol.requests_issued req
        (List.mem_append_right _ (List.mem_of_getElem? taken))
      simp only [if_neg (show q ≠ req.pid by omega)]
  | _ => rfl

/-- Every event in order keeps every process matching its reference machine, after what it was
seen to do in the event. -/
theorem Mirrored.happen (mirrored : k.Mirrored d inputs) (settled : k.Settled d)
    (stored : k.Stored d) (unborn : inputs k.nextPid = []) (e : Event)
    (inOrder : e.inOrder = true) :
    (k.happen d e).1.Mirrored (k.happen d e).2 fun q => inputs q ++ e.seenBy k d q := by
  -- most events are seen by nobody
  have quiet : ∀ {k' : Kernel} {d' : Devices}, k'.Mirrored d' inputs →
      k'.Mirrored d' fun q => inputs q ++ [] := fun kept => by simpa using kept
  cases e with
  | create name => exact quiet (mirrored.createProcess settled stored unborn name)
  | remove pid =>
    exact quiet (mirrored.keep (unseen_removeProcess settled.sched.agree stored.owned.agree pid)
      (by simp only [Kernel.happen, removeProcess]; split <;> rfl))
  | exec pid =>
    exact quiet (mirrored.keep (unseen_execProcess pid)
      (by simp only [Kernel.happen, execProcess]; split; rfl; split <;> rfl))
  | setAuto on => exact quiet (mirrored.keep (unseen_setAuto on) rfl)
  | step => exact mirrored.step settled stored
  | dispatch =>
    exact quiet (mirrored.keep (unseen_dispatch settled.sched.agree.wf)
      (by simp only [Kernel.happen, dispatchNext]; split <;> rfl))
  | takeDisk => exact quiet (mirrored.keep unseen_takeDisk rfl)
  | perform i =>
    simp only [Event.inOrder, beq_iff_eq] at inOrder
    subst inOrder
    apply quiet
    simp only [Kernel.happen]
    cases held : d.held with
    | nil => exact mirrored
    | cons op rest =>
      simpa using mirrored.keep (unseen_perform settled stored held) (untouched_config.handle _ _)
  | drop i => cases inOrder
  | takeConsole => exact quiet (mirrored.keep unseen_takeConsole rfl)
  | answer i value =>
    simp only [Kernel.happen, Event.seenBy]
    cases taken : d.taken[i]? with
    | none => exact quiet mirrored
    | some req => exact mirrored.answer settled stored taken value

/-- What a served run keeps for the reference machines: the kernel is settled and keeps what
paging stores, every live process matches its reference machine after `inputs`, and a pid not
handed out yet was seen to do nothing. -/
structure Tracked (k : Kernel) (d : Devices) (inputs : Nat → List Input) : Prop where
  settled : k.Settled d
  stored : k.Stored d
  mirrored : k.Mirrored d inputs
  unborn : ∀ q, k.nextPid ≤ q → inputs q = []

/-- A new kernel tracks the reference machines: it has no process. -/
theorem Tracked.new {c : Config} (created : Kernel.new c = some (.ok k)) : k.Tracked {} fun _ => [] where
  settled := Settled.new created
  stored := Stored.new created
  mirrored q cb found := by
    obtain ⟨-, -, rfl⟩ := Kernel.new_eq_ok.1 created
    simp [Scheduler.get?, Scheduler.new, PidMap.find?] at found
  unborn _ _ := rfl

/-- Every event in order keeps the reference machines tracked, each process after what it was
seen to do in the event. -/
theorem Tracked.happen (tracked : k.Tracked d inputs) (e : Event) (inOrder : e.inOrder = true) :
    (k.happen d e).1.Tracked (k.happen d e).2 fun q => inputs q ++ e.seenBy k d q where
  settled := tracked.settled.happen e
  stored := tracked.stored.happen tracked.settled e inOrder
  mirrored := tracked.mirrored.happen tracked.settled tracked.stored
    (tracked.unborn _ (Nat.le_refl _)) e inOrder
  unborn q late := by
    have early := (nextPid_le_happen k d e).trans late
    rw [tracked.unborn q early, seenBy_unborn tracked.settled early, List.append_nil]

/-- A run of events in order keeps the reference machines tracked, each process after what it
was seen to do along the run. -/
theorem Tracked.serve (tracked : k.Tracked d inputs) (events : List Event)
    (inOrder : ∀ e ∈ events, e.inOrder = true) :
    (serve (k, d) events).1.Tracked (serve (k, d) events).2
      fun q => inputs q ++ observed (k, d) events q := by
  induction events generalizing k d inputs with
  | nil => simpa [serve, observed] using tracked
  | cons e rest ih =>
    have later := ih (tracked.happen e (inOrder e List.mem_cons_self))
      fun e' listed => inOrder e' (List.mem_cons_of_mem _ listed)
    simpa [serve, observed, List.append_assoc] using later

/-- Paging is transparent to every process. Along any run from a new kernel in which the disk
carries out the oldest operation it holds and drops none, every live process has the context
and the console requests of its reference machine, and unless the kernel halted it holds the
machine's words; the machine has taken the instructions the process completed and the answers
the console gave it, in order. -/
theorem paging_transparent {c : Config} {k₀ : Kernel} (created : Kernel.new c = some (.ok k₀))
    (events : List Event) (inOrder : ∀ e ∈ events, e.inOrder = true) :
    ∀ q cb, (serve (k₀, {}) events).1.sched.get? q = some cb →
      (serve (k₀, {}) events).1.Matches (serve (k₀, {}) events).2 (observed (k₀, {}) events q) q
        cb := by
  intro q cb found
  exact ((Tracked.new created).serve events inOrder).mirrored q cb found

/-- The default machine running `echo` up to its console read, which is answered with 42. -/
theorem default_paging_transparent :
    let k₀ : Kernel := ⟨{}, .new {}, .new false 5, [], 1, none⟩
    let events : List Event := [.create "echo", .setAuto true, .step, .step, .step, .takeDisk,
      .perform 0, .step, .takeConsole, .answer 0 42, .step]
    Kernel.new {} = some (.ok k₀) ∧ (∀ e ∈ events, e.inOrder = true) ∧
      ∀ q cb, (serve (k₀, {}) events).1.sched.get? q = some cb →
        (serve (k₀, {}) events).1.Matches (serve (k₀, {}) events).2 (observed (k₀, {}) events q) q
          cb := by
  intro k₀ events
  exact ⟨rfl, by decide, paging_transparent (c := {}) rfl events (by decide)⟩

end Kernel

end PagedMachine
