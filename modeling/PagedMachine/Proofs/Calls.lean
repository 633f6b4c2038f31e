import PagedMachine.Kernel.Basic
import PagedMachine.Proofs.Exec

/-!
# Runs of the kernel

A user of the kernel creates, removes and releases processes, switches automatic scheduling,
steps the processor and dispatches; devices hand it interrupts and carry out the disk
operations it queued; and whoever serves the queues takes them off. `Kernel.Call` lists these
calls, with any interrupt at all and any disk operation at all, and `Kernel.run` makes them in
order. An invariant of every run is one that every call keeps (`run_keeps`).

Devices that serve only what the kernel asked for make narrower runs (`Kernel.serve`): they
carry out the operations the kernel queued, each at most once and in any order, and answer the
console requests it issued. Each such event is a call, or nothing (`happen_fst`).

Stepping is where most work happens: the processor runs one instruction over the bus of the
running process, and the trap it raises is handled. `step_keeps` reduces keeping an invariant
across a step to dispatching, to the bus accesses of one instruction (`Exec.Keeps`) and to
handling the trap from the state the instruction left.

A view of the kernel that reads only its configuration and its pid counter (`Untouched`) is
left by every interrupt and every step (`Untouched.handle`, `Untouched.step`). Creating a
process raises the pid counter, and nothing changes the configuration (`config_serve`).
-/

namespace PagedMachine

/-- The answer to a console request: a write is done, a read brings `value`. -/
def IoRequest.answer (req : IoRequest) (value : Int32) : IoCompletion :=
  match req.kind with
  | .read addr => .read req.pid addr value
  | .write _ => .write req.pid

namespace Kernel

/-- A kernel is created exactly from a configuration that passes its check and whose vectors
fit, with fresh memory, an empty scheduler and nothing queued. -/
theorem new_eq_ok {c : Config} {k : Kernel} :
    Kernel.new c = some (.ok k) ↔
      c.validate = .ok () ∧ c.allocatable = true ∧
        k = { config := c, mm := .new c, sched := .new c.autoSchedule c.timeSlice } := by
  unfold Kernel.new
  split
  · rename_i e invalid
    simp [invalid]
  · rename_i valid
    by_cases fits : c.allocatable = true
    · simp [valid, fits, eq_comm]
    · simp [valid, fits]

/-- A call made on the kernel, by a user, a device or whoever serves its queues. -/
inductive Call where
  | create (name : String)
  | remove (pid : Nat)
  | exec (pid : Nat)
  | setAuto (on : Bool)
  | step
  | dispatch
  /-- Any interrupt at all, whether or not the kernel could have caused it. -/
  | interrupt (irq : Interrupt)
  /-- Any disk operation carried out on the swap disk, its completion handled. -/
  | perform (op : DiskOperation)
  | takeDisk
  | takeConsole
  deriving Repr

/-- The kernel after one call. -/
def call (k : Kernel) : Call → Kernel
  | .create name => (k.createProcess name).2
  | .remove pid => (k.removeProcess pid).2
  | .exec pid => (k.execProcess pid).2
  | .setAuto on => k.setAuto on
  | .step => k.step.2
  | .dispatch => k.dispatchNext.2
  | .interrupt irq => k.handle irq
  | .perform op => (k.perform op).2
  | .takeDisk => k.takeDiskQueue.2
  | .takeConsole => k.takeConsoleQueue.2

/-- The kernel after a sequence of calls, made in order. -/
def run (k : Kernel) (calls : List Call) : Kernel := calls.foldl call k

/-- What every call keeps holds after every run. -/
theorem run_keeps (inv : Kernel → Prop) (keeps : ∀ k c, inv k → inv (k.call c)) :
    ∀ (calls : List Call) (k : Kernel), inv k → inv (k.run calls) := by
  intro calls
  induction calls with
  | nil => intro k hk; exact hk
  | cons c rest ih => intro k hk; exact ih (k.call c) (keeps k c hk)

/-- The devices around a kernel that serve only what it asked for: the disk operations taken
off its queue and not yet carried out, the console requests taken and not yet answered, and
whether an operation taken was ever dropped unperformed. -/
structure Devices where
  held : List DiskOperation := []
  taken : List IoRequest := []
  dropped : Bool := false
  deriving Repr

/-- What happens in a run whose devices serve only what the kernel asked for: a call of a user,
or a device taking the kernel's queue, carrying out or dropping an operation it holds, or
answering a request it holds. Operations and requests are picked by position, so they are
served in any order, each at most once. -/
inductive Event where
  | create (name : String)
  | remove (pid : Nat)
  | exec (pid : Nat)
  | setAuto (on : Bool)
  | step
  | dispatch
  | takeDisk
  | perform (index : Nat)
  | drop (index : Nat)
  | takeConsole
  | answer (index : Nat) (value : Int32)
  deriving Repr

/-- The kernel and its devices after one event. -/
def happen (k : Kernel) (d : Devices) : Event → Kernel × Devices
  | .create name => ((k.createProcess name).2, d)
  | .remove pid => ((k.removeProcess pid).2, d)
  | .exec pid => ((k.execProcess pid).2, d)
  | .setAuto on => (k.setAuto on, d)
  | .step => (k.step.2, d)
  | .dispatch => (k.dispatchNext.2, d)
  | .takeDisk => (k.takeDiskQueue.2, { d with held := d.held ++ k.mm.queue })
  | .perform i =>
    match d.held[i]? with
    | some op => ((k.perform op).2, { d with held := d.held.eraseIdx i })
    | none => (k, d)
  | .drop i =>
    match d.held[i]? with
    | some _ => (k, { d with held := d.held.eraseIdx i, dropped := true })
    | none => (k, d)
  | .takeConsole => (k.takeConsoleQueue.2, { d with taken := d.taken ++ k.console })
  | .answer i value =>
    match d.taken[i]? with
    | some req => (k.handle (.ioDone (req.answer value)), { d with taken := d.taken.eraseIdx i })
    | none => (k, d)

/-- The kernel and its devices after a sequence of events, in order. -/
def serve (kd : Kernel × Devices) (events : List Event) : Kernel × Devices :=
  events.foldl (fun kd e => kd.1.happen kd.2 e) kd

/-- What every event keeps holds after every served run. -/
theorem serve_keeps (inv : Kernel × Devices → Prop)
    (keeps : ∀ k d e, inv (k, d) → inv (k.happen d e)) :
    ∀ (events : List Event) (kd : Kernel × Devices), inv kd → inv (serve kd events) := by
  intro events
  induction events with
  | nil => intro kd holds; exact holds
  | cons e rest ih => intro kd holds; exact ih _ (keeps kd.1 kd.2 e holds)

/-- Each event does to the kernel what a call does, or nothing. -/
theorem happen_fst (k : Kernel) (d : Devices) (e : Event) :
    ∃ calls : List Call, (k.happen d e).1 = k.run calls := by
  cases e with
  | create name => exact ⟨[.create name], rfl⟩
  | remove pid => exact ⟨[.remove pid], rfl⟩
  | exec pid => exact ⟨[.exec pid], rfl⟩
  | setAuto on => exact ⟨[.setAuto on], rfl⟩
  | step => exact ⟨[.step], rfl⟩
  | dispatch => exact ⟨[.dispatch], rfl⟩
  | takeDisk => exact ⟨[.takeDisk], rfl⟩
  | perform i =>
    simp only [happen]
    split
    · rename_i op _
      exact ⟨[.perform op], rfl⟩
    · exact ⟨[], rfl⟩
  | drop i =>
    simp only [happen]
    split
    all_goals exact ⟨[], rfl⟩
  | takeConsole => exact ⟨[.takeConsole], rfl⟩
  | answer i value =>
    simp only [happen]
    split
    · rename_i req _
      exact ⟨[.interrupt (.ioDone (req.answer value))], rfl⟩
    · exact ⟨[], rfl⟩

/-- The kernel with another processor state. -/
def withCpu (k : Kernel) (cpu : Cpu) : Kernel := { k with sched := { k.sched with cpu } }

/-- The kernel before the instruction of a step: the running process, dispatched first if the
processor was idle. -/
def dispatched (k : Kernel) : Kernel :=
  if k.sched.running.isNone then { k with sched := k.sched.dispatchNext.2 } else k

/-- One step: a halted kernel stays as it is; otherwise the processor runs an instruction of
the running process, dispatched first if needed, and the trap it raises is handled. -/
theorem step_eq (k : Kernel) :
    k.step.2 =
      if k.halted.isSome then k
      else match k.dispatched.sched.running with
        | none => k.dispatched
        | some pid =>
          let limit := ((k.dispatched.sched.get? pid).map (·.size)).getD 0
          let r := (k.dispatched.sched.cpu.step (bus pid limit)).run k.dispatched
          match r.1.2 with
          | some t => (r.2.withCpu r.1.1).handle (.trap t)
          | none => r.2.withCpu r.1.1 := by
  unfold step dispatched withCpu
  split
  · rfl
  · simp only
    generalize (if k.sched.running.isNone then { k with sched := k.sched.dispatchNext.2 } else k) = d
    cases d.sched.running with
    | none => rfl
    | some pid =>
      simp only
      generalize StateT.run (d.sched.cpu.step (bus pid _)) d = r
      rcases r with ⟨⟨cpu, _ | t⟩, d'⟩ <;> rfl

/-- The bus of `pid` keeps `inv`, with fault states `fault`, when every translation of an access
from an `inv` state ends in `inv` if it succeeds, also once a word is written at the address it
gives, and in `fault` of its trap if it fails; and the traps an instruction raises by itself
leave an `inv` state in `fault`. -/
theorem bus_keeps {inv : Kernel → Prop} {fault : Trap → Kernel → Prop} (pid limit : Nat)
    (translated : ∀ k a write pa mm s, inv k →
      k.mm.translate k.sched pid a write = (.ok pa, mm, s) →
      inv { k with mm, sched := s } ∧ ∀ w, write = true → inv { k with mm := mm.write pa w, sched := s })
    (failed : ∀ k a write e mm s, inv k → k.mm.translate k.sched pid a write = (.error e, mm, s) →
      fault e.toTrap { k with mm, sched := s })
    (own : ∀ k, inv k →
      fault .invalidInstruction k ∧ fault .overflow k ∧ fault .invalidAddress k ∧ fault .stop k) :
    Exec.Keeps (bus pid limit) inv fault := by
  refine ⟨fun a k holds => ?_, fun a w k holds => ?_, fun a k holds => ?_, own⟩
  -- each access translates, then reads, writes or only probes
  all_goals
    obtain ⟨config, mm, s, console, nextPid, halted⟩ := k
    simp only [bus]
    split
  · rename_i pa mm' s' ok
    exact (translated _ a false pa mm' s' holds ok).1
  · rename_i e mm' s' error
    exact failed _ a false e mm' s' holds error
  · rename_i pa mm' s' ok
    exact (translated _ a true pa mm' s' holds ok).2 w rfl
  · rename_i e mm' s' error
    exact failed _ a true e mm' s' holds error
  · rename_i pa mm' s' ok
    exact (translated _ a true pa mm' s' holds ok).1
  · rename_i e mm' s' error
    exact failed _ a true e mm' s' holds error

/-- A step keeps `inv` when dispatching keeps it, every instruction of the running process
keeps it with fault states `fault` and ends in `wait` when it queues a console request, and
the trap raised is handled back into `inv`: the timer and an ordinary completion from `inv`,
`ioWait` from `wait`, and any other trap from its fault state. The processor state is free. -/
theorem step_keeps {inv wait : Kernel → Prop} {fault : Trap → Kernel → Prop}
    (dispatch : ∀ k, inv k → k.halted = none → k.sched.running = none →
      inv { k with sched := k.sched.dispatchNext.2 })
    (keeps : ∀ pid limit,
      Exec.Keeps (bus pid limit) (fun k => inv k ∧ k.sched.running = some pid) fault)
    (request : ∀ pid limit kind k, inv k → k.sched.running = some pid →
      wait ((bus pid limit).requestIo kind k))
    (completed : ∀ k cpu, inv k → inv (k.withCpu cpu))
    (timer : ∀ k cpu, inv k → inv ((k.withCpu cpu).handle (.trap .timer)))
    (ioWait : ∀ k cpu, wait k → inv ((k.withCpu cpu).handle (.trap .ioWait)))
    (trapped : ∀ t k cpu, fault t k → inv ((k.withCpu cpu).handle (.trap t)))
    (k : Kernel) (hk : inv k) : inv k.step.2 := by
  rw [step_eq]
  split
  · exact hk
  · rename_i running
    have ready : inv k.dispatched := by
      unfold dispatched
      split
      · rename_i idle
        exact dispatch k hk (by simpa using running) (by simpa using idle)
      · exact hk
    split
    · exact ready
    · rename_i pid current
      have outcome := Cpu.step_post (keeps pid (((k.dispatched.sched.get? pid).map (·.size)).getD 0))
        (fun kind k' h => request pid _ kind k' h.1 h.2) k.dispatched.sched.cpu ⟨ready, current⟩
      simp only
      generalize (k.dispatched.sched.cpu.step (bus pid _)).run k.dispatched = r at outcome ⊢
      rcases outcome with ⟨none, h⟩ | ⟨raised, h⟩ | ⟨raised, h⟩ | ⟨t, raised, h⟩
      · rw [none]
        exact completed _ _ h.1
      · rw [raised]
        exact timer _ _ h.1
      · rw [raised]
        exact ioWait _ _ h
      · rw [show r.1.2 = some t from congrArg Prod.snd raised]
        exact trapped t _ _ h

/-! ### What no instruction or interrupt touches -/

/-- A view of the kernel that reads neither memory, the scheduler, the console requests nor the
halt reason: in effect the configuration and the pid counter. -/
def Untouched {β : Type} (f : Kernel → β) : Prop :=
  ∀ (k : Kernel) mm sched console halted, f { k with mm, sched, console, halted } = f k

/-- The configuration is a view nothing but creation could touch. -/
theorem untouched_config : Untouched Kernel.config := fun _ _ _ _ _ => rfl

/-- The pid counter is a view nothing but creation could touch. -/
theorem untouched_nextPid : Untouched Kernel.nextPid := fun _ _ _ _ _ => rfl

section Untouched

variable {β : Type} {f : Kernel → β}

/-- Ending a process leaves an untouched view. -/
theorem Untouched.terminate (view : Untouched f) (k : Kernel) (pid : Nat) (cause : Cause) :
    f (k.terminate pid cause) = f k :=
  view k _ _ k.console k.halted

/-- Handling an interrupt leaves an untouched view. -/
theorem Untouched.handle (view : Untouched f) (k : Kernel) (irq : Interrupt) :
    f (k.handle irq) = f k := by
  -- every branch is `k` itself, a halt, an ending, or `k` with new memory and scheduler
  have endRunning : ∀ cause, f (k.endRunning cause) = f k := by
    intro cause
    unfold endRunning
    split
    · exact view.terminate k _ cause
    · rfl
  cases irq with
  | trap t =>
    cases t with
    | pageFault _ =>
      simp only [Kernel.handle]
      split
      · exact view k k.mm _ k.console k.halted
      · rfl
    | invalidAddress | overflow | invalidInstruction | stop => exact endRunning _
    | timer | ioWait | framesExhausted => exact view k k.mm _ k.console _
  | diskDone c =>
    simp only [Kernel.handle, Kernel.diskDone]
    split
    · exact view k _ _ k.console k.halted
    · exact view k k.mm _ k.console k.halted
    · split
      · exact view.terminate k _ _
      · rfl
  | ioDone c =>
    cases c with
    | write pid => exact view k k.mm _ k.console k.halted
    | read pid addr value =>
      simp only [Kernel.handle, ioDone]
      split
      · rfl
      · split
        · exact view k _ _ k.console k.halted
        · exact view k _ _ k.console k.halted
        · exact (view.terminate _ _ _).trans (view k _ _ k.console k.halted)
        · exact view k _ _ k.console _

/-- Accesses of an instruction leave an untouched view. -/
theorem Untouched.bus_keeps (view : Untouched f) (c : β) (pid limit : Nat) :
    Exec.Keeps (bus pid limit) (fun k => f k = c) fun _ k => f k = c :=
  Kernel.bus_keeps pid limit
    (fun k _ _ _ mm s same _ =>
      ⟨(view k mm s k.console k.halted).trans same,
        fun _ _ => (view k _ s k.console k.halted).trans same⟩)
    (fun k _ _ _ mm s same _ => (view k mm s k.console k.halted).trans same)
    fun _ same => ⟨same, same, same, same⟩

/-- An instruction leaves an untouched view. -/
theorem Untouched.step_run (view : Untouched f) (k : Kernel) (cpu : Cpu) (pid limit : Nat) :
    f ((cpu.step (bus pid limit)).run k).2 = f k := by
  have outcome := @Cpu.step_post _ _ _ (fun k' => f k' = f k) _ (view.bus_keeps (f k) pid limit)
    (fun _ k' same => (view k' k'.mm k'.sched _ k'.halted).trans same) cpu k rfl
  rcases outcome with ⟨-, same⟩ | ⟨-, same⟩ | ⟨-, same⟩ | ⟨-, -, same⟩ <;> exact same

/-- A step leaves an untouched view. -/
theorem Untouched.step (view : Untouched f) (k : Kernel) : f k.step.2 = f k := by
  -- dispatching and installing the processor state change the scheduler alone
  have dispatched : f k.dispatched = f k := by
    unfold dispatched
    split
    · exact view k k.mm _ k.console k.halted
    · rfl
  have withCpu : ∀ (k' : Kernel) cpu, f (k'.withCpu cpu) = f k' :=
    fun k' _ => view k' k'.mm _ k'.console k'.halted
  rw [step_eq]
  split
  · rfl
  · split
    · exact dispatched
    · simp only
      split
      · rw [view.handle, withCpu, view.step_run, dispatched]
      · rw [withCpu, view.step_run, dispatched]

end Untouched

/-! ### The configuration never changes -/

/-- No call changes the configuration. -/
theorem config_call (k : Kernel) (c : Call) : (k.call c).config = k.config := by
  cases c with
  | create name =>
    simp only [call, createProcess]
    split
    · rfl
    · split <;> rfl
  | remove pid =>
    simp only [call, removeProcess]
    split <;> rfl
  | exec pid =>
    simp only [call, execProcess]
    split
    · rfl
    · split <;> rfl
  | setAuto on => rfl
  | step => exact untouched_config.step k
  | dispatch =>
    simp only [call, dispatchNext]
    split <;> rfl
  | interrupt irq => exact untouched_config.handle k irq
  | perform op => exact untouched_config.handle _ _
  | takeDisk | takeConsole => rfl

/-- No run changes the configuration. -/
theorem config_run (k : Kernel) (calls : List Call) : (k.run calls).config = k.config :=
  run_keeps (fun k' => k'.config = k.config) (fun k' c same => (config_call k' c).trans same)
    calls k rfl

/-- No served run changes the configuration. -/
theorem config_serve (kd : Kernel × Devices) (events : List Event) :
    (serve kd events).1.config = kd.1.config := by
  refine serve_keeps (fun kd' => kd'.1.config = kd.1.config) (fun k d e same => ?_) events kd rfl
  obtain ⟨calls, happened⟩ := happen_fst k d e
  rw [happened, config_run]
  exact same

end Kernel

end PagedMachine
