import PagedMachine.Proofs.KernelBounds
import PagedMachine.Proofs.InstructionTable

/-!
# Preemption by the time slice

The processor counts completed instructions against a slice of `delta` and raises the timer
when the slice is used up. Only an instruction that advances or jumps counts: one that raises a
trap, or waits for the console after a system call, leaves the slice as it was and raises no
timer (`Cpu.step_slice`). Loading a context, and so every dispatch, starts a fresh slice.

Over any sequence of steps after a load, each over a bus and a state of its own, the `k`-th
instruction that advances or jumps raises the timer exactly when `delta ∣ k`, and nothing
otherwise (`TimerTrace`, `Cpu.stepEach_timerTrace`); with `delta = 0` every one of them raises
it.
-/

namespace PagedMachine

variable {σ : Type}

/-- Whether the instruction a step of `cpu` runs over `bus` from `s` completes with a plain
advance or a jump: it raises no trap and does not wait for the console. -/
def Cpu.advances (cpu : Cpu) (bus : Bus σ) (s : σ) : Bool :=
  match ((cpu.fetchExecute bus).run.run s).1 with
  | .ok (_, .next) | .ok (_, .jump _) => true
  | _ => false

/-- One processor step to take: a bus and the state it starts from. -/
structure StepOn where
  {σ : Type}
  bus : Bus σ
  state : σ

/-- Steps the processor over each bus in turn. Gives the processor after them and, for each
step, whether its instruction advanced or jumped and the trap it raised. -/
def Cpu.stepEach (cpu : Cpu) : List StepOn → Cpu × List (Bool × Option Trap)
  | [] => (cpu, [])
  | d :: rest =>
    let r := ((cpu.step d.bus).run d.state).1
    let after := r.1.stepEach rest
    (after.1, (cpu.advances d.bus d.state, r.2) :: after.2)

/-- What a slice of `delta` shows over steps, `used` instructions after it started: a step
that advances or jumps is the next instruction, and raises the timer exactly when its number is
a multiple of `delta` and nothing otherwise; any other step raises no timer and is not
counted. -/
def TimerTrace (delta : Nat) : Nat → List (Bool × Option Trap) → Prop
  | _, [] => True
  | used, (true, t) :: rest =>
    t = (if delta ∣ used + 1 then some .timer else none) ∧ TimerTrace delta (used + 1) rest
  | used, (false, t) :: rest => t ≠ some .timer ∧ TimerTrace delta used rest

/-- An access fault never raises the timer. -/
theorem AccessFault.toTrap_ne_timer (e : AccessFault) : e.toTrap ≠ .timer := by
  cases e <;> simp [AccessFault.toTrap]

namespace Exec

/-- Every access of a bus that fails raises `fault` of an access fault's trap: never the timer. -/
theorem accessPost_no_timer {α : Type} (r : Except AccessFault α × σ) :
    AccessPost r (fun _ => True) fun t _ => t ≠ .timer := by
  unfold AccessPost
  split
  · trivial
  · exact AccessFault.toTrap_ne_timer _

/-- Every bus faults only with the trap of an access fault, and an instruction raises by itself
only the traps that end or refuse it: never the timer. -/
theorem keeps_no_timer (bus : Bus σ) : Keeps bus (fun _ => True) fun t _ => t ≠ .timer where
  read _ _ _ := accessPost_no_timer _
  write _ _ _ _ := accessPost_no_timer _
  probe _ _ _ := accessPost_no_timer _
  own _ _ := ⟨by decide, by decide, by decide, by decide⟩

end Exec

open Exec

/-- An instruction never raises the timer by itself: only the slice does. -/
theorem Cpu.fetchExecute_ne_timer (bus : Bus σ) (cpu : Cpu) (s : σ) :
    ((cpu.fetchExecute bus).run.run s).1 ≠ .error .timer := by
  have fetched : Post (cpu.fetchExecute bus) s (fun r _ => if r.2 = .wait then True else True)
      fun t _ => t ≠ .timer := by
    unfold Cpu.fetchExecute
    rw [post_bind]
    exact post_load (keeps_no_timer bus) _ trivial fun ir _ _ =>
      Execute.run_post (keeps_no_timer bus) (fun _ _ _ => trivial) ir _ trivial
  unfold Post at fetched
  revert fetched
  rcases (cpu.fetchExecute bus).run.run s with ⟨t | r, s'⟩
  · intro fetched raised
    cases raised
    exact fetched rfl
  · intro _ raised
    cases raised

/-- One step and the slice. An instruction that advances or jumps counts against the slice and
raises the timer exactly when the slice fires; any other step leaves the slice as it was and
raises no timer. -/
theorem Cpu.step_slice (cpu : Cpu) (bus : Bus σ) (s : σ) :
    (cpu.advances bus s = true →
        ((cpu.step bus).run s).1.1.slice = cpu.slice.tick.2 ∧
          ((cpu.step bus).run s).1.2 = if cpu.slice.tick.1 then some .timer else none) ∧
      (cpu.advances bus s = false →
        ((cpu.step bus).run s).1.1.slice = cpu.slice ∧ ((cpu.step bus).run s).1.2 ≠ some .timer) := by
  have noTimer := Cpu.fetchExecute_ne_timer bus cpu s
  unfold Cpu.advances
  rw [Cpu.run_step]
  revert noTimer
  rcases (cpu.fetchExecute bus).run.run s with ⟨t | ⟨regs, _ | target | _⟩, s'⟩ <;> intro noTimer
  · -- a trap leaves the processor as it was
    refine ⟨by rintro ⟨⟩, fun _ => ⟨rfl, ?_⟩⟩
    rintro ⟨⟩
    exact noTimer rfl
  · exact ⟨fun _ => ⟨Cpu.complete_slice _ _, Cpu.complete_timer _ _⟩, by rintro ⟨⟩⟩
  · exact ⟨fun _ => ⟨Cpu.complete_slice _ _, Cpu.complete_timer _ _⟩, by rintro ⟨⟩⟩
  · exact ⟨by rintro ⟨⟩, fun _ => ⟨rfl, by rintro ⟨⟩⟩⟩

/-- A slice that has counted `used` instructions, modulo its length, counts the next one: it
fires exactly when `used + 1` is a multiple of its length. -/
theorem TimeSlice.tick_of_used {s : TimeSlice} {used : Nat} (positive : 0 < s.delta)
    (counted : s.count = used % s.delta) :
    s.tick = (decide (s.delta ∣ used + 1), { s with count := (used + 1) % s.delta }) := by
  have below : used % s.delta < s.delta := Nat.mod_lt used positive
  have split := Nat.div_add_mod used s.delta
  unfold TimeSlice.tick
  by_cases full : s.delta ≤ s.count + 1
  · -- the last instruction of the slice: `used + 1` is the next multiple
    have next : used + 1 = s.delta * (used / s.delta + 1) := by
      rw [Nat.mul_add, Nat.mul_one]
      omega
    rw [if_pos full, next, Nat.mul_mod_right, decide_eq_true (Nat.dvd_mul_right _ _)]
  · have next : used + 1 = s.delta * (used / s.delta) + (s.count + 1) := by omega
    have inside : (used + 1) % s.delta = s.count + 1 := by
      rw [next, Nat.mul_add_mod, Nat.mod_eq_of_lt (by omega)]
    rw [if_neg full, inside, decide_eq_false]
    rw [Nat.dvd_iff_mod_eq_zero, inside]
    omega

/-- Over any steps, each over its own bus, a slice of positive length that has counted `used`
instructions shows the timer trace from `used`, and afterwards has counted the instructions that
advanced or jumped on top of them. -/
theorem Cpu.stepEach_timerTrace (steps : List StepOn) :
    ∀ (cpu : Cpu) (used : Nat), 0 < cpu.slice.delta → cpu.slice.count = used % cpu.slice.delta →
      TimerTrace cpu.slice.delta used (cpu.stepEach steps).2 ∧
        (cpu.stepEach steps).1.slice = { cpu.slice with
          count := (used + ((cpu.stepEach steps).2.filter (·.1)).length) % cpu.slice.delta } := by
  induction steps with
  | nil =>
    intro cpu used _ counted
    refine ⟨trivial, ?_⟩
    simp only [Cpu.stepEach, List.filter_nil, List.length_nil, Nat.add_zero, ← counted]
  | cons d rest ih =>
    intro cpu used positive counted
    obtain ⟨advanced, other⟩ := Cpu.step_slice cpu d.bus d.state
    cases adv : cpu.advances d.bus d.state
    · -- neither counted nor firing: the slice is as it was
      obtain ⟨same, noTimer⟩ := other adv
      obtain ⟨trace, slice⟩ := ih _ used (by rwa [same]) (by rw [same]; exact counted)
      rw [same] at trace slice
      simp only [Cpu.stepEach, adv]
      exact ⟨⟨noTimer, trace⟩, by simpa using slice⟩
    · obtain ⟨ticked, timer⟩ := advanced adv
      rw [TimeSlice.tick_of_used positive counted] at ticked timer
      obtain ⟨trace, slice⟩ := ih _ (used + 1) (by rw [ticked]; exact positive)
        (by rw [ticked])
      rw [ticked] at trace slice
      simp only [Cpu.stepEach, adv]
      refine ⟨⟨by simpa using timer, trace⟩, ?_⟩
      simp only [slice, List.filter_cons_of_pos, List.length_cons]
      congr 2
      omega

/-- A tick keeps the length of the slice. -/
@[simp] theorem TimeSlice.tick_delta (s : TimeSlice) : s.tick.2.delta = s.delta := by
  unfold TimeSlice.tick
  split <;> rfl

/-- A slice of positive length is never used up after it counts an instruction. -/
theorem TimeSlice.tick_count_lt (s : TimeSlice) (positive : 0 < s.delta) :
    s.tick.2.count < s.delta := by
  rw [TimeSlice.tick_count]
  split <;> omega

/-- `JMP 0` run three times with a slice of 2: the second jump uses the slice up. -/
example : ((Cpu.new 2).stepEach (List.replicate 3 ⟨Bus.total 1, fun _ => ⟨.jmp, 0, 0, 0⟩⟩)).2 =
    [(true, none), (true, some .timer), (true, none)] := by decide

/-- With a slice of length 0, every instruction that advances or jumps raises the timer. -/
theorem Cpu.stepEach_timer_of_zero (steps : List StepOn) :
    ∀ cpu : Cpu, cpu.slice.delta = 0 →
      ∀ r ∈ (cpu.stepEach steps).2, r.1 = true → r.2 = some .timer := by
  induction steps with
  | nil =>
    intro cpu _ r listed
    cases listed
  | cons d rest ih =>
    intro cpu zero r listed adv
    obtain ⟨advanced, other⟩ := Cpu.step_slice cpu d.bus d.state
    have kept : ((cpu.step d.bus).run d.state).1.1.slice.delta = 0 := by
      cases h : cpu.advances d.bus d.state
      · rw [(other h).1, zero]
      · rw [(advanced h).1, TimeSlice.tick_delta, zero]
    simp only [Cpu.stepEach, List.mem_cons] at listed
    rcases listed with rfl | later
    · have fires : cpu.slice.tick.1 = true := (TimeSlice.tick_fires_iff _).2 (by omega)
      rw [(advanced adv).2, fires, if_pos rfl]
    · exact ih _ kept r later adv

/-- The processor runs instructions and has contexts loaded, nothing else: `cpu` becomes `cpu'`
by loads and steps, each step over a bus and a state of its own. -/
inductive Cpu.Moves : Cpu → Cpu → Prop
  | refl (cpu : Cpu) : Moves cpu cpu
  | load {cpu cpu' : Cpu} (cx : Context) : Moves cpu cpu' → Moves cpu (cpu'.load cx)
  | step {cpu cpu' : Cpu} {σ : Type} (bus : Bus σ) (s : σ) :
      Moves cpu cpu' → Moves cpu ((cpu'.step bus).run s).1.1

namespace Cpu.Moves

variable {cpu₁ cpu₂ cpu₃ : Cpu}

/-- Loads and steps after loads and steps are loads and steps. -/
theorem trans (first : Moves cpu₁ cpu₂) (second : Moves cpu₂ cpu₃) : Moves cpu₁ cpu₃ := by
  induction second with
  | refl => exact first
  | load cx _ ih => exact .load cx ih
  | step bus s _ ih => exact .step bus s ih

/-- Loads and steps keep the length of the slice, and a slice of positive length is never left
used up. -/
theorem slice (moves : Moves cpu₁ cpu₂) (unused : cpu₁.slice.count < cpu₁.slice.delta) :
    cpu₂.slice.delta = cpu₁.slice.delta ∧ cpu₂.slice.count < cpu₁.slice.delta := by
  induction moves with
  | refl => exact ⟨rfl, unused⟩
  | load cx _ ih => exact ⟨ih.1, by simp only [Cpu.load_count]; omega⟩
  | @step cpu' _ bus s _ ih =>
    obtain ⟨advanced, other⟩ := Cpu.step_slice cpu' bus s
    cases adv : cpu'.advances bus s
    · rw [(other adv).1]
      exact ih
    · rw [(advanced adv).1, TimeSlice.tick_delta]
      refine ⟨ih.1, ?_⟩
      have := TimeSlice.tick_count_lt cpu'.slice (by omega)
      omega

end Cpu.Moves

namespace Scheduler

variable {s s₁ s₂ s₃ s' : Scheduler}

/-- The processor after a scheduling operation: as it was, or with a context loaded. -/
def Reloads (s s' : Scheduler) : Prop := s'.cpu = s.cpu ∨ ∃ cx, s'.cpu = s.cpu.load cx

/-- Doing nothing leaves the processor. -/
theorem Reloads.refl (s : Scheduler) : Reloads s s := .inl rfl

/-- Reloading after reloading leaves the processor as it was or with a context loaded. -/
theorem Reloads.trans (first : Reloads s₁ s₂) (second : Reloads s₂ s₃) : Reloads s₁ s₃ := by
  rcases first with same₁ | ⟨cx, loaded₁⟩ <;> rcases second with same₂ | ⟨cx', loaded₂⟩
  · exact .inl (same₂.trans same₁)
  · exact .inr ⟨cx', by rw [loaded₂, same₁]⟩
  · exact .inr ⟨cx, same₂.trans loaded₁⟩
  · -- a second load replaces the first
    exact .inr ⟨cx', by rw [loaded₂, loaded₁]; rfl⟩

/-- A reload is a move of the processor. -/
theorem Reloads.moves (reloads : Reloads s s') : Cpu.Moves s.cpu s'.cpu := by
  rcases reloads with same | ⟨cx, loaded⟩
  · rw [same]
    exact .refl _
  · rw [loaded]
    exact .load cx (.refl _)

/-- A dispatch that puts a process on the processor loads the context its control block saved,
so the process starts a fresh slice. -/
theorem dispatchNext_loads {pid : Nat} (dispatched : s.dispatchNext = (some pid, s')) :
    s'.running = some pid ∧ ∃ cb, s'.get? pid = some cb ∧ s'.cpu = s.cpu.load cb.context := by
  unfold dispatchNext at dispatched
  split at dispatched
  · cases dispatched
  · split at dispatched
    · cases dispatched
    · split at dispatched
      · cases dispatched
      · dsimp only at dispatched
        split at dispatched
        · rename_i cb found
          cases dispatched
          exact ⟨rfl, cb, found, by rw [transition_cpu]⟩
        · cases dispatched

/-- A dispatch that dispatches nothing leaves the processor alone. -/
theorem dispatchNext_cpu_of_none (idle : s.dispatchNext = (none, s')) : s'.cpu = s.cpu := by
  unfold dispatchNext at idle
  split at idle
  · cases idle
    rfl
  · split at idle
    · cases idle
      rfl
    · split at idle
      · cases idle
        rfl
      · dsimp only at idle
        split at idle
        · cases idle
        · cases idle
          rw [transition_cpu]

/-- A dispatch leaves the processor or loads a context. -/
theorem dispatchNext_reloads (s : Scheduler) : Reloads s s.dispatchNext.2 := by
  rcases dispatched : s.dispatchNext with ⟨_ | pid, s'⟩
  · exact .inl (dispatchNext_cpu_of_none dispatched)
  · obtain ⟨-, cb, -, loaded⟩ := dispatchNext_loads dispatched
    exact .inr ⟨cb.context, loaded⟩

/-- Taking the running process off the processor leaves the processor. -/
theorem takeRunning_cpu (s : Scheduler) : s.takeRunning.2.cpu = s.cpu := by
  unfold takeRunning
  split <;> rfl

/-- Queueing a process as ready leaves the processor. -/
theorem addToReady_cpu (s : Scheduler) (pid : Nat) (cause : Cause) :
    (s.addToReady pid cause).cpu = s.cpu := by
  unfold addToReady
  split
  · dsimp only
    split <;> simp
  · rfl

/-- Releasing a process leaves the processor. -/
theorem release_cpu (s : Scheduler) (pid : Nat) : (s.release pid).cpu = s.cpu := by
  unfold release
  split
  · split <;> simp [addToReady_cpu]
  · rfl

/-- Blocking a process leaves the processor. -/
theorem block_cpu (s : Scheduler) (pid : Nat) (reason : BlockReason) (cause : Cause) :
    (s.block pid reason cause).cpu = s.cpu := by
  unfold block
  split
  · rfl
  · split
    · rfl
    · split <;> simp

/-- Unblocking a process leaves the processor. -/
theorem unblock_cpu (s : Scheduler) (pid : Nat) (reason : BlockReason) (cause : Cause) :
    (s.unblock pid reason cause).2.cpu = s.cpu := by
  unfold unblock
  split
  · rfl
  · dsimp only
    split <;> simp [addToReady_cpu]

/-- Removing a process leaves the processor. -/
theorem removeProcess_cpu (s : Scheduler) (pid : Nat) (cause : Cause) :
    (s.removeProcess pid cause).2.cpu = s.cpu := by
  unfold removeProcess
  split <;> simp

/-- A time slice running out leaves the processor or loads a context. -/
theorem onTimerExpired_reloads (s : Scheduler) : Reloads s s.onTimerExpired := by
  unfold onTimerExpired
  refine Reloads.trans (.inl ?_) (dispatchNext_reloads _)
  rcases taken : s.takeRunning with ⟨_ | pid, s₁⟩
  · simpa [taken] using takeRunning_cpu s
  · simpa [taken] using takeRunning_cpu s

/-- Blocking the running process leaves the processor or loads a context. -/
theorem blockRunning_reloads (s : Scheduler) (reason : BlockReason) (cause : Cause) :
    Reloads s (s.blockRunning reason cause) := by
  unfold blockRunning
  refine Reloads.trans (.inl ?_) (dispatchNext_reloads _)
  rcases taken : s.takeRunning with ⟨_ | pid, s₁⟩
  · simpa [taken] using takeRunning_cpu s
  · simpa [taken] using takeRunning_cpu s

end Scheduler

namespace Kernel

open Scheduler MemoryManager

variable {k : Kernel}

/-- Ending a process, with the dispatch that follows, at most loads a context. -/
theorem terminate_reloads (k : Kernel) (pid : Nat) (cause : Cause) :
    Reloads k.sched (k.terminate pid cause).sched :=
  Reloads.trans (.inl (removeProcess_cpu _ _ _)) (dispatchNext_reloads _)

/-- Ending the running process leaves the processor or loads a context. -/
theorem endRunning_reloads (k : Kernel) (cause : Cause) :
    Reloads k.sched (k.endRunning cause).sched := by
  unfold Kernel.endRunning
  split
  · exact terminate_reloads _ _ _
  · exact .refl _

/-- Any disk completion at all at most loads a context, by ending a process. -/
theorem diskDone_reloads (wf : k.sched.TableWF) (c : Completion) :
    Reloads k.sched (k.diskDone c).sched := by
  unfold Kernel.diskDone
  split
  · rename_i data _
    rcases loaded : k.mm.completeLoad k.sched c.pid c.page c.frame data with ⟨woken, mm, s⟩
    have same := (repaged_of_completeLoad wf loaded).cpu_eq
    dsimp only
    split
    · exact .inl ((unblock_cpu _ _ _ _).trans same)
    · exact .inl same
  · exact .inl (repaged_completeSave _ _ _).cpu_eq
  · split
    · exact terminate_reloads _ _ _
    · exact .refl _

/-- Any console completion at all at most loads a context, by ending a process. -/
theorem ioDone_reloads (k : Kernel) (c : IoCompletion) : Reloads k.sched (k.ioDone c).sched := by
  cases c with
  | write pid => exact .inl (unblock_cpu _ _ _ _)
  | read pid addr value =>
    simp only [Kernel.ioDone]
    split
    · exact .refl _
    · split
      · rename_i pa mm s translated
        exact .inl ((unblock_cpu _ _ _ _).trans (repaged_of_translate translated).cpu_eq)
      · rename_i page mm s translated
        refine .inl ?_
        rw [unblock_cpu, block_cpu, (repaged_deferInput s pid addr value).cpu_eq,
          (repaged_of_translate translated).cpu_eq]
      · rename_i mm s translated
        exact Reloads.trans (.inl (repaged_of_translate translated).cpu_eq) (terminate_reloads _ _ _)
      · rename_i mm s translated
        exact .inl (repaged_of_translate translated).cpu_eq

/-- A trap is handled by at most a load: sending the running process back or blocking it
dispatches the next one, and ending it too. -/
theorem handle_trap_reloads (k : Kernel) (t : Trap) :
    Reloads k.sched (k.handle (.trap t)).sched := by
  cases t with
  | timer => exact onTimerExpired_reloads _
  | pageFault page =>
    simp only [Kernel.handle]
    split
    · exact blockRunning_reloads _ _ _
    · exact .refl _
  | ioWait => exact blockRunning_reloads _ _ _
  | framesExhausted => exact .refl _
  | invalidAddress | overflow | invalidInstruction | stop => exact endRunning_reloads _ _

/-- Handling an interrupt leaves the processor or loads a context. -/
theorem handle_reloads (wf : k.sched.TableWF) (irq : Interrupt) :
    Reloads k.sched (k.handle irq).sched := by
  cases irq with
  | trap t => exact handle_trap_reloads k t
  | diskDone c => exact diskDone_reloads wf c
  | ioDone c => exact ioDone_reloads k c

/-- A step moves the processor by the load of a dispatch on an idle processor, one instruction
of the running process, and the loads of handling the trap it raised. -/
theorem step_moves (k : Kernel) : Cpu.Moves k.sched.cpu k.step.2.sched.cpu := by
  rw [step_eq]
  split
  · exact .refl _
  · have dispatching : Reloads k.sched k.dispatched.sched := by
      unfold dispatched
      split
      · exact dispatchNext_reloads _
      · exact .refl _
    split
    · exact dispatching.moves
    · rename_i pid _
      have stepped := Cpu.Moves.step (bus pid (((k.dispatched.sched.get? pid).map (·.size)).getD 0))
        k.dispatched dispatching.moves
      dsimp only
      generalize (k.dispatched.sched.cpu.step
        (bus pid (((k.dispatched.sched.get? pid).map (·.size)).getD 0))).run k.dispatched = r
        at stepped ⊢
      split
      · rename_i t _
        exact stepped.trans (handle_trap_reloads (r.2.withCpu r.1.1) t).moves
      · exact stepped

/-- Every call moves the processor only by loads and steps. -/
theorem call_moves (sched : k.Scheduled) (c : Call) : Cpu.Moves k.sched.cpu (k.call c).sched.cpu := by
  cases c with
  | create name =>
    simp only [Kernel.call, Kernel.createProcess]
    split
    · exact .refl _
    · split
      · exact .refl _
      · rw [addToReady_cpu]
        exact .refl _
  | remove pid =>
    simp only [Kernel.call, Kernel.removeProcess]
    split
    · exact (terminate_reloads _ _ _).moves
    · exact .refl _
  | exec pid =>
    simp only [Kernel.call, Kernel.execProcess]
    split
    · exact .refl _
    · split
      · exact .refl _
      · exact .refl _
      · exact .refl _
      · exact Reloads.moves (.inl (release_cpu _ _))
      · exact Reloads.moves (.inl (release_cpu _ _))
  | setAuto on => exact .refl _
  | step => exact step_moves k
  | dispatch =>
    simp only [Kernel.call, Kernel.dispatchNext]
    split
    · exact .refl _
    · exact (dispatchNext_reloads _).moves
  | interrupt irq => exact (handle_reloads sched.agree.wf irq).moves
  | perform op =>
    simp only [Kernel.call, Kernel.perform]
    have wf : ({ k with mm := { k.mm with swap := (k.mm.swap.perform op).2 } } :
        Kernel).sched.TableWF := sched.agree.wf
    exact (handle_reloads wf _).moves
  | takeDisk => exact .refl _
  | takeConsole => exact .refl _

/-- Along any run from a kernel whose queues agree, the processor is only loaded and stepped. -/
theorem run_moves (calls : List Call) :
    ∀ k : Kernel, k.Scheduled → Cpu.Moves k.sched.cpu (k.run calls).sched.cpu := by
  induction calls with
  | nil =>
    intro k _
    exact .refl _
  | cons c rest ih =>
    intro k sched
    exact (call_moves sched c).trans (ih (k.call c) (sched.call c))

/-- A new kernel of a valid configuration starts with a fresh slice of the configured length,
which is positive. -/
theorem new_slice {c : Config} (created : Kernel.new c = some (.ok k)) :
    k.sched.cpu.slice = { delta := c.timeSlice } ∧ 0 < c.timeSlice := by
  obtain ⟨valid, -, rfl⟩ := Kernel.new_eq_ok.1 created
  exact ⟨rfl, ((Config.validate_eq_ok_iff c).1 valid).slice_pos⟩

/-- Along any run of a kernel of a valid configuration, with any interrupts and disk operations,
the processor is only loaded and stepped, and its slice keeps the configured length and is never
used up. -/
theorem run_slice {c : Config} (created : Kernel.new c = some (.ok k)) (calls : List Call) :
    Cpu.Moves k.sched.cpu (k.run calls).sched.cpu ∧
      (k.run calls).sched.cpu.slice.delta = c.timeSlice ∧
      (k.run calls).sched.cpu.slice.count < c.timeSlice := by
  obtain ⟨fresh, positive⟩ := new_slice created
  have moves := run_moves calls k (Scheduled.new created)
  have unused : k.sched.cpu.slice.count < k.sched.cpu.slice.delta := by
    rw [fresh]
    exact positive
  obtain ⟨length, below⟩ := moves.slice unused
  rw [fresh] at length below
  exact ⟨moves, length, below⟩

end Kernel

/-- The time slice preempts after exactly `delta` completed instructions. On a processor just
made with a slice of `delta > 0`, or just loaded with a context, over any steps each over a bus
and a state of its own, the `k`-th instruction that advances or jumps raises the timer exactly
when `delta ∣ k`, any other step raises no timer and is not counted, and the slice has then
counted those instructions modulo `delta`; with a slice of length 0 every such instruction
raises the timer. In the kernel, a dispatch puts the process it dispatches on the processor with
its saved context loaded, so with a fresh slice; and along any run from a valid configuration the
processor is only loaded and stepped, with a slice of the configured length never used up. -/
theorem Cpu.slice_preempts_after_delta (steps : List StepOn) :
    (∀ delta, 0 < delta →
      TimerTrace delta 0 ((Cpu.new delta).stepEach steps).2 ∧
      ∀ (cpu : Cpu) (cx : Context), cpu.slice.delta = delta →
        TimerTrace delta 0 ((cpu.load cx).stepEach steps).2 ∧
          ((cpu.load cx).stepEach steps).1.slice.count =
            (((cpu.load cx).stepEach steps).2.filter (·.1)).length % delta) ∧
    (∀ cpu : Cpu, cpu.slice.delta = 0 →
      ∀ r ∈ (cpu.stepEach steps).2, r.1 = true → r.2 = some .timer) ∧
    (∀ (s s' : Scheduler) (pid : Nat), s.dispatchNext = (some pid, s') →
      s'.running = some pid ∧ ∃ cb, s'.get? pid = some cb ∧ s'.cpu = s.cpu.load cb.context) ∧
    ∀ (c : Config) (k : Kernel), Kernel.new c = some (.ok k) → ∀ calls : List Kernel.Call,
      Cpu.Moves k.sched.cpu (k.run calls).sched.cpu ∧
        (k.run calls).sched.cpu.slice.delta = c.timeSlice ∧
        (k.run calls).sched.cpu.slice.count < c.timeSlice := by
  refine ⟨fun delta positive => ⟨?made, fun cpu cx length => ?loaded⟩,
    fun cpu zero => Cpu.stepEach_timer_of_zero steps cpu zero,
    fun _ _ _ dispatched => Scheduler.dispatchNext_loads dispatched,
    fun _ _ created calls => Kernel.run_slice created calls⟩
  case made =>
    exact (Cpu.stepEach_timerTrace steps (Cpu.new delta) 0 positive (Nat.zero_mod _).symm).1
  case loaded =>
    -- a load keeps the length of the slice and starts it over
    have loadedLength : (cpu.load cx).slice.delta = delta := length
    obtain ⟨trace, slice⟩ := Cpu.stepEach_timerTrace steps (cpu.load cx) 0
      (by rw [loadedLength]; exact positive) (by rw [Cpu.load_count, Nat.zero_mod])
    rw [loadedLength] at trace slice
    refine ⟨trace, ?_⟩
    rw [slice, Nat.zero_add]

/-- A processor with a slice of 2 that runs `JMP 0` three times over memory holding it
everywhere. -/
theorem Cpu.jump_loop_slice_preempts :
    0 < 2 ∧ TimerTrace 2 0
      ((Cpu.new 2).stepEach (List.replicate 3 ⟨Bus.total 1, fun _ => ⟨.jmp, 0, 0, 0⟩⟩)).2 :=
  ⟨by decide, ((Cpu.slice_preempts_after_delta _).1 2 (by decide)).1⟩

end PagedMachine