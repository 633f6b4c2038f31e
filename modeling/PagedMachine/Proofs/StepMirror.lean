import PagedMachine.Proofs.OrderKept
import PagedMachine.Proofs.Abort
import PagedMachine.Proofs.DeferredInput

/-!
# A step of the kernel against the reference machines

A step runs one instruction of the running process over its paged bus. The reference machine
of the process runs the same instruction over flat memory, and the two buses follow each other
(`Kernel.bus_follows`), so the instruction does the same on both or aborts on the paged bus
alone. An instruction that aborts leaves the processor as it was and changes nothing on the
flat bus either (`FlatMemory.guards`); one that completes moves the process and its reference
machine on by the same step.

`Kernel.completer` names the process whose instruction a step completes. Main statements: the
instruction of a step keeps the kernel holding the reference machine's memory, one step on
when it completed (`Kernel.instruction_follows`), and a step keeps every process matching its
reference machine, the one whose instruction completed after one more step
(`Kernel.Mirrored.step`).
-/

namespace PagedMachine

open Exec

/-- A trap completes its instruction exactly when it does not abort it. -/
theorem Trap.completes_some (t : Trap) : Trap.completes (some t) = !t.aborts := by
  cases t <;> rfl

/-- A step fails to complete its instruction exactly when it raised a trap that aborts it. -/
theorem Trap.completes_eq_false {t : Option Trap} :
    Trap.completes t = false ↔ ∃ t', t = some t' ∧ t'.aborts = true := by
  cases t with
  | none => simp [Trap.completes]
  | some t => simp [Trap.completes_some]

/-- The flat bus guards memory with no absent address: every access that fails leaves it as
it was, and so do the traps an instruction raises by itself. -/
theorem FlatMemory.guards (limit : Nat) {m : FlatMemory} (none : m.absent = []) :
    Guards (FlatMemory.bus limit) (· = m) fun _ m' => m' = m where
  read a m' same := by
    subst same
    rw [FlatMemory.read_eq none]
    split <;> rfl
  probe a m' same := by
    subst same
    rw [FlatMemory.probeWrite_eq none]
    split <;> rfl
  write a w m' same := by
    subst same
    rw [FlatMemory.write_eq none]
    split
    · rfl
    · trivial
  own _ same := ⟨same, same, same, same⟩

/-- A step over flat memory whose trap aborts the instruction leaves memory as it was. -/
theorem FlatMemory.step_aborted (limit : Nat) {m : FlatMemory} (none : m.absent = []) (cpu : Cpu)
    {t : Trap} (aborts : t.aborts = true)
    (raised : ((cpu.step (FlatMemory.bus limit)).run m).1.2 = some t) :
    ((cpu.step (FlatMemory.bus limit)).run m).2 = m :=
  Cpu.step_guarded (FlatMemory.guards limit none) cpu rfl aborts raised

namespace Reference

/-- The machine of a process that has not run has its memory shaped: no absent address, and
as many words as the process's pages hold. -/
theorem step_parts (limit : Nat) (r : Reference) :
    (r.step limit).context = ((r.cpu.step (FlatMemory.bus limit)).run r.memory).1.1.context ∧
      (r.step limit).memory = ((r.cpu.step (FlatMemory.bus limit)).run r.memory).2 := by
  unfold step
  generalize (r.cpu.step (FlatMemory.bus limit)).run r.memory = out
  rcases out with ⟨⟨cpu, t⟩, memory⟩
  exact ⟨rfl, rfl⟩

/-- The machine of a process that has not run has as many words as asked and no absent address. -/
theorem shaped_start (image : Array Word) (words pageSize : Nat) :
    Shaped words (start image words pageSize).memory := by
  refine ⟨rfl, ?_⟩
  have short : (image.toList.take words).length ≤ words := List.length_take_le _ _
  simp only [start, FlatMemory.ofProgram, List.size_toArray, List.length_append,
    List.length_replicate]
  omega

end Reference

/-- The reference machine of a process never has an absent address. -/
theorem ControlBlock.reference_absent (cb : ControlBlock) (pageSize : Nat)
    (inputs : List Reference.Input) : (cb.reference pageSize inputs).memory.absent = [] :=
  (Reference.shaped_drive (Reference.shaped_start _ _ pageSize) inputs).1

namespace Kernel

open Scheduler MemoryManager Reference

variable {k : Kernel} {d : Devices}

/-- The accesses of an instruction only page, which keeps the process running. -/
theorem bus_keeps_running (pid limit : Nat) :
    Keeps (bus pid limit) (fun k => k.sched.running = some pid)
      fun _ k => k.sched.running = some pid := by
  refine bus_keeps pid limit (fun k _ _ pa mm s running translated => ?_)
    (fun k _ _ _ _ _ running translated => (repaged_of_translate translated).running_eq.trans running)
    fun k running => ⟨running, running, running, running⟩
  have kept : s.running = some pid := (repaged_of_translate translated).running_eq.trans running
  exact ⟨kept, fun _ _ => kept⟩

variable {inputs : Nat → List Input} {cb₀ : ControlBlock} {m : FlatMemory}

/-- A console request of the running process is one its reference machine makes too, and no
other process sees it. -/
theorem Shadowing.requestIo (shadowing : Shadowing d inputs cb₀ k m) (limit : Nat)
    (kind : IoKind) :
    Shadowing d inputs cb₀ ((bus cb₀.pid limit).requestIo kind k)
      ((FlatMemory.bus limit).requestIo kind m) := by
  have requests : ∀ q, (((bus cb₀.pid limit).requestIo kind k).pending d q) =
      k.pending d q ++ if q = cb₀.pid then [kind] else [] := fun q => by
    by_cases mine : q = cb₀.pid
    · simp [pending, bus, mine]
    · simp [pending, bus, mine, Ne.symm mine]
  obtain ⟨cb, found, shape, words⟩ := shadowing.holds.words
  refine ⟨⟨⟨shadowing.stored.owned.agree, shadowing.stored.owned.saves⟩,
    shadowing.stored.bounded.congr rfl rfl rfl, shadowing.stored.ordered⟩, shadowing.halted,
    shadowing.others.keep (fun q other cb' found' => ⟨cb', found', rfl, rfl, ?_,
      fun halted => ⟨halted, fun _ => rfl⟩⟩) rfl,
    shadowing.holds.absent, ?_, cb, found, shape, words⟩
  · rw [requests, if_neg other, List.append_nil]
  · rw [requests, if_pos rfl, ← List.append_assoc, shadowing.holds.requests]
    simp [FlatMemory.bus]

/-- An instruction on the bus of the running process keeps the queues well formed and the
process on the processor. -/
theorem step_keeps_placed {pid : Nat} (scheduled : k.Scheduled)
    (running : k.sched.running = some pid) (limit : Nat) {cpu : Cpu} {t : Option Trap} {k' : Kernel}
    (ran : (k.sched.cpu.step (bus pid limit)).run k = ((cpu, t), k')) :
    k'.Scheduled ∧ k'.sched.running = some pid := by
  have kept := @Cpu.step_post _ _ _ (fun k => k.Scheduled ∧ k.sched.running = some pid) _
    ((bus_keeps_scheduled pid limit).and (bus_keeps_running pid limit))
    (fun _ _ held => ⟨⟨held.1.1.agree, held.1.1.issued⟩, held.2⟩) k.sched.cpu k
    ⟨⟨scheduled, running⟩, running⟩
  rw [ran] at kept
  rcases kept with ⟨-, held⟩ | ⟨-, held⟩ | ⟨-, held⟩ | ⟨-, -, held⟩
  · exact ⟨held.1.1, held.2⟩
  · exact ⟨held.1.1, held.2⟩
  · exact held
  · exact held

/-- One instruction of the running process against one step of its reference machine `r`, run
from the same context over the flat memory the kernel holds for the process. When the
instruction completes, the processor reaches the context the machine reaches in one step and
the kernel holds the memory the machine then has; when it aborts, the processor is as it was
and the kernel still holds the machine's memory. The process stays on the processor. -/
theorem instruction_follows (settled : k.Settled d) (running : k.sched.running = some cb₀.pid)
    {r : Reference} (shadowing : Shadowing d inputs cb₀ k r.memory)
    (context : k.sched.cpu.context = r.context) (limit : Nat) {cpu : Cpu} {t : Option Trap}
    {k' : Kernel} (ran : (k.sched.cpu.step (bus cb₀.pid limit)).run k = ((cpu, t), k')) :
    cpu.context = (r.drive limit (if Trap.completes t then [.step] else [])).context ∧
      Shadowing d inputs cb₀ k'
        (r.drive limit (if Trap.completes t then [.step] else [])).memory ∧
      k'.Scheduled ∧ k'.sched.running = some cb₀.pid := by
  have placed := step_keeps_placed settled.sched running limit ran
  -- over flat memory the processor steps as the reference machine's does
  obtain ⟨memory, context', -⟩ := Cpu.step_congr
    (show k.sched.cpu.context = r.cpu.context from context) (FlatMemory.bus limit) r.memory
  obtain ⟨stepped, steppedMemory⟩ := r.step_parts limit
  have lock := @Cpu.step_lockstep _ _ _ _ _ (fun k m => Shadowing d inputs cb₀ k m) _
    (bus_follows d inputs cb₀ limit) (fun kind _ _ related => related.2.requestIo limit kind)
    k.sched.cpu k r.memory ⟨⟨settled, running⟩, shadowing⟩
  rw [ran] at lock
  dsimp only at lock
  rcases lock with ⟨same, related⟩ | ⟨t', untouched, retried⟩
  · -- the instruction did on the paged bus what it did on the flat one
    have shadows : Shadowing d inputs cb₀ k'
        ((k.sched.cpu.step (FlatMemory.bus limit)).run r.memory).2 := by
      split at related
      · exact related
      · exact related.2
    cases done : Trap.completes t with
    | true =>
      -- it completed, and the reference machine takes the same step
      simp only [if_true, drive, List.foldl_cons, List.foldl_nil, take]
      refine ⟨?_, ?_, placed⟩
      · rw [stepped, ← context', ← same]
      · rw [steppedMemory, ← memory]
        exact shadows
    | false =>
      -- it aborted on both buses, which changed nothing
      obtain ⟨t'', rfl, aborts⟩ := Trap.completes_eq_false.mp done
      have unchanged := FlatMemory.step_aborted limit shadowing.holds.absent k.sched.cpu aborts
        (congrArg Prod.snd same).symm
      have kept : cpu = k.sched.cpu := by
        have paged := (Cpu.step_of_aborts (bus cb₀.pid limit) k.sched.cpu k aborts
          (by rw [ran])).2
        rw [ran] at paged
        exact congrArg Prod.fst paged
      simp only [Bool.false_eq_true, if_false, drive_nil]
      rw [unchanged] at shadows
      exact ⟨by rw [kept, context], shadows, placed⟩
  · -- it aborted on the paged bus alone, and the reference machine waits for the retry
    obtain ⟨rfl, rfl⟩ := Prod.mk.inj untouched
    simp only [retried.1.2, Bool.false_eq_true, if_false, drive_nil]
    exact ⟨context, retried.2, placed⟩

/-- After an instruction that left the processor at the context the reference machine of the
running process reaches after `more`, with the kernel holding that machine's memory, every
process matches its reference machine: the running one after `more` as well. -/
theorem Shadowing.mirrored (shadowing : Shadowing d inputs cb₀ k m)
    (running : k.sched.running = some cb₀.pid) (wf : k.sched.TableWF) {more : List Input}
    (quiet : answered more = []) {cpu : Cpu}
    (context : cpu.context =
      ((cb₀.reference k.config.pageSize (inputs cb₀.pid)).drive cb₀.size more).context)
    (memory : m = ((cb₀.reference k.config.pageSize (inputs cb₀.pid)).drive cb₀.size more).memory) :
    (k.withCpu cpu).Mirrored d fun q => if q = cb₀.pid then inputs q ++ more else inputs q := by
  intro q cb found
  by_cases mine : q = cb₀.pid
  · subst mine
    obtain ⟨cb', found', shape, words⟩ := shadowing.holds.words
    have same : cb' = cb := Option.some.inj (found'.symm.trans found)
    subst same
    -- the machine after `more` is the one of the process after its inputs and `more`
    have reference : cb'.reference k.config.pageSize (inputs cb₀.pid ++ more) =
        (cb₀.reference k.config.pageSize (inputs cb₀.pid)).drive cb₀.size more := by
      rw [ControlBlock.reference_congr shape, ControlBlock.reference, ControlBlock.reference,
        drive_append]
    have owner : cb'.pid = cb₀.pid := wf.pid_eq found'
    simp only [if_true]
    refine ⟨?_, ?_, fun _ a => ?_⟩
    · show (if k.sched.running = some cb'.pid then cpu.context else cb'.context) = _
      rw [if_pos (owner ▸ running)]
      show _ = (cb'.reference k.config.pageSize (inputs cb₀.pid ++ more)).context
      rw [reference, context]
    · show _ ++ k.pending d cb₀.pid =
        (cb'.reference k.config.pageSize (inputs cb₀.pid ++ more)).memory.io.toList
      rw [answered_append, quiet, List.append_nil, shadowing.holds.requests, reference, memory]
    · show _ = (cb'.reference k.config.pageSize (inputs cb₀.pid ++ more)).memory.words[a]?
      rw [reference, ← memory]
      exact words a
  · simp only [if_neg mine]
    have unseen := seesNothing_withCpu (d := d) running wf cpu mine
    obtain ⟨cb', found', -⟩ := unseen cb found
    exact (shadowing.others q cb' found' mine).keep found' unseen rfl found

/-- Dispatching keeps the configuration, the pid counter and whether the kernel halted. -/
theorem dispatched_same (k : Kernel) :
    k.dispatched.config = k.config ∧ k.dispatched.nextPid = k.nextPid ∧
      k.dispatched.halted = k.halted := by
  unfold dispatched
  split <;> exact ⟨rfl, rfl, rfl⟩

/-- Dispatching before a step keeps the kernel settled. -/
theorem Settled.dispatched (settled : k.Settled d) : k.dispatched.Settled d := by
  unfold Kernel.dispatched
  split
  · exact settled.dispatchNext
  · exact settled

/-- Dispatching before a step keeps what paging stores. -/
theorem Stored.dispatched (stored : k.Stored d) : k.dispatched.Stored d := by
  unfold Kernel.dispatched
  split
  · exact stored.reschedule unscheduled_paging.dispatchNext stored.bounded.pcs.dispatchNext
  · exact stored

/-- The process whose instruction the next step completes, if any. The step runs an
instruction of the running process, dispatched first if the processor was idle, and the
instruction completes unless it aborts. -/
def completer (k : Kernel) : Option Nat :=
  if k.halted.isSome then none
  else match k.dispatched.sched.running with
    | none => none
    | some pid =>
      if Trap.completes ((k.dispatched.sched.cpu.step
          (bus pid (((k.dispatched.sched.get? pid).map (·.size)).getD 0))).run k.dispatched).1.2
      then some pid else none

/-- A step keeps every process matching its reference machine: the process whose instruction
it completed after one more step, every other after the inputs it had. -/
theorem Mirrored.step (mirrored : k.Mirrored d inputs) (settled : k.Settled d)
    (stored : k.Stored d) :
    k.step.2.Mirrored d fun q => inputs q ++ if k.completer = some q then [.step] else [] := by
  by_cases stopped : k.halted.isSome = true
  · -- a halted kernel stays as it is
    have idle : k.completer = none := by simp only [completer, stopped, if_true]
    rw [step_eq, if_pos stopped, idle]
    simpa using mirrored
  have halted : k.halted = none := by simpa using stopped
  -- dispatching is seen by no process
  have mirrored' := mirrored.keep (unseen_dispatched settled.sched.agree.wf)
    (dispatched_same k).1
  have settled' := settled.dispatched
  have stored' := stored.dispatched
  have halted' : k.dispatched.halted = none := (dispatched_same k).2.2.trans halted
  rw [step_eq, if_neg stopped]
  cases current : k.dispatched.sched.running with
  | none =>
    have idle : k.completer = none := by
      simp only [completer, stopped, current, Bool.false_eq_true, if_false]
    simp only [idle]
    simpa using mirrored'
  | some pid =>
    obtain ⟨cb₀, found, -⟩ := settled'.sched.agree.get?_of_running current
    have owner : cb₀.pid = pid := settled'.sched.agree.wf.pid_eq found
    subst owner
    -- the process runs from its context over the memory it holds, as its machine does
    have agrees := mirrored' cb₀.pid cb₀ found
    have context : k.dispatched.sched.cpu.context =
        (cb₀.reference k.dispatched.config.pageSize (inputs cb₀.pid)).context := by
      rw [← agrees.context]
      show _ = if k.dispatched.sched.running = some cb₀.pid then _ else _
      rw [if_pos current]
    have shadowing : Shadowing d inputs cb₀ k.dispatched
        (cb₀.reference k.dispatched.config.pageSize (inputs cb₀.pid)).memory :=
      ⟨stored', halted', fun q cb found' _ => mirrored' q cb found',
        cb₀.reference_absent _ _, agrees.requests, cb₀, found, rfl, agrees.words halted'⟩
    have limit : ((k.dispatched.sched.get? cb₀.pid).map (·.size)).getD 0 = cb₀.size := by
      rw [found]
      rfl
    have config := untouched_config.step_run k.dispatched k.dispatched.sched.cpu cb₀.pid cb₀.size
    dsimp only
    simp only [limit]
    rcases ran : (k.dispatched.sched.cpu.step (bus cb₀.pid cb₀.size)).run k.dispatched with
      ⟨⟨cpu, t⟩, k'⟩
    rw [ran] at config
    obtain ⟨context', shadowing', scheduled', running'⟩ :=
      instruction_follows settled' current shadowing context cb₀.size ran
    have completed : k.completer = if Trap.completes t then some cb₀.pid else none := by
      simp only [completer, stopped, current, limit, ran, Bool.false_eq_true, if_false]
    -- the process took a step exactly when its instruction completed
    have inputs' : (fun q => inputs q ++ if k.completer = some q then [Input.step] else []) =
        fun q => if q = cb₀.pid then inputs q ++ (if Trap.completes t then [.step] else [])
          else inputs q := by
      funext q
      rw [completed]
      by_cases mine : q = cb₀.pid
      · subst mine
        cases Trap.completes t <;> simp
      · cases Trap.completes t <;> simp [Ne.symm mine, mine]
    rw [inputs']
    have quiet : answered (if Trap.completes t then [Input.step] else []) = [] := by
      cases Trap.completes t <;> rfl
    have reached : cpu.context = ((cb₀.reference k'.config.pageSize (inputs cb₀.pid)).drive
        cb₀.size (if Trap.completes t then [.step] else [])).context := by
      rw [config]
      exact context'
    have held : ((cb₀.reference k.dispatched.config.pageSize (inputs cb₀.pid)).drive cb₀.size
        (if Trap.completes t then [.step] else [])).memory =
        ((cb₀.reference k'.config.pageSize (inputs cb₀.pid)).drive cb₀.size
          (if Trap.completes t then [.step] else [])).memory := by
      rw [config]
    have stepped := shadowing'.mirrored running' scheduled'.agree.wf quiet reached held
    cases t with
    | none => exact stepped
    | some t =>
      exact stepped.keep (unseen_handle_trap (scheduled'.withCpu cpu).agree
        shadowing'.stored.owned.agree t) (untouched_config.handle _ _)

end Kernel

end PagedMachine
