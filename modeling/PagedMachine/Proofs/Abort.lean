import PagedMachine.Proofs.Watched
import PagedMachine.Proofs.Lockstep
import PagedMachine.Cpu.Flat

/-!
# Aborted instructions

An instruction that raises a trap of its own (a fault of its bus, an overflow, an invalid
instruction or jump target, or a stop) is aborted and has no effect: the processor is left as
it was, no write succeeded and no console request was made (`Cpu.step_abort_untouched`).

This holds because every instruction reads and checks what it needs first and changes things
last: a write that succeeds, or a console request, is always followed by completion
(`Execute.run_guarded`). An opcode that is no instruction, or a register operand that names no
register, is refused before any access but the fetch (`Execute.run_refused`).

The calls a step makes on its bus are seen by running it over `Bus.logged`, which answers as
the bus does and lists every call it answered (`Cpu.step_logged`).

So an aborted instruction can be run again as if it never ran: when the bus answers as one
that never faults once the cause is gone, the run that does not fault ends as one step over
that bus does.
-/

namespace PagedMachine

/-- One call an instruction makes on its bus, with whether it succeeded. -/
inductive BusCall where
  | read (addr : Int32) (ok : Bool)
  | write (addr : Int32) (w : Word) (ok : Bool)
  | probe (addr : Int32) (ok : Bool)
  | request (kind : IoKind)
  deriving DecidableEq, Repr

/-- A call that changes something beyond the processor: a write that succeeded, or a console
request. -/
def BusCall.changes : BusCall → Bool
  | .write _ _ ok => ok
  | .request _ => true
  | .read _ _ | .probe _ _ => false

/-- The traps by which an instruction aborts: every trap but the end of a slice and the wait for
the console, which follow a completed instruction. -/
def Trap.aborts : Trap → Bool
  | .pageFault _ | .invalidAddress | .framesExhausted | .overflow | .invalidInstruction
  | .stop => true
  | .timer | .ioWait => false

namespace Word

/-- The registers an instruction names, as the instruction table lists them. A system call
uses two fixed registers and names none. -/
def registerOperands (ir : Word) : List Nat :=
  match ir.opcode with
  | .ldi | .ldd | .std | .addi | .subi | .jmpi => [ir.ra]
  | .ldx | .stx | .move | .add | .sub | .mult | .jmpig | .jmpil | .jmpie | .jmpigt =>
    [ir.ra, ir.rb]
  | .jmpigm | .jmpilm | .jmpiem | .jmpigk | .jmpilk | .jmpiek => [ir.rb]
  | .jmp | .jmpim | .syscall | .stop | .data | .empty => []

/-- A word the processor refuses to execute: one that is no code, or an instruction that names
a register past the ten. -/
def refused (ir : Word) : Bool :=
  ir.opcode == .data || ir.opcode == .empty || ir.registerOperands.any (10 ≤ ·)

end Word

namespace Bus

variable {σ : Type}

/-- Runs `bus` and lists every call it answers, oldest first, beside its state. -/
def logged (bus : Bus σ) : Bus (σ × List BusCall) where
  read a s := ((bus.read a s.1).1, (bus.read a s.1).2, s.2 ++ [.read a (bus.read a s.1).1.isOk])
  write a w s :=
    ((bus.write a w s.1).1, (bus.write a w s.1).2, s.2 ++ [.write a w (bus.write a w s.1).1.isOk])
  probeWrite a s :=
    ((bus.probeWrite a s.1).1, (bus.probeWrite a s.1).2,
      s.2 ++ [.probe a (bus.probeWrite a s.1).1.isOk])
  requestIo kind s := (bus.requestIo kind s.1, s.2 ++ [.request kind])
  limit := bus.limit

/-- A logged bus answers as the bus it logs. -/
theorem logged_shadows (bus : Bus σ) : bus.logged.Shadows bus :=
  ⟨rfl, fun _ _ _ => rfl, fun _ _ _ _ => rfl, fun _ _ _ => rfl, fun _ _ _ => rfl⟩

end Bus

/-- Listing the calls changes neither the processor nor the state a step ends in. -/
theorem Cpu.step_logged {σ : Type} (bus : Bus σ) (cpu : Cpu) (s : σ) (log : List BusCall) :
    ((cpu.step bus.logged).run (s, log)).1 = ((cpu.step bus).run s).1 ∧
      ((cpu.step bus.logged).run (s, log)).2.1 = ((cpu.step bus).run s).2 :=
  Cpu.step_shadows (Bus.logged_shadows bus) cpu s log

namespace Exec

variable {σ : Type} {bus : Bus σ} {inv : σ → Prop} {fault : Trap → σ → Prop} {s : σ}

/-- A bus guards `inv` with fault states `fault` when every read and probe from an `inv` state
ends in `inv` if it succeeds and in `fault` of its trap if it fails, every write from an `inv`
state that fails ends in `fault`, and the traps an instruction raises by itself leave an `inv`
state in `fault`. Unlike `Keeps`, nothing is asked of a write that succeeds. -/
structure Guards (bus : Bus σ) (inv : σ → Prop) (fault : Trap → σ → Prop) : Prop where
  read : ∀ a s, inv s → AccessPost (bus.read a s) inv fault
  probe : ∀ a s, inv s → AccessPost (bus.probeWrite a s) inv fault
  write : ∀ a w s, inv s → AccessPost (bus.write a w s) (fun _ => True) fault
  own : ∀ s, inv s → fault .invalidInstruction s ∧ fault .overflow s ∧
    fault .invalidAddress s ∧ fault .stop s

variable (guards : Guards bus inv fault)
include guards

/-- A load over a bus that guards `inv` meets any completion `inv` implies. -/
theorem Guards.post_load (a : Int32) {ok : Word → σ → Prop} (hs : inv s)
    (completes : ∀ w s', inv s' → ok w s') : Post (bus.load a) s ok fault :=
  post_access_of (guards.read a s hs) completes

/-- A probe over a bus that guards `inv` meets any completion `inv` implies. -/
theorem Guards.post_probe (a : Int32) {ok : Unit → σ → Prop} (hs : inv s)
    (completes : ∀ s', inv s' → ok () s') : Post (bus.probe a) s ok fault :=
  post_access_of (guards.probe a s hs) fun _ s' h => completes s' h

/-- A store over a bus that guards `inv` meets any completion, failing only into `fault`. -/
theorem Guards.post_store (a : Int32) (w : Word) {ok : Unit → σ → Prop} (hs : inv s)
    (completes : ∀ s', ok () s') : Post (bus.store a w) s ok fault :=
  post_access_of (guards.write a w s hs) fun _ s' _ => completes s'

open Execute in
/-- An indirect jump that is taken reads its target and checks it; nothing follows. -/
theorem Guards.post_jumpIndirectIf (taken : Bool) (p : Int32) (hs : inv s) :
    Post (jumpIndirectIf bus taken p) s (fun _ _ => True) fault := by
  unfold jumpIndirectIf
  cases taken
  · trivial
  · simp only [post_bind, post_jumpTarget, post_pure, if_true]
    apply guards.post_load p hs
    intro w s' hs'
    split
    · exact (guards.own s' hs').2.2.1
    · trivial

open Execute in
/-- A system call checks its registers and its address before it asks the console. -/
theorem Guards.post_syscall (regs : Registers) (hs : inv s) :
    Post (syscall bus regs) s (fun _ _ => True) fault := by
  have invalid := (guards.own s hs).1
  unfold syscall
  simp only [post_bind, post_reg, post_ite, post_request, post_pure, post_throw]
  split
  · split
    · split
      · exact guards.post_probe _ hs fun _ _ => trivial
      · split
        · exact guards.post_load _ hs fun _ _ _ => trivial
        · exact invalid
    · exact invalid
  · exact invalid

end Exec

open Exec

variable {σ : Type} {bus : Bus σ} {inv : σ → Prop} {fault : Trap → σ → Prop}

/-- Every instruction run from an `inv` state that raises a trap ends in `fault` of it: what
comes before its last access only reads, and a write that succeeds or a console request is the
last thing it does. -/
theorem Execute.run_guarded (guards : Guards bus inv fault) (ir : Word) (regs : Registers)
    {s : σ} (hs : inv s) : Post (Execute.run bus ir regs) s (fun _ _ => True) fault := by
  obtain ⟨invalid, overflow, outside, stop⟩ := guards.own s hs
  cases opcode : ir.opcode
  all_goals simp +contextual only [Execute.run, opcode, post_bind, post_pure, post_reg,
    post_checkReg, post_setReg, post_throw, post_arith, post_jumpIf, post_jumpTarget,
    dite_eq_ite]
  case ldd | ldx =>
    split_ifs
    all_goals first
      | exact invalid
      | exact guards.post_load _ hs fun _ _ _ => trivial
  case std | stx =>
    split_ifs
    all_goals first
      | exact invalid
      | exact guards.post_store _ _ hs fun _ => trivial
  case jmpim =>
    apply guards.post_load _ hs
    intro w s' hs'
    split_ifs
    exact (guards.own s' hs').2.2.1
  case jmpigm | jmpilm | jmpiem =>
    split_ifs
    · exact guards.post_jumpIndirectIf _ _ hs
    · exact invalid
  case syscall => exact guards.post_syscall regs hs
  case stop => exact stop
  case data | empty => exact invalid
  all_goals split_ifs <;> trivial

/-- A step whose trap aborts its instruction got that trap from the fetch or the instruction,
and leaves the processor as it was. -/
theorem Cpu.step_of_aborts (bus : Bus σ) (cpu : Cpu) (s : σ) {t : Trap} (aborts : t.aborts = true)
    (raised : ((cpu.step bus).run s).1.2 = some t) :
    ((cpu.fetchExecute bus).run.run s).1 = .error t ∧ ((cpu.step bus).run s).1 = (cpu, some t) := by
  rw [Cpu.run_step] at raised ⊢
  revert raised
  rcases (cpu.fetchExecute bus).run.run s with ⟨t' | ⟨regs, _ | target | _⟩, s'⟩
  · intro raised
    cases raised
    exact ⟨rfl, rfl⟩
  all_goals
    intro raised
    first
      | rcases Cpu.complete_trap cpu _ with done | timer
        · rw [done] at raised
          cases raised
        · rw [timer, Option.some.injEq] at raised
          subst raised
          cases aborts
      | cases raised
        cases aborts

/-- A step from an `inv` state over a bus that guards it, whose trap aborts the instruction,
ends in `fault` of that trap. -/
theorem Cpu.step_guarded (guards : Guards bus inv fault) (cpu : Cpu) {s : σ} (hs : inv s)
    {t : Trap} (aborts : t.aborts = true) (raised : ((cpu.step bus).run s).1.2 = some t) :
    fault t ((cpu.step bus).run s).2 := by
  have fetched : Post (cpu.fetchExecute bus) s (fun _ _ => True) fault := by
    unfold Cpu.fetchExecute
    rw [post_bind]
    exact guards.post_load _ hs fun ir _ hs' => Execute.run_guarded guards ir _ hs'
  have failed := (Cpu.step_of_aborts bus cpu s aborts raised).1
  rw [Cpu.run_step]
  unfold Post at fetched
  revert fetched failed
  rcases (cpu.fetchExecute bus).run.run s with ⟨t' | ⟨regs, _ | target | _⟩, s'⟩
  · intro fetched failed
    cases failed
    exact fetched
  all_goals intro _ failed; cases failed

/-- The calls made since the list stood at `log`, none of which changed anything. -/
def BusCall.Untouched (log : List BusCall) (x : σ × List BusCall) : Prop :=
  ∃ calls, x.2 = log ++ calls ∧ ∀ c ∈ calls, c.changes = false

/-- A call that changes nothing keeps the calls since `log` untouched. -/
theorem BusCall.Untouched.snoc {log : List BusCall} {x : σ × List BusCall} {y : σ}
    (untouched : BusCall.Untouched log x) {c : BusCall} (quiet : c.changes = false) :
    BusCall.Untouched log (y, x.2 ++ [c]) := by
  obtain ⟨calls, grown, clean⟩ := untouched
  refine ⟨calls ++ [c], by rw [grown, List.append_assoc], fun c' mem => ?_⟩
  rcases List.mem_append.1 mem with old | new
  · exact clean c' old
  · rw [List.mem_singleton.1 new]
    exact quiet

/-- Reads, probes and failed writes change nothing, so the listing bus guards the calls since
any point. -/
theorem Bus.logged_guards (bus : Bus σ) (log : List BusCall) :
    Guards bus.logged (BusCall.Untouched log) fun _ => BusCall.Untouched log where
  read a x untouched := by
    show AccessPost ((bus.read a x.1).1, (bus.read a x.1).2, _) _ _
    rcases bus.read a x.1 with ⟨_ | _, s'⟩
    · exact untouched.snoc rfl
    · exact untouched.snoc rfl
  probe a x untouched := by
    show AccessPost ((bus.probeWrite a x.1).1, (bus.probeWrite a x.1).2, _) _ _
    rcases bus.probeWrite a x.1 with ⟨_ | _, s'⟩
    · exact untouched.snoc rfl
    · exact untouched.snoc rfl
  write a w x untouched := by
    show AccessPost ((bus.write a w x.1).1, (bus.write a w x.1).2, _) _ _
    rcases bus.write a w x.1 with ⟨_ | _, s'⟩
    · exact untouched.snoc rfl
    · trivial
  own x untouched := ⟨untouched, untouched, untouched, untouched⟩

/-- Raising a trap leaves the state. -/
theorem Exec.run_throw {α : Type} (t : Trap) (s : σ) :
    ((throw t : Exec σ α).run.run s) = (.error t, s) := rfl

open Execute Exec in
/-- A refused word raises `invalidInstruction` without touching the bus. -/
theorem Execute.run_refused (bus : Bus σ) (ir : Word) (regs : Registers) (s : σ)
    (refused : ir.refused = true) :
    (Execute.run bus ir regs).run.run s = (.error .invalidInstruction, s) := by
  cases opcode : ir.opcode
  all_goals simp only [Word.refused, Word.registerOperands, opcode, List.any_cons, List.any_nil,
    decide_eq_true_eq, Bool.or_false, Bool.or_eq_true, beq_iff_eq, reduceCtorEq, false_or] at refused
  all_goals simp only [Execute.run, opcode, reg_bind, checkReg_bind, setReg_bind, arith_bind,
    jumpTarget_bind, jumpIf_bind, bind_assoc, Execute.jumpIndirectIf, ite_bind, throw_bind]
  case data | empty => rfl
  -- the registers are checked before anything else, so the first one past the ten is refused
  case ldi | ldd | std | addi | subi | jmpi | jmpigm | jmpilm | jmpiem | jmpigk | jmpilk | jmpiek =>
    simp only [Nat.not_lt.2 refused, ↓reduceDIte, ↓reduceIte, run_throw]
  case ldx | stx | move | add | sub | mult | jmpig | jmpil | jmpie | jmpigt =>
    rcases refused with bad | bad <;>
      simp only [Nat.not_lt.2 bad, ↓reduceDIte, ↓reduceIte, ite_self, dite_eq_ite, run_throw]

/-- An instruction aborted by a trap has no effect: the processor is as it was, and of the calls
the step made on its bus none was a write that succeeded or a console request. A refused word is
refused right after its fetch, with no other call. And over a bus that answers as one that never
faults, save for faults that leave the two states related, a step either ends as the step over
that bus does, the states related after it, or related as console requests over the two buses
relate them when it stopped to wait for the console; or it aborts with the processor as it was
and the states still related, so that the instruction, run again, does what one step over the
faultless bus does. -/
theorem Cpu.step_abort_untouched (bus : Bus σ) (cpu : Cpu) (s : σ) :
    (∀ t, t.aborts = true → ((cpu.step bus).run s).1.2 = some t →
      ((cpu.step bus).run s).1.1 = cpu ∧
        ∀ log, ∃ calls, ((cpu.step bus.logged).run (s, log)).2.2 = log ++ calls ∧
          ∀ c ∈ calls, c.changes = false) ∧
    (∀ ir s₁, bus.read (Int32.ofNat cpu.context.pc) s = (.ok ir, s₁) → ir.refused = true →
      ∀ log, (cpu.step bus.logged).run (s, log) =
        ((cpu, some .invalidInstruction), s₁, log ++ [.read (Int32.ofNat cpu.context.pc) true])) ∧
    (∀ {ρ : Type} (c : Bus ρ) (rel wait : σ → ρ → Prop) (r : ρ),
      Follows bus c rel (fun _ s' r' => rel s' r') →
      (∀ k s r, rel s r → wait (bus.requestIo k s) (c.requestIo k r)) → rel s r →
      (((cpu.step bus).run s).1 = ((cpu.step c).run r).1 ∧
          (if ((cpu.step bus).run s).1.2 = some .ioWait then
            wait ((cpu.step bus).run s).2 ((cpu.step c).run r).2
          else rel ((cpu.step bus).run s).2 ((cpu.step c).run r).2)) ∨
        ((cpu.step bus).run s).1.1 = cpu ∧ rel ((cpu.step bus).run s).2 r) := by
  refine ⟨?aborted, ?refused, ?retried⟩
  case aborted =>
    intro t aborts raised
    refine ⟨congrArg Prod.fst (Cpu.step_of_aborts bus cpu s aborts raised).2, fun log => ?_⟩
    have raised' : ((cpu.step bus.logged).run (s, log)).1.2 = some t := by
      rw [(Cpu.step_logged bus cpu s log).1]
      exact raised
    exact Cpu.step_guarded (Bus.logged_guards bus log) cpu ⟨[], by simp, by simp⟩ aborts raised'
  case refused =>
    intro ir s₁ fetched refused log
    have failed : (cpu.fetchExecute bus.logged).run.run (s, log) =
        (.error .invalidInstruction, s₁, log ++ [.read (Int32.ofNat cpu.context.pc) true]) := by
      unfold Cpu.fetchExecute
      rw [run_bind]
      simp only [Bus.load, run_access, Bus.logged, fetched, Except.isOk, Except.toBool,
        Except.mapError]
      exact Execute.run_refused _ ir _ _ refused
    rw [Cpu.run_step, failed]
  case retried =>
    intro ρ c rel wait r follows request related
    rcases Cpu.step_lockstep follows request cpu related with ⟨same, after⟩ | ⟨t, untouched, kept⟩
    · exact .inl ⟨same, after⟩
    · exact .inr ⟨congrArg Prod.fst untouched, kept⟩

/-- The bench of the processor alone: `LDI r0 42`, `STD r0 12`, `STOP` over flat memory of 16
words in which address 12 faults once. The store, reached with `r0 = 42`, faults on page 1, and
leaves the processor and the bus untouched. -/
theorem Cpu.absent_store_untouched :
    let m := FlatMemory.ofProgram [⟨.ldi, 0, 0, 42⟩, ⟨.std, 0, 0, 12⟩, ⟨.stop, 0, 0, 0⟩] 16 8 [12]
    let cpu : Cpu := ⟨⟨1, (Vector.replicate 10 0).set 0 42⟩, ⟨10, 1⟩⟩
    ((cpu.step (FlatMemory.bus 16)).run m).1.2 = some (.pageFault 1) ∧
      ((cpu.step (FlatMemory.bus 16)).run m).1.1 = cpu ∧
        ∀ log, ∃ calls, ((cpu.step (FlatMemory.bus 16).logged).run (m, log)).2.2 = log ++ calls ∧
          ∀ c ∈ calls, c.changes = false := by
  intro m cpu
  have raised : ((cpu.step (FlatMemory.bus 16)).run m).1.2 = some (.pageFault 1) := by decide
  exact ⟨raised, (Cpu.step_abort_untouched (FlatMemory.bus 16) cpu m).1 _ rfl raised⟩

end PagedMachine
