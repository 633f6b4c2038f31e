import PagedMachine.Proofs.Exec

/-!
# One instruction over two buses in lockstep

An instruction is one program, whatever its bus. Run over two buses from related states, it
does the same on both as long as their accesses do. `Exec.Lockstep x y s r` says that when
`x` completes from `s`, `y` completes from `r` with the same result; and that when `x` raises a
trap, either `y` raises the same trap or `x` was stopped by a fault of its own bus alone, one
the instruction is run again for.

`Exec.Follows b c rel retry` is what the two buses must do for that. From related states
every access of `b` either answers as the same access of `c` does and keeps the states
related, or fails with a fault of `b` alone, after which `retry` holds of the state `b` is left
in and the state `c` is still in; reads and probes of `c` from related states change
nothing. Then every
instruction runs in lockstep (`Execute.run_lockstep`), and a processor step over `b` either
ends as the step over `c` does, processor and trap alike, or raises a fault of `b` alone with
the processor untouched (`Cpu.step_lockstep`).

The register helpers touch no bus, so a bind after one of them is rewritten away
(`reg_bind` and its siblings) and both programs become the same tree of branches over the
same bus accesses.
-/

namespace PagedMachine

namespace Exec

variable {σ ρ α β : Type}

/-- `x` from `s` and `y` from `r` in lockstep: when `x` completes, `y` completes with the
same result and `ok` holds of the two end states; when `x` raises a trap, `y` raises the same
one and `fault` holds, or `retry` holds of the state `x` left. -/
def Lockstep (x : Exec σ α) (y : Exec ρ α) (s : σ) (r : ρ) (ok : α → σ → ρ → Prop)
    (fault : Trap → σ → ρ → Prop) (retry : Trap → σ → Prop) : Prop :=
  match x.run.run s with
  | (.ok a, s') => ∃ r', y.run.run r = (.ok a, r') ∧ ok a s' r'
  | (.error t, s') => (∃ r', y.run.run r = (.error t, r') ∧ fault t s' r') ∨ retry t s'

variable {fault : Trap → σ → ρ → Prop} {retry : Trap → σ → Prop} {s : σ} {r : ρ}

/-- Returning one value on both sides is in lockstep exactly when `ok` holds of the states. -/
@[simp] theorem lockstep_pure {ok : α → σ → ρ → Prop} (a : α) :
    Lockstep (pure a : Exec σ α) (pure a : Exec ρ α) s r ok fault retry ↔ ok a s r := by
  show (∃ r', ((.ok a, r) : Except Trap α × ρ) = (.ok a, r') ∧ ok a s r') ↔ ok a s r
  simp

/-- Raising one trap on both sides is in lockstep exactly when `fault` or `retry` holds. -/
@[simp] theorem lockstep_throw {ok : α → σ → ρ → Prop} (t : Trap) :
    Lockstep (throw t : Exec σ α) (throw t : Exec ρ α) s r ok fault retry ↔
      fault t s r ∨ retry t s := by
  show ((∃ r', ((.error t, r) : Except Trap α × ρ) = (.error t, r') ∧ fault t s r') ∨
    retry t s) ↔ _
  simp

/-- A choice made alike on both sides is in lockstep when the branch taken is. -/
@[simp] theorem lockstep_ite {ok : α → σ → ρ → Prop} (c : Prop) [Decidable c]
    (x x' : Exec σ α) (y y' : Exec ρ α) :
    Lockstep (if c then x else x') (if c then y else y') s r ok fault retry ↔
      if c then Lockstep x y s r ok fault retry else Lockstep x' y' s r ok fault retry := by
  split <;> rfl

/-- A dependent choice made alike on both sides is in lockstep when the branch taken is. -/
@[simp] theorem lockstep_dite {ok : α → σ → ρ → Prop} (c : Prop) [Decidable c]
    (x : c → Exec σ α) (x' : ¬c → Exec σ α) (y : c → Exec ρ α) (y' : ¬c → Exec ρ α) :
    Lockstep (dite c x x') (dite c y y') s r ok fault retry ↔
      if h : c then Lockstep (x h) (y h) s r ok fault retry
      else Lockstep (x' h) (y' h) s r ok fault retry := by
  split <;> rfl

/-- Binds run in lockstep when their first parts do and, from every pair of states those
complete in with one result, so do their second parts. -/
theorem lockstep_bind {x : Exec σ α} {y : Exec ρ α} {f : α → Exec σ β} {g : α → Exec ρ β}
    {ok : β → σ → ρ → Prop}
    (first : Lockstep x y s r (fun a s' r' => Lockstep (f a) (g a) s' r' ok fault retry) fault
      retry) :
    Lockstep (x >>= f) (y >>= g) s r ok fault retry := by
  unfold Lockstep at first ⊢
  rw [run_bind, run_bind]
  revert first
  rcases x.run.run s with ⟨t | a, s'⟩
  · rintro (⟨r', ran, faulted⟩ | retried)
    · exact .inl ⟨r', by rw [ran], faulted⟩
    · exact .inr retried
  · rintro ⟨r', ran, next⟩
    rw [ran]
    exact next

open Execute

/-- A bind after a register read is a branch on the register number. -/
theorem reg_bind (regs : Registers) (i : Nat) (f : Int32 → Exec σ β) :
    (reg regs i >>= f) = if h : i < 10 then f (regs.get ⟨i, h⟩) else throw .invalidInstruction := by
  unfold reg
  split <;> rfl

/-- A register check followed by more is the rest if the register exists, else a refused
instruction. -/
theorem checkReg_bind (i : Nat) (f : Unit → Exec σ β) :
    (checkReg i >>= f) = if i < 10 then f () else throw .invalidInstruction := by
  unfold checkReg
  split <;> rfl

/-- Setting a register followed by more is the rest on the new registers, or a refused instruction.
-/
theorem setReg_bind (regs : Registers) (i : Nat) (v : Int32) (f : Registers → Exec σ β) :
    (setReg regs i v >>= f) =
      if h : i < 10 then f (regs.set i v h) else throw .invalidInstruction := by
  unfold setReg
  split <;> rfl

/-- An arithmetic update followed by more is the rest on the result, an overflow, or a refused
instruction. -/
theorem arith_bind (regs : Registers) (ra : Nat) (g : Int → Int) (f : Registers → Exec σ β) :
    (arith regs ra g >>= f) =
      if h : ra < 10 then
        if g (regs.get ⟨ra, h⟩).toInt < wordMin ∨ wordMax < g (regs.get ⟨ra, h⟩).toInt then
          throw .overflow
        else f (regs.set ra (Int32.ofInt (g (regs.get ⟨ra, h⟩).toInt)) h)
      else throw .invalidInstruction := by
  unfold arith
  rw [bind_assoc, reg_bind]
  split
  · dsimp only
    split
    · rfl
    · rw [setReg_bind, dif_pos ‹_›]
  · rfl

/-- Checking a jump target followed by more is the rest at the target, or an invalid address. -/
theorem jumpTarget_bind (limit : Nat) (t : Int32) (f : Nat → Exec σ β) :
    (jumpTarget limit t >>= f) =
      if t.toInt < 0 ∨ limit ≤ t.toInt.toNat then throw .invalidAddress else f t.toInt.toNat := by
  unfold jumpTarget
  split <;> rfl

/-- A conditional jump followed by more goes on at the target or the next instruction. -/
theorem jumpIf_bind (limit : Nat) (taken : Bool) (t : Int32) (f : Flow → Exec σ β) :
    (jumpIf limit taken t >>= f) =
      if taken = true then
        (if t.toInt < 0 ∨ limit ≤ t.toInt.toNat then throw .invalidAddress
          else f (.jump t.toInt.toNat))
      else f .next := by
  unfold jumpIf
  cases taken
  · rfl
  · simp only [jumpTarget_bind, if_true]
    split <;> rfl

/-- Binding after a choice is the choice of the two binds. -/
theorem ite_bind (c : Prop) [Decidable c] (x y : Exec σ α) (f : α → Exec σ β) :
    ((if c then x else y) >>= f) = if c then x >>= f else y >>= f := by
  split <;> rfl

/-- Binding after a trap raises the trap. -/
theorem throw_bind (t : Trap) (f : α → Exec σ β) : (throw t >>= f : Exec σ β) = throw t := rfl

/-- What an access of one bus does against the same access of another, from states related
by `rel` with the second in `r`: the first gives the result the second gives and the states
after both are related, or the first fails with a fault of its own and `retry` holds of the
state it left and of `r`. -/
def Answers (x : Except AccessFault α × σ) (y : Except AccessFault α × ρ) (r : ρ)
    (rel : σ → ρ → Prop) (retry : Trap → σ → ρ → Prop) : Prop :=
  x.1 = y.1 ∧ rel x.2 y.2 ∨ ∃ e, x.1 = .error e ∧ retry e.toTrap x.2 r

/-- Two buses in lockstep. From states related by `rel`, every access of `b` answers as the same
access of `c` does or fails with a fault that `retry` accounts for; reads and probes of `c`
from related states leave its state alone; and both bound jumps alike. -/
structure Follows (b : Bus σ) (c : Bus ρ) (rel : σ → ρ → Prop) (retry : Trap → σ → ρ → Prop) :
    Prop where
  limit : b.limit = c.limit
  read : ∀ a s r, rel s r → Answers (b.read a s) (c.read a r) r rel retry
  write : ∀ a w s r, rel s r → Answers (b.write a w s) (c.write a w r) r rel retry
  probe : ∀ a s r, rel s r → Answers (b.probeWrite a s) (c.probeWrite a r) r rel retry
  read_keeps : ∀ a s r, rel s r → (c.read a r).2 = r
  probe_keeps : ∀ a s r, rel s r → (c.probeWrite a r).2 = r

variable {rel : σ → ρ → Prop} {retry' : Trap → σ → ρ → Prop}

/-- Accesses that answer alike, followed by parts that run in lockstep. -/
theorem lockstep_access_bind {run : σ → Except AccessFault α × σ}
    {run' : ρ → Except AccessFault α × ρ} {f : α → Exec σ β} {g : α → Exec ρ β}
    {ok : β → σ → ρ → Prop} (answers : Answers (run s) (run' r) r rel retry')
    (next : ∀ a s', rel s' (run' r).2 →
      Lockstep (f a) (g a) s' (run' r).2 ok fault (fun t s'' => retry' t s'' r))
    (faults : ∀ (e : AccessFault) s', rel s' (run' r).2 → fault e.toTrap s' (run' r).2) :
    Lockstep (Bus.access run >>= f) (Bus.access run' >>= g) s r ok fault
      (fun t s' => retry' t s' r) := by
  apply lockstep_bind
  unfold Lockstep Answers at *
  rw [run_access, run_access]
  rcases answers with ⟨same, related⟩ | ⟨e, failed, retried⟩
  · rw [same]
    revert related next faults
    rcases run' r with ⟨e | a, r'⟩
    · intro _ faults related
      exact .inl ⟨r', rfl, faults e _ related⟩
    · intro next _ related
      exact ⟨r', rfl, next a _ related⟩
  · rw [failed]
    exact .inr retried

variable {b : Bus σ} {c : Bus ρ}

/-- A load followed by parts in lockstep over following buses is in lockstep. -/
theorem lockstep_load_bind (follows : Follows b c rel retry') (a : Int32) {f : Word → Exec σ β}
    {g : Word → Exec ρ β} {ok : β → σ → ρ → Prop} (hs : rel s r)
    (next : ∀ w s', rel s' r → Lockstep (f w) (g w) s' r ok fault (fun t s'' => retry' t s'' r))
    (faults : ∀ (e : AccessFault) s', rel s' r → fault e.toTrap s' r) :
    Lockstep (b.load a >>= f) (c.load a >>= g) s r ok fault (fun t s' => retry' t s' r) := by
  have keeps := follows.read_keeps a s r hs
  exact lockstep_access_bind (follows.read a s r hs) (by rw [keeps]; exact next)
    (by rw [keeps]; exact faults)

/-- A probe followed by parts in lockstep over following buses is in lockstep. -/
theorem lockstep_probe_bind (follows : Follows b c rel retry') (a : Int32) {f : Unit → Exec σ β}
    {g : Unit → Exec ρ β} {ok : β → σ → ρ → Prop} (hs : rel s r)
    (next : ∀ s', rel s' r → Lockstep (f ()) (g ()) s' r ok fault (fun t s'' => retry' t s'' r))
    (faults : ∀ (e : AccessFault) s', rel s' r → fault e.toTrap s' r) :
    Lockstep (b.probe a >>= f) (c.probe a >>= g) s r ok fault (fun t s' => retry' t s' r) := by
  have keeps := follows.probe_keeps a s r hs
  exact lockstep_access_bind (follows.probe a s r hs) (by rw [keeps]; exact fun _ => next)
    (by rw [keeps]; exact faults)

/-- A store followed by parts in lockstep over following buses is in lockstep. -/
theorem lockstep_store_bind (follows : Follows b c rel retry') (a : Int32) (w : Word)
    {f : Unit → Exec σ β} {g : Unit → Exec ρ β} {ok : β → σ → ρ → Prop} (hs : rel s r)
    (next : ∀ s' r', rel s' r' → Lockstep (f ()) (g ()) s' r' ok fault
      (fun t s'' => retry' t s'' r))
    (faults : ∀ (e : AccessFault) s' r', rel s' r' → fault e.toTrap s' r') :
    Lockstep (b.store a w >>= f) (c.store a w >>= g) s r ok fault (fun t s' => retry' t s' r) :=
  lockstep_access_bind (follows.write a w s r hs) (fun _ s' h => next s' _ h)
    (fun e s' h => faults e s' _ h)

/-- A console request followed by parts in lockstep from the requested states is in lockstep. -/
theorem lockstep_request_bind (k : IoKind) {f : Unit → Exec σ β} {g : Unit → Exec ρ β}
    {ok : β → σ → ρ → Prop}
    (next : Lockstep (f ()) (g ()) (b.requestIo k s) (c.requestIo k r) ok fault retry) :
    Lockstep (b.request k >>= f) (c.request k >>= g) s r ok fault retry :=
  lockstep_bind ⟨_, rfl, next⟩

end Exec

open Exec

variable {σ ρ : Type} {b : Bus σ} {c : Bus ρ} {rel wait : σ → ρ → Prop}
  {retry : Trap → σ → ρ → Prop}

/-- Every instruction, run over two buses in lockstep from related states: both complete with
one result, their states related, or related by `wait` once a system call queued its request;
or both raise one trap, not `ioWait`, their states related; or the first bus alone faulted. -/
theorem Execute.run_lockstep (follows : Follows b c rel retry)
    (request : ∀ k s r, rel s r → wait (b.requestIo k s) (c.requestIo k r)) (ir : Word)
    (regs : Registers) {s : σ} {r : ρ} (hs : rel s r) :
    Lockstep (Execute.run b ir regs) (Execute.run c ir regs) s r
      (fun res s' r' => if res.2 = .wait then wait s' r' else rel s' r')
      (fun t s' r' => t ≠ .ioWait ∧ rel s' r') (fun t s' => retry t s' r) := by
  have faults : ∀ (e : AccessFault) s' r', rel s' r' → e.toTrap ≠ .ioWait ∧ rel s' r' :=
    fun e _ _ h => ⟨by cases e <;> simp [AccessFault.toTrap], h⟩
  have limit := follows.limit
  -- Both programs become one tree of branches; what is left are the bus accesses.
  cases opcode : ir.opcode
  all_goals simp only [Execute.run, opcode, reg_bind, checkReg_bind, setReg_bind, arith_bind,
    jumpTarget_bind, jumpIf_bind, bind_assoc, pure_bind, limit, Execute.jumpIndirectIf,
    Execute.syscall, ite_bind, throw_bind, syscallArgRegister, syscallRegister, lockstep_ite,
    lockstep_dite, lockstep_pure, lockstep_throw, reduceCtorEq, if_false, ne_eq,
    not_false_eq_true, true_and, hs, true_or, dite_eq_ite, ite_self, Nat.reduceLT, dite_true]
  case ldd | ldx | jmpim | jmpigm | jmpilm | jmpiem =>
    try split_ifs <;> try trivial
    all_goals
      apply lockstep_load_bind follows _ hs _ (fun e s' h => faults e s' r h)
      intro w s' h
      simp only [lockstep_ite, lockstep_pure, lockstep_throw, reduceCtorEq, if_false,
        not_false_eq_true, true_and, true_or, ite_self, *]
  case std | stx =>
    split_ifs
    apply lockstep_store_bind follows _ _ hs _ (fun e s' r' h => faults e s' r' h)
    intro s' r' h
    simpa using h
  case syscall =>
    split_ifs
    · -- a read checks its address, then asks
      apply lockstep_probe_bind follows _ hs _ (fun e s' h => faults e s' r h)
      intro s' h
      apply lockstep_request_bind
      simpa using request _ _ _ h
    · -- a write reads its value, then asks
      apply lockstep_load_bind follows _ hs _ (fun e s' h => faults e s' r h)
      intro w s' h
      apply lockstep_request_bind
      simpa using request _ _ _ h

/-- Completing an instruction counts one instruction off the slice. -/
theorem Cpu.complete_slice (cpu : Cpu) (cx : Context) :
    (cpu.complete cx).1.slice = cpu.slice.tick.2 := rfl

/-- Completing an instruction raises the timer exactly when the slice runs out. -/
theorem Cpu.complete_timer (cpu : Cpu) (cx : Context) :
    (cpu.complete cx).2 = if cpu.slice.tick.1 then some .timer else none := rfl

/-- A completed instruction raises the timer or nothing. -/
theorem Cpu.complete_trap (cpu : Cpu) (cx : Context) :
    (cpu.complete cx).2 = none ∨ (cpu.complete cx).2 = some .timer := by
  rw [Cpu.complete_timer]
  split <;> simp

/-- A completed instruction raises the timer or nothing, never a wait for the console. -/
theorem Cpu.complete_ne_ioWait (cpu : Cpu) (cx : Context) : (cpu.complete cx).2 ≠ some .ioWait := by
  rcases Cpu.complete_trap cpu cx with done | timer
  · simp [done]
  · simp [timer]

/-- A processor step over two buses in lockstep from related states: it ends over `b` exactly as
over `c`, processor and trap alike, the states related by `wait` after a system call's
`ioWait` and by `rel` otherwise; or the first bus alone faulted and the processor is as it
was. -/
theorem Cpu.step_lockstep (follows : Follows b c rel retry)
    (request : ∀ k s r, rel s r → wait (b.requestIo k s) (c.requestIo k r)) (cpu : Cpu)
    {s : σ} {r : ρ} (hs : rel s r) :
    ((cpu.step b).run s).1 = ((cpu.step c).run r).1 ∧
        (if ((cpu.step b).run s).1.2 = some .ioWait then
          wait ((cpu.step b).run s).2 ((cpu.step c).run r).2
        else rel ((cpu.step b).run s).2 ((cpu.step c).run r).2) ∨
      ∃ t, ((cpu.step b).run s).1 = (cpu, some t) ∧ retry t ((cpu.step b).run s).2 r := by
  have fetched : Lockstep (cpu.fetchExecute b) (cpu.fetchExecute c) s r
      (fun res s' r' => if res.2 = .wait then wait s' r' else rel s' r')
      (fun t s' r' => t ≠ .ioWait ∧ rel s' r') (fun t s' => retry t s' r) := by
    unfold Cpu.fetchExecute
    exact lockstep_load_bind follows _ hs
      (fun ir _ hs' => Execute.run_lockstep follows request ir _ hs')
      (fun e _ h => ⟨by cases e <;> simp [AccessFault.toTrap], h⟩)
  unfold Lockstep at fetched
  rw [Cpu.run_step, Cpu.run_step]
  revert fetched
  rcases (cpu.fetchExecute b).run.run s with ⟨t | ⟨regs, _ | target | _⟩, s'⟩
  · rintro (⟨r', ran, notWait, related⟩ | retried)
    · left
      rw [ran]
      exact ⟨rfl, by simpa [notWait] using related⟩
    · exact .inr ⟨t, rfl, retried⟩
  · rintro ⟨r', ran, related⟩
    rw [ran]
    exact .inl ⟨rfl, by simpa [Cpu.complete_ne_ioWait] using related⟩
  · rintro ⟨r', ran, related⟩
    rw [ran]
    exact .inl ⟨rfl, by simpa [Cpu.complete_ne_ioWait] using related⟩
  · rintro ⟨r', ran, waiting⟩
    rw [ran]
    exact .inl ⟨rfl, by simpa using waiting⟩

end PagedMachine
