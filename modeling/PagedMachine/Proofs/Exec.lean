import PagedMachine.Cpu.Step
import Mathlib.Tactic.SplitIfs

/-!
# What one instruction can do to the bus state

An instruction runs in `Exec σ`: it may change the bus state and then complete or raise a
trap. `Exec.Post x s ok fault` says what holds after `x` runs from `s`: `ok` of the result
when it completes, `fault` of the trap when it raises one. The rules below take `Post`
through `pure`, `throw`, binds, branches and the register helpers, so a program's `Post` is
computed by rewriting down to its bus accesses.

A bus keeps a state property `inv` with fault states `fault` when every access from an
`inv` state ends in `inv` if it succeeds and in `fault` of its trap if it fails, and the traps
an instruction raises by itself (`invalidInstruction`, `overflow`, `invalidAddress`, `stop`)
leave an `inv` state in `fault`. Then every instruction ends in `inv`, or in `wait` after a
system call queued its console request (`Execute.run_post`), and a processor step either
completes or raises a trap with the processor untouched (`Cpu.step_post`).
-/

namespace PagedMachine

namespace Exec

variable {σ α β : Type}

/-- After `x` runs from `s`: `ok` of its result if it completes, `fault` of its trap if not. -/
def Post (x : Exec σ α) (s : σ) (ok : α → σ → Prop) (fault : Trap → σ → Prop) : Prop :=
  match x.run.run s with
  | (.ok a, s') => ok a s'
  | (.error t, s') => fault t s'

variable {ok : α → σ → Prop} {fault : Trap → σ → Prop} {s : σ}

/-- Returning a value meets the condition exactly when `ok` holds of it in the same state. -/
@[simp] theorem post_pure (a : α) : Post (pure a : Exec σ α) s ok fault ↔ ok a s := Iff.rfl

/-- Raising a trap meets the condition exactly when `fault` holds of it in the same state. -/
@[simp] theorem post_throw (t : Trap) : Post (throw t : Exec σ α) s ok fault ↔ fault t s :=
  Iff.rfl

/-- A bind runs its second part from the state the first part completes in. -/
theorem run_bind (x : Exec σ α) (f : α → Exec σ β) (s : σ) :
    (x >>= f).run.run s = match x.run.run s with
      | (.ok a, s') => (f a).run.run s'
      | (.error t, s') => (.error t, s') := by
  simp only [ExceptT.run_bind, StateT.run_bind]
  rcases x.run.run s with ⟨r | r, s'⟩ <;> rfl

/-- A bind meets the condition when its first part ends where the rest meets it. -/
@[simp] theorem post_bind (x : Exec σ α) (f : α → Exec σ β) (ok : β → σ → Prop) :
    Post (x >>= f) s ok fault ↔ Post x s (fun a s' => Post (f a) s' ok fault) fault := by
  unfold Post
  rw [run_bind]
  rcases x.run.run s with ⟨r | r, s'⟩ <;> rfl

/-- A mapped computation meets the condition when the computation meets it of the mapped value. -/
@[simp] theorem post_map (f : α → β) (x : Exec σ α) (ok : β → σ → Prop) :
    Post (f <$> x) s ok fault ↔ Post x s (fun a s' => ok (f a) s') fault := by
  rw [map_eq_pure_bind, post_bind]
  rfl

/-- A choice meets the condition exactly when the branch taken does. -/
@[simp] theorem post_ite (c : Prop) [Decidable c] (x y : Exec σ α) :
    Post (if c then x else y) s ok fault ↔
      if c then Post x s ok fault else Post y s ok fault := by
  split <;> rfl

/-- A bus access reports its fault as the matching trap. -/
theorem run_access (run : σ → Except AccessFault α × σ) (s : σ) :
    (Bus.access run).run.run s = ((run s).1.mapError AccessFault.toTrap, (run s).2) := rfl

/-- A console request completes in the state the bus leaves after queueing it. -/
@[simp] theorem post_request (bus : Bus σ) (k : IoKind) (ok : Unit → σ → Prop) :
    Post (bus.request k) s ok fault ↔ ok () (bus.requestIo k s) := Iff.rfl

open Execute in
/-- Reading a register gives its value, or refuses the instruction for a register past the last. -/
@[simp] theorem post_reg (regs : Registers) (r : Nat) (ok : Int32 → σ → Prop) :
    Post (reg regs r : Exec σ Int32) s ok fault ↔
      if h : r < 10 then ok (regs.get ⟨r, h⟩) s else fault .invalidInstruction s := by
  unfold reg
  split <;> rfl

open Execute in
/-- Checking a register passes, or refuses the instruction for a register past the last. -/
@[simp] theorem post_checkReg (r : Nat) (ok : Unit → σ → Prop) :
    Post (checkReg r : Exec σ Unit) s ok fault ↔
      if r < 10 then ok () s else fault .invalidInstruction s := by
  unfold checkReg
  split <;> rfl

open Execute in
/-- Setting a register gives the new registers, or refuses the instruction for one past the last. -/
@[simp] theorem post_setReg (regs : Registers) (r : Nat) (v : Int32) (ok : Registers → σ → Prop) :
    Post (setReg regs r v : Exec σ Registers) s ok fault ↔
      if h : r < 10 then ok (regs.set r v h) s else fault .invalidInstruction s := by
  unfold setReg
  split <;> rfl

open Execute in
/-- A jump target inside the program is taken; any other is an invalid address. -/
@[simp] theorem post_jumpTarget (limit : Nat) (t : Int32) (ok : Nat → σ → Prop) :
    Post (jumpTarget limit t : Exec σ Nat) s ok fault ↔
      if t.toInt < 0 ∨ limit ≤ t.toInt.toNat then fault .invalidAddress s
      else ok t.toInt.toNat s := by
  unfold jumpTarget
  split <;> rfl

open Execute in
/-- An arithmetic update gives the new registers, an overflow, or a refused instruction. -/
@[simp] theorem post_arith (regs : Registers) (ra : Nat) (f : Int → Int)
    (ok : Registers → σ → Prop) :
    Post (arith regs ra f : Exec σ Registers) s ok fault ↔
      if h : ra < 10 then
        if f (regs.get ⟨ra, h⟩).toInt < wordMin ∨ wordMax < f (regs.get ⟨ra, h⟩).toInt then
          fault .overflow s
        else ok (regs.set ra (Int32.ofInt (f (regs.get ⟨ra, h⟩).toInt)) h) s
      else fault .invalidInstruction s := by
  unfold arith
  simp only [post_bind, post_reg]
  split
  · split <;> simp_all
  · rfl

open Execute in
/-- A conditional jump taken goes to its target if it is inside the program; one not taken goes on.
-/
@[simp] theorem post_jumpIf (limit : Nat) (taken : Bool) (t : Int32) (ok : Flow → σ → Prop) :
    Post (jumpIf limit taken t : Exec σ Flow) s ok fault ↔
      if taken then
        (if t.toInt < 0 ∨ limit ≤ t.toInt.toNat then fault .invalidAddress s
          else ok (.jump t.toInt.toNat) s)
      else ok .next s := by
  unfold jumpIf
  cases taken <;> simp

/-- What holds after a bus access: `inv` if it succeeds, `fault` of its trap if it fails. -/
def AccessPost (r : Except AccessFault α × σ) (inv : σ → Prop) (fault : Trap → σ → Prop) :
    Prop :=
  match r with
  | (.ok _, s') => inv s'
  | (.error e, s') => fault e.toTrap s'

/-- Every access of `bus` from an `inv` state ends in `inv` when it succeeds and in `fault` of
its trap when it fails, and the traps an instruction raises by itself leave an `inv` state in
`fault`. -/
structure Keeps (bus : Bus σ) (inv : σ → Prop) (fault : Trap → σ → Prop) : Prop where
  read : ∀ a s, inv s → AccessPost (bus.read a s) inv fault
  write : ∀ a w s, inv s → AccessPost (bus.write a w s) inv fault
  probe : ∀ a s, inv s → AccessPost (bus.probeWrite a s) inv fault
  own : ∀ s, inv s → fault .invalidInstruction s ∧ fault .overflow s ∧
    fault .invalidAddress s ∧ fault .stop s

variable {bus : Bus σ} {inv : σ → Prop}

/-- An access condition holds of weaker invariant and fault conditions. -/
theorem AccessPost.imp {r : Except AccessFault α × σ} {inv' : σ → Prop}
    {fault fault' : Trap → σ → Prop} (post : AccessPost r inv fault)
    (weaker : ∀ s, inv s → inv' s) (weakerFault : ∀ t s, fault t s → fault' t s) :
    AccessPost r inv' fault' := by
  rcases r with ⟨a | a, s'⟩
  · exact weakerFault _ s' post
  · exact weaker s' post

/-- Two access conditions met by one access are met together. -/
theorem AccessPost.and {r : Except AccessFault α × σ} {inv' : σ → Prop}
    {fault fault' : Trap → σ → Prop} (first : AccessPost r inv fault)
    (second : AccessPost r inv' fault') :
    AccessPost r (fun s => inv s ∧ inv' s) (fun t s => fault t s ∧ fault' t s) := by
  rcases r with ⟨a | a, s'⟩
  · exact ⟨first, second⟩
  · exact ⟨first, second⟩

/-- A bus that keeps two invariants keeps them together. -/
theorem Keeps.and {inv' : σ → Prop} {fault fault' : Trap → σ → Prop} (first : Keeps bus inv fault)
    (second : Keeps bus inv' fault') :
    Keeps bus (fun s => inv s ∧ inv' s) (fun t s => fault t s ∧ fault' t s) where
  read a s hs := (first.read a s hs.1).and (second.read a s hs.2)
  write a w s hs := (first.write a w s hs.1).and (second.write a w s hs.2)
  probe a s hs := (first.probe a s hs.1).and (second.probe a s hs.2)
  own s hs :=
    have one := first.own s hs.1
    have two := second.own s hs.2
    ⟨⟨one.1, two.1⟩, ⟨one.2.1, two.2.1⟩, ⟨one.2.2.1, two.2.2.1⟩, ⟨one.2.2.2, two.2.2.2⟩⟩

/-- Keeping an invariant is keeping any equivalent one, with any weaker fault condition. -/
theorem Keeps.of_iff {inv' : σ → Prop} {fault fault' : Trap → σ → Prop}
    (keeps : Keeps bus inv fault) (same : ∀ s, inv' s ↔ inv s)
    (weaker : ∀ t s, fault t s → fault' t s) : Keeps bus inv' fault' where
  read a s hs := (keeps.read a s ((same s).1 hs)).imp (fun s h => (same s).2 h) weaker
  write a w s hs := (keeps.write a w s ((same s).1 hs)).imp (fun s h => (same s).2 h) weaker
  probe a s hs := (keeps.probe a s ((same s).1 hs)).imp (fun s h => (same s).2 h) weaker
  own s hs :=
    have own := keeps.own s ((same s).1 hs)
    ⟨weaker _ s own.1, weaker _ s own.2.1, weaker _ s own.2.2.1, weaker _ s own.2.2.2⟩

/-- An access that keeps `inv` meets any completion condition that `inv` states imply. -/
theorem post_access_of {run : σ → Except AccessFault α × σ}
    (accessed : AccessPost (run s) inv fault) (completes : ∀ a s', inv s' → ok a s') :
    Post (Bus.access run) s ok fault := by
  unfold Post
  rw [run_access]
  unfold AccessPost at accessed
  generalize run s = r at accessed ⊢
  rcases r with ⟨a | a, s'⟩
  · exact accessed
  · exact completes a s' accessed

/-- A load over a bus that keeps `inv` meets any completion `inv` implies. -/
theorem post_load (keeps : Keeps bus inv fault) (a : Int32) {ok : Word → σ → Prop} (hs : inv s)
    (completes : ∀ w s', inv s' → ok w s') : Post (bus.load a) s ok fault :=
  post_access_of (keeps.read a s hs) completes

/-- A store over a bus that keeps `inv` meets any completion `inv` implies. -/
theorem post_store (keeps : Keeps bus inv fault) (a : Int32) (w : Word) {ok : Unit → σ → Prop}
    (hs : inv s) (completes : ∀ s', inv s' → ok () s') : Post (bus.store a w) s ok fault :=
  post_access_of (keeps.write a w s hs) fun _ s' h => completes s' h

/-- A probe over a bus that keeps `inv` meets any completion `inv` implies. -/
theorem post_probe (keeps : Keeps bus inv fault) (a : Int32) {ok : Unit → σ → Prop}
    (hs : inv s) (completes : ∀ s', inv s' → ok () s') : Post (bus.probe a) s ok fault :=
  post_access_of (keeps.probe a s hs) fun _ s' h => completes s' h

open Execute in
/-- An indirect jump reads memory only when taken, and never asks for the console. -/
theorem post_jumpIndirectIf (keeps : Keeps bus inv fault) (taken : Bool) (p : Int32)
    {ok : Flow → σ → Prop} (hs : inv s) (completes : ∀ f s', inv s' → f ≠ .wait → ok f s') :
    Post (jumpIndirectIf bus taken p) s ok fault := by
  unfold jumpIndirectIf
  cases taken
  · exact completes .next s hs (by simp)
  · simp only [post_bind, post_jumpTarget, post_pure, if_true]
    apply post_load keeps p hs
    intro w s' hs'
    split
    · exact (keeps.own s' hs').2.2.1
    · exact completes _ s' hs' (by simp)

open Execute in
/-- A system call checks its address and queues its console request last. -/
theorem post_syscall (keeps : Keeps bus inv fault) {ok : Flow → σ → Prop}
    (request : ∀ k s, inv s → ok .wait (bus.requestIo k s)) (regs : Registers) (hs : inv s) :
    Post (syscall bus regs) s ok fault := by
  have invalid := (keeps.own s hs).1
  unfold syscall
  simp only [post_bind, post_reg, post_ite, post_request, post_pure, post_throw]
  split
  · split
    · split
      · exact post_probe keeps _ hs fun s' hs' => request _ s' hs'
      · split
        · exact post_load keeps _ hs fun _ s' hs' => request _ s' hs'
        · exact invalid
    · exact invalid
  · exact invalid

end Exec

open Exec

variable {σ : Type} {bus : Bus σ} {inv wait : σ → Prop} {fault : Trap → σ → Prop}

/-- Every instruction run from an `inv` state ends in `inv` when it completes, in `wait` when
it is a system call that queued its request, and in `fault` of its trap when it raises one. -/
theorem Execute.run_post (keeps : Keeps bus inv fault)
    (request : ∀ k s, inv s → wait (bus.requestIo k s)) (ir : Word) (regs : Registers)
    {s : σ} (hs : inv s) :
    Post (Execute.run bus ir regs) s (fun r s' => if r.2 = .wait then wait s' else inv s')
      fault := by
  obtain ⟨invalid, overflow, outside, stop⟩ := keeps.own s hs
  cases opcode : ir.opcode
  all_goals simp +contextual only [Execute.run, opcode, post_bind, post_pure, post_reg,
    post_checkReg, post_setReg, post_throw, post_arith, post_jumpIf, post_jumpTarget,
    reduceCtorEq, if_false, dite_true]
  case ldd =>
    split_ifs
    · exact post_load keeps _ hs fun _ _ h => h
    · exact invalid
  case ldx =>
    split_ifs
    · exact post_load keeps _ hs fun _ _ h => h
    · exact invalid
    · exact invalid
  case std =>
    split_ifs
    · exact post_store keeps _ _ hs fun _ h => h
    · exact invalid
  case stx =>
    split_ifs
    · exact post_store keeps _ _ hs fun _ h => h
    · exact invalid
    · exact invalid
  case jmpim =>
    apply post_load keeps _ hs
    intro w s' hs'
    split_ifs
    · exact (keeps.own s' hs').2.2.1
    · exact hs'
  case jmpigm | jmpilm | jmpiem =>
    split_ifs
    · exact post_jumpIndirectIf keeps _ _ hs fun f _ h other => by simpa [other] using h
    · exact invalid
  case syscall => exact post_syscall keeps (fun k s h => by simpa using request k s h) regs hs
  case stop => exact stop
  case data | empty => exact invalid
  all_goals split_ifs <;> assumption

/-- A processor step: a trap leaves the processor as it was, a completed instruction installs
its registers and program counter. -/
theorem Cpu.run_step (cpu : Cpu) (bus : Bus σ) (s : σ) :
    (cpu.step bus).run s = match (cpu.fetchExecute bus).run.run s with
      | (.error t, s') => ((cpu, some t), s')
      | (.ok (regs, .next), s') =>
        (cpu.complete { pc := cpu.context.pc + 1, registers := regs }, s')
      | (.ok (regs, .jump target), s') => (cpu.complete { pc := target, registers := regs }, s')
      | (.ok (regs, .wait), s') =>
        (({ cpu with context := { pc := cpu.context.pc + 1, registers := regs } }, some .ioWait),
          s') := by
  simp only [Cpu.step, bind, StateT.bind, StateT.run]
  generalize ExceptT.run (cpu.fetchExecute bus) s = r
  rcases r with ⟨(t | ⟨regs, _ | target | _⟩), s'⟩ <;> rfl

/-- A processor step from an `inv` state either completes (and may raise the timer), ending in
`inv`; or completes a system call, raising `ioWait` and ending in `wait`; or raises a trap
with the processor unchanged, ending in `fault` of that trap. -/
theorem Cpu.step_post (keeps : Keeps bus inv fault)
    (request : ∀ k s, inv s → wait (bus.requestIo k s)) (cpu : Cpu) {s : σ} (hs : inv s) :
    ((cpu.step bus).run s).1.2 = none ∧ inv ((cpu.step bus).run s).2 ∨
    ((cpu.step bus).run s).1.2 = some .timer ∧ inv ((cpu.step bus).run s).2 ∨
    ((cpu.step bus).run s).1.2 = some .ioWait ∧ wait ((cpu.step bus).run s).2 ∨
    ∃ t, ((cpu.step bus).run s).1 = (cpu, some t) ∧ fault t ((cpu.step bus).run s).2 := by
  have fetched : Post (cpu.fetchExecute bus) s
      (fun r s' => if r.2 = .wait then wait s' else inv s') fault := by
    unfold Cpu.fetchExecute
    rw [post_bind]
    exact post_load keeps _ hs fun ir s' hs' => Execute.run_post keeps request ir _ hs'
  unfold Post at fetched
  rw [Cpu.run_step]
  generalize (cpu.fetchExecute bus).run.run s = r at fetched ⊢
  rcases r with ⟨(t | ⟨regs, _ | target | _⟩), s'⟩
  · exact .inr (.inr (.inr ⟨t, rfl, fetched⟩))
  all_goals simp only [reduceCtorEq, if_false, if_true] at fetched
  · simp only [Cpu.complete]
    cases cpu.slice.tick.1
    · exact .inl ⟨rfl, fetched⟩
    · exact .inr (.inl ⟨rfl, fetched⟩)
  · simp only [Cpu.complete]
    cases cpu.slice.tick.1
    · exact .inl ⟨rfl, fetched⟩
    · exact .inr (.inl ⟨rfl, fetched⟩)
  · exact .inr (.inr (.inl ⟨rfl, fetched⟩))

end PagedMachine
