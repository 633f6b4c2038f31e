import PagedMachine.Proofs.Abort

/-!
# The instruction table

The instruction set as a table. Each opcode has one row (`Word.effect`): what the instruction
does once its registers are read, named by the one data access it makes, if any, and by where
the program counter goes. An instruction that names a register past the ten is refused
before anything else, whatever its opcode. Arithmetic is on the exact integers, so a row holds
the exact result, which is stored only inside -32767 ..= 32767. A conditional jump is taken
exactly when its condition on the registers holds, and the jumps through memory read their
target only then. A taken jump lands only inside the process.

A row is carried out over a bus by `Effect.perform`: at most one access, then the outcome.

Main statements: over a bus that serves every access, one step of the processor fetches the
word at the program counter and carries out its row of the table (`Cpu.step_table`); the exact
result of an arithmetic row lies in the signed 64-bit range whatever its operands, so 64-bit
arithmetic computes it without overflow (`Word.effect_arith_fits`); `Cpu.step_follows_table`
states both.
-/

namespace PagedMachine

variable {σ : Type}

/-- A bus that serves every access: every read gives a word, every write and probe succeeds. -/
structure Bus.Serves (bus : Bus σ) : Prop where
  read : ∀ a s, ∃ w, (bus.read a s).1 = .ok w
  write : ∀ a w s, (bus.write a w s).1 = .ok ()
  probe : ∀ a s, (bus.probeWrite a s).1 = .ok ()

/-- The word a read of `addr` gives from state `s`; the empty word if it faults. -/
def Bus.answer (bus : Bus σ) (addr : Int32) (s : σ) : Word :=
  match (bus.read addr s).1 with
  | .ok w => w
  | .error _ => Word.empty

/-- What one row of the instruction table does, once the registers it names are read. -/
inductive Effect where
  /-- Register `r` takes `v`. -/
  | set (r : Nat) (v : Int32)
  /-- Register `r` takes the exact result `x`, unless `x` leaves -32767 ..= 32767. -/
  | arith (r : Nat) (x : Int)
  /-- Register `r` takes the value of the word at `addr`. -/
  | load (r : Nat) (addr : Int32)
  /-- The word at `addr` becomes `DATA v`. -/
  | store (addr v : Int32)
  /-- Nothing; the next word runs next. -/
  | next
  /-- The program counter goes to `target`. -/
  | jump (target : Int32)
  /-- The program counter goes to the value of the word at `addr`. -/
  | jumpVia (addr : Int32)
  /-- The console is asked for a value to store at `addr`, which is checked to be writable. -/
  | input (addr : Int32)
  /-- The console is asked to write the value of the word at `addr`. -/
  | output (addr : Int32)
  /-- The instruction raises `t`. -/
  | raise (t : Trap)
  deriving DecidableEq, Repr

/-- The instruction table: the row of `ir` with registers `r`. A register operand past the ten
makes the instruction invalid; register `n` is read as `r.getD n 0`, which the check makes the
register itself. -/
def Word.effect (ir : Word) (r : Registers) : Effect :=
  if ir.registerOperands.any (10 ≤ ·) then .raise .invalidInstruction
  else
    let a := r.getD ir.ra 0
    let b := r.getD ir.rb 0
    match ir.opcode with
    | .ldi => .set ir.ra ir.p
    | .ldd => .load ir.ra ir.p
    | .ldx => .load ir.ra b
    | .std => .store ir.p a
    | .stx => .store a b
    | .move => .set ir.ra b
    | .add => .arith ir.ra (a.toInt + b.toInt)
    | .addi => .arith ir.ra (a.toInt + ir.p.toInt)
    | .sub => .arith ir.ra (a.toInt - b.toInt)
    | .subi => .arith ir.ra (a.toInt - ir.p.toInt)
    | .mult => .arith ir.ra (a.toInt * b.toInt)
    | .jmp => .jump ir.p
    | .jmpi => .jump a
    | .jmpig => if 0 < b.toInt then .jump a else .next
    | .jmpil => if b.toInt < 0 then .jump a else .next
    | .jmpie => if b.toInt = 0 then .jump a else .next
    | .jmpim => .jumpVia ir.p
    | .jmpigm => if 0 < b.toInt then .jumpVia ir.p else .next
    | .jmpilm => if b.toInt < 0 then .jumpVia ir.p else .next
    | .jmpiem => if b.toInt = 0 then .jumpVia ir.p else .next
    | .jmpigk => if 0 < b.toInt then .jump ir.p else .next
    | .jmpilk => if b.toInt < 0 then .jump ir.p else .next
    | .jmpiek => if b.toInt = 0 then .jump ir.p else .next
    | .jmpigt => if b.toInt < a.toInt then .jump ir.p else .next
    | .syscall =>
      let selector := r.getD syscallRegister 0
      let addr := r.getD syscallArgRegister 0
      if selector = 1 then .input addr
      else if selector = 2 then .output addr
      else .raise .invalidInstruction
    | .stop => .raise .stop
    | .data | .empty => .raise .invalidInstruction

/-- How an instruction ends: it completes with a new context, completes and waits for the
console, or raises a trap. -/
inductive Outcome where
  | completes (cx : Context)
  | waits (cx : Context)
  | raises (t : Trap)
  deriving DecidableEq, Repr

/-- A jump to `target` with registers `regs`, accepted inside the first `limit` words. -/
def Outcome.jumpTo (limit : Nat) (regs : Registers) (target : Int32) : Outcome :=
  if 0 ≤ target.toInt ∧ target.toInt < limit then .completes ⟨target.toInt.toNat, regs⟩
  else .raises .invalidAddress

/-- Carries out a row from context `cx` over `bus` from state `s`: at most one data access, then
the outcome. -/
def Effect.perform (bus : Bus σ) (cx : Context) (s : σ) : Effect → Outcome × σ
  | .set n v => (.completes ⟨cx.pc + 1, cx.registers.setIfInBounds n v⟩, s)
  | .arith n x =>
    if x < wordMin ∨ wordMax < x then (.raises .overflow, s)
    else (.completes ⟨cx.pc + 1, cx.registers.setIfInBounds n (Int32.ofInt x)⟩, s)
  | .load n a =>
    (.completes ⟨cx.pc + 1, cx.registers.setIfInBounds n (bus.answer a s).p⟩, (bus.read a s).2)
  | .store a v => (.completes ⟨cx.pc + 1, cx.registers⟩, (bus.write a (.data v) s).2)
  | .next => (.completes ⟨cx.pc + 1, cx.registers⟩, s)
  | .jump t => (Outcome.jumpTo bus.limit cx.registers t, s)
  | .jumpVia a => (Outcome.jumpTo bus.limit cx.registers (bus.answer a s).p, (bus.read a s).2)
  | .input a => (.waits ⟨cx.pc + 1, cx.registers⟩, bus.requestIo (.read a) (bus.probeWrite a s).2)
  | .output a =>
    (.waits ⟨cx.pc + 1, cx.registers⟩, bus.requestIo (.write (bus.answer a s).p) (bus.read a s).2)
  | .raise t => (.raises t, s)

/-- Where an instruction that completed from context `cx` leaves the processor's context. -/
def Outcome.ofFlow (cx : Context) : Registers × Flow → Outcome
  | (regs, .next) => .completes ⟨cx.pc + 1, regs⟩
  | (regs, .jump t) => .completes ⟨t, regs⟩
  | (regs, .wait) => .waits ⟨cx.pc + 1, regs⟩

/-- 2^63: the signed 64-bit integers are the `x` with `-int64Bound ≤ x < int64Bound`. -/
def int64Bound : Int := 9223372036854775808

/-- A bus over a memory with a word at every address: every access succeeds, a write changes
the one word it names, and console requests go unrecorded. -/
def Bus.total (limit : Nat) : Bus (Int32 → Word) where
  read a m := (.ok (m a), m)
  write a w m := (.ok (), fun b => if b = a then w else m b)
  probeWrite _ m := (.ok (), m)
  requestIo _ m := m
  limit := limit

/-- The processor after an outcome: a completed instruction installs its context and counts
against the slice, a wait installs its context and raises `ioWait`, and a trap leaves the
processor as it was. -/
def Outcome.finish (cpu : Cpu) : Outcome → Cpu × Option Trap
  | .completes cx => cpu.complete cx
  | .waits cx => ({ cpu with context := cx }, some .ioWait)
  | .raises t => (cpu, some t)

section Serving

variable {bus : Bus σ}

/-- A register read through `get` is the register at that index. -/
@[simp] theorem registers_get (r : Registers) (n : Nat) (h : n < 10) : r.get ⟨n, h⟩ = r[n] := rfl

/-- A read over a serving bus gives the word it answers. -/
theorem Bus.Serves.read_eq (serves : bus.Serves) (a : Int32) (s : σ) :
    (bus.read a s).1 = .ok (bus.answer a s) := by
  obtain ⟨w, read⟩ := serves.read a s
  simp [Bus.answer, read]

/-- A load over a serving bus completes with the word it answers. -/
theorem Bus.Serves.run_load (serves : bus.Serves) (a : Int32) (s : σ) :
    (bus.load a).run.run s = (.ok (bus.answer a s), (bus.read a s).2) := by
  rw [Bus.load, Exec.run_access, serves.read_eq]
  rfl

namespace Exec

open Execute

variable {α : Type} {ok : α → σ → Prop} {fault : Trap → σ → Prop} {s : σ}

/-- A load over a serving bus meets a condition exactly when the answer does, in the state the read
leaves. -/
theorem post_load_of_serves (serves : bus.Serves) (a : Int32) {ok : Word → σ → Prop} :
    Post (bus.load a) s ok fault ↔ ok (bus.answer a s) (bus.read a s).2 := by
  unfold Post Bus.load
  rw [run_access, serves.read_eq]
  rfl

/-- A store over a serving bus completes in the state the write leaves. -/
theorem post_store_of_serves (serves : bus.Serves) (a : Int32) (w : Word) {ok : Unit → σ → Prop} :
    Post (bus.store a w) s ok fault ↔ ok () (bus.write a w s).2 := by
  unfold Post Bus.store
  rw [run_access, serves.write]
  rfl

/-- A probe over a serving bus completes in the state the probe leaves. -/
theorem post_probe_of_serves (serves : bus.Serves) (a : Int32) {ok : Unit → σ → Prop} :
    Post (bus.probe a) s ok fault ↔ ok () (bus.probeWrite a s).2 := by
  unfold Post Bus.probe
  rw [run_access, serves.probe]
  rfl

/-- A conditional jump through memory over a serving bus reads its target only when taken, and lands
inside the process or is an invalid address. -/
theorem post_jumpIndirectIf_of_serves (serves : bus.Serves) (taken : Bool) (p : Int32)
    {ok : Flow → σ → Prop} :
    Post (jumpIndirectIf bus taken p) s ok fault ↔
      if taken then
        (if (bus.answer p s).p.toInt < 0 ∨ bus.limit ≤ (bus.answer p s).p.toInt.toNat then
          fault .invalidAddress (bus.read p s).2
        else ok (.jump (bus.answer p s).p.toInt.toNat) (bus.read p s).2)
      else ok .next s := by
  unfold jumpIndirectIf
  cases taken <;> simp [post_load_of_serves serves]

/-- A system call over a serving bus queues a console read or write by register 8, or refuses the
instruction. -/
theorem post_syscall_of_serves (serves : bus.Serves) (regs : Registers) {ok : Flow → σ → Prop} :
    Post (syscall bus regs) s ok fault ↔
      if regs.getD syscallRegister 0 = 1 then
        ok .wait (bus.requestIo (.read (regs.getD syscallArgRegister 0))
          (bus.probeWrite (regs.getD syscallArgRegister 0) s).2)
      else if regs.getD syscallRegister 0 = 2 then
        ok .wait (bus.requestIo (.write (bus.answer (regs.getD syscallArgRegister 0) s).p)
          (bus.read (regs.getD syscallArgRegister 0) s).2)
      else fault .invalidInstruction s := by
  unfold syscall
  simp [post_load_of_serves serves, post_probe_of_serves serves, syscallRegister,
    syscallArgRegister, Vector.getD]
  -- the registers are read through `get` on one side and by index on the other
  exact Iff.rfl

end Exec

open Exec

/-- A register inside the ten is read by index. -/
theorem getD_of_lt (r : Registers) {n : Nat} (inside : n < 10) : r.getD n 0 = r[n] := by
  simp [Vector.getD, inside]

/-- A register inside the ten is set by index. -/
theorem setIfInBounds_of_lt (r : Registers) {n : Nat} (inside : n < 10) (v : Int32) :
    r.setIfInBounds n v = r.set n v inside := by
  ext i below
  simp [Vector.getElem_setIfInBounds, Vector.getElem_set]

/-- A jump is refused exactly when the code's check refuses it. -/
theorem Outcome.jumpTo_eq (limit : Nat) (regs : Registers) (t : Int32) :
    Outcome.jumpTo limit regs t =
      if t.toInt < 0 ∨ limit ≤ t.toInt.toNat then .raises .invalidAddress
      else .completes ⟨t.toInt.toNat, regs⟩ := by
  unfold jumpTo
  by_cases refused : t.toInt < 0 ∨ limit ≤ t.toInt.toNat
  · rw [if_pos refused, if_neg (by omega)]
  · rw [if_neg refused, if_pos (by omega)]

/-- A word the processor refuses has the row that raises `invalidInstruction`. -/
theorem Word.effect_of_refused {ir : Word} (r : Registers) (refused : ir.refused = true) :
    ir.effect r = .raise .invalidInstruction := by
  unfold Word.effect
  split_ifs with bad
  · rfl
  · simp only [Word.refused, bad, Bool.or_false, Bool.or_eq_true, beq_iff_eq] at refused
    rcases refused with opcode | opcode <;> simp [opcode]

/-- Over a serving bus every instruction carries out its row of the table. -/
theorem Execute.run_table (serves : bus.Serves) (ir : Word) (cx : Context) (s : σ) :
    Post (Execute.run bus ir cx.registers) s
      (fun r s' => (Outcome.ofFlow cx r, s') = (ir.effect cx.registers).perform bus cx s)
      (fun t s' => (Outcome.raises t, s') = (ir.effect cx.registers).perform bus cx s) := by
  by_cases refused : ir.refused = true
  · unfold Post
    rw [Execute.run_refused bus ir cx.registers s refused, Word.effect_of_refused _ refused]
    rfl
  have accepted : ir.registerOperands.any (10 ≤ ·) = false := by
    simp only [Word.refused, Bool.or_eq_true, beq_iff_eq, not_or] at refused
    simpa using refused.2
  -- every register the word names is one of the ten, so its reads and writes go through
  cases opcode : ir.opcode
  all_goals simp only [Word.refused, Word.registerOperands, opcode, List.any_cons, List.any_nil,
    decide_eq_true_eq, Bool.or_false, Bool.or_eq_true, beq_iff_eq, reduceCtorEq, false_or, not_or,
    Nat.not_le] at refused
  all_goals simp only [Execute.run, Word.effect, accepted, opcode, post_bind, post_pure, post_reg,
    post_checkReg, post_setReg, post_throw, post_arith, post_jumpIf, post_jumpTarget,
    post_load_of_serves serves, post_store_of_serves serves, post_jumpIndirectIf_of_serves serves,
    post_syscall_of_serves serves, refused, dite_true, if_true, Bool.false_eq_true, if_false]
  all_goals try simp only [getD_of_lt, registers_get, refused, decide_eq_true_eq]
  -- both sides now branch on the same conditions of the same registers
  all_goals (try split_ifs) <;>
    simp_all [Effect.perform, Outcome.ofFlow, Outcome.jumpTo_eq, setIfInBounds_of_lt]

/-- The fetch of a step reads the word at the program counter, taken as a signed 32-bit
address. -/
theorem Cpu.fetchExecute_run (serves : bus.Serves) (cpu : Cpu) (s : σ) :
    (cpu.fetchExecute bus).run.run s =
      (Execute.run bus (bus.answer (Int32.ofNat cpu.context.pc) s) cpu.context.registers).run.run
        (bus.read (Int32.ofNat cpu.context.pc) s).2 := by
  unfold Cpu.fetchExecute
  rw [run_bind, serves.run_load]

/-- Over a bus that serves every access, one step of the processor fetches the word at the
program counter and carries out its row of the instruction table from the state the fetch
left. -/
theorem Cpu.step_table (serves : bus.Serves) (cpu : Cpu) (s : σ) :
    (cpu.step bus).run s =
      let pc := Int32.ofNat cpu.context.pc
      let done := ((bus.answer pc s).effect cpu.context.registers).perform bus cpu.context
        (bus.read pc s).2
      (done.1.finish cpu, done.2) := by
  have row := Execute.run_table serves (bus.answer (Int32.ofNat cpu.context.pc) s) cpu.context
    (bus.read (Int32.ofNat cpu.context.pc) s).2
  unfold Post at row
  rw [Cpu.run_step, Cpu.fetchExecute_run serves]
  generalize (Execute.run bus _ _).run.run _ = r at row ⊢
  rcases r with ⟨(t | ⟨regs, _ | target | _⟩), s'⟩
  all_goals
    dsimp only at row ⊢
    rw [← row]
    rfl

/-- An arithmetic row holds the sum, difference or product of two signed 32-bit values. -/
theorem Word.effect_arith {ir : Word} {r : Registers} {n : Nat} {x : Int}
    (arith : ir.effect r = .arith n x) :
    ∃ a b : Int32, x = a.toInt + b.toInt ∨ x = a.toInt - b.toInt ∨ x = a.toInt * b.toInt := by
  unfold Word.effect at arith
  split_ifs at arith
  cases opcode : ir.opcode <;> simp only [opcode] at arith <;> (try split_ifs at arith) <;>
    simp only [reduceCtorEq, Effect.arith.injEq] at arith <;> obtain ⟨-, rfl⟩ := arith
  case add | addi => exact ⟨_, _, .inl rfl⟩
  case sub | subi => exact ⟨_, _, .inr (.inl rfl)⟩
  case mult => exact ⟨_, _, .inr (.inr rfl)⟩

/-- Sums, differences and products of two signed 32-bit values are signed 64-bit values: a sum
or difference is below 2^32 in magnitude and a product at most 2^62. -/
theorem fits_int64_of_int32 (a b : Int32) {x : Int}
    (exact : x = a.toInt + b.toInt ∨ x = a.toInt - b.toInt ∨ x = a.toInt * b.toInt) :
    -int64Bound ≤ x ∧ x < int64Bound := by
  have ha : a.toInt.natAbs ≤ 2147483648 := by
    have := a.le_toInt
    have := a.toInt_lt
    omega
  have hb : b.toInt.natAbs ≤ 2147483648 := by
    have := b.le_toInt
    have := b.toInt_lt
    omega
  have product : (a.toInt * b.toInt).natAbs ≤ 4611686018427387904 := by
    rw [Int.natAbs_mul]
    exact Nat.mul_le_mul ha hb
  unfold int64Bound
  omega

/-- The exact result of an arithmetic row is a signed 64-bit value, whatever its operands, so
64-bit arithmetic computes it without overflow. -/
theorem Word.effect_arith_fits {ir : Word} {r : Registers} {n : Nat} {x : Int}
    (arith : ir.effect r = .arith n x) : -int64Bound ≤ x ∧ x < int64Bound := by
  obtain ⟨a, b, exact⟩ := Word.effect_arith arith
  exact fits_int64_of_int32 a b exact

/-- One step of the processor over a bus that serves every access follows the instruction
table: it fetches the word at the program counter and carries out that word's row from the state
the fetch left, and the exact result of an arithmetic row is a signed 64-bit value. -/
theorem Cpu.step_follows_table (serves : bus.Serves) (cpu : Cpu) (s : σ) :
    let pc := Int32.ofNat cpu.context.pc
    let row := (bus.answer pc s).effect cpu.context.registers
    let done := row.perform bus cpu.context (bus.read pc s).2
    (cpu.step bus).run s = (done.1.finish cpu, done.2) ∧
      ∀ n x, row = .arith n x → -int64Bound ≤ x ∧ x < int64Bound :=
  ⟨Cpu.step_table serves cpu s, fun _ _ arith => Word.effect_arith_fits arith⟩

/-- The bus of a total memory serves every access. -/
theorem Bus.total_serves (limit : Nat) : (Bus.total limit).Serves :=
  ⟨fun a m => ⟨m a, rfl⟩, fun _ _ _ => rfl, fun _ _ => rfl⟩

end Serving

/-- The table at a processor whose registers 1 and 2 hold the largest 32-bit value, over memory
holding `MULT 1, 2` everywhere: an exact product far outside -32767 ..= 32767. -/
theorem Cpu.mult_step_follows_table :
    let cpu : Cpu :=
      { context := { registers := ((Vector.replicate 10 0).set 1 2147483647).set 2 2147483647 }
        slice := { delta := 3 } }
    let m : Int32 → Word := fun _ => ⟨.mult, 1, 2, 0⟩
    (Bus.total 4).Serves ∧
      let pc := Int32.ofNat cpu.context.pc
      let row := ((Bus.total 4).answer pc m).effect cpu.context.registers
      let done := row.perform (Bus.total 4) cpu.context ((Bus.total 4).read pc m).2
      (cpu.step (Bus.total 4)).run m = (done.1.finish cpu, done.2) ∧
        ∀ n x, row = .arith n x → -int64Bound ≤ x ∧ x < int64Bound :=
  ⟨Bus.total_serves 4, Cpu.step_follows_table (Bus.total_serves 4) _ _⟩

end PagedMachine
