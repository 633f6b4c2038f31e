import PagedMachine.Proofs.Exec

/-!
# Watching the accesses of an instruction

A bus can be watched: `Bus.watched` runs it and keeps, beside its state, a flag that is
cleared at the first access a check rejects. Watching changes nothing an instruction does: a
program run over the watched bus mirrors its run over the bus itself (`Exec.Mirrors`), for
every instruction and so for every processor step (`Cpu.step_watched`). The same holds of every
bus that keeps something of its own beside the state and answers as the bus it runs
(`Bus.Shadows`, `Cpu.step_shadows`). A bus that keeps an
invariant under which every check passes keeps the flag set (`Exec.Keeps.watched`).

Jumps land below 2^31, and a fetch from a bus that refuses negative addresses succeeds only
below 2^31, so no step takes the program counter past 2^31 (`Cpu.step_pc_le`).
-/

namespace PagedMachine

namespace Bus

variable {σ τ : Type}

/-- Runs `bus`, and clears the flag beside its state at an access whose check fails on the
address and the state the access starts from. -/
def watched (bus : Bus σ) (readOk writeOk probeOk : Int32 → σ → Bool) : Bus (σ × Bool) where
  read a s := ((bus.read a s.1).1, (bus.read a s.1).2, s.2 && readOk a s.1)
  write a w s := ((bus.write a w s.1).1, (bus.write a w s.1).2, s.2 && writeOk a s.1)
  probeWrite a s := ((bus.probeWrite a s.1).1, (bus.probeWrite a s.1).2, s.2 && probeOk a s.1)
  requestIo kind s := (bus.requestIo kind s.1, s.2)
  limit := bus.limit

/-- Watching a bus keeps its limit. -/
@[simp] theorem watched_limit (bus : Bus σ) (readOk writeOk probeOk : Int32 → σ → Bool) :
    (bus.watched readOk writeOk probeOk).limit = bus.limit := rfl

/-- A bus over a state with a companion beside it shadows `bus` when each of its accesses
answers as the same access of `bus` and leaves the state where that access leaves it, whatever
it does to the companion. -/
structure Shadows (b : Bus (σ × τ)) (bus : Bus σ) : Prop where
  limit : b.limit = bus.limit
  read : ∀ a s x, ((b.read a (s, x)).1, (b.read a (s, x)).2.1) = bus.read a s
  write : ∀ a w s x, ((b.write a w (s, x)).1, (b.write a w (s, x)).2.1) = bus.write a w s
  probe : ∀ a s x, ((b.probeWrite a (s, x)).1, (b.probeWrite a (s, x)).2.1) = bus.probeWrite a s
  request : ∀ k s x, (b.requestIo k (s, x)).1 = bus.requestIo k s

/-- A watched bus answers as the bus it watches. -/
theorem watched_shadows (bus : Bus σ) (readOk writeOk probeOk : Int32 → σ → Bool) :
    (bus.watched readOk writeOk probeOk).Shadows bus :=
  ⟨rfl, fun _ _ _ => rfl, fun _ _ _ _ => rfl, fun _ _ _ => rfl, fun _ _ _ => rfl⟩

end Bus

namespace Exec

variable {σ τ α β : Type}

/-- A program over a state with a companion mirrors one over the plain state: from every state
and companion it ends with the same result in the same state. -/
def Mirrors (x : Exec (σ × τ) α) (y : Exec σ α) : Prop :=
  ∀ s b, ((x.run.run (s, b)).1, (x.run.run (s, b)).2.1) = y.run.run s

/-- A value returned alike is mirrored. -/
theorem mirrors_pure (a : α) : Mirrors (pure a : Exec (σ × τ) α) (pure a) := fun _ _ => rfl

/-- A trap raised alike is mirrored. -/
theorem mirrors_throw (t : Trap) : Mirrors (throw t : Exec (σ × τ) α) (throw t) :=
  fun _ _ => rfl

/-- Mirrored parts composed alike are mirrored. -/
theorem mirrors_bind {x : Exec (σ × τ) α} {y : Exec σ α} {f : α → Exec (σ × τ) β}
    {g : α → Exec σ β} (first : Mirrors x y) (rest : ∀ a, Mirrors (f a) (g a)) :
    Mirrors (x >>= f) (y >>= g) := by
  intro s b
  have mirrored := first s b
  rw [run_bind, run_bind]
  generalize x.run.run (s, b) = r at mirrored ⊢
  rcases r with ⟨t | a, s', b'⟩
  · rw [← mirrored]
  · rw [← mirrored]
    exact rest a s' b'

/-- A choice between mirrored branches is mirrored. -/
theorem mirrors_ite (c : Prop) [Decidable c] {x x' : Exec (σ × τ) α} {y y' : Exec σ α}
    (yes : Mirrors x y) (no : Mirrors x' y') :
    Mirrors (if c then x else x') (if c then y else y') := by
  by_cases holds : c
  · rw [if_pos holds, if_pos holds]
    exact yes
  · rw [if_neg holds, if_neg holds]
    exact no

/-- A dependent choice between mirrored branches is mirrored. -/
theorem mirrors_dite (c : Prop) [Decidable c] {x : c → Exec (σ × τ) α}
    {x' : ¬c → Exec (σ × τ) α} {y : c → Exec σ α} {y' : ¬c → Exec σ α}
    (yes : ∀ h, Mirrors (x h) (y h)) (no : ∀ h, Mirrors (x' h) (y' h)) :
    Mirrors (if h : c then x h else x' h) (if h : c then y h else y' h) := by
  by_cases holds : c
  · rw [dif_pos holds, dif_pos holds]
    exact yes holds
  · rw [dif_neg holds, dif_neg holds]
    exact no holds

variable {b : Bus (σ × τ)} {bus : Bus σ}

/-- An access of a shadowing bus mirrors the same access of the bus it shadows. -/
theorem mirrors_access {run : σ × τ → Except AccessFault α × (σ × τ)}
    {run' : σ → Except AccessFault α × σ}
    (answers : ∀ s x, ((run (s, x)).1, (run (s, x)).2.1) = run' s) :
    Mirrors (Bus.access run) (Bus.access run') := by
  intro s x
  simp only [run_access]
  have same := answers s x
  rw [← same]

/-- A load over a bus that shadows another mirrors the load over it. -/
theorem mirrors_load (shadows : b.Shadows bus) (a : Int32) : Mirrors (b.load a) (bus.load a) :=
  mirrors_access (shadows.read a)

/-- A store over a bus that shadows another mirrors the store over it. -/
theorem mirrors_store (shadows : b.Shadows bus) (a : Int32) (w : Word) :
    Mirrors (b.store a w) (bus.store a w) :=
  mirrors_access (shadows.write a w)

/-- A probe over a bus that shadows another mirrors the probe over it. -/
theorem mirrors_probe (shadows : b.Shadows bus) (a : Int32) : Mirrors (b.probe a) (bus.probe a) :=
  mirrors_access (shadows.probe a)

/-- A console request over a bus that shadows another mirrors the request over it. -/
theorem mirrors_request (shadows : b.Shadows bus) (kind : IoKind) :
    Mirrors (b.request kind) (bus.request kind) := by
  intro s x
  show (Except.ok (), (b.requestIo kind (s, x)).1) = (Except.ok (), bus.requestIo kind s)
  rw [shadows.request]

end Exec

namespace Execute

open Exec

variable {σ τ : Type} {b : Bus (σ × τ)} {bus : Bus σ}

-- The helpers below never touch the bus; each mirrors itself.

/-- Reading a register touches no bus and is mirrored. -/
theorem mirrors_reg (regs : Registers) (r : Nat) :
    Mirrors (reg regs r : Exec (σ × τ) Int32) (reg regs r) :=
  mirrors_dite _ (fun _ => mirrors_pure _) fun _ => mirrors_throw _

/-- Checking a register touches no bus and is mirrored. -/
theorem mirrors_checkReg (r : Nat) :
    Mirrors (checkReg r : Exec (σ × τ) Unit) (checkReg r) :=
  mirrors_ite _ (mirrors_pure _) (mirrors_throw _)

/-- Setting a register touches no bus and is mirrored. -/
theorem mirrors_setReg (regs : Registers) (r : Nat) (v : Int32) :
    Mirrors (setReg regs r v : Exec (σ × τ) Registers) (setReg regs r v) :=
  mirrors_dite _ (fun _ => mirrors_pure _) fun _ => mirrors_throw _

/-- An arithmetic update touches no bus and is mirrored. -/
theorem mirrors_arith (regs : Registers) (ra : Nat) (f : Int → Int) :
    Mirrors (arith regs ra f : Exec (σ × τ) Registers) (arith regs ra f) :=
  mirrors_bind (mirrors_reg regs ra) fun _ =>
    mirrors_ite _ (mirrors_throw _) (mirrors_setReg _ _ _)

/-- Checking a jump target touches no bus and is mirrored. -/
theorem mirrors_jumpTarget (limit : Nat) (t : Int32) :
    Mirrors (jumpTarget limit t : Exec (σ × τ) Nat) (jumpTarget limit t) :=
  mirrors_ite _ (mirrors_throw _) (mirrors_pure _)

/-- A conditional jump to an immediate target is mirrored. -/
theorem mirrors_jumpIf (limit : Nat) (taken : Bool) (t : Int32) :
    Mirrors (jumpIf limit taken t : Exec (σ × τ) Flow) (jumpIf limit taken t) :=
  mirrors_ite _ (mirrors_bind (mirrors_jumpTarget limit t) fun _ => mirrors_pure _)
    (mirrors_pure _)

/-- A conditional jump through memory over a shadowing bus is mirrored. -/
theorem mirrors_jumpIndirectIf (shadows : b.Shadows bus) (taken : Bool) (p : Int32) :
    Mirrors (jumpIndirectIf b taken p) (jumpIndirectIf bus taken p) := by
  unfold jumpIndirectIf
  rw [shadows.limit]
  exact mirrors_ite _ (mirrors_bind (mirrors_load shadows p) fun w =>
    mirrors_bind (mirrors_jumpTarget bus.limit w.p) fun _ => mirrors_pure _) (mirrors_pure _)

/-- A system call over a shadowing bus is mirrored. -/
theorem mirrors_syscall (shadows : b.Shadows bus) (regs : Registers) :
    Mirrors (syscall b regs) (syscall bus regs) := by
  unfold syscall
  dsimp only
  repeat' first
    | exact mirrors_pure _
    | exact mirrors_throw _
    | exact mirrors_reg _ _
    | exact mirrors_probe shadows _
    | exact mirrors_load shadows _
    | exact mirrors_request shadows _
    | refine mirrors_ite _ ?_ ?_
    | refine mirrors_bind ?_ fun _ => ?_

/-- Every instruction does over a shadowing bus what it does over the bus it shadows. -/
theorem mirrors_run (shadows : b.Shadows bus) (ir : Word) (regs : Registers) :
    Mirrors (run b ir regs) (run bus ir regs) := by
  cases opcode : ir.opcode
  all_goals
    simp only [run, opcode, shadows.limit]
    -- match the two programs bind by bind; matching is syntactic, so no program is unfolded
    repeat' with_reducible first
      | refine mirrors_bind ?_ fun _ => ?_
      | exact mirrors_reg _ _
      | exact mirrors_checkReg _
      | exact mirrors_setReg _ _ _
      | exact mirrors_arith _ _ _
      | exact mirrors_jumpTarget _ _
      | exact mirrors_jumpIf _ _ _
      | exact mirrors_jumpIndirectIf shadows _ _
      | exact mirrors_syscall shadows _
      | exact mirrors_load shadows _
      | exact mirrors_store shadows _ _
      | exact mirrors_pure _
      | exact mirrors_throw _

end Execute

namespace Cpu

open Exec

variable {σ τ : Type} {b : Bus (σ × τ)} {bus : Bus σ}

/-- A step over a shadowing bus leaves the processor and the state as a step over the bus it
shadows does. -/
theorem step_shadows (shadows : b.Shadows bus) (cpu : Cpu) (s : σ) (x : τ) :
    ((cpu.step b).run (s, x)).1 = ((cpu.step bus).run s).1 ∧
      ((cpu.step b).run (s, x)).2.1 = ((cpu.step bus).run s).2 := by
  have fetched : Mirrors (cpu.fetchExecute b) (cpu.fetchExecute bus) :=
    mirrors_bind (mirrors_load shadows _) fun ir => Execute.mirrors_run shadows ir _
  have mirrored := fetched s x
  rw [Cpu.run_step, Cpu.run_step]
  generalize (cpu.fetchExecute b).run.run (s, x) = r at mirrored ⊢
  rw [← mirrored]
  rcases r with ⟨(t | ⟨regs, _ | target | _⟩), s', x'⟩ <;> exact ⟨rfl, rfl⟩

/-- Watching the bus changes neither the processor nor the state a step ends in. -/
theorem step_watched (bus : Bus σ) (readOk writeOk probeOk : Int32 → σ → Bool) (cpu : Cpu)
    (s : σ) (b : Bool) :
    ((cpu.step (bus.watched readOk writeOk probeOk)).run (s, b)).1 = ((cpu.step bus).run s).1 ∧
      ((cpu.step (bus.watched readOk writeOk probeOk)).run (s, b)).2.1 =
        ((cpu.step bus).run s).2 :=
  step_shadows (Bus.watched_shadows bus readOk writeOk probeOk) cpu s b

end Cpu

namespace Exec

variable {σ α : Type} {bus : Bus σ} {inv : σ → Prop} {fault : Trap → σ → Prop}
  {readOk writeOk probeOk : Int32 → σ → Bool}

/-- An access that meets a condition meets it over the watched state, the flag kept set. -/
theorem AccessPost.watched {r : Except AccessFault α × σ} (post : AccessPost r inv fault) :
    AccessPost (r.1, r.2, true) (fun s => s.2 = true ∧ inv s.1)
      (fun t s => s.2 = true ∧ fault t s.1) := by
  rcases r with ⟨_ | _, s'⟩
  · exact ⟨rfl, post⟩
  · exact ⟨rfl, post⟩

/-- A watched bus keeps its flag set, with the invariant its bus keeps, when every check passes
in the invariant's states. -/
theorem Keeps.watched (keeps : Keeps bus inv fault)
    (reads : ∀ a s, inv s → readOk a s = true) (writes : ∀ a s, inv s → writeOk a s = true)
    (probes : ∀ a s, inv s → probeOk a s = true) :
    Keeps (bus.watched readOk writeOk probeOk) (fun s => s.2 = true ∧ inv s.1)
      (fun t s => s.2 = true ∧ fault t s.1) where
  read a s hs := by
    show AccessPost ((bus.read a s.1).1, (bus.read a s.1).2, s.2 && readOk a s.1) _ _
    rw [hs.1, reads a s.1 hs.2]
    exact (keeps.read a s.1 hs.2).watched
  write a w s hs := by
    show AccessPost ((bus.write a w s.1).1, (bus.write a w s.1).2, s.2 && writeOk a s.1) _ _
    rw [hs.1, writes a s.1 hs.2]
    exact (keeps.write a w s.1 hs.2).watched
  probe a s hs := by
    show AccessPost ((bus.probeWrite a s.1).1, (bus.probeWrite a s.1).2, s.2 && probeOk a s.1)
      _ _
    rw [hs.1, probes a s.1 hs.2]
    exact (keeps.probe a s.1 hs.2).watched
  own s hs :=
    have own := keeps.own s.1 hs.2
    ⟨⟨hs.1, own.1⟩, ⟨hs.1, own.2.1⟩, ⟨hs.1, own.2.2.1⟩, ⟨hs.1, own.2.2.2⟩⟩

end Exec

/-! ## Where the program counter can go -/

namespace Context

/-- 2^31: the first address a signed 32-bit word cannot name. -/
def pcBound : Nat := 2147483648

/-- A jump target taken from a word lies below the bound. -/
theorem toNat_lt_pcBound (t : Int32) : t.toInt.toNat < pcBound := by
  have := Int32.toInt_lt t
  unfold pcBound
  omega

/-- A counter at most the bound whose fetch address is not negative lies below it: at the
bound itself the fetch address wraps to -2^31. -/
theorem lt_pcBound_of_fetch {pc : Nat} (bounded : pc ≤ pcBound)
    (fetched : ¬(Int32.ofNat pc).toInt < 0) : pc < pcBound := by
  rcases Nat.lt_or_ge pc pcBound with below | top
  · exact below
  · have top : pc = pcBound := Nat.le_antisymm bounded top
    subst top
    exact absurd (by decide) fetched

end Context

namespace Exec

variable {σ : Type} (bus : Bus σ)

/-- Every bus keeps the invariant that says nothing. -/
theorem keeps_trivial : Keeps bus (fun _ => True) fun _ _ => True where
  read a s _ := by unfold AccessPost; split <;> trivial
  write a w s _ := by unfold AccessPost; split <;> trivial
  probe a s _ := by unfold AccessPost; split <;> trivial
  own _ _ := ⟨trivial, trivial, trivial, trivial⟩

/-- Every run ends somewhere: the condition that asks nothing holds after it. -/
@[simp] theorem post_trivial {α : Type} (x : Exec σ α) (s : σ) :
    Post x s (fun _ _ => True) fun _ _ => True := by
  unfold Post
  split <;> trivial

end Exec

open Exec

/-- A completed instruction jumps only below 2^31. -/
theorem Execute.run_jump_lt {σ : Type} (bus : Bus σ) (ir : Word) (regs : Registers) (s : σ) :
    Post (Execute.run bus ir regs) s (fun r _ => ∀ t, r.2 = .jump t → t < Context.pcBound)
      fun _ _ => True := by
  -- a completed instruction that does not jump asks nothing; a jump lands on a word's value
  cases opcode : ir.opcode
  all_goals simp +contextual only [Execute.run, opcode, post_bind, post_pure, post_throw,
    post_jumpIf, post_jumpTarget, reduceCtorEq, Flow.jump.injEq, forall_eq',
    Context.toNat_lt_pcBound, implies_true, ite_self, false_implies, Execute.jumpIndirectIf,
    Execute.syscall, post_ite, post_trivial]

/-- A step from a counter at most 2^31, over a bus whose reads of negative addresses fail,
ends with a counter at most 2^31: the counter moves on only past a word it fetched, which
lies below 2^31, or to a jump target, which does too. -/
theorem Cpu.step_pc_le {σ : Type} (bus : Bus σ)
    (negative : ∀ a s, a.toInt < 0 → ∃ e s', bus.read a s = (.error e, s')) (cpu : Cpu)
    (bounded : cpu.context.pc ≤ Context.pcBound) (s : σ) :
    ((cpu.step bus).run s).1.1.context.pc ≤ Context.pcBound := by
  -- a fetch that succeeds read a non-negative address
  have fetched : Post (cpu.fetchExecute bus) s
      (fun r _ => cpu.context.pc < Context.pcBound ∧
        ∀ t, r.2 = .jump t → t < Context.pcBound) fun _ _ => True := by
    unfold Cpu.fetchExecute
    rw [post_bind]
    by_cases below : (Int32.ofNat cpu.context.pc).toInt < 0
    · obtain ⟨e, s', failed⟩ := negative _ s below
      unfold Post
      simp only [Bus.load, run_access, failed]
      trivial
    · apply post_load (keeps_trivial bus) _ trivial
      intro ir s' _
      have jumps := Execute.run_jump_lt bus ir cpu.context.registers s'
      unfold Post at jumps ⊢
      split <;> simp_all [Context.lt_pcBound_of_fetch bounded below]
  unfold Post at fetched
  rw [Cpu.run_step]
  generalize (cpu.fetchExecute bus).run.run s = r at fetched ⊢
  rcases r with ⟨(t | ⟨regs, _ | target | _⟩), s'⟩
  · exact bounded
  all_goals simp only [Cpu.complete] at fetched ⊢
  · omega
  · exact Nat.le_of_lt (fetched.2 target rfl)
  · omega

end PagedMachine
