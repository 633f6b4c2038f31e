import PagedMachine.Proofs.Lockstep
import PagedMachine.Cpu.Flat

/-!
# The reference machine of a process

What a process computes with paging taken away. The processor runs the process's program
over flat memory of as many words as its pages hold, initialised to its image padded with
`DATA 0`, with jumps bounded by the words the program needs. No address is ever absent, so
no access faults for want of a page. A read from the console stores the value supplied for it
as data at the address the read named; a write asks for the value stored at `r9`.

The machine is driven by what the process was seen to do (`Reference.Input`): an instruction
it completed, or an answer the console gave to one of its requests.

Main statements: a step reads the processor only through its context (`Cpu.step_congr`); the
flat bus answers every access by the word array alone (`FlatMemory.read_eq` and its
siblings); and whatever drives the machine, its memory keeps its size and never has an absent
address (`Reference.shaped_drive`).
-/

namespace PagedMachine

/-- Whether a step that raised `trap` completed its instruction: it raised nothing, only the
timer, or waits for the console after a system call. -/
def Trap.completes : Option Trap → Bool
  | none | some .timer | some .ioWait => true
  | some _ => false

variable {σ : Type}

/-- Two processors with one context step alike: the bus ends in one state, the contexts after
the step agree, and so does whether the instruction completed. -/
theorem Cpu.step_congr {cpu cpu' : Cpu} (same : cpu.context = cpu'.context) (bus : Bus σ)
    (s : σ) :
    ((cpu.step bus).run s).2 = ((cpu'.step bus).run s).2 ∧
      ((cpu.step bus).run s).1.1.context = ((cpu'.step bus).run s).1.1.context ∧
      Trap.completes ((cpu.step bus).run s).1.2 = Trap.completes ((cpu'.step bus).run s).1.2 := by
  have fetch : cpu.fetchExecute bus = cpu'.fetchExecute bus := by
    unfold Cpu.fetchExecute
    rw [same]
  rw [Cpu.run_step, Cpu.run_step, fetch, same]
  rcases (cpu'.fetchExecute bus).run.run s with ⟨t | ⟨regs, _ | target | _⟩, s'⟩
  · exact ⟨rfl, same, rfl⟩
  · simp only [Cpu.complete]
    split <;> split <;> simp [Trap.completes]
  · simp only [Cpu.complete]
    split <;> split <;> simp [Trap.completes]
  · simp

namespace FlatMemory

variable {m : FlatMemory} {limit : Nat} {a : Int32}

/-- Whether `a` lies outside the memory. -/
def outside (m : FlatMemory) (a : Int32) : Prop := a.toInt < 0 ∨ m.words.size ≤ a.toInt.toNat

/-- Whether an address lies outside memory is decided by its two comparisons. -/
instance (m : FlatMemory) (a : Int32) : Decidable (m.outside a) :=
  inferInstanceAs (Decidable (_ ∨ _))

/-- With no page absent, an access inside memory is its address and any other is invalid. -/
theorem access_eq (none : m.absent = []) :
    m.access a = if m.outside a then (.error .invalidAddress, m) else (.ok a.toInt.toNat, m) := by
  simp [access, outside, none]

/-- With no page absent, a read inside memory gives the word there, padded with empty words. -/
theorem read_eq (none : m.absent = []) :
    (bus limit).read a m =
      if m.outside a then (.error .invalidAddress, m)
      else (.ok (m.words.getD a.toInt.toNat Word.empty), m) := by
  by_cases o : m.outside a <;> simp [bus, access_eq none, o]

/-- With no page absent, a write inside memory sets the word there. -/
theorem write_eq (none : m.absent = []) (w : Word) :
    (bus limit).write a w m =
      if m.outside a then (.error .invalidAddress, m)
      else (.ok (), { m with words := m.words.setIfInBounds a.toInt.toNat w }) := by
  by_cases o : m.outside a <;> simp [bus, access_eq none, o]

/-- With no page absent, a probe inside memory succeeds. -/
theorem probeWrite_eq (none : m.absent = []) :
    (bus limit).probeWrite a m =
      if m.outside a then (.error .invalidAddress, m) else (.ok (), m) := by
  by_cases o : m.outside a <;> simp [bus, access_eq none, o]

/-- The words of memory holding `program` padded to `size` words, with none past them. -/
theorem getElem?_ofProgram (program : List Word) (size pageSize : Nat) (absent : List Int32)
    (fits : program.length ≤ size) (i : Nat) :
    (ofProgram program size pageSize absent).words[i]? =
      if i < size then some (program.getD i (.data 0)) else none := by
  simp only [ofProgram, List.getElem?_toArray, List.getD_eq_getElem?_getD]
  by_cases inside : i < size
  · rw [if_pos inside]
    by_cases early : i < program.length
    · simp [List.getElem?_append_left early, List.getElem?_eq_getElem early]
    · rw [List.getElem?_append_right (by omega), List.getElem?_replicate,
        if_pos (by omega)]
      simp [List.getElem?_eq_none (Nat.le_of_not_lt early)]
  · rw [if_neg inside, List.getElem?_eq_none]
    simp only [List.length_append, List.length_replicate]
    omega

end FlatMemory

/-- The reference machine of a process: its context, and its flat memory with the console
requests made so far. -/
structure Reference where
  context : Context
  memory : FlatMemory

namespace Reference

/-- What drives the machine: the process completed an instruction, or the console answered a
request of it, a read with `value`. -/
inductive Input where
  | step
  | answer (kind : IoKind) (value : Int32)
  deriving DecidableEq, Repr

/-- The processor the machine runs on; its time slice is never looked at. -/
def cpu (r : Reference) : Cpu := { context := r.context, slice := { delta := 1 } }

/-- Runs one instruction over flat memory with `limit` words to jump to. -/
def step (limit : Nat) (r : Reference) : Reference :=
  let ((cpu, _), memory) := (r.cpu.step (FlatMemory.bus limit)).run r.memory
  { context := cpu.context, memory }

/-- Stores a value the console supplied, as data at the address its read named, when the last
request was a read. -/
def supply (limit : Nat) (value : Int32) (r : Reference) : Reference :=
  match r.memory.io.back? with
  | some (.read addr) =>
    { r with memory := ((FlatMemory.bus limit).write addr (.data value) r.memory).2 }
  | _ => r

/-- Takes one input. -/
def take (limit : Nat) (r : Reference) : Input → Reference
  | .step => r.step limit
  | .answer _ value => r.supply limit value

/-- Takes inputs in order. -/
def drive (limit : Nat) (r : Reference) (inputs : List Input) : Reference :=
  inputs.foldl (take limit) r

/-- The machine of a process that has not run: the initial context, and memory of `words` words
holding `image` padded with `DATA 0`. -/
def start (image : Array Word) (words pageSize : Nat) : Reference :=
  { context := {}, memory := FlatMemory.ofProgram (image.toList.take words) words pageSize [] }

/-- The console requests answered, in order, among `inputs`. -/
def answered (inputs : List Input) : List IoKind :=
  inputs.filterMap fun
    | .answer kind _ => some kind
    | .step => none

/-- Driving a machine with no input leaves it. -/
@[simp] theorem drive_nil (limit : Nat) (r : Reference) : r.drive limit [] = r := rfl

/-- Driving with two lists of inputs drives with the first, then the second. -/
theorem drive_append (limit : Nat) (r : Reference) (inputs more : List Input) :
    r.drive limit (inputs ++ more) = (r.drive limit inputs).drive limit more := by
  simp [drive]

/-- Driving with one more input takes that input last. -/
@[simp] theorem drive_append_single (limit : Nat) (r : Reference) (inputs : List Input)
    (i : Input) : r.drive limit (inputs ++ [i]) = (r.drive limit inputs).take limit i := by
  simp [drive]

/-- The requests answered by two lists of inputs are those of the first, then the second. -/
@[simp] theorem answered_append (inputs more : List Input) :
    answered (inputs ++ more) = answered inputs ++ answered more := by
  simp [answered]

/-- A step answers no request. -/
@[simp] theorem answered_step : answered [.step] = [] := rfl

/-- An answer answers its request. -/
@[simp] theorem answered_answer (kind : IoKind) (value : Int32) :
    answered [.answer kind value] = [kind] := rfl

/-- The words of a machine that has not run: the image, then `DATA 0`, and nothing past
`words`. -/
theorem start_words (image : Array Word) (words pageSize i : Nat) :
    (start image words pageSize).memory.words[i]? =
      if i < words then some (image.getD i (.data 0)) else none := by
  have short : (image.toList.take words).length ≤ words := List.length_take_le _ _
  rw [start, FlatMemory.getElem?_ofProgram _ _ _ _ short]
  split
  · rename_i inside
    rw [List.getD_eq_getElem?_getD, List.getElem?_take_of_lt inside, Array.getElem?_toList,
      Array.getD_eq_getD_getElem?]
  · rfl

/-- Memory of `size` words with no absent address. -/
def Shaped (size : Nat) (m : FlatMemory) : Prop := m.absent = [] ∧ m.words.size = size

open Exec in
/-- Every access of the flat bus keeps memory shaped, and so does every trap. -/
theorem keeps_shaped (limit size : Nat) :
    Keeps (FlatMemory.bus limit) (Shaped size) (fun _ => Shaped size) where
  read a m shaped := by
    rw [FlatMemory.read_eq shaped.1]
    split <;> exact shaped
  write a w m shaped := by
    rw [FlatMemory.write_eq shaped.1]
    split
    · exact shaped
    · exact ⟨shaped.1, by simpa using shaped.2⟩
  probe a m shaped := by
    rw [FlatMemory.probeWrite_eq shaped.1]
    split <;> exact shaped
  own _ shaped := ⟨shaped, shaped, shaped, shaped⟩

/-- One input keeps memory shaped. -/
theorem Shaped.take {limit size : Nat} {r : Reference} (shaped : Shaped size r.memory)
    (i : Input) : Shaped size (r.take limit i).memory := by
  cases i with
  | step =>
    have request : ∀ k m, Shaped size m → Shaped size ((FlatMemory.bus limit).requestIo k m) :=
      fun _ _ shaped => shaped
    have post := Cpu.step_post (keeps_shaped limit size) request r.cpu shaped
    simp only [Reference.take, step]
    rcases post with ⟨-, ok⟩ | ⟨-, ok⟩ | ⟨-, ok⟩ | ⟨_, -, ok⟩ <;> exact ok
  | answer kind value =>
    simp only [Reference.take, supply]
    split
    · rename_i addr _
      have post := (keeps_shaped limit size).write addr (.data value) r.memory shaped
      unfold Exec.AccessPost at post
      revert post
      rcases (FlatMemory.bus limit).write addr (.data value) r.memory with ⟨_ | _, m'⟩ <;> exact id
    · exact shaped

/-- Whatever drives the machine, its memory keeps its size and has no absent address. -/
theorem shaped_drive {limit size : Nat} {r : Reference} (shaped : Shaped size r.memory)
    (inputs : List Input) : Shaped size (r.drive limit inputs).memory := by
  induction inputs generalizing r with
  | nil => exact shaped
  | cons i rest ih => exact ih (shaped.take i)

end Reference

end PagedMachine
