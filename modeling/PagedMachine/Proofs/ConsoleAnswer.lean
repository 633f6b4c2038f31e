import PagedMachine.Proofs.StepMirror

/-!
# An answer of the console against the reference machines

The console answers a request of process `t`, which waits for it alone. The reference machine
of `t` takes the answer (`Reference.supply`): a write changes nothing, a read stores its value as
data at the address the read named. The kernel stores the value through the page table when the
page is present, keeps it with the process while the page loads, ends the process at an address
past its pages, and halts when no frame can be had.

`Kernel.SeesStore` is what the answered process sees of the change: one word stored, and
nothing else. The address read lies in a page the process has, so inside the memory of its
reference machine (`Kernel.Matches.inside`), and both store the value at the same place.

Main statement: answering a request the console took keeps every process matching its reference
machine, the process answered after the answer and every other after the inputs it had
(`Kernel.Mirrored.answer`).
-/

namespace PagedMachine

namespace Reference

variable {r : Reference} {limit : Nat} {value : Int32}

/-- Storing a value the console supplied leaves the context. -/
theorem supply_context (limit : Nat) (value : Int32) (r : Reference) :
    (r.supply limit value).context = r.context := by
  unfold supply
  split <;> rfl

/-- Taking an answer keeps the console requests the machine made. -/
theorem supply_io (none : r.memory.absent = []) :
    (r.supply limit value).memory.io = r.memory.io := by
  unfold supply
  split
  · rw [FlatMemory.write_eq none]
    split <;> rfl
  · rfl

/-- The answer to a write changes nothing. -/
theorem supply_of_write {v : Int32} (last : r.memory.io.back? = some (.write v)) :
    r.supply limit value = r := by
  simp only [supply, last]

/-- The answer to a read inside memory stores its value as data at the address read. -/
theorem supply_of_read {addr : Int32} (last : r.memory.io.back? = some (.read addr))
    (none : r.memory.absent = []) (inside : ¬r.memory.outside addr) :
    (r.supply limit value).memory.words =
      r.memory.words.setIfInBounds addr.toInt.toNat (.data value) := by
  simp only [supply, last, FlatMemory.write_eq none, if_neg inside]

end Reference

namespace MemoryManager

open Scheduler

variable {mm mm' : MemoryManager} {s s' : Scheduler}

/-- A translation that faults on a page was of a nonnegative address of a page the process
has. -/
theorem translate_pageFault_entry {pid : Nat} {va : Int32} {write : Bool} {page : Nat}
    (faulted : mm.translate s pid va write = (.error (.pageFault page), mm', s')) :
    0 ≤ va.toInt ∧ ( entry? s pid (va.toInt.toNat / mm.pageSize)).isSome := by
  unfold translate at faulted
  split at faulted
  · cases faulted
  · rename_i valid
    simp only [tick] at faulted
    split at faulted
    · cases faulted
    · rename_i e found
      exact ⟨by omega, by rw [found]; rfl⟩

end MemoryManager

namespace Kernel

open Scheduler MemoryManager Reference

variable {k k' k'' : Kernel} {d d' : Devices}

/-- Keeping a console value for a process keeps every context. -/
theorem contextsKept_deferInput (s : Scheduler) (pid : Nat) (addr value : Int32) :
    ContextsKept s (deferInput s pid addr value) := by
  unfold deferInput
  split
  · exact .refl s
  · exact .modify pid fun _ => ⟨rfl, rfl⟩

/-- Answering the request at position `i` of those the console took: its process had that
request alone, and has none after; every other process keeps its requests. -/
theorem pending_answer {i : Nat} {req : IoRequest} (taken : d.taken[i]? = some req)
    (console : k.sched.ConsoleAgree (k.console ++ d.taken)) :
    k.pending d req.pid = [req.kind] ∧
      ∀ q, k.pending { d with taken := d.taken.eraseIdx i } q =
        if q = req.pid then [] else k.pending d q := by
  have split : d.taken = d.taken.take i ++ req :: d.taken.drop (i + 1) := by
    obtain ⟨bound, rfl⟩ := List.getElem?_eq_some_iff.1 taken
    rw [← List.drop_eq_getElem_cons bound, List.take_append_drop]
  have erased := List.eraseIdx_eq_take_drop_succ d.taken i
  -- the request answered was the only one of its process
  have alone : ∀ r ∈ d.taken.eraseIdx i ++ k.console, r.pid ≠ req.pid := by
    have others := (console.answered (outstanding_perm (perm_eraseIdx taken))).2
    intro r listed
    exact others r (by simpa [or_comm] using listed)
  have none : ∀ l : List IoRequest, (∀ r ∈ l, r.pid ≠ req.pid) →
      l.filter (·.pid == req.pid) = [] :=
    fun l far => List.filter_eq_nil_iff.2 fun r listed => by simpa using far r listed
  refine ⟨?_, fun q => ?_⟩
  · unfold pending
    rw [split, List.append_assoc, List.cons_append, List.filter_append,
      List.filter_cons_of_pos (by simp),
      none _ fun r listed => alone r (by rw [erased]; simp [listed]),
      none _ fun r listed => alone r (by rw [erased]; simp at listed ⊢; tauto)]
    rfl
  · by_cases mine : q = req.pid
    · subst mine
      rw [if_pos rfl]
      unfold pending
      rw [none _ alone]
      rfl
    · rw [if_neg mine]
      unfold pending
      dsimp only
      conv_rhs => rw [split]
      rw [erased]
      simp [List.filter_append, Ne.symm mine]

/-- Devices that hold the same disk operations and the same requests of `q` look alike to
`q`. -/
theorem seesNothing_devices (held : d'.held = d.held) {q : Nat}
    (requests : k.pending d' q = k.pending d q) : SeesNothing k d k d' q := fun cb found =>
  ⟨cb, found, rfl, rfl, requests, fun running => ⟨running, fun a => by
    rw [outstanding, outstanding, held]⟩⟩

/-- Process `t` saw of the change from `k` to `k'` only `w` stored at its address `a`: it kept
its shape, context and console requests, and unless the kernel halted it holds `w` at `a` and
every other word it held. -/
def SeesStore (k : Kernel) (k' : Kernel) (d : Devices) (t a : Nat) (w : Word) : Prop :=
  ∀ cb', k'.sched.get? t = some cb' → ∃ cb, k.sched.get? t = some cb ∧ cb'.shape = cb.shape ∧
    k'.sched.contextOf cb' = k.sched.contextOf cb ∧ k'.pending d t = k.pending d t ∧
    (k'.halted = none → k.halted = none ∧ ∀ b, k'.mm.wordAt? (k'.outstanding d) cb' b =
      if b = a then some w else k.mm.wordAt? (k.outstanding d) cb b)

variable {t a : Nat} {w : Word}

/-- Nothing seen, then one word stored, is that word stored. -/
theorem SeesNothing.seesStore (first : SeesNothing k d k' d t)
    (second : SeesStore k' k'' d t a w) : SeesStore k k'' d t a w := by
  intro cb'' found''
  obtain ⟨cb', found', shape', context', requests', words'⟩ := second cb'' found''
  obtain ⟨cb, found, shape, context, requests, words⟩ := first cb' found'
  refine ⟨cb, found, shape'.trans shape, context'.trans context, requests'.trans requests,
    fun running => ?_⟩
  obtain ⟨halted', same'⟩ := words' running
  obtain ⟨halted, same⟩ := words halted'
  exact ⟨halted, fun b => by rw [same' b, same b]⟩

/-- One word stored, then nothing seen, is that word stored. -/
theorem SeesStore.seesNothing (first : SeesStore k k' d t a w)
    (second : SeesNothing k' d k'' d t) : SeesStore k k'' d t a w := by
  intro cb'' found''
  obtain ⟨cb', found', shape', context', requests', words'⟩ := second cb'' found''
  obtain ⟨cb, found, shape, context, requests, words⟩ := first cb' found'
  refine ⟨cb, found, shape'.trans shape, context'.trans context, requests'.trans requests,
    fun running => ?_⟩
  obtain ⟨halted', same'⟩ := words' running
  obtain ⟨halted, same⟩ := words halted'
  exact ⟨halted, fun b => (same' b).trans (same b)⟩

/-- An answer of the console leaves its queue alone. -/
theorem console_ioDone (k : Kernel) (c : IoCompletion) : (k.ioDone c).console = k.console := by
  cases c with
  | write pid => rfl
  | read pid addr value =>
    simp only [ioDone]
    split
    · rfl
    · split <;> rfl

/-- An answer of the console brings back no process. -/
theorem get?_ioDone_of_none {req : IoRequest} (gone : k.sched.get? req.pid = none)
    (value : Int32) : (k.ioDone (req.answer value)).sched.get? req.pid = none := by
  have dead : k.sched.contains req.pid = false := by
    cases alive : k.sched.contains req.pid
    · rfl
    · obtain ⟨cb, found⟩ := (contains_iff _ _).1 alive
      rw [gone] at found
      cases found
  unfold IoRequest.answer
  split
  · simp only [Kernel.ioDone, dead, Bool.not_false, if_true]
    exact gone
  · have view := unscheduled_paging.unblock (s := k.sched) req.pid BlockReason.ioOnly .ioCompleted
      req.pid
    rw [gone, Option.map_none] at view
    exact Option.map_eq_none_iff.1 view

variable {inputs : List Input} {cb cb' : ControlBlock} {kind : IoKind} {value : Int32}

/-- The last request of the machine of a process whose one request outstanding is `kind`. -/
theorem Matches.last (agrees : k.Matches d inputs t cb) (pending : k.pending d t = [kind]) :
    (cb.reference k.config.pageSize inputs).memory.io.back? = some kind := by
  simp [← Array.getLast?_toList, ← agrees.requests, pending]

/-- An address in a page the process has lies inside the memory of its reference machine. -/
theorem Matches.inside (agrees : k.Matches d inputs t cb) (halted : k.halted = none)
    {addr : Int32} (valid : 0 ≤ addr.toInt)
    (paged : (cb.pageTable.get? (addr.toInt.toNat / k.mm.pageSize)).isSome) :
    ¬(cb.reference k.config.pageSize inputs).memory.outside addr := by
  have word := agrees.words halted addr.toInt.toNat
  obtain ⟨e, entry⟩ := Option.isSome_iff_exists.1 paged
  rw [wordAt?, entry, Option.map_some] at word
  obtain ⟨fits, -⟩ := Array.getElem?_eq_some_iff.1 word.symm
  unfold FlatMemory.outside
  omega

/-- A process that took the answer to its one request outstanding matches its reference machine
after the answer, when it kept its shape and context and, unless the kernel halted, holds the
words the machine holds after taking the answer. -/
theorem Matches.answer (agrees : k.Matches d inputs t cb) (pending : k.pending d t = [kind])
    (answered : k'.pending d' t = []) (config : k'.config = k.config)
    (shape : cb'.shape = cb.shape) (context : k'.sched.contextOf cb' = k.sched.contextOf cb)
    (words : k'.halted = none → ∀ a, k'.mm.wordAt? (k'.outstanding d') cb' a =
      ((cb.reference k.config.pageSize inputs).supply cb.size value).memory.words[a]?) :
    k'.Matches d' (inputs ++ [.answer kind value]) t cb' := by
  have reference : cb'.reference k'.config.pageSize (inputs ++ [.answer kind value]) =
      (cb.reference k.config.pageSize inputs).supply cb.size value := by
    rw [config, ControlBlock.reference_congr shape]
    simp only [ControlBlock.reference, drive_append_single, take]
  refine ⟨?_, ?_, fun running a => ?_⟩
  · rw [context, agrees.context, reference, supply_context]
  · rw [reference, supply_io (cb.reference_absent _ _), ← agrees.requests, pending, answered,
      answered_append, answered_answer, List.append_nil]
  · rw [reference]
    exact words running a

/-- A process that saw nothing of the change that answered it matches its reference machine
after the answer, when the answer changes nothing of the machine or the kernel halted. -/
theorem Matches.answer_unseen (agrees : k.Matches d inputs t cb)
    (found : k.sched.get? t = some cb) (pending : k.pending d t = [kind])
    (unseen : SeesNothing k d k' d t)
    (answered : k'.pending d' t = []) (held : d'.held = d.held) (config : k'.config = k.config)
    (kept : k'.halted = none → (cb.reference k.config.pageSize inputs).supply cb.size value =
      cb.reference k.config.pageSize inputs)
    (found' : k'.sched.get? t = some cb') :
    k'.Matches d' (inputs ++ [.answer kind value]) t cb' := by
  obtain ⟨cb₀, found₀, shape, context, -, words⟩ := unseen cb' found'
  rw [found, Option.some.injEq] at found₀
  subst found₀
  refine agrees.answer pending answered config shape context fun running a => ?_
  obtain ⟨halted, same⟩ := words running
  rw [kept running, outstanding, held, ← outstanding, same a]
  exact agrees.words halted a

/-- A process that saw only the value of its read stored at the address read, in one of its
pages, matches its reference machine after the answer. -/
theorem Matches.answer_read {addr : Int32} (agrees : k.Matches d inputs t cb)
    (found : k.sched.get? t = some cb) (pending : k.pending d t = [.read addr])
    (valid : 0 ≤ addr.toInt)
    (paged : (cb.pageTable.get? (addr.toInt.toNat / k.mm.pageSize)).isSome)
    (sees : SeesStore k k' d t addr.toInt.toNat (.data value)) (answered : k'.pending d' t = [])
    (held : d'.held = d.held) (config : k'.config = k.config)
    (found' : k'.sched.get? t = some cb') :
    k'.Matches d' (inputs ++ [.answer (.read addr) value]) t cb' := by
  obtain ⟨cb₀, found₀, shape, context, -, words⟩ := sees cb' found'
  rw [found, Option.some.injEq] at found₀
  subst found₀
  refine agrees.answer pending answered config shape context fun running b => ?_
  obtain ⟨halted, stored⟩ := words running
  have inside := agrees.inside halted valid paged
  have fits : addr.toInt.toNat < (cb.reference k.config.pageSize inputs).memory.words.size := by
    unfold FlatMemory.outside at inside
    omega
  rw [outstanding, held, ← outstanding, stored b,
    supply_of_read (agrees.last pending) (cb.reference_absent _ _) inside,
    Array.getElem?_setIfInBounds]
  by_cases here : b = addr.toInt.toNat
  · rw [if_pos here, if_pos here.symm, if_pos fits]
  · rw [if_neg here, if_neg (Ne.symm here)]
    exact agrees.words halted b

/-- A process with no page loading keeps no console value. -/
theorem Stored.noInput (stored : k.Stored d) (found : k.sched.get? t = some cb)
    (idle : ∀ g, ¬Loading k.sched t g) : cb.pendingInput = none := by
  cases waiting : cb.pendingInput with
  | none => rfl
  | some input =>
    obtain ⟨e, entry, -, loading⟩ := stored.ordered.inputs t cb input.1 input.2 found waiting
    exact absurd ((loading_iff found _).2 ⟨e, entry, loading⟩) (idle _)

/-- After a translation for `t` that faulted, `t` has the page of the address, now loading, and
keeps the console value it kept. -/
theorem Settled.paged_of_pageFault (settled : k.Settled d) (found : k.sched.get? t = some cb)
    {va : Int32} {page : Nat} {mm : MemoryManager} {s : Scheduler}
    (translated : k.mm.translate k.sched t va true = (.error (.pageFault page), mm, s))
    {cb₁ : ControlBlock} (found₁ : s.get? t = some cb₁) :
    cb₁.pendingInput = cb.pendingInput ∧
      (cb₁.pageTable.get? (va.toInt.toNat / mm.pageSize)).isSome := by
  -- the translation changed page tables alone
  have same := untabled_withoutTable.translate k.mm t va true (s := k.sched)
  have agree := settled.frames.agree.translate t va true
  have shape := shapeKept_translate k.mm k.sched t va true
  rw [translated] at same agree shape
  obtain ⟨cb₀, pt, found₀, rfl⟩ := get?_of_untabled same found₁
  rw [found, Option.some.injEq] at found₀
  subst found₀
  have loading := translate_pageFault_loading settled.frames.agree translated
  rw [translate_pageFault_page translated, ← shape.pageSize] at loading
  obtain ⟨e, entry, -⟩ := entry_of_loading agree loading found₁
  exact ⟨rfl, by rw [entry]; rfl⟩

variable (settled : k.Settled d) (stored : k.Stored d)

section Stored

variable {va : Int32} {pa : Nat} {mm : MemoryManager} {s : Scheduler}
  (translated : k.mm.translate k.sched t va true = (.ok pa, mm, s)) (w : Word)

include settled stored translated

/-- A store through a translation is seen by the process translating as the word stored at its
address. -/
theorem seesStore_store :
    SeesStore { k with mm, sched := s } { k with mm := mm.write pa w, sched := s } d t
      va.toInt.toNat w :=
  fun cb' found' => ⟨cb', found', rfl, rfl, rfl, fun running => ⟨running, fun b => by
    rw [show ({ k with mm := mm.write pa w, sched := s } : Kernel).mm = mm.write pa w from rfl,
      wordAt?_store settled stored translated w _ found' b]
    simp only [true_and]
    rfl⟩⟩

end Stored

section Deferred

variable {s : Scheduler} {mm : MemoryManager} {va : Int32}

/-- Keeping a console value for an address of process `t`, which kept none, in a page it has:
`t` sees the value stored there. -/
theorem seesStore_deferInput (valid : 0 ≤ va.toInt) (value : Int32)
    (waiting : ∀ cb, s.get? t = some cb →
      cb.pendingInput = none ∧ (cb.pageTable.get? (va.toInt.toNat / mm.pageSize)).isSome) :
    SeesStore { k with mm, sched := s } { k with mm, sched := deferInput s t va value } d t
      va.toInt.toNat (.data value) := by
  intro cb' found'
  obtain ⟨cb₁, found₁, context⟩ := contextsKept_deferInput s t va value t cb' found'
  rw [get?_deferInput valid, if_pos rfl, found₁, Option.map_some, Option.some.injEq] at found'
  subst found'
  obtain ⟨noInput, paged⟩ := waiting cb₁ found₁
  obtain ⟨e, entry⟩ := Option.isSome_iff_exists.1 paged
  refine ⟨cb₁, found₁, rfl, context, rfl, fun running => ⟨running, fun b => ?_⟩⟩
  show mm.wordAt? _ { cb₁ with pendingInput := some (va.toInt.toNat, value) } b = _
  rw [wordAt?_setInput noInput]
  by_cases here : b = va.toInt.toNat
  · rw [if_pos here, if_pos here, here, entry]
    rfl
  · rw [if_neg here, if_neg here]
    rfl

/-- Keeping a console value for process `t` is seen by no other process. -/
theorem seesNothing_deferInput {q : Nat} (other : q ≠ t) (value : Int32) :
    SeesNothing { k with mm, sched := s } d { k with mm, sched := deferInput s t va value } d
      q := by
  intro cb' found'
  obtain ⟨cb, found, context⟩ := contextsKept_deferInput s t va value q cb' found'
  have same : (deferInput s t va value).get? q = s.get? q := by
    unfold deferInput
    split
    · rfl
    · rw [get?_modify, if_neg (Ne.symm other)]
  rw [same, found, Option.some.injEq] at found'
  subst found'
  exact ⟨cb, found, rfl, context, rfl, fun running => ⟨running, fun _ => rfl⟩⟩

end Deferred

include settled stored

/-- An answer of the console to process `req.pid` is seen by no other process. -/
theorem seesNothing_ioDone {req : IoRequest} (value : Int32) {q : Nat} (other : q ≠ req.pid) :
    SeesNothing k d (k.ioDone (req.answer value)) d q := by
  have woken : ∀ {k' : Kernel}, SeesNothing k' d
      { k' with sched := (k'.sched.unblock req.pid BlockReason.ioOnly .ioCompleted).2 } d q :=
    unseen_reschedule (unscheduled_paging.unblock _ _ _) (.unblock _ _ _) q
  unfold IoRequest.answer
  split
  · rename_i addr _
    by_cases live : k.sched.contains req.pid = true
    · rcases translated : k.mm.translate k.sched req.pid addr true with ⟨err | pa, mm, s⟩
      · have base := seesNothing_translate settled stored translated q
        cases err with
        | pageFault page =>
          rw [ioDone_read_pageFault live translated]
          exact ((base.trans (seesNothing_deferInput other value)).trans
            (unseen_reschedule (unscheduled_paging.block _ _ _) (.block _ _ _) q)).trans woken
        | invalidAddress =>
          simp only [ioDone, live, Bool.not_true, Bool.false_eq_true, if_false, translated]
          have scheduled := settled.sched.repage (repaged_of_translate translated) mm
          have kept := slotsKept_translate k.mm k.sched req.pid addr true
          rw [translated] at kept
          exact base.trans
            (unseen_terminate scheduled.agree (kept.agree stored.owned.agree) _ _ q)
        | framesExhausted =>
          rw [ioDone_read_framesExhausted live translated]
          exact base.trans (unseen_halt _ q)
      · rw [ioDone_read_ok live translated]
        exact ((seesNothing_translate settled stored translated q).trans
          (seesNothing_store settled stored translated _ other)).trans woken
    · simp only [ioDone, live, Bool.not_false, if_true]
      exact Unseen.refl k d q
  · exact woken

/-- The process answered, which waited for the console alone, matches its reference machine
after the answer: a write changes nothing, a value read is stored, or kept while its page
loads; an address past its pages ends the process, and the kernel halts when no frame can be
had. -/
theorem Matches.take_answer (agrees : k.Matches d inputs t cb)
    (found : k.sched.get? t = some cb) (io : cb.blockedOn = BlockReason.ioOnly)
    (pending : k.pending d t = [kind]) (held : d'.held = d.held)
    (answered : (k.ioDone (IoRequest.answer ⟨t, kind⟩ value)).pending d' t = [])
    (found' : (k.ioDone (IoRequest.answer ⟨t, kind⟩ value)).sched.get? t = some cb') :
    (k.ioDone (IoRequest.answer ⟨t, kind⟩ value)).Matches d' (inputs ++ [.answer kind value]) t
      cb' := by
  have woken : ∀ {k' : Kernel}, SeesNothing k' d
      { k' with sched := (k'.sched.unblock t BlockReason.ioOnly .ioCompleted).2 } d t :=
    unseen_reschedule (unscheduled_paging.unblock _ _ _) (.unblock _ _ _) t
  cases kind with
  | write v =>
    exact agrees.answer_unseen found pending woken answered held rfl
      (fun _ => supply_of_write (agrees.last pending)) found'
  | read addr =>
    have live : k.sched.contains t = true := contains_of_get? found
    -- it waits for the console alone, so none of its pages is loading and it keeps no value
    have noInput : cb.pendingInput = none :=
      stored.noInput found (settled.protocol.waits.not_loading found (by rw [io]; rfl))
    change (k.ioDone (.read t addr value)).Matches _ _ _ _
    change (k.ioDone (.read t addr value)).pending _ _ = _ at answered
    change (k.ioDone (.read t addr value)).sched.get? _ = _ at found'
    rcases translated : k.mm.translate k.sched t addr true with ⟨err | pa, mm, s⟩
    · cases err with
      | pageFault page =>
        rw [ioDone_read_pageFault live translated] at answered found' ⊢
        obtain ⟨valid, paged⟩ := translate_pageFault_entry translated
        -- after the translation the process has the page, now loading, and keeps no value
        have waiting : ∀ cb₁, s.get? t = some cb₁ → cb₁.pendingInput = none ∧
            (cb₁.pageTable.get? (addr.toInt.toNat / mm.pageSize)).isSome := fun cb₁ found₁ =>
          ⟨(settled.paged_of_pageFault found translated found₁).1.trans noInput,
            (settled.paged_of_pageFault found translated found₁).2⟩
        exact agrees.answer_read found pending valid (by simpa [ entry?, found] using paged)
          ((((seesNothing_translate settled stored translated t).seesStore
            (seesStore_deferInput valid value waiting)).seesNothing
            (unseen_reschedule (unscheduled_paging.block _ _ _) (.block _ _ _) t)).seesNothing
            woken) answered held rfl found'
      | invalidAddress =>
        simp only [ioDone, live, Bool.not_true, Bool.false_eq_true, if_false, translated,
          get?_terminate_self] at found'
        cases found'
      | framesExhausted =>
        rw [ioDone_read_framesExhausted live translated] at answered found' ⊢
        exact agrees.answer_unseen found pending
          ((seesNothing_translate settled stored translated t).trans (unseen_halt _ t)) answered
          held rfl (fun running => by cases running) found'
    · rw [ioDone_read_ok live translated] at answered found' ⊢
      obtain ⟨valid, cb₀, e, f, found₀, entry, -⟩ := translate_ok_eq translated
      rw [found, Option.some.injEq] at found₀
      subst found₀
      exact agrees.answer_read found pending valid (by rw [entry]; rfl)
        (((seesNothing_translate settled stored translated t).seesStore
          (seesStore_store settled stored translated _)).seesNothing woken) answered held rfl
        found'

/-- Answering a request the console took keeps every process matching its reference machine:
the process answered after the answer, every other after the inputs it had. -/
theorem Mirrored.answer {inputs : Nat → List Input} (mirrored : k.Mirrored d inputs) {i : Nat}
    {req : IoRequest} (taken : d.taken[i]? = some req) (value : Int32) :
    (k.ioDone (req.answer value)).Mirrored { d with taken := d.taken.eraseIdx i }
      fun q => inputs q ++ if q = req.pid then [.answer req.kind value] else [] := by
  obtain ⟨mine, others⟩ := pending_answer taken settled.protocol.console
  have requests : ∀ q,
      (k.ioDone (req.answer value)).pending { d with taken := d.taken.eraseIdx i } q =
        if q = req.pid then [] else (k.ioDone (req.answer value)).pending d q := fun q => by
    unfold pending
    rw [console_ioDone]
    exact others q
  intro q cb' found'
  by_cases answered : q = req.pid
  · subst answered
    simp only [↓reduceIte]
    cases found : k.sched.get? req.pid with
    | none =>
      rw [get?_ioDone_of_none found] at found'
      cases found'
    | some cb =>
      -- the process answered waits for the console alone
      have io : cb.blockedOn = BlockReason.ioOnly :=
        (settled.protocol.waits _ cb found).eq_ioOnly (settled.protocol.console.asked req
          (List.mem_append_right _ (List.mem_of_getElem? taken)) cb found)
      exact (mirrored req.pid cb found).take_answer settled stored found io mine rfl
        (by rw [requests, if_pos rfl]) found'
  · simp only [if_neg answered, List.append_nil]
    have unseen : SeesNothing k d (k.ioDone (req.answer value))
        { d with taken := d.taken.eraseIdx i } q :=
      (seesNothing_ioDone settled stored value answered).trans
        (seesNothing_devices
          (show ({ d with taken := d.taken.eraseIdx i } : Devices).held = d.held from rfl)
          (by rw [requests, if_neg answered]))
    obtain ⟨cb, found, -⟩ := unseen cb' found'
    exact (mirrored q cb found).keep found unseen (untouched_config.handle _ (.ioDone (req.answer value))) found'

end Kernel

end PagedMachine
