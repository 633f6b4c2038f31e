import PagedMachine.Proofs.History

/-!
# The window of the transition log

Each change of status is recorded under the next sequence number, and the log keeps the latest
`historyLimit` records: recording one more into a full log drops the oldest first. Recorded one
after another into the empty log, `n` changes are numbered `1` to `n`
(`numberFrom`), and the log holds the last `min n historyLimit` of those records, oldest first.

`TransitionLog.Holds log H` says that the log holds the latest records of the history `H` and
has numbered all of it. One record keeps it (`Holds.record`), so a run of records does
(`Holds.recordAll`).

Main statement: `TransitionLog.recordAll_keeps_latest`.
-/

namespace PagedMachine

/-- One change of status to be recorded: the process, its name, the cause, the old and the new
status, and the page table at that moment. -/
structure StatusChange where
  pid : Nat
  name : String
  cause : Cause
  source : TaskStatus
  target : TaskStatus
  pages : PageTable

/-- The record of a change under sequence number `seq`. -/
def StatusChange.entry (c : StatusChange) (seq : Nat) : Transition :=
  ⟨seq, c.pid, c.name, c.cause, c.source, c.target, c.pages⟩

/-- The records of changes numbered one after another from `first`. -/
def numberFrom (first : Nat) : List StatusChange → List Transition
  | [] => []
  | c :: rest => c.entry first :: numberFrom (first + 1) rest

/-- Numbering changes gives one record per change. -/
@[simp] theorem length_numberFrom (first : Nat) (changes : List StatusChange) :
    (numberFrom first changes).length = changes.length := by
  induction changes generalizing first with
  | nil => rfl
  | cons c rest ih => simp [numberFrom, ih]

/-- Numbered changes carry the numbers from `first` on, one each. -/
theorem seqs_numberFrom (first : Nat) (changes : List StatusChange) :
    (numberFrom first changes).map (·.seq) = List.range' first changes.length := by
  induction changes generalizing first with
  | nil => rfl
  | cons c rest ih => simp [numberFrom, StatusChange.entry, ih, List.range'_succ]

namespace TransitionLog

/-- Records the changes in order. -/
def recordAll (log : TransitionLog) : List StatusChange → TransitionLog
  | [] => log
  | c :: rest => (log.record c.pid c.name c.cause c.source c.target c.pages).recordAll rest

/-- The log holds the latest `historyLimit` records of the history `H` and has numbered all of
it. -/
structure Holds (log : TransitionLog) (H : List Transition) : Prop where
  kept : log.toList = H.drop (H.length - historyLimit)
  count : log.seq = H.length

/-- The empty log holds the empty history. -/
theorem holds_empty : empty.Holds [] := ⟨rfl, rfl⟩

/-- One record extends the history by the change, numbered next. -/
theorem Holds.record {log : TransitionLog} {H : List Transition} (holds : log.Holds H)
    (c : StatusChange) :
    (log.record c.pid c.name c.cause c.source c.target c.pages).Holds
      (H ++ [c.entry (H.length + 1)]) := by
  constructor
  · rw [toList_record_of_drop log c.pid c.name c.cause c.source c.target c.pages holds.kept
      holds.count, List.length_append, List.length_singleton]
    rfl
  · rw [seq_record, holds.count, List.length_append, List.length_singleton]

/-- A run of records extends the history by the changes, numbered on from its length. -/
theorem Holds.recordAll {log : TransitionLog} {H : List Transition} (holds : log.Holds H)
    (changes : List StatusChange) :
    (log.recordAll changes).Holds (H ++ numberFrom (H.length + 1) changes) := by
  induction changes generalizing log H with
  | nil => simpa [TransitionLog.recordAll, numberFrom] using holds
  | cons c rest ih =>
    have extended := ih (holds.record c)
    rw [List.length_append, List.length_singleton, List.append_assoc] at extended
    exact extended

/-- Recording `n` changes into the empty log leaves the records of the last `min n historyLimit`
of them (4096 at most), in the order they were recorded and numbered
`n - min n historyLimit + 1` to `n`; the log's length is `min n historyLimit`. -/
theorem recordAll_keeps_latest (changes : List StatusChange) :
    (empty.recordAll changes).toList =
        (numberFrom 1 changes).drop (changes.length - min changes.length historyLimit) ∧
      (empty.recordAll changes).toList.map (·.seq) =
        List.range' (changes.length - min changes.length historyLimit + 1)
          (min changes.length historyLimit) ∧
      (empty.recordAll changes).length = min changes.length historyLimit := by
  have holds := holds_empty.recordAll changes
  simp only [List.nil_append, List.length_nil, Nat.zero_add] at holds
  -- dropping `n - min n L` records is dropping `n - L` of them
  have dropped : changes.length - min changes.length historyLimit =
      changes.length - historyLimit := by omega
  have kept := holds.kept
  rw [length_numberFrom, ← dropped] at kept
  refine ⟨kept, ?_, ?_⟩
  · rw [kept, List.map_drop, seqs_numberFrom, List.drop_range']
    congr 1
    · omega
    · omega
  · rw [length_eq, kept, List.length_drop, length_numberFrom]
    omega

end TransitionLog

end PagedMachine
