import PagedMachine.Task.Status
import PagedMachine.Config
import PagedMachine.Memory.PageTable

/-!
# The transition log

Every change of a process's status is recorded with a sequence number counted from 1 over the
whole run, the process, the cause, the old and new status and the page table at that moment.
The log keeps the latest `historyLimit` records; recording one more drops the oldest. A
record holds the page table itself, not its text, so recording costs no rendering; the text
is made only when a record is shown.

The records are held as a queue of two lists, oldest part first and newest part reversed, so
that recording and dropping take constant time on average. `toList` is the log read oldest
first.

Main statements: recording appends to the view and, at the limit, drops its first record
(`toList_record`); the log never holds more than the limit (`length_le`).
-/

namespace PagedMachine

/-- One recorded change of status. -/
structure Transition where
  seq : Nat
  pid : Nat
  name : String
  cause : Cause
  source : TaskStatus
  target : TaskStatus
  pages : PageTable
  deriving DecidableEq, Repr

/-- `seq ; pid ; name ; cause ; from ; to ; pages`. -/
def Transition.render (t : Transition) : String :=
  s!"{t.seq} ; {t.pid} ; {t.name} ; {t.cause.label} ; {t.source.label} ; {t.target.label} ; " ++
    t.pages.render

/-- The latest transitions, oldest first, with the last sequence number handed out. The
number of records kept is stored beside them, so that the limit is checked without walking
the queue. -/
structure TransitionLog where
  seq : Nat
  front : List Transition
  back : List Transition
  count : Nat
  count_eq : count = front.length + back.length
  deriving Repr

namespace TransitionLog

/-- The log before anything happened. -/
def empty : TransitionLog := ⟨0, [], [], 0, rfl⟩

/-- The empty log is the default. -/
instance : Inhabited TransitionLog := ⟨empty⟩

/-- The records, oldest first. -/
def toList (log : TransitionLog) : List Transition := log.front ++ log.back.reverse

/-- Number of records kept. -/
def length (log : TransitionLog) : Nat := log.count

/-- The log without its oldest record. -/
def dropOldest (log : TransitionLog) : TransitionLog :=
  match log with
  | ⟨seq, _ :: rest, back, count, count_eq⟩ =>
    { seq, front := rest, back, count := count - 1,
      count_eq := by simp only [List.length_cons] at count_eq; omega }
  | ⟨seq, [], back, count, count_eq⟩ =>
    { seq, front := back.reverse.drop 1, back := [], count := count - 1,
      count_eq := by simp only [List.length_nil] at count_eq; simp; omega }

/-- Records a transition under the next sequence number, dropping the oldest record when
the log is full. -/
def record (log : TransitionLog) (pid : Nat) (name : String) (cause : Cause)
    (source target : TaskStatus) (pages : PageTable) : TransitionLog :=
  let seq := log.seq + 1
  let kept := if log.length = historyLimit then log.dropOldest else log
  { seq, front := kept.front, back := ⟨seq, pid, name, cause, source, target, pages⟩ :: kept.back,
    count := kept.count + 1, count_eq := by simp only [List.length_cons, kept.count_eq]; omega }

/-- Dropping the oldest record drops the first of the list. -/
theorem toList_dropOldest (log : TransitionLog) : log.dropOldest.toList = log.toList.drop 1 := by
  rcases log with ⟨seq, front, back, count, count_eq⟩
  cases front with
  | nil => simp [dropOldest, toList]
  | cons t rest => simp [dropOldest, toList]

/-- The count of records kept is the length of the list. -/
theorem length_eq (log : TransitionLog) : log.length = log.toList.length := by
  simp [length, toList, log.count_eq]

/-- Recording appends a record numbered one past the count, dropping the oldest once the log is
full. -/
theorem toList_record (log : TransitionLog) (pid : Nat) (name : String) (cause : Cause)
    (source target : TaskStatus) (pages : PageTable) :
    (log.record pid name cause source target pages).toList =
      (if log.length = historyLimit then log.toList.drop 1 else log.toList) ++
        [⟨log.seq + 1, pid, name, cause, source, target, pages⟩] := by
  unfold record
  by_cases full : log.length = historyLimit
  · simp only [full, ↓reduceIte]
    rw [← toList_dropOldest]
    simp [toList]
  · simp only [full, ↓reduceIte]
    simp [toList]

/-- Recording keeps the log within `historyLimit` records. -/
theorem length_le (log : TransitionLog) (bounded : log.length ≤ historyLimit)
    (pid : Nat) (name : String) (cause : Cause) (source target : TaskStatus) (pages : PageTable) :
    (log.record pid name cause source target pages).length ≤ historyLimit := by
  rw [length_eq, toList_record, length_eq]
  rw [length_eq] at bounded
  split
  · rename_i h
    simp only [List.length_append, List.length_drop, List.length_singleton]
    have limit : historyLimit = 4096 := rfl
    omega
  · rename_i h
    simp only [List.length_append, List.length_singleton]
    omega

end TransitionLog

end PagedMachine
