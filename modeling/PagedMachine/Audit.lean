import PagedMachine.Task.Status

/-!
# Broken invariants

An audit compares the frame table, the page tables and the scheduler's queues and reports the
first disagreement it finds.
-/

namespace PagedMachine

/-- A disagreement found by an audit. -/
inductive AuditError where
  /-- Two present pages name the same frame. -/
  | frameClaimedTwice (frame first second : Nat)
  /-- A present page names a frame the frame table gives to another page. -/
  | ownerMismatch (pid page frame : Nat)
  /-- A process sits in more than one of the ready queue, the blocked set and the processor. -/
  | queueOverlap (pid : Nat)
  /-- A process's status does not match the queue it is in. -/
  | statusMismatch (pid : Nat) (status : TaskStatus)
  deriving DecidableEq, Repr

namespace AuditError

/-- The name of the kind of disagreement. -/
def kind : AuditError → String
  | frameClaimedTwice .. => "FrameClaimedTwice"
  | ownerMismatch .. => "OwnerMismatch"
  | queueOverlap .. => "QueueOverlap"
  | statusMismatch .. => "StatusMismatch"

/-- The sentence that explains the disagreement. -/
def message : AuditError → String
  | frameClaimedTwice f a b => s!"frame {f} is claimed by pid {a} and pid {b}"
  | ownerMismatch pid page f =>
    s!"pid {pid} page {page} is present in frame {f}, which the frame table does not agree with"
  | queueOverlap pid => s!"pid {pid} is in more than one of ready, blocked and running"
  | statusMismatch pid st => s!"pid {pid} is {st.label} but not in the matching queue"

end AuditError

end PagedMachine
