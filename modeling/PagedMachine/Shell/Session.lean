import PagedMachine.Shell.Command
import PagedMachine.Machine
import PagedMachine.Text.Lines

/-!
# Shell sessions

The shell reads a script line by line. It prints a prompt `> ` first and after every line,
skips blank lines, stops at `exit`, and prints `error: ` and the message for a line it cannot
read or a command that fails. Output of a command ends with a line feed.

Processes run only while a command waits for them: `exec` releases one process and runs the
machine until that process has ended or waits for console input; `execall` turns automatic
scheduling on and runs until every process has ended or waits for input. If the kernel halts
meanwhile, the command fails with the halt's reason; if nothing can move any more although
neither has happened, the command gives the prompt back.
-/

namespace PagedMachine.Shell

/-- The help text: one line per command. -/
def helpText : String :=
  "new <program>        create a process\n" ++
  "rm <pid>             remove a process\n" ++
  "ps                   list processes\n" ++
  "dump <pid>           show a process and its page table\n" ++
  "dumpm <start> <end>  dump physical memory\n" ++
  "frames               show frame occupancy\n" ++
  "disk                 show swap disk statistics\n" ++
  "exec <pid>           run one process while the others wait\n" ++
  "execall              run every process until none is left\n" ++
  "in <pid> <value>     answer a pending console read\n" ++
  "traceon / traceoff   log every transition / back to the old level\n" ++
  "audit                check frames, page tables and queues\n" ++
  "exit                 quit"

/-- How waiting for processes ended. -/
inductive Settled where
  | finished
  | awaitingInput (pids : List Nat)
  | halted (e : KernelError)
  /-- Nothing can move, and the processes waited for have neither ended nor asked for input. -/
  | stuck
  deriving DecidableEq, Repr

/-- Where the processes waited for stand now, if they have settled: `only` restricts the
wait to one process. -/
def settledState (m : Machine) (only : Option Nat) : Option Settled :=
  match m.kernel.halted with
  | some e => some (.halted e)
  | none =>
    let procs := m.kernel.processes.filter fun p => only.all (· == p.pid)
    if procs.isEmpty then some .finished
    else if procs.all fun p =>
        p.status == .blocked && p.blockedOn == BlockReason.ioOnly &&
          m.console.waiting.contains p.pid then
      some (.awaitingInput (procs.map (·.pid)))
    else none

/-- Advances the machine until the processes waited for settle, at most `budget` times. -/
def settle (m : Machine) (only : Option Nat) : Nat → Settled × Machine
  | 0 => (.stuck, m)
  | n + 1 =>
    match settledState m only with
    | some r => (r, m)
    | none =>
      match m.advance with
      | (true, m) => settle m only n
      | (false, m) => ((settledState m only).getD .stuck, m)

/-- How many advances a wait may take. -/
def settleBudget : Nat := 1000000

/-- The text of a list of pids: `[1, 2]`. -/
def pidList (pids : List Nat) : String :=
  "[" ++ Text.joinWith ", " (pids.map toString) ++ "]"

/-- Carries out one command; returns what it prints. -/
def execute (m : Machine) : Command → Except ShellError String × Machine
  | .new name =>
    match m.kernel.createProcess name with
    | (.ok pid, kernel) => (.ok s!"created process {pid}\n", { m with kernel })
    | (.error e, kernel) => (.error (.kernel e), { m with kernel })
  | .rm pid =>
    match m.removeProcess pid with
    | (.ok (), m) => (.ok s!"removed process {pid}\n", m)
    | (.error e, m) => (.error (.kernel e), m)
  | .ps =>
    let procs := m.kernel.processes
    if procs.isEmpty then (.ok "no processes\n", m)
    else (.ok (String.join (procs.map fun p => p.render ++ "\n")), m)
  | .dump pid =>
    match m.kernel.snapshot pid with
    | .ok snap => (.ok snap.render, m)
    | .error e => (.error (.kernel e), m)
  | .dumpMemory start stop => (.ok (m.kernel.dumpMemory start stop).render, m)
  | .frames =>
    (.ok (String.join (m.kernel.frames.map fun i => i.render ++ "\n") ++
      s!"{m.kernel.freeFrames} free\n"), m)
  | .disk => (.ok (m.kernel.diskStats.render ++ "\n"), m)
  | .exec pid =>
    match m.kernel.execProcess pid with
    | (.error e, kernel) => (.error (.kernel e), { m with kernel })
    | (.ok (), kernel) =>
      match settle { m with kernel } (some pid) settleBudget with
      | (.finished, m) => (.ok s!"process {pid} finished\n", m)
      | (.awaitingInput _, m) => (.ok s!"process {pid} is waiting for input\n", m)
      | (.halted e, m) => (.error (.kernel e), m)
      | (.stuck, m) => (.ok s!"process {pid} still running, back to the prompt\n", m)
  | .execAll =>
    match settle { m with kernel := m.kernel.setAuto true } none settleBudget with
    | (.finished, m) => (.ok "all processes finished\n", m)
    | (.awaitingInput pids, m) => (.ok ("waiting for input from " ++ pidList pids ++ "\n"), m)
    | (.halted e, m) => (.error (.kernel e), m)
    | (.stuck, m) => (.ok "still running, back to the prompt\n", m)
  | .input pid value =>
    match m.provide pid value with
    | (some _, m) => (.ok "", m)
    | (none, m) => (.error (.notWaiting pid), m)
  | .traceOn | .traceOff => (.ok "", m)
  | .audit =>
    match m.kernel.audit with
    | .ok () => (.ok "ok\n", m)
    | .error e => (.error (.audit e), m)
  | .help =>
    (.ok (helpText ++ "\n" ++ "programs: " ++ Text.joinWith ", " Program.names ++ "\n"), m)
  | .exit => (.ok "", m)

/-- What one line of a script prints, and the machine after it; none for `exit`, which ends
the session. A blank line prints nothing. -/
def executeLine (m : Machine) (line : String) : Option String × Machine :=
  if Text.isBlankLine line then (some "", m)
  else match Command.parse line with
    | .ok .exit => (none, m)
    | .ok cmd =>
      match execute m cmd with
      | (.ok text, m) => (some text, m)
      | (.error e, m) => (some ("error: " ++ e.message ++ "\n"), m)
    | .error e => (some ("error: " ++ e.message ++ "\n"), m)

/-- Runs the lines of a script, each followed by a prompt, until `exit`. Returns everything
printed after the first prompt. -/
def runLines (m : Machine) : List String → String × Machine
  | [] => ("", m)
  | line :: rest =>
    match executeLine m line with
    | (none, m) => ("", m)
    | (some text, m) =>
      let (out, m) := runLines m rest
      (text ++ "> " ++ out, m)

/-- Runs a script on a machine: the first prompt, then every line. -/
def run (m : Machine) (script : String) : String × Machine :=
  let (out, m) := runLines m (Text.lines script)
  ("> " ++ out, m)

end PagedMachine.Shell
