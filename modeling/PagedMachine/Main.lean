import PagedMachine.Options
import PagedMachine.Shell.Session

/-!
# The command line

Without `--run` the machine greets and reads commands from standard input, one line at a
time, printing a prompt before each, until `exit` or the end of the input. With `--run` it
creates a process for each program named, runs them all, prints what each process wrote, and
fails when a process is left.
-/

namespace PagedMachine.Main

/-- Reads and carries out commands until `exit` or the end of the input. -/
partial def interact (stdin stdout : IO.FS.Stream) (m : Machine) : IO Unit := do
  stdout.putStr "> "
  stdout.flush
  let raw ← stdin.getLine
  unless raw.isEmpty do
    match Shell.executeLine m (Text.chomp raw) with
    | (none, _) => pure ()
    | (some text, m) =>
      stdout.putStr text
      interact stdin stdout m

/-- Runs the programs named to completion; the text printed, then the error that ended the
run, if one did. -/
def batch (m : Machine) (programs : List String) : String × Option String :=
  let created := programs.foldl (fun (acc : String × Option String × Machine) name =>
    match acc with
    | (out, none, m) =>
      match Shell.execute m (.new name) with
      | (.ok text, m) => (out ++ text, none, m)
      | (.error e, m) => (out, some e.message, m)
    | stopped => stopped) ("", none, m)
  match created with
  | (out, some e, _) => (out, some e)
  | (out, none, m) =>
    match Shell.execute m .execAll with
    | (.error e, _) => (out, some e.message)
    | (.ok text, m) =>
      let written := String.join (m.console.output.toList.map fun (pid, value) =>
        s!"process {pid} wrote {value}\n")
      let left := m.kernel.liveCount
      (out ++ text ++ written,
        if left > 0 then some s!"{left} process(es) did not finish" else none)

end PagedMachine.Main

open PagedMachine

/-- Parses the options, creates the machine and runs the shell or the programs given. -/
def main (args : List String) : IO UInt32 := do
  match Options.parse args with
  | .error e =>
    IO.eprintln ("error: " ++ e.message)
    pure 2
  | .ok opts =>
    if opts.help then
      IO.print usageText
      return 0
    match Machine.new opts.config with
    | none =>
      IO.eprintln "panicked: capacity overflow"
      pure 101
    | some (.error e) =>
      let cause := match e with
        | .config c => ": " ++ c.message
        | _ => ""
      IO.eprintln ("Error: failed to boot: " ++ e.message ++ cause)
      pure 1
    | some (.ok m) =>
      if opts.run.isEmpty then
        IO.println "vmos shell, \x60help\x60 lists the commands"
        Main.interact (← IO.getStdin) (← IO.getStdout) m
        pure 0
      else
        let (out, failure) := Main.batch m opts.run
        IO.print out
        match failure with
        | some e =>
          IO.eprintln ("Error: " ++ e)
          pure 1
        | none => pure 0
