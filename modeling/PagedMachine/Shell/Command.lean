import PagedMachine.Text.Blank
import PagedMachine.Text.Numeral
import PagedMachine.Kernel.Basic

/-!
# Shell commands

A command line is a command word followed by its arguments, separated by blanks. Arguments
past the ones a command takes are ignored. Pids, addresses and values are decimal numerals;
pids and addresses are unsigned 64-bit numbers, values signed 32-bit ones. Arguments are read
left to right and the first one that is missing or malformed is reported.
-/

namespace PagedMachine.Shell

/-- What the shell can be asked to do. -/
inductive Command where
  | new (program : String)
  | rm (pid : Nat)
  | ps
  | dump (pid : Nat)
  | dumpMemory (start stop : Nat)
  | frames
  | disk
  | exec (pid : Nat)
  | execAll
  | input (pid : Nat) (value : Int32)
  | traceOn
  | traceOff
  | audit
  | help
  | exit
  deriving DecidableEq, Repr

/-- Why a line could not be read or a command could not be carried out. -/
inductive ShellError where
  | unknownCommand (word : String)
  | missingArgument (command what : String)
  | invalidNumber (text : String)
  | notWaiting (pid : Nat)
  | kernel (e : KernelError)
  | audit (e : AuditError)
  deriving DecidableEq, Repr

namespace ShellError

/-- The name of the kind of error. -/
def kind : ShellError → String
  | unknownCommand _ => "UnknownCommand"
  | missingArgument .. => "MissingArgument"
  | invalidNumber _ => "InvalidNumber"
  | notWaiting _ => "NotWaiting"
  | kernel e => e.kind
  | audit e => e.kind

/-- The sentence that explains the error. -/
def message : ShellError → String
  | unknownCommand w => "unknown command `" ++ w ++ "`, try `help`"
  | missingArgument c w => "`" ++ c ++ "` needs " ++ w
  | invalidNumber t => "`" ++ t ++ "` is not a number"
  | notWaiting pid => s!"process {pid} is not waiting for input"
  | kernel e => e.message
  | audit e => "audit failed: " ++ e.message

end ShellError

/-- Argument `i` of `command`, described as `what` when it is missing. -/
def argument (args : List String) (i : Nat) (command what : String) :
    Except ShellError String :=
  match args[i]? with
  | some a => .ok a
  | none => .error (.missingArgument command what)

/-- An unsigned argument, such as a pid or an address. -/
def unsignedArg (args : List String) (i : Nat) (command what : String) :
    Except ShellError Nat := do
  let a ← argument args i command what
  match Text.parseNatBelow? Text.unsignedBound a with
  | some n => pure n
  | none => throw (.invalidNumber a)

/-- A signed 32-bit argument. -/
def valueArg (args : List String) (i : Nat) (command what : String) :
    Except ShellError Int32 := do
  let a ← argument args i command what
  match Text.parseIntWithin? (-2147483648) 2147483647 a with
  | some v => pure (Int32.ofInt v)
  | none => throw (.invalidNumber a)

/-- Reads a command line. -/
def Command.parse (line : String) : Except ShellError Command :=
  match Text.words line with
  | [] => .error (.unknownCommand "")
  | name :: args =>
    match name with
    | "new" => return .new (← argument args 0 "new" "a program name")
    | "rm" => return .rm (← unsignedArg args 0 "rm" "a pid")
    | "ps" => pure .ps
    | "dump" => return .dump (← unsignedArg args 0 "dump" "a pid")
    | "dumpm" => do
      let start ← unsignedArg args 0 "dumpm" "a start address"
      let stop ← unsignedArg args 1 "dumpm" "an end address"
      pure (.dumpMemory start stop)
    | "frames" => pure .frames
    | "disk" => pure .disk
    | "exec" => return .exec (← unsignedArg args 0 "exec" "a pid")
    | "execall" => pure .execAll
    | "in" => do
      let pid ← unsignedArg args 0 "in" "a pid"
      let value ← valueArg args 1 "in" "a value"
      pure (.input pid value)
    | "traceon" => pure .traceOn
    | "traceoff" => pure .traceOff
    | "audit" => pure .audit
    | "help" => pure .help
    | "exit" | "quit" => pure .exit
    | other => .error (.unknownCommand other)

end PagedMachine.Shell
