import PagedMachine.Config
import PagedMachine.Text.Numeral

/-!
# Command-line options

The machine starts from options written `--name value` or `--name=value`. `--mem`, `--page`,
`--delta` and `--swap-slots` set the configuration and `--auto` turns automatic scheduling on.
`--run` takes one or more program names, up to the next option, and asks for those programs
to be run to completion instead of reading commands; it may be given more than once.
`--log` names a log level. `--settle-secs`, `--disk-latency-ms` and `--io-latency-ms` are
wall-clock settings; this machine runs without a clock, so they are checked and then unused.
`--help` asks for the usage text.

Options are read left to right and the first one that cannot be read is reported.
-/

namespace PagedMachine

/-- What the command line asks for. -/
structure Options where
  config : Config := {}
  log : Option String := none
  run : List String := []
  help : Bool := false
  deriving Repr

/-- Why a command line could not be read. -/
inductive OptionError where
  | unexpected (arg : String)
  | missingValue (name : String)
  | invalidValue (name value : String)
  | unexpectedValue (name : String)
  deriving DecidableEq, Repr

/-- The sentence that explains the error. -/
def OptionError.message : OptionError → String
  | .unexpected arg => "unexpected argument '" ++ arg ++ "' found"
  | .missingValue name => "a value is required for '--" ++ name ++ "' but none was supplied"
  | .invalidValue name value => "invalid value '" ++ value ++ "' for '--" ++ name ++ "'"
  | .unexpectedValue name => "unexpected value for '--" ++ name ++ "', which takes none"

/-- The options that take a value. -/
def valueOptions : List String :=
  ["mem", "page", "delta", "swap-slots", "disk-latency-ms", "io-latency-ms", "log", "settle-secs"]

/-- What the next argument is read as. -/
inductive Expect where
  /-- An option. -/
  | option
  /-- The value of the option named. -/
  | value (name : String)
  /-- A program to run, or an option; `seen` tells whether one program was given already. -/
  | program (seen : Bool)
  deriving DecidableEq, Repr

namespace Options

/-- Sets the option `name` to `value`. Sizes and durations are unsigned 64-bit numbers. -/
def setValue (o : Options) (name value : String) : Except OptionError Options :=
  if name = "log" then .ok { o with log := some value }
  else match Text.parseNatBelow? Text.unsignedBound value with
    | none => .error (.invalidValue name value)
    | some n =>
      match name with
      | "mem" => .ok { o with config := { o.config with memoryWords := n } }
      | "page" => .ok { o with config := { o.config with pageSize := n } }
      | "delta" => .ok { o with config := { o.config with timeSlice := n } }
      | "swap-slots" => .ok { o with config := { o.config with swapSlots := n } }
      | _ => .ok o

/-- Reads an argument that starts with two dashes, `body` being what follows them. -/
def readOption (o : Options) (arg : String) (body : List Char) :
    Except OptionError (Options × Expect) :=
  let (nameChars, rest) := body.span (· ≠ '=')
  let name := String.ofList nameChars
  let inline := match rest with
    | [] => none
    | _ :: value => some (String.ofList value)
  if valueOptions.contains name then
    match inline with
    | some value => do pure (← o.setValue name value, .option)
    | none => .ok (o, .value name)
  else match name, inline with
    | "auto", none => .ok ({ o with config := { o.config with autoSchedule := true } }, .option)
    | "help", none => .ok ({ o with help := true }, .option)
    | "run", none => .ok (o, .program false)
    | "run", some value => .ok ({ o with run := o.run ++ [value] }, .program true)
    | "auto", some _ | "help", some _ => .error (.unexpectedValue name)
    | _, _ => .error (.unexpected arg)

/-- Reads one more argument. -/
def readArg (state : Options × Expect) (arg : String) : Except OptionError (Options × Expect) :=
  let (o, expect) := state
  let chars := arg.toList
  match expect, chars with
  | .value name, _ => do pure (← o.setValue name arg, .option)
  | .program false, '-' :: _ => .error (.missingValue "run")
  | _, '-' :: '-' :: body => o.readOption arg body
  | _, ['-', 'h'] => .ok ({ o with help := true }, .option)
  | .program _, _ => .ok ({ o with run := o.run ++ [arg] }, .program true)
  | .option, _ => .error (.unexpected arg)

/-- Reads a whole command line. -/
def parse (args : List String) : Except OptionError Options := do
  let (o, expect) ← args.foldlM readArg ({}, .option)
  match expect with
  | .value name => throw (.missingValue name)
  | .program false => throw (.missingValue "run")
  | _ => pure o

end Options

/-- The usage text. -/
def usageText : String :=
  "Paged virtual memory and process scheduling on a simulated machine\n\n" ++
  "Options:\n" ++
  "      --mem <MEM>                      Physical memory size in words [default: 1024]\n" ++
  "      --page <PAGE>                    Page and frame size in words [default: 8]\n" ++
  "      --delta <DELTA>                  Instructions per time slice [default: 5]\n" ++
  "      --swap-slots <SWAP_SLOTS>        Number of swap slots on the disk [default: 128]\n" ++
  "      --disk-latency-ms <MS>           Accepted and unused\n" ++
  "      --io-latency-ms <MS>             Accepted and unused\n" ++
  "      --auto                           Dispatch ready processes right away\n" ++
  "      --log <LOG>                      Log level (error, warn, info, debug, trace)\n" ++
  "      --settle-secs <SECS>             Accepted and unused\n" ++
  "      --run <RUN>...                   Run these programs to completion and exit\n" ++
  "  -h, --help                           Print help\n"

end PagedMachine
