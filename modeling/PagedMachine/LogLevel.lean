/-!
# Log levels

How much the kernel reports while it runs. A level is named by a word; case does not matter
for the ASCII letters, and any other word switches reporting off.
-/

namespace PagedMachine

/-- Reporting levels, from none at all to every detail. -/
inductive LogLevel where
  | off | error | warn | info | debug | trace
  deriving DecidableEq, Repr

namespace LogLevel

/-- The level's name in capitals. -/
def name : LogLevel → String
  | off => "OFF" | error => "ERROR" | warn => "WARN"
  | info => "INFO" | debug => "DEBUG" | trace => "TRACE"

/-- The level a word names, after upper-casing its ASCII letters; `off` for any other word. -/
def ofName (word : String) : LogLevel :=
  match word.map Char.toUpper with
  | "ERROR" => error
  | "WARN" => warn
  | "INFO" => info
  | "DEBUG" => debug
  | "TRACE" => trace
  | _ => off

end LogLevel

end PagedMachine
