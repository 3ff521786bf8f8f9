import Footprint.Files.System
import Footprint.Log.Event

/-! # Commands that a report runs, and how they end -/
namespace Footprint

structure Command where
  program : String
  args : List String
deriving Repr, DecidableEq

inductive ExitStatus
  | exited (code : Nat)
  | killed (signal : Nat)
deriving Repr, DecidableEq

namespace ExitStatus

def signalName? (n : Nat) : Option String :=
  ["HUP", "INT", "QUIT", "ILL", "TRAP", "ABRT", "BUS", "FPE", "KILL", "USR1", "SEGV", "USR2",
    "PIPE", "ALRM", "TERM", "STKFLT", "CHLD", "CONT", "STOP", "TSTP", "TTIN", "TTOU", "URG",
    "XCPU", "XFSZ", "VTALRM", "PROF", "WINCH", "IO", "PWR", "SYS"][n - 1]?

def succeeded (s : ExitStatus) : Bool := s = .exited 0

def message : ExitStatus → String
  | .exited code => s!"exit status: {code}"
  | .killed signal => match signalName? signal with
    | some name => s!"signal: {signal} (SIG{name})"
    | none => s!"signal: {signal}"

end ExitStatus

/-- Why a command did not start. -/
inductive SpawnError
  | os (e : OsError)
  | nulInArgument
deriving Repr, DecidableEq

def SpawnError.message : SpawnError → String
  | .os e => e.message
  | .nulInArgument => "nul byte found in provided data"

/-- What runs commands, once some events have been logged. The files that a command leaves stay,
however it ends. -/
abbrev Launcher :=
  Command → List Log.Event → FileSystem → Except SpawnError ExitStatus × FileSystem

end Footprint
