/-! # Log events -/
namespace Footprint.Log

/-- Levels, the most important one first. -/
inductive Level | error | warn | info | debug | trace
deriving Repr, DecidableEq

def Level.rank : Level → Nat
  | .error => 1
  | .warn => 2
  | .info => 3
  | .debug => 4
  | .trace => 5

def Level.text : Level → String
  | .error => "ERROR"
  | .warn => "WARN"
  | .info => "INFO"
  | .debug => "DEBUG"
  | .trace => "TRACE"

/-- The part of the program that an event comes from. -/
inductive Source | results | aggregates | figures | scripts | reports | program
deriving Repr, DecidableEq

/-- The name of a source in log filters. -/
def Source.target : Source → String
  | .results => "report_common::result"
  | .aggregates => "report_common::aggregate"
  | .figures => "report_common::plot"
  | .scripts => "report_common::util"
  | .reports => "report_common::report"
  | .program => "index_size_report"

structure Event where
  level : Level
  source : Source
  message : String
deriving Repr, DecidableEq

/-- The line for an event, without the time. -/
def Event.line (e : Event) : String := s!"{e.level.text} {e.source.target}: {e.message}\n"

end Footprint.Log
