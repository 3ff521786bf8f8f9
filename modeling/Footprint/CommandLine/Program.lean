import Footprint.CommandLine.Arguments
import Footprint.Log.Filter
import Footprint.Report.Run

/-! # The program: from its arguments to its exit code -/
namespace Footprint.CommandLine

def version : String := "index-size-report 0.1.0\n"

def help : String :=
  "Averages index sizes from the mixed workload results and plots them\n\n" ++
  "Usage: index-size-report [OPTIONS]\n\n" ++
  "Options:\n" ++
  "  -c, --config-file <CONFIG_FILE>  Yaml file overriding the built-in tasks, indexes and paths\n" ++
  "      --skip-plot                  Do not generate the figure\n" ++
  "      --no-show                    Save the figure without opening a window\n" ++
  "  -l, --log <LOG>                  \n" ++
  "  -h, --help                       Print help\n" ++
  "  -V, --version                    Print version\n"

/-- How a run of the program ends. -/
structure Ending where
  code : Nat
  stdout : String := ""
  stderr : String := ""
  /-- The events that the log shows. -/
  log : List Log.Event := []
  files : FileSystem

/-! ## Messages of a failure -/

/-- Puts `first` in front of the first line of a text and `next` in front of the others, unless a
line is empty. -/
def indent (first next : String) (text : String) : String :=
  let lines := (Text.split '\n' text.toList).map String.ofList
  "\n".intercalate (lines.zipIdx.map fun (line, i) =>
    if line = "" then line else (if i = 0 then first else next) ++ line)

/-- Causes have numbers if there are several of them. -/
def causes : List String → String
  | [] => ""
  | [cause] => "\n\nCaused by:\n" ++ indent "    " "    " cause
  | many => "\n\nCaused by:" ++ String.join (many.zipIdx.map fun (cause, i) =>
      "\n" ++ indent (s!"   {i}: ") "      " cause)

/-- The text for a chain of messages, outermost first. -/
def failureText : List String → String
  | [] => ""
  | message :: rest => "Error: " ++ message ++ causes rest ++ "\n"

def ignoredText (left : List (String × Log.DirectiveError)) : String :=
  String.join (left.map fun (part, e) => "ignoring \x60" ++ part ++ "\x60: " ++ e.message ++ "\n")

/-! ## The log file -/

/-- What surrounds a run of the program. -/
structure Surroundings where
  launch : Launcher
  /-- What the log file holds of the events that are shown. Lines carry the time, and when a command is
  started the last ones may still be on their way. -/
  logged : List Log.Event → Bytes := fun events => Text.bytes (String.join (events.map Log.Event.line))
  check : Log.ValueCheck := fun _ => none
  /-- What a failure is logged as. -/
  described : Failure → String := fun e => ": ".intercalate e.chain

instance : Coe Launcher Surroundings := ⟨fun launch => { launch }⟩

/-- The file that the log is kept in. -/
def logFile : String := "log.log"

/-- The log file is opened before anything is read, and made if there is none. -/
def openLog (fs : FileSystem) : Except OsError (Place × FileSystem) := do
  let p ← fs.filePlace logFile
  return (p, if (fs.entry? p).isSome then fs else fs.put p (.file []))

def unopenedText (e : OsError) : String :=
  let source := match e.code? with
    | some (code, kind) => s!"Os \x7b code: {code}, kind: {kind}, message: {Text.quoted e.text} \x7d"
    | none => s!"Error \x7b kind: InvalidInput, message: {Text.quoted e.text} \x7d"
  "initializing rolling file appender failed: InitError \x7b context: " ++
    s!"\"failed to create initial log file\", source: {source} \x7d\n"

/-- Adds to what a file holds. A device keeps nothing of it. -/
def addTo (fs : FileSystem) (p : Place) (more : Bytes) : FileSystem := match fs.entry? p with
  | some (.file content) => fs.put p (.file (content ++ more))
  | _ => fs

/-- Events are shown, and written to the log file. -/
structure Logger where
  filter : Log.Filter
  place : Place
  logged : List Log.Event → Bytes
  described : Failure → String

def Surroundings.logger (s : Surroundings) (filter : Log.Filter) (place : Place) : Logger :=
  ⟨filter, place, s.logged, s.described⟩

namespace Logger

def shown (l : Logger) (events : List Log.Event) : List Log.Event := events.filter l.filter.shows

def write (l : Logger) (events : List Log.Event) (fs : FileSystem) : FileSystem :=
  addTo fs l.place (l.logged (l.shown events))

/-- A command finds the log file as far as it has been written. -/
def launch (l : Logger) (launch : Launcher) : Launcher := fun c events fs =>
  launch c (l.shown events) (l.write events fs)

/-- The events that have been logged since a command was started, if one has been. -/
def unwritten (log : List Log.Event) : List Log.Event :=
  (log.takeWhile (·.source ≠ .scripts)).reverse

end Logger

/-! ## Running -/

def Arguments.options (a : Arguments) : Report.Options := ⟨!a.skipPlot, !a.noShow⟩

def Arguments.config (a : Arguments) : Run Config := match a.configFile with
  | some path => Report.readConfig path
  | none => return {}

/-- A computation that stops at a fault has an exit code of its own. -/
def failed (e : Failure) (log : List Log.Event) (files : FileSystem) : Ending :=
  match e with
  | .fault f => ⟨101, "", f.message ++ "\n", log, files⟩
  | e => ⟨1, "", failureText e.chain, log, files⟩

def savedEvents (r : Report) : List Log.Event :=
  r.csvPaths.map fun path => ⟨.info, .program, s!"Saved {path}"⟩

namespace Logger

/-- A fault leaves no time to log it. -/
def failedEvents (l : Logger) (e : Failure) : List Log.Event := match e with
  | .fault _ => []
  | e => [⟨.error, .program, l.described e⟩]

/-- How a run ends that has left `world` and has logged `last` behind that. -/
def close (l : Logger) (world : World) (last : List Log.Event)
    (ending : List Log.Event → FileSystem → Ending) : Ending :=
  ending (l.shown (world.log.reverse ++ last)) (l.write (unwritten world.log ++ last) world.files)

/-- Reads the config and makes the report; a config that cannot be read is no event. -/
def report (l : Logger) (launch : Launcher) (a : Arguments) (fs : FileSystem) : Ending :=
  match (ExceptT.run a.config).run ⟨fs, []⟩ with
  | (.error e, world) => l.close world [] (failed e)
  | (.ok c, world) => match (ExceptT.run (Report.run (l.launch launch) c a.options)).run world with
    | (.error e, world) => l.close world (l.failedEvents e) (failed e)
    | (.ok r, world) => l.close world (savedEvents r) (⟨0, "", "", ·, ·⟩)

end Logger

/-- Why directives end the program. -/
def unread (e : Log.DirectiveError) (fs : FileSystem) : Ending := match e with
  | .boundary _ => ⟨101, "", e.message ++ "\n", [], fs⟩
  | e => ⟨1, "", failureText e.chain, [], fs⟩

/-- Runs the program; `level` is the level that the environment sets for the log. -/
def run (s : Surroundings) (args : List String) (level : Option String) (fs : FileSystem) : Ending :=
  match Arguments.read args with
  | .error .help => ⟨0, help, "", [], fs⟩
  | .error .version => ⟨0, version, "", [], fs⟩
  | .error (.error e) =>
    ⟨2, "", "error: " ++ e.message ++ "\n\nFor more information, try '--help'.\n", [], fs⟩
  | .ok a => match openLog fs with
    | .error e => ⟨101, "", unopenedText e, [], fs⟩
    | .ok (place, fs) =>
      let (left, filter) := Log.Filter.read s.check (level.getD "info") a.log
      let ending := match filter with
        | .error e => unread e fs
        | .ok filter => (s.logger filter place).report s.launch a fs
      { ending with stderr := ignoredText left ++ ending.stderr }

end Footprint.CommandLine
