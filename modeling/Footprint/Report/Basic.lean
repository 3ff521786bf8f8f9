import Footprint.Aggregate.Csv
import Footprint.Command.Basic
import Footprint.Config.Document
import Footprint.Config.Validation
import Footprint.Figure.Layout
import Footprint.Log.Event
import Footprint.Results.Mean

/-! # Making a report: what it changes, and why it may fail -/
namespace Footprint

/-- Why a report is not finished. -/
inductive Failure
  | fault (f : Fault)
  | configFile (path : String) (e : OsError)
  | configText (path : String)
  | config (path : String) (e : Config.ReadError)
  | invalid (e : Config.Invalid)
  | tableFile (path : String) (e : OsError)
  | table (path : String) (e : Results.Error)
  | layout (e : Figure.LayoutError)
  | figurePath (message : String)
  | directory (e : OsError)
  | plotData (path : String) (e : OsError)
  | spawn (interpreter path : String) (e : SpawnError)
  | script (path : String) (status : ExitStatus)
  | analysisDir (path : String) (e : OsError)
  | analysisFile (path : String) (e : OsError)
  | analysisText (path : String) (e : OsError)
  | savedFile (path : String) (e : OsError)
  | savedText (e : OsError)
  | saved (e : Aggregate.ReadError)

/-- The messages of a failure, outermost first. -/
def Failure.chain : Failure → List String
  | .fault f => [f.message]
  | .configFile path e => [s!"Read config {path}", e.message]
  | .configText path => [s!"Read config {path}", "stream did not contain valid UTF-8"]
  | .config path .malformed => [s!"Parse config {path}", "not one well-formed document"]
  | .config path (.value e) => [s!"Parse config {path}", e.message]
  | .invalid e => [e.message]
  | .tableFile path e => [s!"Read results table {path}", e.message]
  | .table path e => e.chain path
  | .layout e => [e.message]
  | .figurePath message => [message]
  | .directory e => [e.message]
  | .plotData path e => [s!"Write plot data {path}", e.message]
  | .spawn interpreter path e => [s!"Spawn {interpreter} {path}", e.message]
  | .script path status => [s!"Plot script {path} failed with {status.message}"]
  | .analysisDir path e => [s!"Create analysis dir {path}", e.message]
  | .analysisFile path e => [s!"Create {path}", e.message]
  | .analysisText path e => [s!"Write {path}", e.message]
  | .savedFile path e => [s!"Open {path}", e.message]
  | .savedText e => [e.message]
  | .saved e => e.chain

/-- What a report changes: the files, and the log, whose last event stands first. -/
structure World where
  files : FileSystem
  log : List Log.Event

/-- A step of a report. What it has changed stays, also after a failure. -/
abbrev Run := ExceptT Failure (StateM World)

namespace Run

def log (level : Log.Level) (source : Log.Source) (message : String) : Run Unit :=
  modify fun w => { w with log := ⟨level, source, message⟩ :: w.log }

def files : Run FileSystem := do return (← get).files

/-- What has been logged, from the first event to the last. -/
def logged : Run (List Log.Event) := do return (← get).log.reverse

def setFiles (fs : FileSystem) : Run Unit := modify fun w => { w with files := fs }

/-- The value of a computation that may stop. -/
def ofStop {ε α : Type} (failure : ε → Failure) : Except (Stop ε) α → Run α
  | .ok v => return v
  | .error (.fault f) => throw (.fault f)
  | .error (.error e) => throw (failure e)

/-- The value of an access to the file system. -/
def ofOs {α : Type} (failure : OsError → Failure) : Except OsError α → Run α
  | .ok v => return v
  | .error e => throw (failure e)

def store (failure : OsError → Failure) (path : String) (content : Bytes) : Run Unit := do
  setFiles (← ofOs failure ((← files).store path content))

def createDirAll (failure : OsError → Failure) (path : String) : Run Unit := do
  let (result, fs) := (← files).createDirAll path
  setFiles fs
  ofOs failure result

end Run
end Footprint
