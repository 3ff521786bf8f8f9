import Footprint.Report.Basic

/-! # Handing the figure to the plot script -/
namespace Footprint.Report

open Run

/-- Runs a plot script with pairs of a flag and a value. -/
def runScript (launch : Launcher) (interpreter script : String) (args : List (String × String)) :
    Run Unit := do
  let flat := args.flatMap fun (flag, value) => [flag, value]
  log .debug .scripts (interpreter ++ " " ++ script ++ " " ++ " ".intercalate flat)
  let (result, fs) := launch ⟨interpreter, script :: flat⟩ (← logged) (← files)
  setFiles fs
  match result with
  | .error e => throw (.spawn interpreter script e)
  | .ok status => if status.succeeded then return () else throw (.script script status)

/-- Creates the directory above a path, unless there is something there. -/
def makeParent (path : String) : Run Unit := do
  match Path.parent? path with
  | none => return ()
  | some above =>
    if (← files).exists? above then return () else createDirAll .directory above

def writePlotData (f : Figure) (path : String) : Run Unit := do
  makeParent path
  store (.plotData path) path (Text.bytes f.render)
  log .debug .figures s!"Wrote plot data {path}"

/-- The arguments of a command have to be text. -/
def requireText (path : PathText) (message : String) : Run Unit :=
  if path.isText then return () else throw (.figurePath message)

/-- Keeps the plot data and has the figure drawn from them. -/
def render (launch : Launcher) (c : Config) (f : Figure) (shown : Bool) : Run Unit := do
  let path ← match c.plotDataPath with
    | .ok path => pure path
    | .error message => throw (.figurePath message)
  writePlotData f path
  if Path.parent? c.output.figure ≠ some "" then makeParent c.output.figure
  -- Below the analysis directory, the path of the plot data is text.
  requireText c.output.analysisDir "Plot data path is not valid utf-8"
  requireText c.output.figure "Figure path is not valid utf-8"
  runScript launch c.interpreter c.plotScript
    ([("--data", path), ("--filepath", c.output.figure)] ++ if shown then [("--show", "1")] else [])
  log .info .figures s!"Saved figure to {c.output.figure.shown}"

end Footprint.Report
