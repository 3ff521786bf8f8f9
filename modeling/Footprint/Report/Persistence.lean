import Footprint.Report.Basic

/-! # Keeping the aggregates as files -/
namespace Footprint.Report

open Run

/-- Saves an aggregate. The file is made before it is filled, as either may fail. -/
def saveAggregate (t : Aggregate) (path : String) : Run Unit := do
  match Path.parent? path with
  | none | some "" => pure ()
  | some above => createDirAll .directory above
  store (.analysisFile path) path []
  store (.analysisText path) path t.toCsv
  log .info .aggregates s!"Wrote {t.workload} aggregate to {path}"

/-- Reads an aggregate that has been saved. A directory can be opened, but not read. -/
def loadAggregate (workload path : String) : Run Aggregate := do
  let entry ← ofOs (.savedFile path) ((← files).lookup path)
  match Aggregate.ofCsv workload (← ofOs .savedText entry.read) with
  | .ok t => return t
  | .error e => throw (.saved e)

/-- Saves each aggregate under its workload's name. -/
def saveAll (c : Config) : List (Workload × Aggregate) → Run (List String)
  | [] => return []
  | (w, t) :: rest => do
    let path := c.analysisPath w
    saveAggregate t path
    return path :: (← saveAll c rest)

def persist (c : Config) (aggregates : List Aggregate) : Run (List String) := do
  createDirAll (.analysisDir c.output.analysisDir) c.output.analysisDir
  saveAll c (c.workloads.zip aggregates)

end Footprint.Report
