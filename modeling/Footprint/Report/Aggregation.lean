import Footprint.Report.Basic

/-! # Averaging the results tables of every task and workload -/
namespace Footprint.Report

open Run

def loadTable (path : String) : Run Results.Table := do
  let bs ← ofOs (.tableFile path) ((← files).contents path)
  match Results.Table.read path bs with
  | .error e => throw (.table path e)
  | .ok t =>
    log .debug .results s!"Loaded {t.rows.length} rows from {path}"
    return t

/-- Adds the mean of one index; an index without one is logged and left out. -/
def addIndex (w : Workload) (task : String) (table : Results.Table) (t : Aggregate)
    (index : String) : Run Aggregate :=
  match table.meanSize index with
  | .ok mean => do
    log .debug .reports s!"{w.name}: {index}/{task} = {Number.Style.plain.text mean}"
    return t.insert index task mean
  | .error (.fault f) => throw (.fault f)
  | .error (.error miss) => do
    log .warn .reports s!"{w.name}: skipping {index}/{task}, {miss.message}"
    return t

/-- Adds the means of one results table. -/
def addTable (c : Config) (task : String) (w : Workload) (t : Aggregate) : Run Aggregate := do
  let table ← loadTable (c.resultsPath task w)
  c.indexes.foldlM (addIndex w task table) t

/-- Adds the tables of one task, in the order of the workloads. -/
def addTask (c : Config) (pairs : List (Workload × Aggregate)) (task : String) :
    Run (List (Workload × Aggregate)) :=
  pairs.mapM fun (w, t) => do return (w, ← addTable c task w t)

/-- The aggregate of every workload, in their order. -/
def aggregate (c : Config) : Run (List Aggregate) := do
  let empty := c.workloads.map fun w => (w, Aggregate.new w.name c.indexes c.tasks)
  return (← c.tasks.foldlM (addTask c) empty).map (·.2)

end Footprint.Report
