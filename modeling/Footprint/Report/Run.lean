import Footprint.Report.Aggregation
import Footprint.Report.Persistence
import Footprint.Report.Plotting

/-! # The index size report from its configuration to its files -/
namespace Footprint

structure Report where
  aggregates : List Aggregate
  figure : Figure
  csvPaths : List String

namespace Report

open Run

structure Options where
  /-- The figure is drawn. -/
  plot : Bool := true
  /-- A window shows the figure. -/
  shown : Bool := true

def readConfig (path : String) : Run Config := do
  let bs ← ofOs (.configFile path) ((← files).contents path)
  match Text.ofBytes? bs with
  | none => throw (.configText path)
  | some text => match Config.read text with
    | .error e => throw (.config path e)
    | .ok c =>
      ofStop .invalid c.validate
      return c

def run (launch : Launcher) (c : Config) (o : Options) : Run Report := do
  ofStop .invalid c.validate
  let aggregates ← aggregate c
  let figure ← ofStop .layout (Figure.build c aggregates)
  if o.plot then render launch c figure (o.shown && c.figure.shown)
  else log .debug .reports "Skipping figure"
  let csvPaths ← persist c aggregates
  let count := (aggregates.map Aggregate.size).foldr (· + ·) 0
  log .info .reports s!"Aggregated {count} values over {aggregates.length} workloads"
  return ⟨aggregates, figure, csvPaths⟩

end Report
end Footprint
