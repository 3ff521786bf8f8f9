import Footprint.Config.Basic
import Footprint.Fault
import Footprint.Number.Style

/-! # What a configuration must have before a report is made -/
namespace Footprint.Config

inductive Invalid
  | noTasks
  | noIndexes
  | noWorkloads
  | grid (reserved workloads rows cols : Nat)
  | barWidth (width : Float)
  | noColors

def Invalid.message : Invalid → String
  | .noTasks => "No tasks configured"
  | .noIndexes => "No indexes configured"
  | .noWorkloads => "No workloads configured"
  | .grid reserved workloads rows cols =>
    s!"{reserved} reserved panels and {workloads} workloads do not fit a {rows}x{cols} grid"
  | .barWidth width => s!"Bar width must be positive, got {Number.Style.plain.text width}"
  | .noColors => "No bar colors configured"

/-- Refuses with the given reason unless `holds`. -/
def require (holds : Bool) (reason : Invalid) : Except (Stop Invalid) Unit :=
  if holds then .ok () else .error (.error reason)

def checkGrid (c : Config) : Except (Stop Invalid) Unit := do
  let f := c.figure
  let panels ← mulWord f.rows.toNat f.cols.toNat
  let used ← addWord f.reservedPanels.toNat c.workloads.length
  require (used ≤ panels)
    (.grid f.reservedPanels.toNat c.workloads.length f.rows.toNat f.cols.toNat)

def validate (c : Config) : Except (Stop Invalid) Unit := do
  require (!c.tasks.isEmpty) .noTasks
  require (!c.indexes.isEmpty) .noIndexes
  require (!c.workloads.isEmpty) .noWorkloads
  c.checkGrid
  require (0.0 < c.figure.barWidth) (.barWidth c.figure.barWidth)
  require (!c.figure.colors.isEmpty) .noColors

end Footprint.Config
