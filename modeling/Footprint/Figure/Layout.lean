import Footprint.Aggregate.Table
import Footprint.Config.Paths
import Footprint.Figure.Basic

/-! # Laying out the figure: one panel per workload behind the reserved ones -/
namespace Footprint.Figure

inductive LayoutError
  | count (aggregates workloads : Nat)
  | outsideGrid
deriving Repr, DecidableEq

def LayoutError.message : LayoutError → String
  | .count aggregates workloads => s!"Got {aggregates} aggregates for {workloads} workloads"
  | .outsideGrid => "Workload panel outside the grid"

/-- The bars of the task at position `pos`, each group one further to the right. -/
def seriesOf (c : Config) (t : Aggregate) (pos : Nat) (task : String) :
    Except (Stop LayoutError) Series := do
  let color ← c.taskColor pos
  let width := c.figure.barWidth
  return {
    label := task
    color := color
    width := width
    x := (List.range c.indexes.length).map fun i => i.toFloat + pos.toFloat * width
    heights := c.indexes.map fun index => t.barHeight index task }

/-- The series of the tasks from position `pos` on. -/
def allSeries (c : Config) (t : Aggregate) (pos : Nat) :
    List String → Except (Stop LayoutError) (List Series)
  | [] => .ok []
  | task :: tasks => do
    let s ← seriesOf c t pos task
    return s :: (← allSeries c t (pos + 1) tasks)

/-- A tick stands below the middle of its group. -/
def panelOf (c : Config) (title : String) (t : Aggregate) : Except (Stop LayoutError) Panel := do
  let center := c.figure.barWidth * (c.tasks.length - 1).toFloat / 2.0
  let series ← allSeries c t 0 c.tasks
  return {
    title := title
    yLabel := c.figure.yLabel
    ticks := (List.range c.indexes.length).map fun i => i.toFloat + center
    tickLabels := c.indexes
    series := series }

/-- Puts the panels of the workloads from position `i` on into their slots. -/
def fill (c : Config) (panels : List (Option Panel)) (i : Nat) :
    List (Workload × Aggregate) → Except (Stop LayoutError) (List (Option Panel))
  | [] => .ok panels
  | (w, t) :: rest => do
    let slot ← addWord c.figure.reservedPanels.toNat i
    if slot < panels.length then
      let panel ← panelOf c w.title t
      fill c (panels.set slot (some panel)) (i + 1) rest
    else .error (.error .outsideGrid)

/-- How many bytes one slot of the grid takes, whether there is a panel in it or not. -/
def slotSize : Nat := 120

/-- The figure of aggregates that stand in the order of the workloads. -/
def build (c : Config) (aggregates : List Aggregate) : Except (Stop LayoutError) Figure := do
  if aggregates.length ≠ c.workloads.length then
    .error (.error (.count aggregates.length c.workloads.length))
  else
    let f := c.figure
    let count ← mulWord f.rows.toNat f.cols.toNat
    let grid ← replicateWithin slotSize count none
    let panels ← fill c grid 0 (c.workloads.zip aggregates)
    return ⟨f.width, f.height, f.dpi, f.rows, f.cols, f.title, f.titleSize,
      ⟨0.0, 0.0, 1.0, 0.95⟩, panels⟩

end Footprint.Figure
