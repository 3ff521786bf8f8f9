import Footprint.Files.Path

/-! # The configuration of a report -/
namespace Footprint

structure Workload where
  /-- Names the workload's analysis file. -/
  name : String
  insertRatio : Float
  title : String

structure Output where
  figure : PathText := "benchmark_results_index_size.png"
  analysisDir : PathText := "analysis_results"

structure FigureStyle where
  width : Float := 10.0
  height : Float := 10.0
  dpi : UInt32 := 300
  rows : UInt64 := 2
  cols : UInt64 := 2
  /-- Panels in front that stay empty; the workloads fill those after them. -/
  reservedPanels : UInt64 := 2
  barWidth : Float := 0.2
  colors : List String := ["blue", "green", "red", "orange"]
  title : String := "Benchmark Results Across Different Workloads"
  titleSize : UInt32 := 16
  yLabel : String := "Index Size (Bytes)"
  shown : Bool := true

structure Config where
  tasks : List String := ["fb"]
  indexes : List String := ["BTree", "DynamicPGM", "LIPP", "HybridPGMLIPP"]
  resultsDir : String := "results"
  dataset : String := "100M_public_uint64"
  ops : String := "2M"
  rangeQueryRatio : Float := 0.0
  nonLookupRatio : Float := 0.5
  workloadLabel : String := "0m_mix"
  workloads : List Workload := [
    ⟨"mix1", 0.1, "Mixed Workload (10% insert ratio)"⟩,
    ⟨"mix2", 0.9, "Mixed Workload (90% insert ratio)"⟩]
  output : Output := {}
  figure : FigureStyle := {}
  /-- Runs the plot script. -/
  interpreter : String := "python3"
  plotScript : String := "plots/index_size.py"

end Footprint
