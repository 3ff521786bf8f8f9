import Footprint.Config.Basic
import Footprint.Fault
import Footprint.Files.Path
import Footprint.Number.Style
import Footprint.Text.Quoted

/-! # The files that a configuration names, and its bar colors -/
namespace Footprint.Config

def resultsName (c : Config) (task : String) (w : Workload) : String :=
  let ratio := Number.fixedText 6
  s!"{task}_{c.dataset}_ops_{c.ops}_{ratio c.rangeQueryRatio}rq_{ratio c.nonLookupRatio}nl_" ++
    s!"{ratio w.insertRatio}i_{c.workloadLabel}_results_table.csv"

/-- The results table of `task` under `w`. -/
def resultsPath (c : Config) (task : String) (w : Workload) : String :=
  Path.join c.resultsDir (c.resultsName task w)

def analysisPath (c : Config) (w : Workload) : String :=
  Path.join c.output.analysisDir s!"insertlookup_{w.name}_index_size.csv"

/-- The plot data stand below the analysis directory under the figure's name, which has to be text. -/
def plotDataPath (c : Config) : Except String String :=
  match Path.textStem? c.output.figure with
  | some stem => .ok (Path.join (Path.join c.output.analysisDir "plot_data") s!"{stem}.json")
  | none => .error s!"Invalid figure path {Text.quoted c.output.figure.shown}"

/-- The colors are taken in turn, again from the first after the last. -/
def taskColor {ε : Type} (c : Config) (task : Nat) : Except (Stop ε) String := do
  let i ← remWord task c.figure.colors.length
  return c.figure.colors[i]?.getD ""

end Footprint.Config
