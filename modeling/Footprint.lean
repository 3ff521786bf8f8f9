import Footprint.Main
import Footprint.Proofs.Aggregate.RoundTrip
import Footprint.Proofs.Csv.RoundTrip
import Footprint.Proofs.Files.Store
import Footprint.Proofs.Json.RoundTrip
import Footprint.Proofs.Number.RoundTrip
import Footprint.Proofs.Report.Aggregation
import Footprint.Proofs.Report.Persistence
import Footprint.Proofs.Report.PlotData
import Footprint.Proofs.Aggregate.History
import Footprint.Proofs.Figure.Layout
import Footprint.Proofs.Files.Changes
import Footprint.Proofs.Report.Loading
import Footprint.Proofs.Report.Effects
import Footprint.Proofs.Report.Failure
import Footprint.Proofs.Files.Rewriting
import Footprint.Proofs.Report.Repetition
import Footprint.Proofs.Number.Classes
import Footprint.Proofs.Config.Refusal
import Footprint.Proofs.Results.Table
import Footprint.Proofs.Results.Sizes
import Footprint.Proofs.Csv.Lengths
import Footprint.Proofs.Aggregate.Reading
import Footprint.Proofs.Aggregate.NormalForm
import Footprint.Proofs.Figure.Panels
import Footprint.Proofs.Report.Reread
import Footprint.Proofs.Config.Paths
import Footprint.Proofs.Report.Events
import Footprint.Proofs.CommandLine.Program
import Footprint.Proofs.Config.Document
import Footprint.Proofs.Aggregate.Cells
import Footprint.Proofs.Results.Counters
