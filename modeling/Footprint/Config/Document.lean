import Footprint.Config.Basic
import Footprint.Yaml.Decode

/-! # Configurations as YAML documents: a field that is left out keeps its default -/
namespace Footprint.Config

/-- The fields of a workload read so far; all of them are required. -/
structure WorkloadDraft where
  name : Option String := none
  insertRatio : Option Float := none
  title : Option String := none

def workloadFields : List (Yaml.Field WorkloadDraft) := [
  .of "name" Yaml.text fun w v => { w with name := some v },
  .of "insert_ratio" Yaml.real fun w v => { w with insertRatio := some v },
  .of "title" Yaml.text fun w v => { w with title := some v }]

def need {α : Type} (name : String) : Option α → Except Yaml.Error α
  | some v => .ok v
  | none => Yaml.fail (.missingField name)

def WorkloadDraft.complete (w : WorkloadDraft) : Except Yaml.Error Workload := do
  let name ← need "name" w.name
  let insertRatio ← need "insert_ratio" w.insertRatio
  let title ← need "title" w.title
  return ⟨name, insertRatio, title⟩

def workload : Yaml.Decoder Workload := fun d n => do
  (← Yaml.record "struct Workload" workloadFields {} d n).complete

def pathText : Yaml.Decoder PathText := fun d n => (fun shown => ⟨shown, []⟩) <$> Yaml.path d n

def outputFields : List (Yaml.Field Output) := [
  .of "figure" pathText fun o v => { o with figure := v },
  .of "analysis_dir" pathText fun o v => { o with analysisDir := v }]

def figureFields : List (Yaml.Field FigureStyle) := [
  .of "width" Yaml.real fun f v => { f with width := v },
  .of "height" Yaml.real fun f v => { f with height := v },
  .of "dpi" Yaml.word32 fun f v => { f with dpi := v },
  .of "rows" Yaml.word64 fun f v => { f with rows := v },
  .of "cols" Yaml.word64 fun f v => { f with cols := v },
  .of "reserved_panels" Yaml.word64 fun f v => { f with reservedPanels := v },
  .of "bar_width" Yaml.real fun f v => { f with barWidth := v },
  .of "colors" (Yaml.list Yaml.text) fun f v => { f with colors := v },
  .of "title" Yaml.text fun f v => { f with title := v },
  .of "title_size" Yaml.word32 fun f v => { f with titleSize := v },
  .of "y_label" Yaml.text fun f v => { f with yLabel := v },
  .of "show" Yaml.boolean fun f v => { f with shown := v }]

def fields : List (Yaml.Field Config) := [
  .of "tasks" (Yaml.list Yaml.text) fun c v => { c with tasks := v },
  .of "indexes" (Yaml.list Yaml.text) fun c v => { c with indexes := v },
  .of "results_dir" Yaml.path fun c v => { c with resultsDir := v },
  .of "dataset" Yaml.text fun c v => { c with dataset := v },
  .of "ops" Yaml.text fun c v => { c with ops := v },
  .of "range_query_ratio" Yaml.real fun c v => { c with rangeQueryRatio := v },
  .of "non_lookup_ratio" Yaml.real fun c v => { c with nonLookupRatio := v },
  .of "workload_label" Yaml.text fun c v => { c with workloadLabel := v },
  .of "workloads" (Yaml.list workload) fun c v => { c with workloads := v },
  .of "output" (Yaml.record "struct OutputConfig" outputFields {}) fun c v =>
    { c with output := v },
  .of "figure" (Yaml.record "struct FigureConfig" figureFields {}) fun c v =>
    { c with figure := v },
  .of "python" Yaml.text fun c v => { c with interpreter := v },
  .of "plot_script" Yaml.path fun c v => { c with plotScript := v }]

/-- The configuration that a document describes; an empty text changes nothing. -/
def ofDocument (d : Yaml.Document) : Except Yaml.Error Config :=
  match d.root with
  | none => .ok {}
  | some n => Yaml.record "struct Config" fields {} d n

inductive ReadError
  | malformed
  | value (e : Yaml.Error)

/-- Reads a configuration from YAML text. -/
def read (text : String) : Except ReadError Config :=
  match Yaml.Document.parse? text with
  | none => .error .malformed
  | some d => (ofDocument d).mapError .value

end Footprint.Config
