import Footprint.Proofs.Files.Changes
import Footprint.Proofs.Report.Stages

/-!
# The files that the steps of a report may change

Which files a step writes and which directories it makes is known before it runs, so a step that fails
has changed nothing else either. Only what the plot script does is not known.
-/
namespace Footprint

namespace Run

open FileSystem

variable {α β : Type} {files dirs : List String}

/-- Wherever it begins and however it ends, the step writes at most `files` and makes at most `dirs`. -/
def Confined (files dirs : List String) (x : Run α) : Prop :=
  ∀ w, ChangesOnly w.files (outcome x w).2.files files dirs

theorem Confined.of_outcome {x : Run α} (hx : Confined files dirs x) {w v : World}
    {r : Except Failure α} (h : outcome x w = (r, v)) : ChangesOnly w.files v.files files dirs := by
  have hw := hx w
  rwa [h] at hw

theorem Confined.mono {files' dirs' : List String} {x : Run α} (hx : Confined files dirs x)
    (hfiles : files ⊆ files') (hdirs : dirs ⊆ dirs') : Confined files' dirs' x :=
  fun w => (hx w).mono hfiles hdirs

theorem confined_pure (a : α) : Confined files dirs (pure a : Run α) := fun w => .refl w.files _ _

theorem confined_throw (e : Failure) : Confined files dirs (throw e : Run α) :=
  fun w => .refl w.files _ _

theorem confined_log (level : Log.Level) (source : Log.Source) (message : String) :
    Confined files dirs (log level source message) :=
  fun w => .refl w.files _ _

theorem confined_files : Confined files dirs Run.files := fun w => .refl w.files _ _

theorem Confined.bind {x : Run α} {f : α → Run β} (hx : Confined files dirs x)
    (hf : ∀ a, Confined files dirs (f a)) : Confined files dirs (x >>= f) := by
  intro w
  rw [outcome_bind]
  rcases h : outcome x w with ⟨e | a, u⟩
  · exact hx.of_outcome h
  · exact (hx.of_outcome h).trans (hf a u)

theorem confined_store (failure : OsError → Failure) (path : String) (content : Bytes) :
    Confined [path] [] (store failure path content) := by
  intro w
  rw [outcome_store]
  cases h : w.files.store path content with
  | error e => exact .refl w.files _ _
  | ok fs => exact store_changesOnly h

theorem confined_createDirAll (failure : OsError → Failure) (path : String) :
    Confined [] (wayTo path) (createDirAll failure path) := by
  intro w
  rw [outcome_createDirAll]
  exact w.files.createDirAll_changesOnly path

end Run

/-- Where directories may be made so that a file can be. -/
def FileSystem.wayAbove (path : String) : List String := (Path.parent? path).toList.flatMap wayTo

namespace Report

open Run FileSystem

private theorem wayTo_subset {path above : String} (h : Path.parent? path = some above) :
    wayTo above ⊆ wayAbove path := by
  rw [wayAbove, h, Option.toList_some, List.flatMap_singleton]
  exact List.Subset.refl _

/-! ## Analysis files -/

theorem confined_fillFile (t : Aggregate) (path : String) :
    Confined [path] (wayAbove path) (fillFile t path) := by
  have hstore := fun failure content =>
    (confined_store failure path content).mono (List.Subset.refl _) (List.nil_subset (wayAbove path))
  exact (hstore _ _).bind fun _ => (hstore _ _).bind fun _ => confined_log _ _ _

theorem confined_saveAggregate (t : Aggregate) (path : String) :
    Confined [path] (wayAbove path) (saveAggregate t path) := by
  rcases saveAggregate_eq t path with heq | ⟨above, hparent, heq⟩
  · rw [heq]
    exact confined_fillFile t path
  · rw [heq]
    exact ((confined_createDirAll _ above).mono (List.nil_subset _) (wayTo_subset hparent)).bind
      fun _ => confined_fillFile t path

/-- The directories that are made for the analysis files of some workloads. -/
def analysisDirs (c : Config) (workloads : List Workload) : List String :=
  wayTo c.output.analysisDir ++ workloads.flatMap fun w => wayAbove (c.analysisPath w)

variable {c : Config} {workloads : List Workload} {files dirs : List String}

theorem confined_analysisDir :
    Confined (workloads.map c.analysisPath) (analysisDirs c workloads)
      (createDirAll (.analysisDir c.output.analysisDir) c.output.analysisDir) :=
  (confined_createDirAll _ _).mono (List.nil_subset _) (List.subset_append_left _ _)

theorem confined_saveWorkload {w : Workload} (hw : w ∈ workloads) (t : Aggregate) :
    Confined (workloads.map c.analysisPath) (analysisDirs c workloads)
      (saveAggregate t (c.analysisPath w)) := by
  refine (confined_saveAggregate t (c.analysisPath w)).mono ?_ fun dir hdir => ?_
  · exact List.cons_subset.mpr ⟨List.mem_map_of_mem hw, List.nil_subset _⟩
  · exact List.mem_append_right _ (List.mem_flatMap.mpr ⟨w, hw, hdir⟩)

theorem confined_saveAll {pairs : List (Workload × Aggregate)}
    (h : ∀ p ∈ pairs, p.1 ∈ workloads) :
    Confined (workloads.map c.analysisPath) (analysisDirs c workloads) (saveAll c pairs) := by
  induction pairs with
  | nil => exact confined_pure []
  | cons pair rest ih =>
    obtain ⟨hw, hrest⟩ := List.forall_mem_cons.mp h
    exact (confined_saveWorkload hw pair.2).bind fun _ => (ih hrest).bind fun _ => confined_pure _

theorem confined_persist (c : Config) (ts : List Aggregate) :
    Confined (c.workloads.map c.analysisPath) (analysisDirs c c.workloads) (persist c ts) :=
  confined_analysisDir.bind fun _ => confined_saveAll fun _ hp => (List.of_mem_zip hp).1

/-! ## The figure -/

theorem confined_makeParent (path : String) : Confined [] (wayAbove path) (makeParent path) := by
  rw [makeParent]
  split
  · exact confined_pure ()
  · next above hparent =>
    refine confined_files.bind fun fs => ?_
    split
    · exact confined_pure ()
    · exact (confined_createDirAll _ above).mono (List.Subset.refl _) (wayTo_subset hparent)

theorem confined_writePlotData (f : Figure) (path : String) :
    Confined [path] (wayAbove path) (writePlotData f path) :=
  ((confined_makeParent path).mono (List.nil_subset _) (List.Subset.refl _)).bind fun _ =>
    ((confined_store _ path _).mono (List.Subset.refl _) (List.nil_subset _)).bind fun _ =>
      confined_log _ _ _

/-- The plot data, if the figure's path gives them a name. -/
def plotDataFiles (c : Config) : List String := c.plotDataPath.toOption.toList

/-- The directories that are made for the plot data and the figure. -/
def plotDirs (c : Config) : List String :=
  (plotDataFiles c).flatMap wayAbove ++ wayAbove c.output.figure

theorem confined_keepPlotData (c : Config) (f : Figure) :
    Confined (plotDataFiles c) (plotDirs c) (keepPlotData c f) := by
  cases hpath : c.plotDataPath with
  | error message =>
    simp only [keepPlotData, hpath]
    exact confined_throw _
  | ok path =>
    have hfiles : plotDataFiles c = [path] := by simp [plotDataFiles, hpath, Except.toOption]
    have hdirs : plotDirs c = wayAbove path ++ wayAbove c.output.figure := by
      rw [plotDirs, hfiles, List.flatMap_singleton]
    rw [hfiles, hdirs]
    simp only [keepPlotData, hpath, pure_bind]
    exact ((confined_writePlotData f path).mono (List.Subset.refl _)
      (List.subset_append_left _ _)).bind fun _ => confined_pure _

theorem confined_requireText (path : PathText) (message : String) :
    Confined files dirs (requireText path message) := by
  rw [requireText]
  split
  · exact confined_pure ()
  · exact confined_throw _

theorem confined_makeWay (c : Config) : Confined (plotDataFiles c) (plotDirs c) (makeWay c) := by
  rw [makeWay]
  split
  · exact ((confined_makeParent c.output.figure).mono (List.nil_subset _)
      (List.subset_append_right _ _)).bind fun _ => (confined_requireText _ _).bind fun _ =>
        confined_requireText _ _
  · exact (confined_requireText _ _).bind fun _ => confined_requireText _ _

theorem confined_beforeScript (c : Config) (f : Figure) :
    Confined (plotDataFiles c) (plotDirs c) (beforeScript c f) :=
  (confined_keepPlotData c f).bind fun _ => (confined_makeWay c).bind fun _ => confined_pure _

end Report
end Footprint
