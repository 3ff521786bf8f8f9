import Footprint.Proofs.Figure.PlotData
import Footprint.Proofs.Files.Store
import Footprint.Proofs.Number.Bits
import Footprint.Proofs.Report.Stages

/-!
# The plot data that a run leaves

A run that draws its figure first writes the plot data. What it has written is read as the same
figure exactly when each number of the figure is read back from its own digits. Numbers that are not
finite have none, and some means of large sizes are read as a neighbour.
-/
namespace Footprint.Report

open Run

/-- What a run with a figure does up to its plot data. -/
def plotted (c : Config) : Run (List Aggregate × Figure × String) := do
  let (aggregates, figure) ← prepare c
  return (aggregates, figure, ← keepPlotData c figure)

/-- What it does with the plot data in place. -/
def finish (launch : Launcher) (c : Config) (shown : Bool) :
    List Aggregate × Figure × String → Run Report := fun (aggregates, figure, path) => do
  makeWay c
  script launch c (shown && c.figure.shown) path
  conclude c aggregates figure

private theorem run_plot (launch : Launcher) (c : Config) (shown : Bool) :
    run launch c ⟨true, shown⟩ = plotted c >>= finish launch c shown := by
  simp only [run_eq, draw, if_true, render_eq, beforeScript, plotted, finish, bind_assoc, pure_bind]

/-- A run with a figure goes on from its plot data. -/
theorem outcome_run_of_plotted {c : Config} {w v : World} {ts : List Aggregate} {f : Figure}
    {path : String} (h : outcome (plotted c) w = (.ok (ts, f, path), v)) (launch : Launcher)
    (shown : Bool) :
    outcome (run launch c ⟨true, shown⟩) w = outcome (finish launch c shown (ts, f, path)) v := by
  rw [run_plot, outcome_bind, h]

/-! ## The file -/

theorem writePlotData_spec {f : Figure} {path : String} {u v : World}
    (h : outcome (writePlotData f path) u = (.ok (), v)) :
    v.files.lookup path = .ok (.file (Text.bytes f.render)) ∨
      ∃ full, v.files.lookup path = .ok (.device full) := by
  obtain ⟨_, u₁, -, h⟩ := outcome_bind_ok.mp h
  obtain ⟨_, u₂, hstore, hlog⟩ := outcome_bind_ok.mp h
  have hfiles := store_ok hstore
  rw [outcome_log] at hlog
  cases hlog
  obtain ⟨-, p, hpath, -, hentry⟩ := FileSystem.store_spec hfiles
  rw [World.files_note]
  simp only [FileSystem.lookup_eq_ok_iff hpath]
  exact hentry

theorem keepPlotData_ok {c : Config} {f : Figure} {path : String} {u v : World}
    (h : outcome (keepPlotData c f) u = (.ok path, v)) :
    c.plotDataPath = .ok path ∧ outcome (writePlotData f path) u = (.ok (), v) := by
  rw [keepPlotData] at h
  cases hpath : c.plotDataPath with
  | error message =>
    rw [hpath] at h
    obtain ⟨_, _, hthrow, -⟩ := outcome_bind_ok.mp h
    cases hthrow
  | ok p =>
    simp only [hpath, pure_bind] at h
    obtain ⟨_, _, hwrite, hend⟩ := outcome_bind_ok.mp h
    rw [outcome_pure] at hend
    cases hend
    exact ⟨rfl, hwrite⟩

theorem plotted_spec {c : Config} {w v : World} {ts : List Aggregate} {f : Figure} {path : String}
    (h : outcome (plotted c) w = (.ok (ts, f, path), v)) :
    ∃ u, outcome (writePlotData f path) u = (.ok (), v) := by
  obtain ⟨_, u, -, h⟩ := outcome_bind_ok.mp h
  obtain ⟨_, _, hkeep, hend⟩ := outcome_bind_ok.mp h
  rw [outcome_pure] at hend
  cases hend
  exact ⟨u, (keepPlotData_ok hkeep).2⟩

theorem plotted_contents {c : Config} {w v : World} {ts : List Aggregate} {f : Figure}
    {path : String} (h : outcome (plotted c) w = (.ok (ts, f, path), v)) :
    ∃ text, v.files.contents path = .ok (Text.bytes text) ∧
      (Figure.parse text = .ok f ↔ (∃ content, v.files.lookup path = .ok (.file content)) ∧
        ∀ x ∈ f.reals, Json.Reader.reread x = .ok x) := by
  obtain ⟨u, hwrite⟩ := plotted_spec h
  rcases writePlotData_spec hwrite with hfile | ⟨full, hdevice⟩
  · refine ⟨f.render, by simp only [FileSystem.contents, hfile, bind, Except.bind, Entry.read], ?_⟩
    rw [f.parse_render_eq_ok_iff]
    exact (and_iff_right ⟨_, hfile⟩).symm
  · -- A device keeps nothing, and no figure has the empty text.
    refine ⟨"", by simp only [FileSystem.contents, hdevice, bind, Except.bind, Entry.read]; rfl, ?_⟩
    have hempty : Figure.parse "" ≠ .ok f := by
      intro hparse
      cases hparse
    simp [hempty, hdevice]

theorem isFinite_of_reread {x : Float} (h : Json.Reader.reread x = .ok x) : x.isFinite = true := by
  rw [Number.isFinite_iff]
  by_contra hx
  rw [Json.Reader.reread_of_not_finite hx] at h
  cases h

/-- The plot data that a run has written are read as the figure that was built exactly when they
are kept as a file and each number of the figure is finite and read back from its own digits. -/
theorem parse_plotData_iff {c : Config} {w v : World} {ts : List Aggregate} {f : Figure}
    {path : String} (h : outcome (plotted c) w = (.ok (ts, f, path), v)) :
    (∀ launch shown, outcome (run launch c ⟨true, shown⟩) w =
      outcome (finish launch c shown (ts, f, path)) v) ∧
    ∃ text, v.files.contents path = .ok (Text.bytes text) ∧
      (Figure.parse text = .ok f ↔ (∃ content, v.files.lookup path = .ok (.file content)) ∧
        ∀ x ∈ f.reals, x.isFinite = true ∧ Json.Reader.reread x = .ok x) := by
  have hreals : (∀ x ∈ f.reals, x.isFinite = true ∧ Json.Reader.reread x = .ok x) ↔
      ∀ x ∈ f.reals, Json.Reader.reread x = .ok x :=
    forall₂_congr fun x _ => and_iff_right_of_imp isFinite_of_reread
  rw [hreals]
  exact ⟨outcome_run_of_plotted h, plotted_contents h⟩

private def oneWorkload : Config where
  indexes := ["BTree"]
  workloads := [⟨"mix", 0.1, "Mixed"⟩]

private def measured (rows : String) : World where
  files := { entries := [(["results"], .directory),
    (["results", oneWorkload.resultsName "fb" ⟨"mix", 0.1, "Mixed"⟩],
      .file (Text.bytes ("index_name,index_size_bytes\n" ++ rows)))] }
  log := []

/-- Whether a number is read back, as far as that can be computed. -/
private def comesBack (x : Float) : Bool :=
  match Json.Reader.reread x with
  | .ok y => x = y
  | .error _ => false

private theorem comesBack_iff (x : Float) : comesBack x = true ↔ Json.Reader.reread x = .ok x := by
  rw [comesBack]
  cases Json.Reader.reread x <;> simp [eq_comm]

private theorem plotted_of_rows (rows : String) (back : Bool)
    (hrun : givesWith (fun p _ => p.2.1.reals.all comesBack = back)
      (outcome (plotted oneWorkload) (measured rows)) = true) :
    ∃ ts f path v, outcome (plotted oneWorkload) (measured rows) = (.ok (ts, f, path), v) ∧
      (back = true ↔ ∀ x ∈ f.reals, Json.Reader.reread x = .ok x) := by
  obtain ⟨⟨ts, f, path⟩, v, hout, hback⟩ := exists_of_givesWith hrun
  refine ⟨ts, f, path, v, hout, ?_⟩
  rw [← of_decide_eq_true hback, List.all_eq_true]
  exact forall₂_congr fun x _ => comesBack_iff x

theorem parse_plotData_iff_whole_size : ∃ ts f path v,
    outcome (plotted oneWorkload) (measured "BTree,1500\n") = (.ok (ts, f, path), v) ∧
      (∀ x ∈ f.reals, Json.Reader.reread x = .ok x) ∧
      ∃ text, v.files.contents path = .ok (Text.bytes text) ∧
        (Figure.parse text = .ok f ↔ (∃ content, v.files.lookup path = .ok (.file content)) ∧
          ∀ x ∈ f.reals, x.isFinite = true ∧ Json.Reader.reread x = .ok x) := by
  obtain ⟨ts, f, path, v, hout, hback⟩ :=
    plotted_of_rows "BTree,1500\n" true (by decide +kernel)
  exact ⟨ts, f, path, v, hout, hback.mp rfl, (parse_plotData_iff hout).2⟩

/-- The mean of three sizes of some ninety gigabytes is read back as a neighbour. -/
theorem parse_plotData_three_sizes : ∃ ts f path v,
    outcome (plotted oneWorkload)
        (measured "BTree,90666667301\nBTree,90666667302\nBTree,90666667302\n") =
      (.ok (ts, f, path), v) ∧
    (∀ launch shown, outcome (run launch oneWorkload ⟨true, shown⟩)
        (measured "BTree,90666667301\nBTree,90666667302\nBTree,90666667302\n") =
      outcome (finish launch oneWorkload shown (ts, f, path)) v) ∧
    ∃ text, v.files.contents path = .ok (Text.bytes text) ∧ Figure.parse text ≠ .ok f := by
  obtain ⟨ts, f, path, v, hout, hback⟩ := plotted_of_rows
    "BTree,90666667301\nBTree,90666667302\nBTree,90666667302\n" false (by decide +kernel)
  obtain ⟨text, htext, hparse⟩ := plotted_contents hout
  refine ⟨ts, f, path, v, hout, outcome_run_of_plotted hout, text, htext, fun h => ?_⟩
  exact Bool.false_ne_true (hback.mpr (hparse.mp h).2)

end Footprint.Report
