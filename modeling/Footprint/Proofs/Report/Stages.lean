import Footprint.Proofs.Report.Outcome
import Footprint.Report.Run

/-!
# The stages of a run

A run checks its configuration, loads and averages all tables and lays out the figure. Then it draws
the figure, and then it saves the aggregates. The last two stages are cut once more: drawing where the
plot data are kept and where the plot script is started, and saving an aggregate where the directories
above its file are there.
-/
namespace Footprint.Report

open Run

/-! ## A run -/

/-- What a run does before it changes anything. -/
def prepare (c : Config) : Run (List Aggregate × Figure) := do
  ofStop .invalid c.validate
  let aggregates ← aggregate c
  let figure ← ofStop .layout (Figure.build c aggregates)
  return (aggregates, figure)

def draw (launch : Launcher) (c : Config) (o : Options) (f : Figure) : Run Unit :=
  if o.plot then render launch c f (o.shown && c.figure.shown)
  else log .debug .reports "Skipping figure"

/-- What a run does with its aggregates, once the figure has been drawn. -/
def conclude (c : Config) (ts : List Aggregate) (f : Figure) : Run Report := do
  let csvPaths ← persist c ts
  let count := (ts.map Aggregate.size).foldr (· + ·) 0
  log .info .reports s!"Aggregated {count} values over {ts.length} workloads"
  return ⟨ts, f, csvPaths⟩

theorem run_eq (launch : Launcher) (c : Config) (o : Options) :
    run launch c o = prepare c >>= fun (ts, f) => draw launch c o f >>= fun _ => conclude c ts f := by
  simp only [run, prepare, bind_assoc, pure_bind]
  refine bind_congr fun _ => bind_congr fun ts => bind_congr fun f => ?_
  rw [draw]
  split_ifs <;> rfl

variable {launch : Launcher} {c : Config} {o : Options} {w u u' v : World} {ts : List Aggregate}
  {f : Figure} {paths : List String} {r : Report} {e : Failure}

theorem outcome_run_of_draw (hprepare : outcome (prepare c) w = (.ok (ts, f), u))
    (hdraw : outcome (draw launch c o f) u = (.ok (), u')) :
    outcome (run launch c o) w = outcome (conclude c ts f) u' := by
  rw [run_eq, outcome_bind, hprepare]
  simp only
  rw [outcome_bind, hdraw]

theorem run_of_draw_error (hprepare : outcome (prepare c) w = (.ok (ts, f), u))
    (hdraw : outcome (draw launch c o f) u = (.error e, v)) :
    outcome (run launch c o) w = (.error e, v) := by
  rw [run_eq]
  exact outcome_bind_error.mpr (.inr ⟨_, u, hprepare, outcome_bind_error.mpr (.inl hdraw)⟩)

theorem conclude_of_persist (f : Figure) (h : outcome (persist c ts) u = (.ok paths, v)) :
    ∃ v' : World, outcome (conclude c ts f) u = (.ok ⟨ts, f, paths⟩, v') ∧ v'.files = v.files :=
  ⟨_, outcome_bind_ok.mpr ⟨paths, v, h, rfl⟩, rfl⟩

theorem conclude_error :
    outcome (conclude c ts f) u = (.error e, v) ↔ outcome (persist c ts) u = (.error e, v) := by
  rw [conclude, outcome_bind_error]
  refine or_iff_left ?_
  rintro ⟨paths, u', -, h⟩
  rcases outcome_bind_error.mp h with hlog | ⟨_, _, -, hend⟩
  · cases hlog
  · cases hend

/-- The stages of a run that succeeds. -/
theorem run_stages (h : outcome (run launch c o) w = (.ok r, v)) :
    ∃ u u' v' : World, outcome (prepare c) w = (.ok (r.aggregates, r.figure), u) ∧
      outcome (draw launch c o r.figure) u = (.ok (), u') ∧
      outcome (persist c r.aggregates) u' = (.ok r.csvPaths, v') ∧ v'.files = v.files := by
  rw [run_eq] at h
  obtain ⟨⟨ts, f⟩, u, hprepare, h⟩ := outcome_bind_ok.mp h
  obtain ⟨_, u', hdraw, h⟩ := outcome_bind_ok.mp h
  obtain ⟨paths, v', hpersist, h⟩ := outcome_bind_ok.mp h
  obtain ⟨_, _, hlog, h⟩ := outcome_bind_ok.mp h
  cases hlog
  cases h
  exact ⟨u, u', v', hprepare, hdraw, hpersist, rfl⟩

/-- A run that fails does so in one of its stages. -/
theorem run_error (h : outcome (run launch c o) w = (.error e, v)) :
    outcome (prepare c) w = (.error e, v) ∨
      ∃ ts f u, outcome (prepare c) w = (.ok (ts, f), u) ∧
        (outcome (draw launch c o f) u = (.error e, v) ∨
          ∃ u', outcome (draw launch c o f) u = (.ok (), u') ∧
            outcome (persist c ts) u' = (.error e, v)) := by
  rw [run_eq] at h
  rcases outcome_bind_error.mp h with hprepare | ⟨⟨ts, f⟩, u, hprepare, h⟩
  · exact .inl hprepare
  · rcases outcome_bind_error.mp h with hdraw | ⟨_, u', hdraw, h⟩
    · exact .inr ⟨ts, f, u, hprepare, .inl hdraw⟩
    · exact .inr ⟨ts, f, u, hprepare, .inr ⟨u', hdraw, conclude_error.mp h⟩⟩

/-! ## Before anything is changed -/

theorem prepare_ok (h : outcome (prepare c) w = (.ok (ts, f), v)) :
    c.validate = .ok () ∧ outcome (aggregate c) w = (.ok ts, v) ∧ Figure.build c ts = .ok f := by
  obtain ⟨_, w₁, hvalidate, hrest⟩ := outcome_bind_ok.mp h
  obtain ⟨ts, w₂, haggregate, hrest⟩ := outcome_bind_ok.mp hrest
  obtain ⟨f, w₃, hbuild, hend⟩ := outcome_bind_ok.mp hrest
  cases hend
  obtain ⟨hvalid, rfl⟩ := ofStop_ok hvalidate
  obtain ⟨hfigure, rfl⟩ := ofStop_ok hbuild
  exact ⟨hvalid, haggregate, hfigure⟩

theorem prepare_invalid {s : Stop Config.Invalid} (w : World) (h : c.validate = .error s) :
    outcome (prepare c) w = (.error (.ofStop .invalid s), w) := by
  rw [prepare, outcome_bind, outcome_ofStop, h]
  rfl

private theorem prepare_of_valid (w : World) (h : c.validate = .ok ()) :
    outcome (prepare c) w = outcome (do
      let ts ← aggregate c
      let f ← ofStop .layout (Figure.build c ts)
      return (ts, f)) w := by
  rw [prepare, outcome_bind, outcome_ofStop, h]
  rfl

theorem prepare_unloaded (hvalid : c.validate = .ok ())
    (h : outcome (aggregate c) w = (.error e, v)) : outcome (prepare c) w = (.error e, v) := by
  rw [prepare_of_valid w hvalid, outcome_bind, h]

theorem prepare_unbuilt {s : Stop Figure.LayoutError} (hvalid : c.validate = .ok ())
    (h : outcome (aggregate c) w = (.ok ts, v)) (hbuild : Figure.build c ts = .error s) :
    outcome (prepare c) w = (.error (.ofStop .layout s), v) := by
  rw [prepare_of_valid w hvalid, outcome_bind, h]
  simp only
  rw [outcome_bind, outcome_ofStop, hbuild]
  rfl

/-! ## The figure -/

/-- Keeps the plot data, and gives their path. -/
def keepPlotData (c : Config) (f : Figure) : Run String := do
  let path ← match c.plotDataPath with
    | .ok path => pure path
    | .error message => throw (.figurePath message)
  writePlotData f path
  return path

/-- What is left to do before the plot script is started. -/
def makeWay (c : Config) : Run Unit := do
  if Path.parent? c.output.figure ≠ some "" then makeParent c.output.figure
  requireText c.output.analysisDir "Plot data path is not valid utf-8"
  requireText c.output.figure "Figure path is not valid utf-8"

def beforeScript (c : Config) (f : Figure) : Run String := do
  let path ← keepPlotData c f
  makeWay c
  return path

/-- What is done with the plot data in place. -/
def script (launch : Launcher) (c : Config) (shown : Bool) (path : String) : Run Unit := do
  runScript launch c.interpreter c.plotScript
    ([("--data", path), ("--filepath", c.output.figure)] ++ if shown then [("--show", "1")] else [])
  log .info .figures s!"Saved figure to {c.output.figure.shown}"

theorem render_eq (launch : Launcher) (c : Config) (f : Figure) (shown : Bool) :
    render launch c f shown = beforeScript c f >>= script launch c shown := by
  simp only [render, beforeScript, keepPlotData, makeWay]
  cases c.plotDataPath with
  | error message => rfl
  | ok path =>
    simp only [pure_bind, bind_assoc]
    refine bind_congr fun _ => ?_
    split <;> simp only [bind_assoc, script]

/-! ## The plot script -/

def flatten (args : List (String × String)) : List String :=
  args.flatMap fun (flag, value) => [flag, value]

def scriptEvent (interpreter path : String) (args : List (String × String)) : Log.Event :=
  ⟨.debug, .scripts, interpreter ++ " " ++ path ++ " " ++ " ".intercalate (flatten args)⟩

/-- What the end of a plot script means for the report. -/
def scriptResult (interpreter path : String) : Except SpawnError ExitStatus → Except Failure Unit
  | .error e => .error (.spawn interpreter path e)
  | .ok status => if status.succeeded then .ok () else .error (.script path status)

private theorem outcome_scriptResult (interpreter path : String)
    (result : Except SpawnError ExitStatus) (w : World) :
    outcome (match result with
      | .error e => throw (.spawn interpreter path e)
      | .ok status => if status.succeeded then return () else throw (.script path status)) w =
      (scriptResult interpreter path result, w) := by
  cases result with
  | error e => rfl
  | ok status =>
    simp only [scriptResult]
    split <;> rfl

theorem outcome_runScript (launch : Launcher) (interpreter path : String)
    (args : List (String × String)) (w : World) :
    outcome (runScript launch interpreter path args) w =
      let told := w.note [scriptEvent interpreter path args]
      let after := launch ⟨interpreter, path :: flatten args⟩ told.log.reverse w.files
      (scriptResult interpreter path after.1, { told with files := after.2 }) := by
  rw [runScript, outcome_bind, outcome_log]
  simp only
  rw [outcome_bind, outcome_logged]
  simp only
  rw [outcome_bind, outcome_files]
  simp only
  rw [outcome_bind, outcome_setFiles]
  simp only
  exact outcome_scriptResult interpreter path _ _

theorem script_error {shown : Bool} {path : String}
    (h : outcome (script launch c shown path) u = (.error e, v)) :
    ∃ args events, v.files = (launch ⟨c.interpreter, c.plotScript :: args⟩ events u.files).2 := by
  rcases outcome_bind_error.mp h with hscript | ⟨_, _, -, hlog⟩
  · rw [outcome_runScript] at hscript
    obtain ⟨-, rfl⟩ := Prod.mk.inj hscript
    exact ⟨_, _, rfl⟩
  · cases hlog

/-! ## One analysis file -/

/-- What saving an aggregate does once the directories above its file are there. -/
def fillFile (t : Aggregate) (path : String) : Run Unit := do
  store (.analysisFile path) path []
  store (.analysisText path) path t.toCsv
  log .info .aggregates s!"Wrote {t.workload} aggregate to {path}"

theorem saveAggregate_eq (t : Aggregate) (path : String) :
    saveAggregate t path = fillFile t path ∨ ∃ above, Path.parent? path = some above ∧
      saveAggregate t path = createDirAll .directory above >>= fun _ => fillFile t path := by
  rw [saveAggregate]
  split
  · exact .inl rfl
  · exact .inl rfl
  · next above _ hparent => exact .inr ⟨_, hparent, rfl⟩

theorem fillFile_ok {t : Aggregate} {path : String}
    (h : outcome (fillFile t path) u = (.ok (), v)) :
    ∃ made, u.files.store path [] = .ok made ∧ made.store path t.toCsv = .ok v.files := by
  obtain ⟨_, u₁, hmake, h⟩ := outcome_bind_ok.mp h
  obtain ⟨_, u₂, hwrite, hlog⟩ := outcome_bind_ok.mp h
  have hwritten := store_ok hwrite
  rw [outcome_log] at hlog
  cases hlog
  exact ⟨u₁.files, store_ok hmake, hwritten⟩

theorem fillFile_error {t : Aggregate} {path : String}
    (h : outcome (fillFile t path) u = (.error e, v)) : v = u ∨
      ∃ err, u.files.store path [] = .ok v.files ∧ v.files.store path t.toCsv = .error err := by
  rcases outcome_bind_error.mp h with hmake | ⟨_, u₁, hmake, h⟩
  · exact .inl (store_failed hmake).2
  · rcases outcome_bind_error.mp h with hwrite | ⟨_, _, -, hlog⟩
    · obtain ⟨⟨err, hwrite⟩, rfl⟩ := store_failed hwrite
      exact .inr ⟨err, store_ok hmake, hwrite⟩
    · cases hlog

end Footprint.Report
