import Footprint.Proofs.Report.Effects
import Footprint.Proofs.Report.Loading
import Footprint.Proofs.Report.Persistence

/-!
# What a run that fails has done

A run checks its configuration, loads and averages all tables and lays out the figure before it changes
anything. Then it draws the figure, and then it saves the aggregates one after the other. When one of
these stages fails, those after it are not begun.
-/
namespace Footprint.Report

open Run FileSystem

/-! ## Before anything is changed -/

/-- The run fails with `e` whatever would run the plot script, and leaves the files as they were. -/
def Untouched (c : Config) (o : Options) (w : World) (e : Failure) : Prop :=
  ∃ v : World, v.files = w.files ∧ ∀ launch, outcome (run launch c o) w = (.error e, v)

theorem untouched_of_prepare {c : Config} {w v : World} {e : Failure} (o : Options)
    (h : outcome (prepare c) w = (.error e, v)) : Untouched c o w e := by
  refine ⟨v, prepare_files h, fun launch => ?_⟩
  rw [run_eq, outcome_bind, h]

/-- A table that does not load fails the run, with the failure of the first such table unless a
table before it has too many rows. -/
theorem untouched_of_table {c : Config} {w : World} (o : Options) (hvalid : c.validate = .ok ())
    {task : String} (htask : task ∈ c.tasks) {wl : Workload} (hwl : wl ∈ c.workloads) {e : Failure}
    (htable : tableAt w.files (c.resultsPath task wl) = .error e) :
    ∃ e, Untouched c o w e ∧
      (firstFailure c w.files = some e ∨ (∃ f, e = .fault f) ∧ ¬Countable c w.files) := by
  rcases haggregate : outcome (aggregate c) w with ⟨e' | ts, v⟩
  · exact ⟨e', untouched_of_prepare o (prepare_unloaded hvalid haggregate),
      aggregate_error haggregate⟩
  · obtain ⟨table, hok⟩ := aggregate_loads haggregate htask hwl
    rw [htable] at hok
    cases hok

/-! ## The figure -/

/-- The plot data and a workload's analysis are one file, under two names. -/
def SharesPlotData (c : Config) (fs : FileSystem) (w : Workload) : Prop :=
  ∃ path p, c.plotDataPath = .ok path ∧ fs.resolve path = .ok p ∧
    fs.resolve (c.analysisPath w) = .ok p

theorem not_sharesPlotData {c : Config} {fs : FileSystem} (h : fs.Linkless) (w : Workload) :
    ¬SharesPlotData c fs w := by
  rintro ⟨path, p, hplot, hp, hq⟩
  exact Config.plotDataPath_ne_analysisPath h h hplot hp hq rfl

/-- The files as they are before the plot script is started: nothing has been written but the plot
data, and each analysis that does not share its file with these is as it was. Without links none
does. -/
structure BeforeScript (c : Config) (fs made : FileSystem) : Prop where
  changes : ChangesOnly fs made (plotDataFiles c) (plotDirs c)
  analysis : ∀ w ∈ c.workloads, ∀ e, fs.lookup (c.analysisPath w) = .ok e →
    ¬SharesPlotData c made w → made.lookup (c.analysisPath w) = .ok e
  linkless : fs.Linkless → ∀ w, ¬SharesPlotData c made w

theorem beforeScript_of_changesOnly {c : Config} {fs made : FileSystem}
    (h : ChangesOnly fs made (plotDataFiles c) (plotDirs c)) : BeforeScript c fs made := by
  refine ⟨h, fun w _ e he hshared => h.lookup he fun p q hp path hpath hq => ?_,
    fun hfs w => not_sharesPlotData (h.keeps.linkless hfs) w⟩
  have hplot : c.plotDataPath = .ok path := by
    cases hdata : c.plotDataPath with
    | error message => simp [plotDataFiles, hdata, Except.toOption] at hpath
    | ok data =>
      obtain rfl : path = data := by simpa [plotDataFiles, hdata, Except.toOption] using hpath
      rfl
  rintro rfl
  exact hshared ⟨path, p, hplot, hq, hp⟩

/-- Drawing that fails has been stopped before the plot script was started, and would have been for
every way of running it, or the files are as the script has left them. -/
theorem draw_error {launch : Launcher} {c : Config} {o : Options} {f : Figure} {u v : World}
    {e : Failure} (h : outcome (draw launch c o f) u = (.error e, v)) :
    ∃ made, BeforeScript c u.files made ∧
      (v.files = made ∧ (∀ other, outcome (draw other c o f) u = (.error e, v)) ∨
        ∃ args events,
          v.files = (launch ⟨c.interpreter, c.plotScript :: args⟩ events made).2) := by
  by_cases hplot : o.plot = true
  · simp only [draw, if_pos hplot, render_eq] at h ⊢
    rcases outcome_bind_error.mp h with hdata | ⟨path, u', hdata, hscript⟩
    · refine ⟨v.files, beforeScript_of_changesOnly ((confined_beforeScript c f).of_outcome hdata),
        .inl ⟨rfl, fun other => outcome_bind_error.mpr (.inl hdata)⟩⟩
    · exact ⟨u'.files, beforeScript_of_changesOnly ((confined_beforeScript c f).of_outcome hdata),
        .inr (script_error hscript)⟩
  · rw [draw, if_neg hplot] at h
    cases h

/-! ## The analysis files -/

theorem saveAggregate_error {t : Aggregate} {path : String} {u v : World} {e : Failure}
    (h : outcome (saveAggregate t path) u = (.error e, v)) : Extends u.files v.files := by
  have hfill : ∀ {u : World}, outcome (fillFile t path) u = (.error e, v) →
      Extends u.files v.files := by
    intro u h
    rcases fillFile_error h with rfl | ⟨err, hmake, hwrite⟩
    · exact .refl _
    · rw [store_error hmake hwrite]
      exact .refl _
  rcases saveAggregate_eq t path with heq | ⟨above, -, heq⟩
  · rw [heq] at h
    exact hfill h
  · rw [heq] at h
    have hextends := u.files.createDirAll_extends above
    rcases outcome_bind_error.mp h with hdirs | ⟨_, u₁, hdirs, h⟩
    · rwa [createDirAll_files hdirs]
    · rw [← createDirAll_files hdirs] at hextends
      exact hextends.trans (hfill h)

/-- Saving goes well for the aggregates before one position, and fails there. -/
theorem saveAll_error {c : Config} {pairs : List (Workload × Aggregate)} {u v : World} {e : Failure} :
    outcome (saveAll c pairs) u = (.error e, v) ↔ ∃ k w t paths u', pairs[k]? = some (w, t) ∧
      outcome (saveAll c (pairs.take k)) u = (.ok paths, u') ∧
      outcome (saveAggregate t (c.analysisPath w)) u' = (.error e, v) := by
  induction pairs generalizing u with
  | nil => simp [saveAll]
  | cons pair rest ih =>
    obtain ⟨w, t⟩ := pair
    rw [saveAll]
    constructor
    · intro h
      rcases outcome_bind_error.mp h with hsave | ⟨_, u₁, hsave, h⟩
      · exact ⟨0, w, t, [], u, rfl, rfl, hsave⟩
      · rcases outcome_bind_error.mp h with hrest | ⟨_, _, -, h⟩
        · obtain ⟨k, w', t', paths, u', hk, hbefore, herror⟩ := ih.mp hrest
          refine ⟨k + 1, w', t', c.analysisPath w :: paths, u', hk, ?_, herror⟩
          rw [List.take_succ_cons, saveAll]
          exact outcome_bind_ok.mpr ⟨_, u₁, hsave, outcome_bind_ok.mpr ⟨_, u', hbefore, rfl⟩⟩
        · cases h
    · rintro ⟨k, w', t', paths, u', hk, hbefore, herror⟩
      cases k with
      | zero =>
        cases hk
        cases hbefore
        exact outcome_bind_error.mpr (.inl herror)
      | succ k =>
        rw [List.take_succ_cons, saveAll] at hbefore
        obtain ⟨_, u₁, hsave, hbefore⟩ := outcome_bind_ok.mp hbefore
        obtain ⟨paths, u₂, hbefore, hend⟩ := outcome_bind_ok.mp hbefore
        cases hend
        refine outcome_bind_error.mpr (.inr ⟨_, u₁, hsave, outcome_bind_error.mpr (.inl ?_)⟩)
        exact ih.mpr ⟨k, w', t', paths, _, hk, hbefore, herror⟩

/-- From `u` on, the analysis directory is there and the aggregates before position `k` are saved.
Saving the one at `k` fails with `e` and leaves `v`. -/
def SavingFails (c : Config) (ts : List Aggregate) (u : World) (k : Nat) (e : Failure)
    (v : World) : Prop :=
  ∃ w t paths u₁ u₂, c.workloads[k]? = some w ∧ ts[k]? = some t ∧
    outcome (createDirAll (.analysisDir c.output.analysisDir) c.output.analysisDir) u = (.ok (), u₁) ∧
    outcome (saveAll c ((c.workloads.take k).zip (ts.take k))) u₁ = (.ok paths, u₂) ∧
    outcome (saveAggregate t (c.analysisPath w)) u₂ = (.error e, v)

theorem persist_error {c : Config} {ts : List Aggregate} {u v : World} {e : Failure} :
    outcome (persist c ts) u = (.error e, v) ↔
      outcome (createDirAll (.analysisDir c.output.analysisDir) c.output.analysisDir) u =
        (.error e, v) ∨ ∃ k, SavingFails c ts u k e v := by
  have htake : ∀ k, (c.workloads.zip ts).take k = (c.workloads.take k).zip (ts.take k) :=
    fun _ => List.take_zipWith
  rw [persist, outcome_bind_error]
  refine or_congr_right ⟨?_, ?_⟩
  · rintro ⟨_, u₁, hdir, hsave⟩
    obtain ⟨k, w, t, paths, u₂, hk, hbefore, herror⟩ := saveAll_error.mp hsave
    obtain ⟨hw, ht⟩ := List.getElem?_zip_eq_some.mp hk
    exact ⟨k, w, t, paths, u₁, u₂, hw, ht, hdir, htake k ▸ hbefore, herror⟩
  · rintro ⟨k, w, t, paths, u₁, u₂, hw, ht, hdir, hbefore, herror⟩
    have hk : (c.workloads.zip ts)[k]? = some (w, t) := List.getElem?_zip_eq_some.mpr ⟨hw, ht⟩
    exact ⟨_, u₁, hdir, saveAll_error.mpr ⟨k, w, t, paths, u₂, hk, htake k ▸ hbefore, herror⟩⟩

/-- The files before the one that fails are complete: each holds what was saved there last. -/
theorem SavingFails.complete {c : Config} {ts : List Aggregate} {u v : World} {k : Nat} {e : Failure}
    (h : SavingFails c ts u k e v) :
    ∀ w ∈ c.workloads.take k, ∃ p last, v.files.resolve (c.analysisPath w) = .ok p ∧
      lastSaved v.files p (((c.workloads.take k).map c.analysisPath).zip (ts.take k)) = some last ∧
      Holds v.files p last := by
  obtain ⟨w, t, paths, u₁, u₂, hw, ht, -, hbefore, herror⟩ := h
  have hlength : (c.workloads.take k).length = (ts.take k).length := by
    have hwk := (List.getElem?_eq_some_iff.mp hw).1
    have htk := (List.getElem?_eq_some_iff.mp ht).1
    simp only [List.length_take]
    omega
  obtain ⟨rfl, hresolve, hsaved⟩ := saveAll_zip_spec hlength hbefore
  have hextends := saveAggregate_error herror
  have hlater : ∀ path ∈ (c.workloads.take k).map c.analysisPath,
      ∃ p, v.files.resolve path = .ok p := fun path hpath =>
    (hresolve path hpath).imp fun _ => resolve_of_keeps hextends.keeps
  intro w' hw'
  have hpath := List.mem_map_of_mem (f := c.analysisPath) hw'
  obtain ⟨p, hp⟩ := hresolve _ hpath
  obtain ⟨last, hlast⟩ := lastSaved_of_mem (by rw [List.length_map, hlength]) hpath hp
  have hholds := hsaved p
  rw [Saved, hlast] at hholds
  exact ⟨p, last, resolve_of_keeps hextends.keeps hp,
    (lastSaved_eq hextends.links.symm hlater hresolve p).trans hlast,
    hholds.of_entry? (hextends.entry p)⟩

theorem SavingFails.changes {c : Config} {ts : List Aggregate} {u v : World} {k : Nat} {e : Failure}
    (h : SavingFails c ts u k e v) :
    ChangesOnly u.files v.files ((c.workloads.take (k + 1)).map c.analysisPath)
      (analysisDirs c (c.workloads.take (k + 1))) := by
  obtain ⟨w, t, paths, u₁, u₂, hw, -, hdir, hbefore, herror⟩ := h
  have hbefore_mem : ∀ p ∈ (c.workloads.take k).zip (ts.take k), p.1 ∈ c.workloads.take (k + 1) :=
    fun p hp => List.take_subset_take_left _ (Nat.le_succ k) (List.of_mem_zip hp).1
  have hw_mem : w ∈ c.workloads.take (k + 1) := by
    rw [List.take_add_one, hw]
    simp
  refine ((confined_analysisDir.of_outcome hdir).trans ?_).trans
    ((confined_saveWorkload hw_mem t).of_outcome herror)
  exact (confined_saveAll hbefore_mem).of_outcome hbefore

/-! ## The whole run -/

theorem run_of_persist_error {launch : Launcher} {c : Config} {o : Options} {w u u' v : World}
    {ts : List Aggregate} {f : Figure} {e : Failure}
    (hprepare : outcome (prepare c) w = (.ok (ts, f), u))
    (hdraw : outcome (draw launch c o f) u = (.ok (), u'))
    (hpersist : outcome (persist c ts) u' = (.error e, v)) :
    outcome (run launch c o) w = (.error e, v) := by
  rw [outcome_run_of_draw hprepare hdraw]
  exact conclude_error.mpr hpersist

/-- A run that fails has not got ahead of the stage that failed.

Before the figure is drawn nothing is changed and the plot script is not started. Drawing changes at
most the plot data and the directories for it and for the figure, apart from what the script does; an
analysis is as it was unless it is, by a link, in the file of the plot data. Saving has completed the
files before the one that fails, and has touched none of those behind it. There is no other way to
fail. -/
theorem run_failure (launch : Launcher) (c : Config) (o : Options) (w : World) :
    ((∀ s, c.validate = .error s → Untouched c o w (.ofStop .invalid s)) ∧
      (c.validate = .ok () → ∀ task ∈ c.tasks, ∀ wl ∈ c.workloads, ∀ miss,
        tableAt w.files (c.resultsPath task wl) = .error miss → ∃ e, Untouched c o w e ∧
          (firstFailure c w.files = some e ∨ (∃ f, e = .fault f) ∧ ¬Countable c w.files)) ∧
      (c.validate = .ok () → ∀ ts u s, outcome (aggregate c) w = (.ok ts, u) →
        Figure.build c ts = .error s → Untouched c o w (.ofStop .layout s))) ∧
    (∀ ts f u, outcome (prepare c) w = (.ok (ts, f), u) → u.files = w.files ∧
      (∀ e v, outcome (draw launch c o f) u = (.error e, v) →
        outcome (run launch c o) w = (.error e, v) ∧ ∃ made, BeforeScript c w.files made ∧
          (v.files = made ∧ (∀ other, outcome (run other c o) w = (.error e, v)) ∨
            ∃ args events,
              v.files = (launch ⟨c.interpreter, c.plotScript :: args⟩ events made).2)) ∧
      ∀ u', outcome (draw launch c o f) u = (.ok (), u') →
        (∀ e v, outcome (createDirAll (.analysisDir c.output.analysisDir) c.output.analysisDir) u' =
            (.error e, v) →
          outcome (run launch c o) w = (.error e, v) ∧
            ChangesOnly u'.files v.files [] (wayTo c.output.analysisDir)) ∧
        ∀ k e v, SavingFails c ts u' k e v →
          outcome (run launch c o) w = (.error e, v) ∧
          (∀ wl ∈ c.workloads.take k, ∃ p last, v.files.resolve (c.analysisPath wl) = .ok p ∧
            lastSaved v.files p (((c.workloads.take k).map c.analysisPath).zip (ts.take k)) =
              some last ∧ Holds v.files p last) ∧
          ChangesOnly u'.files v.files ((c.workloads.take (k + 1)).map c.analysisPath)
            (analysisDirs c (c.workloads.take (k + 1)))) ∧
    ∀ e v, outcome (run launch c o) w = (.error e, v) →
      Untouched c o w e ∧ v.files = w.files ∨
      ∃ ts f u, outcome (prepare c) w = (.ok (ts, f), u) ∧
        (outcome (draw launch c o f) u = (.error e, v) ∨
          ∃ u', outcome (draw launch c o f) u = (.ok (), u') ∧
            (outcome (createDirAll (.analysisDir c.output.analysisDir) c.output.analysisDir) u' =
              (.error e, v) ∨ ∃ k, SavingFails c ts u' k e v)) := by
  refine ⟨⟨fun s hs => ?invalid, fun hvalid task htask wl hwl miss hmiss => ?table,
    fun hvalid ts u s hts hs => ?layout⟩, fun ts f u hprepare => ⟨?files, fun e v hdraw => ?draw,
      fun u' hdraw => ⟨fun e v hdir => ?directory, fun k e v hsave => ?save⟩⟩, fun e v h => ?all⟩
  case invalid => exact untouched_of_prepare o (prepare_invalid w hs)
  case table => exact untouched_of_table o hvalid htask hwl hmiss
  case layout => exact untouched_of_prepare o (prepare_unbuilt hvalid hts hs)
  case files => exact prepare_files hprepare
  case draw =>
    obtain ⟨made, hmade, hcase⟩ := draw_error hdraw
    rw [prepare_files hprepare] at hmade
    refine ⟨run_of_draw_error hprepare hdraw, made, hmade, hcase.imp_left fun ⟨hv, hother⟩ => ?_⟩
    exact ⟨hv, fun other => run_of_draw_error hprepare (hother other)⟩
  case directory =>
    refine ⟨run_of_persist_error hprepare hdraw (persist_error.mpr (.inl hdir)), ?_⟩
    exact (confined_createDirAll _ _).of_outcome hdir
  case save =>
    exact ⟨run_of_persist_error hprepare hdraw (persist_error.mpr (.inr ⟨k, hsave⟩)),
      hsave.complete, hsave.changes⟩
  case all =>
    rcases run_error h with hprepare | ⟨ts, f, u, hprepare, hdraw | ⟨u', hdraw, hpersist⟩⟩
    · exact .inl ⟨untouched_of_prepare o hprepare, prepare_files hprepare⟩
    · exact .inr ⟨ts, f, u, hprepare, .inl hdraw⟩
    · exact .inr ⟨ts, f, u, hprepare, .inr ⟨u', hdraw, persist_error.mp hpersist⟩⟩

private def mix1 : Workload := ⟨"mix1", 0.1, "Mixed"⟩

private def mix2 : Workload := ⟨"mix2", 0.9, "Mixed"⟩

private def twoMixes : Config where
  indexes := ["BTree"]
  workloads := [mix1, mix2]

/-- One workload, and one panel for it. -/
private def oneMix1 : Config :=
  { twoMixes with workloads := [mix1], figure := { rows := 1, cols := 1, reservedPanels := 0 } }

private def mixTables : Assoc Place Entry := [
  (["results"], .directory),
  (["results", twoMixes.resultsName "fb" mix1],
    .file (Text.bytes "index_name,index_size_bytes\nBTree,1\n")),
  (["results", twoMixes.resultsName "fb" mix2],
    .file (Text.bytes "index_name,index_size_bytes\nBTree,2\n")),
  (["analysis_results"], .directory)]

private def nothing : FileSystem where
  entries := []

/-- A directory stands where the second analysis file would. -/
private def blocked : World :=
  ⟨{ entries := mixTables ++ [
    (["analysis_results", "insertlookup_mix2_index_size.csv"], .directory)] }, []⟩

private def oldAnalysis : Bytes := Text.bytes ",BTree\nfb,1500.0\n"

/-- The first analysis file is there from another run, and plot data may be kept. -/
private def earlier : FileSystem where
  entries := mixTables ++ [
    (["analysis_results", "plot_data"], .directory),
    (["analysis_results", "insertlookup_mix1_index_size.csv"], .file oldAnalysis)]

/-- The plot data and the first analysis are one file. -/
private def linked : FileSystem where
  entries := earlier.entries
  links := [(["analysis_results", "plot_data", "benchmark_results_index_size.json"],
    ["analysis_results", "insertlookup_mix1_index_size.csv"])]

private def mix1Path : String := twoMixes.analysisPath mix1

private def neverLaunched : Launcher := fun _ _ fs => (.error (.os .notFound), fs)

private def exitsOne : Launcher := fun _ _ fs => (.ok (.exited 1), fs)

/-- Whether the plot script of that name has been started and has not succeeded. -/
private def isScript (path : String) : Failure → Bool
  | .script other _ => other = path
  | _ => false

private theorem exists_of_isScript {path : String} {e : Failure} (h : isScript path e = true) :
    ∃ status, e = .script path status := by
  cases e with
  | script other status =>
    obtain rfl : other = path := of_decide_eq_true h
    exact ⟨status, rfl⟩
  | _ => cases h

/-- Whether the interpreter of that name was not found. -/
private def isUnfound (interpreter script : String) : Failure → Bool
  | .spawn i s (.os .notFound) => i = interpreter && s = script
  | _ => false

private theorem eq_spawn_of_isUnfound {interpreter script : String} {e : Failure}
    (h : isUnfound interpreter script e = true) :
    e = .spawn interpreter script (.os .notFound) := by
  unfold isUnfound at h
  split at h
  · simp only [Bool.and_eq_true, decide_eq_true_eq] at h
    rw [h.1, h.2]
  · cases h

/-- Whether saving goes well for the first of two aggregates and not for the second. -/
private def failsAtSecond (ts : List Aggregate) (u : World) : Bool :=
  match ts with
  | [first, second] => givesWith (fun _ u => failsWith (fun _ _ => true)
      (outcome (saveAggregate second (twoMixes.analysisPath mix2)) u)) <| outcome (do
        createDirAll (.analysisDir twoMixes.output.analysisDir) twoMixes.output.analysisDir
        saveAll twoMixes [(mix1, first)]) u
  | _ => false

private theorem savingFails_of_failsAtSecond {ts : List Aggregate} {u : World}
    (h : failsAtSecond ts u = true) : ∃ e v, SavingFails twoMixes ts u 1 e v := by
  unfold failsAtSecond at h
  split at h
  · next first second =>
    obtain ⟨paths, u₂, hsaved, herror⟩ := exists_of_givesWith h
    obtain ⟨_, u₁, hdir, hsaved⟩ := outcome_bind_ok.mp hsaved
    obtain ⟨e, v, herror, -⟩ := exists_of_failsWith herror
    exact ⟨e, v, _, second, paths, u₁, u₂, rfl, rfl, hdir, hsaved, herror⟩
  · cases h

/-- A run that fails before it draws, one whose plot script fails, which leaves the old analysis, and
one that does not save the second aggregate but has saved the first one. -/
theorem run_failure_stages :
    Untouched { twoMixes with tasks := [] } ⟨true, false⟩ ⟨earlier, []⟩ (.invalid .noTasks) ∧
    (∃ e, Untouched twoMixes ⟨true, false⟩ ⟨nothing, []⟩ e) ∧
    (∃ status v, outcome (run exitsOne oneMix1 ⟨true, false⟩) ⟨earlier, []⟩ =
        (.error (.script "plots/index_size.py" status), v) ∧
      v.files.lookup mix1Path = .ok (.file oldAnalysis)) ∧
    ∃ e v p t, outcome (run neverLaunched twoMixes ⟨false, false⟩) blocked = (.error e, v) ∧
      v.files.resolve mix1Path = .ok p ∧ Holds v.files p t := by
  have hvalid : twoMixes.validate = .ok () :=
    Config.validate_eq_ok_iff.mpr (by unfold Config.Fits; decide +kernel)
  refine ⟨(run_failure neverLaunched _ _ _).1.1 (.error .noTasks) rfl, ?missing, ?script, ?saving⟩
  case missing =>
    have hmissing : (tableAt nothing (twoMixes.resultsPath "fb" mix1)).isOk = false := by
      decide +kernel
    cases htable : tableAt nothing (twoMixes.resultsPath "fb" mix1) with
    | ok table => simp [htable, Except.isOk, Except.toBool] at hmissing
    | error miss =>
      obtain ⟨e, huntouched, -⟩ :=
        (run_failure neverLaunched twoMixes ⟨true, false⟩ ⟨nothing, []⟩).1.2.1 hvalid
          "fb" List.mem_cons_self mix1 List.mem_cons_self miss htable
      exact ⟨e, huntouched⟩
  case script =>
    have hfails : givesWith (fun prepared u => failsWith (fun e _ => isScript oneMix1.plotScript e)
        (outcome (draw exitsOne oneMix1 ⟨true, false⟩ prepared.2) u))
        (outcome (prepare oneMix1) ⟨earlier, []⟩) = true := by decide +kernel
    obtain ⟨⟨ts, f⟩, u, hprepare, hfails⟩ := exists_of_givesWith hfails
    obtain ⟨e, v, hdraw, hscript⟩ := exists_of_failsWith hfails
    obtain ⟨status, rfl⟩ := exists_of_isScript hscript
    obtain ⟨-, hdrawn, -⟩ :=
      (run_failure exitsOne oneMix1 ⟨true, false⟩ ⟨earlier, []⟩).2.1 ts f u hprepare
    obtain ⟨hrun, made, hmade, hcase⟩ := hdrawn _ v hdraw
    have hv : v.files = made := by
      rcases hcase with ⟨hv, -⟩ | ⟨args, events, hv⟩
      · exact hv
      · exact hv
    have hold : earlier.lookup mix1Path = .ok (.file oldAnalysis) := by decide +kernel
    refine ⟨status, v, hrun, ?_⟩
    rw [hv]
    exact hmade.analysis _ List.mem_cons_self _ hold (hmade.linkless rfl _)
  case saving =>
    have hfails : givesWith (fun prepared u =>
          failsAtSecond prepared.1 (u.note [⟨.debug, .reports, "Skipping figure"⟩]))
        (outcome (prepare twoMixes) blocked) = true := by decide +kernel
    obtain ⟨⟨ts, f⟩, u, hprepare, hfails⟩ := exists_of_givesWith hfails
    obtain ⟨e, v, hsave⟩ := savingFails_of_failsAtSecond hfails
    obtain ⟨-, -, hstages⟩ :=
      (run_failure neverLaunched twoMixes ⟨false, false⟩ blocked).2.1 ts f u hprepare
    obtain ⟨hrun, hcomplete, -⟩ := (hstages _ rfl).2 1 e v hsave
    obtain ⟨p, last, hp, -, hholds⟩ := hcomplete _ List.mem_cons_self
    exact ⟨e, v, p, last, hrun, hp, hholds⟩

/-- Without an interpreter nothing draws the figure, but an analysis in the file of the plot data is
lost. And panels that cannot be counted are no error of a configuration: they end the run. -/
theorem run_failure_linked :
    (linked.lookup mix1Path = .ok (.file oldAnalysis) ∧
      ∃ v, outcome (run neverLaunched oneMix1 ⟨true, false⟩) ⟨linked, []⟩ =
          (.error (.spawn "python3" "plots/index_size.py" (.os .notFound)), v) ∧
        v.files.lookup mix1Path ≠ .ok (.file oldAnalysis)) ∧
    outcome (run neverLaunched
        { twoMixes with figure := { reservedPanels := 18446744073709551615 } } ⟨false, false⟩)
      ⟨earlier, []⟩ = (.error (.fault .addition), ⟨earlier, []⟩) := by
  have hlost : failsWith (fun e v => isUnfound "python3" "plots/index_size.py" e &&
        v.files.lookup mix1Path ≠ .ok (.file oldAnalysis))
      (outcome (run neverLaunched oneMix1 ⟨true, false⟩) ⟨linked, []⟩) = true := by decide +kernel
  obtain ⟨e, v, hrun, hlost⟩ := exists_of_failsWith hlost
  obtain ⟨hspawn, hlost⟩ := (Bool.and_eq_true _ _).mp hlost
  obtain rfl := eq_spawn_of_isUnfound hspawn
  exact ⟨⟨by decide +kernel, v, hrun, of_decide_eq_true hlost⟩, rfl⟩

end Footprint.Report
