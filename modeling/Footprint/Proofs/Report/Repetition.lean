import Footprint.Proofs.Files.Rewriting
import Footprint.Proofs.Report.Effects
import Footprint.Proofs.Report.Loading
import Footprint.Proofs.Report.Persistence

/-!
# Running again

Where there are no links, no results table is written by a run without a figure, so the next run finds
the tables that the first one has found. It saves the same aggregates at the same places, over whatever
is there.
-/
namespace Footprint.Report

open Run FileSystem

/-! ## Saving again -/

theorem fillFile_again {t : Aggregate} {path : String} {u v x : World}
    (h : outcome (fillFile t path) u = (.ok (), v)) (hkeeps : Keeps v.files x.files) :
    ∃ y, outcome (fillFile t path) x = (.ok (), y) ∧
      ∀ first, Rewrites first x.files → Rewrites first y.files := by
  obtain ⟨made, hmake, hwrite⟩ := fillFile_ok h
  obtain ⟨again, hagain, hmade⟩ := store_again hmake ((store_spec hwrite).1.trans hkeeps)
  obtain ⟨last, hlast, hwritten⟩ := store_again hwrite (hkeeps.trans (store_spec hagain).1)
  refine ⟨_, outcome_bind_ok.mpr ⟨(), ⟨again, x.log⟩, ?_, outcome_bind_ok.mpr
    ⟨(), ⟨last, x.log⟩, ?_, rfl⟩⟩, fun first hfirst => hwritten first (hmade first hfirst)⟩
  · rw [outcome_store, hagain]
  · rw [outcome_store, hlast]

theorem outcome_createDirAll_again {failure : OsError → Failure} {path : String} {u v x : World}
    (h : outcome (Run.createDirAll failure path) u = (.ok (), v)) (hkeeps : Keeps v.files x.files) :
    outcome (Run.createDirAll failure path) x = (.ok (), x) := by
  have hmade : u.files.createDirAll path = (.ok (), v.files) := by
    rw [outcome_createDirAll] at h
    rcases hdirs : u.files.createDirAll path with ⟨e | _, fs⟩
    · simp [hdirs, Except.mapError] at h
    · rw [hdirs] at h
      cases h
      rfl
  rw [outcome_createDirAll, createDirAll_again hmade hkeeps]
  rfl

theorem saveAggregate_again {t : Aggregate} {path : String} {u v x : World}
    (h : outcome (saveAggregate t path) u = (.ok (), v)) (hkeeps : Keeps v.files x.files) :
    ∃ y, outcome (saveAggregate t path) x = (.ok (), y) ∧
      ∀ first, Rewrites first x.files → Rewrites first y.files := by
  rcases saveAggregate_eq t path with heq | ⟨above, -, heq⟩
  · rw [heq] at h ⊢
    exact fillFile_again h hkeeps
  · rw [heq] at h ⊢
    obtain ⟨_, u₁, hdirs, hfill⟩ := outcome_bind_ok.mp h
    obtain ⟨y, hy, hrewrites⟩ := fillFile_again hfill hkeeps
    have hdirs' := outcome_createDirAll_again hdirs ((fillFile_spec hfill).1.trans hkeeps)
    exact ⟨y, outcome_bind_ok.mpr ⟨(), x, hdirs', hy⟩, hrewrites⟩

theorem saveAll_again {c : Config} {pairs : List (Workload × Aggregate)} {paths : List String}
    {u v x : World} (h : outcome (saveAll c pairs) u = (.ok paths, v))
    (hkeeps : Keeps v.files x.files) :
    ∃ y, outcome (saveAll c pairs) x = (.ok paths, y) ∧
      ∀ first, Rewrites first x.files → Rewrites first y.files := by
  induction pairs generalizing u x paths with
  | nil =>
    cases h
    exact ⟨x, rfl, fun _ => id⟩
  | cons pair rest ih =>
    obtain ⟨w, t⟩ := pair
    obtain ⟨_, u₁, hsave, h⟩ := outcome_bind_ok.mp h
    obtain ⟨paths, u₂, hrest, h⟩ := outcome_bind_ok.mp h
    cases h
    have hlater : Keeps u₁.files v.files := (saveAll_spec hrest).2.1
    obtain ⟨x₁, hsave', hfirst⟩ := saveAggregate_again hsave (hlater.trans hkeeps)
    obtain ⟨y, hrest', hothers⟩ := ih hrest (hkeeps.trans (saveAggregate_spec hsave').1)
    exact ⟨y, outcome_bind_ok.mpr ⟨(), x₁, hsave', outcome_bind_ok.mpr ⟨paths, y, hrest', rfl⟩⟩,
      fun first h => hothers first (hfirst first h)⟩

theorem persist_again {c : Config} {ts : List Aggregate} {paths : List String} {u v x : World}
    (h : outcome (persist c ts) u = (.ok paths, v)) (hkeeps : Keeps v.files x.files) :
    ∃ y, outcome (persist c ts) x = (.ok paths, y) ∧ Rewrites x.files y.files := by
  obtain ⟨_, u₁, hdirs, hsave⟩ := outcome_bind_ok.mp h
  have hdirs' := outcome_createDirAll_again hdirs ((saveAll_spec hsave).2.1.trans hkeeps)
  obtain ⟨y, hy, hrewrites⟩ := saveAll_again hsave hkeeps
  exact ⟨y, outcome_bind_ok.mpr ⟨(), x, hdirs', hy⟩, hrewrites _ (.refl _)⟩

/-! ## The same files -/

theorem Holds.entry?_eq {fs later : FileSystem} {p : Place} {t : Aggregate} (h : Holds fs p t)
    (hlater : Holds later p t) (hkeeps : Keeps fs later) : later.entry? p = fs.entry? p := by
  rcases h with hfile | ⟨full, hdevice⟩
  · obtain ⟨e, he, hkind⟩ := hkeeps.entry p _ hfile
    obtain ⟨content, rfl⟩ := Entry.kind_eq_file hkind
    rcases hlater with hsame | ⟨full, hdevice⟩
    · rw [hsame, hfile]
    · rw [he] at hdevice
      cases hdevice
  · obtain ⟨e, he, hkind⟩ := hkeeps.entry p _ hdevice
    rw [he, hdevice, Entry.kind_eq_device.mp hkind]

/-- What has been saved twice is as it was after the first time. -/
theorem persist_twice {c : Config} {ts : List Aggregate} {paths : List String} {u v x : World}
    (hlength : c.workloads.length = ts.length) (h : outcome (persist c ts) u = (.ok paths, v))
    (hx : x.files = v.files) :
    ∃ y, outcome (persist c ts) x = (.ok paths, y) ∧ y.files = v.files := by
  have hkeeps : Keeps v.files x.files := by
    rw [hx]
    exact .refl _
  obtain ⟨y, hy, hrewrites⟩ := persist_again h hkeeps
  rw [hx] at hrewrites
  refine ⟨y, hy, hrewrites.eq fun p => ?_⟩
  have hkeeps' := ((confined_persist c ts).of_outcome hy).keeps
  rw [hx] at hkeeps'
  obtain ⟨-, hresolve, hholds⟩ := persist_spec hlength h
  obtain ⟨-, hresolve', hsaved⟩ := persist_saved hlength hy
  have hp := hsaved p
  rw [Saved, lastSaved_eq hkeeps'.links.symm hresolve' hresolve, hx] at hp
  cases hlast : lastSaved v.files p (paths.zip ts) with
  | some last =>
    rw [hlast] at hp
    exact (hholds p last hlast).entry?_eq hp hkeeps'
  | none =>
    rw [hlast] at hp
    cases he : v.files.entry? p with
    | some e => exact hp e he
    | none => exact hrewrites.entry?_eq_none he

/-! ## The same tables -/

theorem contents_of_table {fs : FileSystem} {path : String} {table : Results.Table}
    (h : tableAt fs path = .ok table) : ∃ e, fs.lookup path = .ok e := by
  cases hlookup : fs.lookup path with
  | ok e => exact ⟨e, rfl⟩
  | error err =>
    have hcontents : fs.contents path = .error err := by
      simp [FileSystem.contents, hlookup, bind, Except.bind]
    simp [tableAt, loadTable, outcome_bind, hcontents, Except.mapError] at h

variable {launch : Launcher} {c : Config} {shown : Bool} {w v : World} {r : Report}

theorem draw_skipped (launch : Launcher) (c : Config) (shown : Bool) (f : Figure) (u : World) :
    ∃ u' : World, outcome (draw launch c ⟨false, shown⟩ f) u = (.ok (), u') ∧
      u'.files = u.files :=
  ⟨_, rfl, rfl⟩

/-- Saving leaves every results table as it was. -/
theorem results_kept {ts : List Aggregate} {paths : List String} {u : World}
    (hlinkless : u.files.Linkless) (htables : ∀ task ∈ c.tasks, ∀ wl ∈ c.workloads, ∃ table,
      tableAt u.files (c.resultsPath task wl) = .ok table)
    (h : outcome (persist c ts) u = (.ok paths, v)) :
    ∀ task ∈ c.tasks, ∀ wl ∈ c.workloads,
      u.files.contents (c.resultsPath task wl) = v.files.contents (c.resultsPath task wl) := by
  intro task htask wl hwl
  obtain ⟨table, htable⟩ := htables task htask wl hwl
  obtain ⟨e, he⟩ := contents_of_table htable
  have hchanges := (confined_persist c ts).of_outcome h
  have hv := hchanges.keeps.linkless hlinkless
  have hlater := hchanges.lookup he fun p q hp path hpath hq => by
    obtain ⟨wl', -, rfl⟩ := List.mem_map.mp hpath
    exact Config.resultsPath_ne_analysisPath hv hv hp hq
  simp only [FileSystem.contents, he, hlater]

/-- What a run without a figure has found, saved and left. -/
theorem run_saves (h : outcome (run launch c ⟨false, shown⟩) w = (.ok r, v)) :
    c.workloads.length = r.aggregates.length ∧
      (∃ u, outcome (prepare c) w = (.ok (r.aggregates, r.figure), u)) ∧
      ∃ u v' : World, outcome (persist c r.aggregates) u = (.ok r.csvPaths, v') ∧
        u.files = w.files ∧ v'.files = v.files := by
  obtain ⟨u, u', v', hprepare, hdraw, hpersist, hfiles⟩ := run_stages h
  obtain ⟨-, haggregate, -⟩ := prepare_ok hprepare
  have hu := prepare_files hprepare
  cases hdraw
  exact ⟨(aggregate_ok haggregate).length_eq, ⟨u, hprepare⟩, _, v', hpersist, hu, hfiles⟩

/-- The tables that a run has found are found again. -/
theorem run_again (hlinkless : w.files.Linkless)
    (h : outcome (run launch c ⟨false, shown⟩) w = (.ok r, v)) {u : World} (hu : u.files = v.files) :
    ∃ u', outcome (run launch c ⟨false, shown⟩) u = (.ok r, u') ∧ u'.files = v.files := by
  obtain ⟨hlength, ⟨w', hprepare⟩, s, v', hpersist, hs, hv⟩ := run_saves h
  obtain ⟨-, haggregate, -⟩ := prepare_ok hprepare
  have htables : ∀ task ∈ c.tasks, ∀ wl ∈ c.workloads, ∃ table,
      tableAt s.files (c.resultsPath task wl) = .ok table := by
    rw [hs]
    exact fun task htask wl hwl => aggregate_loads haggregate htask hwl
  have hkept := results_kept (hs ▸ hlinkless) htables hpersist
  rw [hs, hv] at hkept
  obtain ⟨u₁, hprepare', hu₁⟩ := ((alike_prepare hkept).outcome hprepare).2 u hu
  obtain ⟨u₂, hdraw, hu₂⟩ := draw_skipped launch c shown r.figure u₁
  obtain ⟨y, hy, hfiles⟩ := persist_twice hlength hpersist (hu₂.trans (hu₁.trans hv.symm))
  obtain ⟨u', hu', hlast⟩ := conclude_of_persist r.figure hy
  refine ⟨u', ?_, hlast.trans (hfiles.trans hv)⟩
  rw [outcome_run_of_draw hprepare' hdraw]
  exact hu'

/-- A path that leads to no device leads to what was saved last there. -/
theorem lookup_of_holds {fs : FileSystem} {path : String} {p : Place} {t : Aggregate}
    (hp : fs.resolve path = .ok p) (h : Holds fs p t)
    (hdevice : ∀ full, fs.lookup path ≠ .ok (.device full)) :
    fs.lookup path = .ok (.file t.toCsv) := by
  simp only [ne_eq, lookup_eq_ok_iff hp] at hdevice ⊢
  exact h.resolve_right fun ⟨full, hfull⟩ => hdevice full hfull

/-- Runs that find the same tables have the same result, and leave the same analysis files where
these are no devices. -/
theorem run_elsewhere (hw : w.files.Linkless)
    (h : outcome (run launch c ⟨false, shown⟩) w = (.ok r, v)) {x y : World} {r' : Report}
    (hx : x.files.Linkless) (hsame : ∀ task ∈ c.tasks, ∀ wl ∈ c.workloads,
      w.files.contents (c.resultsPath task wl) = x.files.contents (c.resultsPath task wl))
    (h' : outcome (run launch c ⟨false, shown⟩) x = (.ok r', y)) :
    r' = r ∧ ∀ wl ∈ c.workloads,
      (∀ full, v.files.lookup (c.analysisPath wl) ≠ .ok (.device full)) →
      (∀ full, y.files.lookup (c.analysisPath wl) ≠ .ok (.device full)) →
      ∃ text, v.files.lookup (c.analysisPath wl) = .ok (.file text) ∧
        y.files.lookup (c.analysisPath wl) = .ok (.file text) := by
  obtain ⟨hlength, ⟨w', hprepare⟩, s, v', hpersist, hs, hv⟩ := run_saves h
  obtain ⟨-, ⟨x', hprepare'⟩, s', y', hpersist', hs', hy⟩ := run_saves h'
  obtain ⟨_, hfound, -⟩ := ((alike_prepare hsame).outcome hprepare).2 x rfl
  obtain ⟨aggregates, figure, paths⟩ := r
  obtain ⟨aggregates', figure', paths'⟩ := r'
  rw [hfound] at hprepare'
  cases hprepare'
  have hvlinks := ((confined_persist c aggregates).of_outcome hpersist).keeps.linkless (hs ▸ hw)
  have hylinks := ((confined_persist c aggregates).of_outcome hpersist').keeps.linkless (hs' ▸ hx)
  have hlinks : v'.files.links = y'.files.links := hvlinks.trans hylinks.symm
  obtain ⟨rfl, hresolve, hholds⟩ := persist_spec hlength hpersist
  obtain ⟨rfl, hresolve', hholds'⟩ := persist_spec hlength hpersist'
  rw [← hv, ← hy]
  refine ⟨rfl, fun wl hwl hvdevice hydevice => ?_⟩
  have hpath := List.mem_map_of_mem (f := c.analysisPath) hwl
  obtain ⟨p, hp⟩ := hresolve _ hpath
  obtain ⟨q, hq⟩ := hresolve' _ hpath
  obtain rfl := resolve_unique hlinks hq hp
  obtain ⟨last, hlast⟩ := lastSaved_of_mem (by rw [List.length_map, hlength]) hpath hp
  have hlast' := (lastSaved_eq hlinks hresolve' hresolve q).trans hlast
  exact ⟨last.toCsv, lookup_of_holds hp (hholds q last hlast) hvdevice,
    lookup_of_holds hq (hholds' q last hlast') hydevice⟩

/-- Without links, running again where a run without a figure has ended gives the same report and
changes nothing. Where only the tables are the same, a run gives the same report too, and whatever was
there before, it leaves the same text in each analysis file. A device keeps no text, so none may stand
in the place of that file. -/
theorem run_repeated (hw : w.files.Linkless)
    (h : outcome (run launch c ⟨false, shown⟩) w = (.ok r, v)) :
    (∀ u : World, u.files = v.files →
      ∃ u', outcome (run launch c ⟨false, shown⟩) u = (.ok r, u') ∧ u'.files = v.files) ∧
    ∀ (x y : World) (r' : Report), x.files.Linkless → (∀ task ∈ c.tasks, ∀ wl ∈ c.workloads,
        w.files.contents (c.resultsPath task wl) = x.files.contents (c.resultsPath task wl)) →
      outcome (run launch c ⟨false, shown⟩) x = (.ok r', y) →
      r' = r ∧ ∀ wl ∈ c.workloads,
        (∀ full, v.files.lookup (c.analysisPath wl) ≠ .ok (.device full)) →
        (∀ full, y.files.lookup (c.analysisPath wl) ≠ .ok (.device full)) →
        ∃ text, v.files.lookup (c.analysisPath wl) = .ok (.file text) ∧
          y.files.lookup (c.analysisPath wl) = .ok (.file text) :=
  ⟨fun _ hu => run_again hw h hu, fun _ _ _ hx hsame h' => run_elsewhere hw h hx hsame h'⟩

private def oneMix : Config where
  indexes := ["BTree"]
  workloads := [⟨"mix", 0.1, "Mixed"⟩]

private def found : FileSystem :=
  { entries := [(["results"], .directory),
    (["results", oneMix.resultsName "fb" ⟨"mix", 0.1, "Mixed"⟩],
      .file (Text.bytes "index_name,index_size_bytes\nBTree,1\n"))] }

/-- A longer analysis file is left from another run. -/
private def stale : FileSystem :=
  (found.put ["analysis_results"] .directory).put
    ["analysis_results", "insertlookup_mix_index_size.csv"]
    (.file (Text.bytes ",BTree,LIPP\nfb,1500.0,\nosm,,1500.0\n"))

private def idle : Launcher := fun _ _ fs => (.error (.os .notFound), fs)

private def keepsFile (v : World) : Bool :=
  match v.files.lookup (oneMix.analysisPath ⟨"mix", 0.1, "Mixed"⟩) with
  | .ok (.file _) => true
  | _ => false

/-- Behind a run that keeps the analysis file, no device stands in its place. -/
private theorem run_oneMix {fs : FileSystem}
    (h : givesWith (fun _ v => keepsFile v) (outcome (run idle oneMix ⟨false, false⟩) ⟨fs, []⟩) =
      true) :
    ∃ r v, outcome (run idle oneMix ⟨false, false⟩) ⟨fs, []⟩ = (.ok r, v) ∧
      ∀ wl ∈ oneMix.workloads, ∀ full, v.files.lookup (oneMix.analysisPath wl) ≠ .ok (.device full) := by
  obtain ⟨r, v, hrun, hkept⟩ := exists_of_givesWith h
  refine ⟨r, v, hrun, fun wl hwl full hdevice => ?_⟩
  obtain rfl := List.mem_singleton.mp hwl
  simp [keepsFile, hdevice] at hkept

theorem run_repeated_stale : ∃ r v y text,
    outcome (run idle oneMix ⟨false, false⟩) ⟨found, []⟩ = (.ok r, v) ∧
      (∃ u, outcome (run idle oneMix ⟨false, false⟩) v = (.ok r, u) ∧ u.files = v.files) ∧
      outcome (run idle oneMix ⟨false, false⟩) ⟨stale, []⟩ = (.ok r, y) ∧
      v.files.lookup (oneMix.analysisPath ⟨"mix", 0.1, "Mixed"⟩) = .ok (.file text) ∧
      y.files.lookup (oneMix.analysisPath ⟨"mix", 0.1, "Mixed"⟩) = .ok (.file text) := by
  obtain ⟨r, v, hfound, hv⟩ := @run_oneMix found (by decide +kernel)
  obtain ⟨r', y, hstale, hy⟩ := @run_oneMix stale (by decide +kernel)
  have hsame : ∀ task ∈ oneMix.tasks, ∀ wl ∈ oneMix.workloads,
      found.contents (oneMix.resultsPath task wl) = stale.contents (oneMix.resultsPath task wl) := by
    decide +kernel
  obtain ⟨hagain, helsewhere⟩ := run_repeated (w := ⟨found, []⟩) rfl hfound
  obtain ⟨rfl, htexts⟩ := helsewhere ⟨stale, []⟩ y r' rfl hsame hstale
  obtain ⟨text, htext, htext'⟩ :=
    htexts _ List.mem_cons_self (hv _ List.mem_cons_self) (hy _ List.mem_cons_self)
  exact ⟨r', v, y, text, hfound, hagain v rfl, hstale, htext, htext'⟩

end Footprint.Report
