import Footprint.Proofs.Aggregate.RoundTrip
import Footprint.Proofs.Config.Validation
import Footprint.Proofs.Files.Names
import Footprint.Proofs.Report.Aggregation
import Footprint.Proofs.Report.Stages

/-!
# The analysis files that a run leaves

Aggregates are saved one after the other, and only the workloads' names tell their files apart.
Where several paths lead to one file, it holds the aggregate that was saved last.
-/
namespace Footprint.Report

open Run FileSystem

/-! ## One file -/

/-- A device keeps nothing of an aggregate that is saved there. -/
def Holds (fs : FileSystem) (p : Place) (t : Aggregate) : Prop :=
  fs.entry? p = some (.file t.toCsv) ∨ ∃ full, fs.entry? p = some (.device full)

theorem Holds.of_entry? {fs later : FileSystem} {p : Place} {t : Aggregate} (h : Holds fs p t)
    (hstays : ∀ e, fs.entry? p = some e → later.entry? p = some e) : Holds later p t :=
  h.imp (hstays _) (Exists.imp fun _ => hstays _)

theorem fillFile_spec {t : Aggregate} {path : String} {u v : World}
    (h : outcome (fillFile t path) u = (.ok (), v)) :
    Keeps u.files v.files ∧ ∃ p, v.files.resolve path = .ok p ∧ Holds v.files p t ∧
      ∀ q, q ≠ p → v.files.entry? q = u.files.entry? q := by
  obtain ⟨made, hmake, hwrite⟩ := fillFile_ok h
  obtain ⟨hkeeps, p, hp, hframe, -⟩ := store_spec hmake
  obtain ⟨hkeeps', p', hp', hframe', hholds⟩ := store_spec hwrite
  -- The path of the file that is made is the path of the one that is filled.
  obtain rfl : p = p' := Except.ok.inj ((resolve_of_keeps hkeeps' hp).symm.trans hp')
  exact ⟨hkeeps.trans hkeeps', p, hp', hholds, fun q hq => (hframe' q hq).trans (hframe q hq)⟩

theorem saveAggregate_spec {t : Aggregate} {path : String} {u v : World}
    (h : outcome (saveAggregate t path) u = (.ok (), v)) :
    Keeps u.files v.files ∧ ∃ p, v.files.resolve path = .ok p ∧ Holds v.files p t ∧
      ∀ q e, q ≠ p → u.files.entry? q = some e → v.files.entry? q = some e := by
  rcases saveAggregate_eq t path with heq | ⟨above, -, heq⟩
  · rw [heq] at h
    obtain ⟨hkeeps, p, hp, hholds, hframe⟩ := fillFile_spec h
    exact ⟨hkeeps, p, hp, hholds, fun q e hq he => (hframe q hq).trans he⟩
  · rw [heq] at h
    obtain ⟨_, u₁, hdirs, h⟩ := outcome_bind_ok.mp h
    have hextends := u.files.createDirAll_extends above
    obtain ⟨hkeeps, p, hp, hholds, hframe⟩ := fillFile_spec h
    rw [← createDirAll_files hdirs] at hextends
    refine ⟨hextends.keeps.trans hkeeps, p, hp, hholds, fun q e hq he => ?_⟩
    exact (hframe q hq).trans (hextends.entry q e he)

/-! ## All files -/

/-- The aggregate that is saved last at a place. -/
def lastSaved (fs : FileSystem) (p : Place) : List (String × Aggregate) → Option Aggregate
  | [] => none
  | (path, t) :: rest =>
    (lastSaved fs p rest).or (if fs.resolve path = .ok p then some t else none)

theorem lastSaved_isSome {fs : FileSystem} {p : Place} {path : String} {t : Aggregate}
    {saved : List (String × Aggregate)} (hmem : (path, t) ∈ saved)
    (hpath : fs.resolve path = .ok p) : ∃ last, lastSaved fs p saved = some last := by
  induction saved with
  | nil => cases hmem
  | cons first rest ih =>
    rcases List.mem_cons.mp hmem with rfl | hmem
    · simp only [lastSaved, if_pos hpath]
      cases lastSaved fs p rest <;> simp
    · obtain ⟨last, hlast⟩ := ih hmem
      exact ⟨last, by simp [lastSaved, hlast]⟩

theorem lastSaved_of_mem {fs : FileSystem} {p : Place} {path : String} {paths : List String}
    {ts : List Aggregate} (hlength : paths.length ≤ ts.length) (hmem : path ∈ paths)
    (hpath : fs.resolve path = .ok p) : ∃ last, lastSaved fs p (paths.zip ts) = some last := by
  rw [← List.map_fst_zip hlength] at hmem
  obtain ⟨⟨_, t⟩, hpair, rfl⟩ := List.mem_map.mp hmem
  exact lastSaved_isSome hpair hpath

theorem lastSaved_mem {fs : FileSystem} {p : Place} {last : Aggregate}
    {saved : List (String × Aggregate)} (h : lastSaved fs p saved = some last) :
    ∃ path, (path, last) ∈ saved := by
  induction saved with
  | nil => cases h
  | cons first rest ih =>
    obtain ⟨path, t⟩ := first
    rw [lastSaved, Option.or_eq_some_iff] at h
    rcases h with h | ⟨-, h⟩
    · exact (ih h).imp fun _ => List.mem_cons_of_mem _
    · split_ifs at h
      cases h
      exact ⟨path, List.mem_cons_self⟩

private theorem lastSaved_congr {fs gs : FileSystem} {p : Place} {saved : List (String × Aggregate)}
    (h : ∀ path ∈ saved.map (·.1), fs.resolve path = .ok p ↔ gs.resolve path = .ok p) :
    lastSaved fs p saved = lastSaved gs p saved := by
  induction saved with
  | nil => rfl
  | cons first rest ih =>
    obtain ⟨path, t⟩ := first
    rw [List.map_cons, List.forall_mem_cons] at h
    simp only [lastSaved, h.1, ih h.2]

/-- Paths that lead somewhere in two file systems have been saved last at the same places. -/
theorem lastSaved_eq {fs gs : FileSystem} (hlinks : gs.links = fs.links) {paths : List String}
    {ts : List Aggregate} (hfs : ∀ path ∈ paths, ∃ p, fs.resolve path = .ok p)
    (hgs : ∀ path ∈ paths, ∃ p, gs.resolve path = .ok p) (p : Place) :
    lastSaved fs p (paths.zip ts) = lastSaved gs p (paths.zip ts) := by
  refine lastSaved_congr fun path hpath => ?_
  obtain ⟨pair, hpair, rfl⟩ := List.mem_map.mp hpath
  obtain ⟨q, hq⟩ := hfs _ (List.of_mem_zip hpair).1
  obtain ⟨q', hq'⟩ := hgs _ (List.of_mem_zip hpair).1
  rw [hq, hq', resolve_unique hlinks hq hq']

/-- What saving has done at one place, among those that have been saved. -/
def Saved (before later : FileSystem) (saved : List (String × Aggregate)) (p : Place) : Prop :=
  match lastSaved later p saved with
  | some t => Holds later p t
  | none => ∀ e, before.entry? p = some e → later.entry? p = some e

/-- All aggregates are saved under their workloads' paths, and a place holds the last one of those
whose paths lead there. -/
theorem saveAll_spec {c : Config} {pairs : List (Workload × Aggregate)} {paths : List String}
    {u v : World} (h : outcome (saveAll c pairs) u = (.ok paths, v)) :
    paths = pairs.map (fun p => c.analysisPath p.1) ∧ Keeps u.files v.files ∧
      (∀ path ∈ paths, ∃ p, v.files.resolve path = .ok p) ∧
      ∀ p, Saved u.files v.files (paths.zip (pairs.map (·.2))) p := by
  induction pairs generalizing u paths with
  | nil =>
    cases h
    exact ⟨rfl, .refl _, by simp, fun p e he => he⟩
  | cons pair rest ih =>
    obtain ⟨w, t⟩ := pair
    obtain ⟨_, u₁, hsave, h⟩ := outcome_bind_ok.mp h
    obtain ⟨paths, u₂, hrest, h⟩ := outcome_bind_ok.mp h
    cases h
    obtain ⟨hkeeps, p, hp, hholds, hframe⟩ := saveAggregate_spec hsave
    obtain ⟨rfl, hkeeps', hpaths, hsaved⟩ := ih hrest
    have hp' := resolve_of_keeps hkeeps' hp
    refine ⟨rfl, hkeeps.trans hkeeps', List.forall_mem_cons.mpr ⟨⟨p, hp'⟩, hpaths⟩, fun q => ?_⟩
    have hq := hsaved q
    simp only [Saved, List.map_cons, List.zip_cons_cons, lastSaved] at hq ⊢
    cases hlast : lastSaved v.files q _ with
    | some last =>
      rw [hlast] at hq
      simpa using hq
    | none =>
      rw [hlast] at hq
      by_cases hpq : p = q
      · subst hpq
        rw [if_pos hp']
        exact hholds.of_entry? hq
      · have hne : v.files.resolve (c.analysisPath w) ≠ .ok q := by
          rw [hp']
          exact fun heq => hpq (Except.ok.inj heq)
        rw [if_neg hne]
        exact fun e he => hq e (hframe q e (Ne.symm hpq) he)

theorem saveAll_zip_spec {c : Config} {ws : List Workload} {ts : List Aggregate}
    {paths : List String} {u v : World} (hlength : ws.length = ts.length)
    (h : outcome (saveAll c (ws.zip ts)) u = (.ok paths, v)) :
    paths = ws.map c.analysisPath ∧ (∀ path ∈ paths, ∃ p, v.files.resolve path = .ok p) ∧
      ∀ p, Saved u.files v.files (paths.zip ts) p := by
  obtain ⟨hpaths, -, hresolve, hsaved⟩ := saveAll_spec h
  rw [List.map_snd_zip hlength.ge] at hsaved
  refine ⟨?_, hresolve, hsaved⟩
  rw [hpaths, ← Function.comp_def c.analysisPath, ← List.map_map, List.map_fst_zip hlength.le]

theorem persist_saved {c : Config} {ts : List Aggregate} {paths : List String} {u v : World}
    (hlength : c.workloads.length = ts.length) (h : outcome (persist c ts) u = (.ok paths, v)) :
    paths = c.workloads.map c.analysisPath ∧
      (∀ path ∈ paths, ∃ p, v.files.resolve path = .ok p) ∧
      ∀ p, Saved u.files v.files (paths.zip ts) p := by
  obtain ⟨_, u₁, hdirs, h⟩ := outcome_bind_ok.mp h
  have hextends := u.files.createDirAll_extends c.output.analysisDir
  rw [← createDirAll_files hdirs] at hextends
  obtain ⟨hpaths, hresolve, hsaved⟩ := saveAll_zip_spec hlength h
  refine ⟨hpaths, hresolve, fun p => ?_⟩
  have hp := hsaved p
  rw [Saved] at hp ⊢
  cases hlast : lastSaved v.files p (paths.zip ts) with
  | some last => rwa [hlast] at hp
  | none =>
    rw [hlast] at hp
    exact fun e he => hp e (hextends.entry p e he)

theorem persist_spec {c : Config} {ts : List Aggregate} {paths : List String} {u v : World}
    (hlength : c.workloads.length = ts.length)
    (h : outcome (persist c ts) u = (.ok paths, v)) :
    paths = c.workloads.map c.analysisPath ∧
      (∀ path ∈ paths, ∃ p, v.files.resolve path = .ok p) ∧
      ∀ p last, lastSaved v.files p (paths.zip ts) = some last → Holds v.files p last := by
  obtain ⟨hpaths, hresolve, hsaved⟩ := persist_saved hlength h
  refine ⟨hpaths, hresolve, fun p last hlast => ?_⟩
  have hp := hsaved p
  rwa [Saved, hlast] at hp

/-! ## Reading back -/

/-- What a path leads to is read as an aggregate with the same indexes and the same values. -/
def Reloads (v : World) (t : Aggregate) (path : String) : Prop :=
  ∃ u, (outcome (loadAggregate t.workload path) v).1 = .ok u ∧ u.indexes = t.indexes ∧
    ∀ index task, u.get? index task = t.get? index task

theorem loadAggregate_of_entry? {v : World} {path : String} {p : Place} {e : Entry} {bs : Bytes}
    (hpath : v.files.resolve path = .ok p) (he : v.files.entry? p = some e) (hread : e.read = .ok bs)
    (workload : String) :
    (outcome (loadAggregate workload path) v).1 = (Aggregate.ofCsv workload bs).mapError .saved := by
  simp only [loadAggregate, outcome_bind, outcome_files, outcome_ofOs, (lookup_eq_ok_iff hpath).mpr he,
    Except.mapError, hread]
  cases Aggregate.ofCsv workload bs <;> rfl

theorem reloads_iff_of_holds {v : World} {path : String} {p : Place} {t last : Aggregate}
    (hindexes : t.indexes ≠ []) (hlast : last.WellFormed) (hsame : last.indexes = t.indexes)
    (hpath : v.files.resolve path = .ok p) (hholds : Holds v.files p last) :
    Reloads v t path ↔ (∃ content, v.files.lookup path = .ok (.file content)) ∧
      ∀ index task, last.get? index task = t.get? index task := by
  simp only [lookup_eq_ok_iff hpath]
  rcases hholds with hfile | ⟨full, hdevice⟩
  · obtain ⟨u, hu, -, hui, -, huget⟩ := hlast.ofCsv_toCsv_as t.workload
    have hload := loadAggregate_of_entry? hpath hfile rfl t.workload
    rw [hu] at hload
    rw [and_iff_right ⟨_, hfile⟩]
    constructor
    · rintro ⟨u', hu', -, hget⟩ index task
      obtain rfl : u = u' := Except.ok.inj (hload.symm.trans hu')
      rw [← huget, hget]
    · intro hget
      exact ⟨u, hload, hui.trans hsame, fun index task => (huget index task).trans (hget index task)⟩
  · -- A device is read as the empty text, which has no indexes.
    have hload := loadAggregate_of_entry? hpath hdevice rfl t.workload
    constructor
    · rintro ⟨u, hu, hui, -⟩
      obtain rfl : .new t.workload [] [] = u := Except.ok.inj (hload.symm.trans hu)
      exact absurd hui.symm hindexes
    · rintro ⟨⟨content, hfile⟩, -⟩
      rw [hdevice] at hfile
      cases hfile

/-! ## The whole run -/

/-- What a run has aggregated and saved, whatever it has done with the figure. -/
private theorem run_ok {launch : Launcher} {c : Config} {o : Options} {w v : World} {r : Report}
    (h : outcome (run launch c o) w = (.ok r, v)) :
    c.indexes ≠ [] ∧ List.Forall₂ (Shaped c) c.workloads r.aggregates ∧ ∃ u u' : World,
      outcome (persist c r.aggregates) u = (.ok r.csvPaths, u') ∧ u'.files = v.files := by
  obtain ⟨_, u, u', hprepare, -, hpersist, hfiles⟩ := run_stages h
  obtain ⟨hvalid, haggregate, -⟩ := prepare_ok hprepare
  obtain ⟨-, hindexes, -⟩ := Config.validate_eq_ok_iff.mp hvalid
  exact ⟨hindexes, aggregate_ok haggregate, u, u', hpersist, hfiles⟩

/-- After a run, each analysis path leads to what was saved last there. The aggregate at a position
is read back from its path exactly when that is a file, not a device, and the last aggregate that was
saved there has the same values. -/
theorem run_reloads_iff {launch : Launcher} {c : Config} {o : Options} {w v : World} {r : Report}
    (h : outcome (run launch c o) w = (.ok r, v)) :
    r.csvPaths = c.workloads.map c.analysisPath ∧
    r.aggregates.map Aggregate.workload = c.workloads.map Workload.name ∧
    ∀ (i : Nat) (path : String) (t : Aggregate), r.csvPaths[i]? = some path →
      r.aggregates[i]? = some t → ∃ p last, v.files.resolve path = .ok p ∧
        lastSaved v.files p (r.csvPaths.zip r.aggregates) = some last ∧
        (Reloads v t path ↔ (∃ content, v.files.lookup path = .ok (.file content)) ∧
          ∀ index task, last.get? index task = t.get? index task) := by
  obtain ⟨hindexes, hshaped, u, u', hpersist, hfiles⟩ := run_ok h
  obtain ⟨hpaths, hresolve, hholds⟩ := persist_spec hshaped.length_eq hpersist
  rw [hfiles] at hresolve hholds
  have hall : ∀ t ∈ r.aggregates, t.WellFormed ∧ t.indexes = c.indexes := by
    intro t ht
    obtain ⟨i, hi, rfl⟩ := List.getElem_of_mem ht
    have ht := hshaped.get (hshaped.length_eq ▸ hi) hi
    exact ⟨ht.wellFormed, ht.indexes⟩
  refine ⟨hpaths, ?_, fun i path t hpath ht => ?_⟩
  · rw [← List.forall₂_eq_eq_eq, List.forall₂_map_left_iff, List.forall₂_map_right_iff]
    exact (hshaped.imp fun w t ht => ht.workload).flip
  · obtain ⟨p, hp⟩ := hresolve path (List.mem_of_getElem? hpath)
    have hmem : (path, t) ∈ r.csvPaths.zip r.aggregates :=
      List.mem_of_getElem? (List.getElem?_zip_eq_some.mpr ⟨hpath, ht⟩)
    obtain ⟨last, hlast⟩ := lastSaved_isSome hmem hp
    obtain ⟨_, hlastMem⟩ := lastSaved_mem hlast
    obtain ⟨-, hi⟩ := hall t (List.mem_of_getElem? ht)
    obtain ⟨hwf, hlastIndexes⟩ := hall last (List.of_mem_zip hlastMem).2
    exact ⟨p, last, hp, hlast, reloads_iff_of_holds (hi ▸ hindexes) hwf
      (hlastIndexes.trans hi.symm) hp (hholds p last hlast)⟩

/-- Two workloads of one index; the tables of the first and of the second differ. -/
private def twoWorkloads (first second : String) : Config where
  indexes := ["BTree"]
  workloads := [⟨first, 0.1, "Mixed"⟩, ⟨second, 0.9, "Mixed"⟩]

private def twoTables : World where
  files := { entries := [(["results"], .directory),
    (["results", (twoWorkloads "" "").resultsName "fb" ⟨"", 0.1, ""⟩],
      .file (Text.bytes "index_name,index_size_bytes\nBTree,1\n")),
    (["results", (twoWorkloads "" "").resultsName "fb" ⟨"", 0.9, ""⟩],
      .file (Text.bytes "index_name,index_size_bytes\nBTree,2\n"))] }
  log := []

private def noLauncher : Launcher := fun _ _ fs => (.error (.os .notFound), fs)

/-- The first path leads to a file of its own. -/
private def keepsFirst (r : Report) (v : World) : Bool :=
  match r.csvPaths, r.aggregates with
  | [path, other], [_, _] =>
    match v.files.lookup path with
    | .ok (.file _) => v.files.resolve other ≠ v.files.resolve path
    | _ => false
  | _, _ => false

theorem run_reloads_iff_two_names : ∃ r v path t,
    outcome (run noLauncher (twoWorkloads "mix1" "mix2") ⟨false, false⟩) twoTables = (.ok r, v) ∧
      r.csvPaths[0]? = some path ∧ r.aggregates[0]? = some t ∧ Reloads v t path := by
  have hkeeps : givesWith keepsFirst
      (outcome (run noLauncher (twoWorkloads "mix1" "mix2") ⟨false, false⟩) twoTables) = true := by
    decide +kernel
  obtain ⟨r, v, hrun, hkeeps⟩ := exists_of_givesWith hkeeps
  obtain ⟨-, -, hreloads⟩ := run_reloads_iff hrun
  rw [keepsFirst] at hkeeps
  split at hkeeps
  · next path other t t' hpaths haggregates =>
    split at hkeeps
    · next content hfile =>
      have hpath : r.csvPaths[0]? = some path := by rw [hpaths]; rfl
      have ht : r.aggregates[0]? = some t := by rw [haggregates]; rfl
      obtain ⟨p, last, hp, hlast, hiff⟩ := hreloads 0 path t hpath ht
      have hother : v.files.resolve other ≠ .ok p := fun heq =>
        of_decide_eq_true hkeeps (heq.trans hp.symm)
      have hself : last = t := by
        rw [hpaths, haggregates] at hlast
        simpa [lastSaved, hother, hp, eq_comm] using hlast
      rw [hself] at hiff
      exact ⟨r, v, path, t, hrun, hpath, ht, hiff.mpr ⟨⟨content, hfile⟩, fun _ _ => rfl⟩⟩
    · cases hkeeps
  · cases hkeeps

/-- Another aggregate is read from the first path than was saved there. -/
private def losesFirst (r : Report) (v : World) : Bool :=
  match r.csvPaths, r.aggregates with
  | path :: _, t :: _ =>
    (outcome (loadAggregate t.workload path) v).1.toOption.map (·.get? "BTree" "fb") = some (some 2)
      && t.get? "BTree" "fb" = some 1
  | _, _ => false

/-- Of two workloads with one name, the first has lost its file to the second. -/
theorem run_reloads_same_name : ∃ r v path t,
    outcome (run noLauncher (twoWorkloads "mix" "mix") ⟨false, false⟩) twoTables = (.ok r, v) ∧
      r.csvPaths[0]? = some path ∧ r.aggregates[0]? = some t ∧ ¬ Reloads v t path := by
  have hloses : givesWith losesFirst
      (outcome (run noLauncher (twoWorkloads "mix" "mix") ⟨false, false⟩) twoTables) = true := by
    decide +kernel
  obtain ⟨r, v, hrun, hloses⟩ := exists_of_givesWith hloses
  rw [losesFirst] at hloses
  split at hloses
  · next path paths t ts hpaths haggregates =>
    refine ⟨r, v, path, t, hrun, by rw [hpaths]; rfl, by rw [haggregates]; rfl, ?_⟩
    rintro ⟨u, hu, -, hget⟩
    rw [hu] at hloses
    simp only [Except.toOption, Option.map_some, hget, Bool.and_eq_true, decide_eq_true_eq,
      Option.some.injEq] at hloses
    have hne : (some 2 : Option Float) ≠ some 1 := by decide
    exact hne (hloses.1.symm.trans hloses.2)
  · cases hloses

end Footprint.Report
