import Footprint.Proofs.Report.Aggregation
import Footprint.Proofs.Report.Stages

/-!
# Which tables averaging has loaded when it ends

Averaging looks at the files only through the contents of the results tables. When it succeeds it has
loaded all of them and counted their sizes; when it fails, the first one that does not load is to
blame, unless a table before it has too many rows for the sizes to be counted.
-/
namespace Footprint.Report

open Run

/-! ## What averaging depends on -/

theorem tableAt_congr {fs gs : FileSystem} {path : String} (h : fs.contents path = gs.contents path) :
    tableAt fs path = tableAt gs path := by
  simp only [tableAt, loadTable, outcome_bind, outcome_files, outcome_ofOs, h]
  cases gs.contents path with
  | error e => rfl
  | ok bs => cases hread : Results.Table.read path bs <;> simp [hread, Except.mapError]

theorem alike_loadTable {fs gs : FileSystem} {path : String} (h : fs.contents path = gs.contents path) :
    Alike fs gs (loadTable path) := by
  have hgs := loadTable_reads gs path
  rw [← tableAt_congr h] at hgs
  exact ⟨_, _, loadTable_reads fs path, hgs⟩

variable {fs gs : FileSystem} {c : Config} {w : Workload} {task : String}

theorem alike_addIndex (table : Results.Table) (t : Aggregate) (index : String) :
    Alike fs gs (addIndex w task table t index) := by
  rw [addIndex]
  split
  · exact (alike_log _ _ _).bind fun _ _ => alike_pure _
  · exact alike_throw _
  · exact (alike_log _ _ _).bind fun _ _ => alike_pure _

theorem alike_addTable (h : fs.contents (c.resultsPath task w) = gs.contents (c.resultsPath task w))
    (t : Aggregate) : Alike fs gs (addTable c task w t) := by
  refine (alike_loadTable h).bind fun table _ => ?_
  exact Alike.foldlM (I := fun _ => True) (fun _ _ _ _ _ _ _ => trivial)
    (fun t _ index _ => alike_addIndex table t index) trivial

theorem alike_addTask {pairs : List (Workload × Aggregate)}
    (h : ∀ p ∈ pairs, fs.contents (c.resultsPath task p.1) = gs.contents (c.resultsPath task p.1)) :
    Alike fs gs (addTask c pairs task) :=
  Alike.mapM fun p hp => (alike_addTable (h p hp) p.2).bind fun _ _ => alike_pure _

private theorem mem_workloads {pairs : List (Workload × Aggregate)}
    (h : pairs.map (·.1) = c.workloads) {p : Workload × Aggregate} (hp : p ∈ pairs) :
    p.1 ∈ c.workloads :=
  h ▸ List.mem_map_of_mem hp

/-- Files with the same results tables give the same aggregates. -/
theorem alike_aggregate (h : ∀ task ∈ c.tasks, ∀ w ∈ c.workloads,
    fs.contents (c.resultsPath task w) = gs.contents (c.resultsPath task w)) :
    Alike fs gs (aggregate c) := by
  refine Alike.bind (Alike.foldlM (I := fun pairs => pairs.map (·.1) = c.workloads) ?_ ?_
    (workloads_empty c)) fun _ _ => alike_pure _
  · exact fun pairs u task pairs' v hI hok => (workloads_addTask hok).trans hI
  · exact fun pairs hI task htask => alike_addTask fun p hp => h task htask p.1 (mem_workloads hI hp)

theorem alike_prepare (h : ∀ task ∈ c.tasks, ∀ w ∈ c.workloads,
    fs.contents (c.resultsPath task w) = gs.contents (c.resultsPath task w)) :
    Alike fs gs (prepare c) :=
  (alike_ofStop _ _).bind fun _ _ => (alike_aggregate h).bind fun _ _ =>
    (alike_ofStop _ _).bind fun _ _ => alike_pure _

theorem prepare_files {w v : World} {r : Except Failure (List Aggregate × Figure)}
    (h : outcome (prepare c) w = (r, v)) : v.files = w.files :=
  ((alike_prepare fun _ _ _ _ => rfl).outcome h).1

/-! ## The tables that have been loaded -/

private def Going (c : Config) (fs : FileSystem) (pairs : List (Workload × Aggregate))
    (u : World) : Prop :=
  pairs.map (·.1) = c.workloads ∧ u.files = fs

theorem addIndex_countable {table : Results.Table} {t t' : Aggregate} {index : String} {u v : World}
    (h : outcome (addIndex w task table t index) u = (.ok t', v)) : table.Countable index := by
  refine Results.Table.countable_iff.mpr fun f hf => ?_
  rw [addIndex, hf] at h
  cases h

/-- A table whose means have all been added is one that averaging does not stop at. -/
theorem addTable_averaged {t t' : Aggregate} {u v : World}
    (h : outcome (addTable c task w t) u = (.ok t', v)) : Averaged c u.files task w := by
  obtain ⟨table, u', hload, hfold⟩ := outcome_bind_ok.mp h
  rw [loadTable_reads u.files _ u rfl] at hload
  obtain ⟨-, hsteps⟩ := foldlM_steps (I := fun _ _ => True) (fun _ _ _ _ _ _ _ => trivial)
    trivial hfold
  refine ⟨table, (Prod.mk.inj hload).1, fun index hindex => ?_⟩
  obtain ⟨_, _, _, _, -, hstep⟩ := hsteps index hindex
  exact addIndex_countable hstep

private theorem addPair_files {p q : Workload × Aggregate} {u v : World}
    (h : outcome (do return (p.1, ← addTable c task p.1 p.2)) u = (.ok q, v)) :
    v.files = u.files := by
  have halike : Alike u.files u.files (do return (p.1, ← addTable c task p.1 p.2)) :=
    (alike_addTable rfl p.2).bind fun _ _ => alike_pure _
  exact (halike.outcome h).1

private theorem addPairs_averaged {pairs pairs' : List (Workload × Aggregate)} {u v : World}
    (hfiles : u.files = fs) (h : outcome (addTask c pairs task) u = (.ok pairs', v)) :
    v.files = fs ∧ ∀ w ∈ pairs.map (·.1), Averaged c fs task w := by
  obtain ⟨hend, hsteps⟩ := mapM_steps (I := fun u => u.files = fs)
    (fun u p q v hu hq => (addPair_files hq).trans hu) hfiles h
  refine ⟨hend, fun w hw => ?_⟩
  obtain ⟨p, hp, rfl⟩ := List.mem_map.mp hw
  obtain ⟨u', q, v', hu', hq⟩ := hsteps p hp
  obtain ⟨t, _, ht, -⟩ := outcome_bind_ok.mp hq
  rw [← hu']
  exact addTable_averaged ht

private theorem addTasks_averaged {tasks : List String} {pairs pairs' : List (Workload × Aggregate)}
    {u v : World} (hgoing : Going c fs pairs u)
    (h : outcome (tasks.foldlM (addTask c) pairs) u = (.ok pairs', v)) :
    Going c fs pairs' v ∧ ∀ task ∈ tasks, ∀ w ∈ c.workloads, Averaged c fs task w := by
  obtain ⟨hend, hsteps⟩ := foldlM_steps (I := Going c fs)
    (fun pairs u task pairs' v hI hok =>
      ⟨(workloads_addTask hok).trans hI.1, (addPairs_averaged hI.2 hok).1⟩) hgoing h
  refine ⟨hend, fun task htask w hw => ?_⟩
  obtain ⟨pairs, u', pairs', v', hI, hok⟩ := hsteps task htask
  exact (addPairs_averaged hI.2 hok).2 w (hI.1 ▸ hw)

theorem aggregate_averaged {ts : List Aggregate} {u v : World}
    (h : outcome (aggregate c) u = (.ok ts, v)) :
    ∀ task ∈ c.tasks, ∀ w ∈ c.workloads, Averaged c u.files task w := by
  obtain ⟨pairs, _, hloop, -⟩ := outcome_bind_ok.mp h
  exact (addTasks_averaged ⟨workloads_empty c, rfl⟩ hloop).2

theorem aggregate_loads {ts : List Aggregate} {u v : World}
    (h : outcome (aggregate c) u = (.ok ts, v)) {task : String} (htask : task ∈ c.tasks)
    {w : Workload} (hw : w ∈ c.workloads) :
    ∃ table, tableAt u.files (c.resultsPath task w) = .ok table :=
  (aggregate_averaged h task htask w hw).imp fun _ => And.left

/-! ## The table that has not been loaded -/

theorem addIndex_error {table : Results.Table} {t : Aggregate} {index : String} {e : Failure}
    {u v : World} (h : outcome (addIndex w task table t index) u = (.error e, v)) :
    (∃ f, e = .fault f) ∧ ¬table.Countable index := by
  rw [addIndex] at h
  split at h
  · cases h
  · next f hfault =>
    cases h
    exact ⟨⟨f, rfl⟩, fun hindex => Results.Table.countable_iff.mp hindex f hfault⟩
  · cases h

theorem addTable_error {t : Aggregate} {e : Failure} {u v : World}
    (h : outcome (addTable c task w t) u = (.error e, v)) :
    tableAt u.files (c.resultsPath task w) = .error e ∨ (∃ f, e = .fault f) ∧ ∃ table index,
      tableAt u.files (c.resultsPath task w) = .ok table ∧ ¬table.Countable index := by
  have hreads := loadTable_reads u.files (c.resultsPath task w) u rfl
  rcases outcome_bind_error.mp h with hload | ⟨table, u', hload, h⟩
  · rw [hreads] at hload
    exact .inl (Prod.mk.inj hload).1
  · rw [hreads] at hload
    obtain ⟨before, index, after, t', u'', -, -, hindex⟩ := foldlM_error h
    obtain ⟨hfault, hlarge⟩ := addIndex_error hindex
    exact .inr ⟨hfault, table, index, (Prod.mk.inj hload).1, hlarge⟩

theorem StopsAfter.firstFailure_eq {done : List String} {before : List Workload} {e : Failure}
    (h : StopsAfter c fs done task before e) : firstFailure c fs = some e := by
  obtain ⟨later, w, after, htasks, hworkloads, hfail⟩ := h.next
  refine List.findSome?_eq_some_iff.mpr ⟨done, task, later, htasks, ?_, fun k hk => ?_⟩
  · refine List.findSome?_eq_some_iff.mpr ⟨before, w, after, hworkloads,
      failure?_eq_some_iff.mpr hfail, fun v hv => ?_⟩
    exact failure?_eq_none_iff.mpr ((h.before v hv).imp fun _ => And.left)
  · exact List.findSome?_eq_none_iff.mpr fun v hv =>
      failure?_eq_none_iff.mpr ((h.done k hk v hv).imp fun _ => And.left)

/-- Averaging that fails has come to a table that does not load, or to an index with too many sizes. -/
theorem aggregate_stops {e : Failure} {u v : World}
    (h : outcome (aggregate c) u = (.error e, v)) :
    (∃ done task before, StopsAfter c u.files done task before e) ∨
      (∃ f, e = .fault f) ∧ ¬Countable c u.files := by
  have hloop : outcome (c.tasks.foldlM (addTask c)
      (c.workloads.map fun w => (w, .new w.name c.indexes c.tasks))) u = (.error e, v) := by
    rcases outcome_bind_error.mp h with hloop | ⟨_, _, -, hend⟩
    · exact hloop
    · cases hend
  obtain ⟨done, task, later, pairs, u₁, htasks, hdone, htask⟩ := foldlM_error hloop
  obtain ⟨⟨hpairs, hfiles⟩, hdoneAveraged⟩ := addTasks_averaged ⟨workloads_empty c, rfl⟩ hdone
  obtain ⟨before, p, after, qs, u₂, rfl, hbefore, hp⟩ := mapM_error htask
  obtain ⟨hfiles₂, hbeforeAveraged⟩ := addPairs_averaged hfiles hbefore
  have hadd : outcome (addTable c task p.1 p.2) u₂ = (.error e, v) := by
    rcases outcome_bind_error.mp hp with hadd | ⟨_, _, -, hend⟩
    · exact hadd
    · cases hend
  have hworkloads : c.workloads = before.map (·.1) ++ p.1 :: after.map (·.1) := by
    rw [← hpairs, List.map_append, List.map_cons]
  rcases addTable_error hadd with hload | ⟨hfault, table, index, htable, hlarge⟩
  · rw [hfiles₂] at hload
    exact .inl ⟨done, task, before.map (·.1), ⟨later, p.1, after.map (·.1), htasks, hworkloads,
      hload⟩, hdoneAveraged, hbeforeAveraged⟩
  · rw [hfiles₂] at htable
    have htaskMem : task ∈ c.tasks := htasks ▸ List.mem_append_right _ List.mem_cons_self
    have hpMem : p.1 ∈ c.workloads := hworkloads ▸ List.mem_append_right _ List.mem_cons_self
    exact .inr ⟨hfault, fun hcount => hlarge
      (Results.Table.countable_of_rows (hcount task htaskMem p.1 hpMem table htable) index)⟩

/-- Averaging fails with the failure of the first table that does not load, or, if a table before it
has too many rows, at a fault. -/
theorem aggregate_error {e : Failure} {u v : World}
    (h : outcome (aggregate c) u = (.error e, v)) :
    firstFailure c u.files = some e ∨ (∃ f, e = .fault f) ∧ ¬Countable c u.files :=
  (aggregate_stops h).imp_left fun ⟨_, _, _, hstops⟩ => hstops.firstFailure_eq

end Footprint.Report
