import Footprint.Proofs.Aggregate.Invariant
import Footprint.Proofs.Report.Outcome
import Footprint.Proofs.Results.Mean
import Footprint.Report.Aggregation

/-!
# What averaging the results tables gives

Averaging only looks at the files, so each loop has a closed form: the aggregates that it leaves and
the events that it logs. The values of an aggregate come from the tables of its own workload, one row
of values for each task.
-/
namespace Footprint.Report

open Run

/-- The table that a path leads to, or why it is not loaded. -/
def tableAt (fs : FileSystem) (path : String) : Except Failure Results.Table :=
  (outcome (loadTable path) ⟨fs, []⟩).1

def failure? {α : Type} : Except Failure α → Option Failure
  | .error e => some e
  | .ok _ => none

theorem failure?_eq_none_iff {α : Type} {r : Except Failure α} :
    failure? r = none ↔ ∃ a, r = .ok a := by
  cases r <;> simp [failure?]

theorem failure?_eq_some_iff {α : Type} {r : Except Failure α} {e : Failure} :
    failure? r = some e ↔ r = .error e := by
  cases r <;> simp [failure?]

/-- Loading stops at the first table that cannot be loaded: tasks come in their order, and under
each task the workloads in theirs. -/
def firstFailure (c : Config) (fs : FileSystem) : Option Failure :=
  c.tasks.findSome? fun task => c.workloads.findSome? fun w =>
    failure? (tableAt fs (c.resultsPath task w))

/-- Every table of the configuration that loads has fewer rows than sizes can be counted. -/
def Countable (c : Config) (fs : FileSystem) : Prop :=
  ∀ task ∈ c.tasks, ∀ w ∈ c.workloads, ∀ table,
    tableAt fs (c.resultsPath task w) = .ok table → table.rows.length < Results.sizedLimit

/-! ## One table -/

def tableEvent (path : String) (table : Results.Table) : Log.Event :=
  ⟨.debug, .results, s!"Loaded {table.rows.length} rows from {path}"⟩

def meanEvent (w : Workload) (task : String) (table : Results.Table) (index : String) : Log.Event :=
  match table.mean index with
  | .ok mean => ⟨.debug, .reports, s!"{w.name}: {index}/{task} = {Number.Style.plain.text mean}"⟩
  | .error miss => ⟨.warn, .reports, s!"{w.name}: skipping {index}/{task}, {miss.message}"⟩

theorem loadTable_reads (fs : FileSystem) (path : String) :
    Reads fs (loadTable path) (tableAt fs path)
      ((tableAt fs path).toOption.toList.map (tableEvent path)) := by
  intro world hworld
  subst hworld
  cases hbs : world.files.contents path with
  | error e => simp [tableAt, loadTable, outcome_bind, hbs, Except.mapError, Except.toOption]
  | ok bs =>
    cases htable : Results.Table.read path bs with
    | error e =>
      simp [tableAt, loadTable, outcome_bind, hbs, htable, Except.mapError, Except.toOption]
    | ok table =>
      simp [tableAt, loadTable, outcome_bind, hbs, htable, Except.mapError, Except.toOption,
        Except.map, tableEvent]

theorem addIndex_reads (fs : FileSystem) (w : Workload) (task : String) {table : Results.Table}
    {index : String} (hindex : table.Countable index) (t : Aggregate) :
    Reads fs (addIndex w task table t index)
      (.ok (t.insertSome index task (table.mean index).toOption))
      [meanEvent w task table index] := by
  rw [addIndex, hindex.meanSize_eq, meanEvent]
  cases table.mean index with
  | ok mean => exact (reads_log _ _ _).bind (reads_pure _)
  | error miss => exact (reads_log _ _ _).bind (reads_pure _)

theorem foldlM_addIndex_reads (fs : FileSystem) (w : Workload) (task : String)
    {table : Results.Table} {indexes : List String}
    (hindexes : ∀ index ∈ indexes, table.Countable index) (t : Aggregate) :
    Reads fs (indexes.foldlM (addIndex w task table) t)
      (.ok (t.insertRow task (fun index => (table.mean index).toOption) indexes))
      (indexes.map (meanEvent w task table)) := by
  rw [Aggregate.insertRow, List.map_eq_flatMap]
  refine reads_foldlM (I := fun _ => True) ?_ ?_ trivial
  · exact fun _ _ _ => trivial
  · exact fun t _ index hindex => addIndex_reads fs w task (hindexes index hindex) t

/-- The values that the table of a task gives to the indexes. -/
def meanAt (c : Config) (fs : FileSystem) (w : Workload) (task index : String) : Option Float :=
  (tableAt fs (c.resultsPath task w)).toOption.bind fun table => (table.mean index).toOption

def tableEvents (c : Config) (fs : FileSystem) (task : String) (w : Workload) : List Log.Event :=
  (tableAt fs (c.resultsPath task w)).toOption.toList.flatMap fun table =>
    tableEvent (c.resultsPath task w) table :: c.indexes.map (meanEvent w task table)

theorem addTable_reads {c : Config} {fs : FileSystem} {task : String} {w : Workload}
    {table : Results.Table} (htable : tableAt fs (c.resultsPath task w) = .ok table)
    (hindexes : ∀ index ∈ c.indexes, table.Countable index) (t : Aggregate) :
    Reads fs (addTable c task w t) (.ok (t.insertRow task (meanAt c fs w task) c.indexes))
      (tableEvents c fs task w) := by
  have hload := loadTable_reads fs (c.resultsPath task w)
  rw [htable] at hload
  have hmeans : meanAt c fs w task = fun index => (table.mean index).toOption := by
    funext index
    rw [meanAt, htable]
    rfl
  have hevents : tableEvents c fs task w = [tableEvent (c.resultsPath task w) table] ++
      c.indexes.map (meanEvent w task table) := by
    rw [tableEvents, htable]
    exact List.flatMap_singleton _ _
  rw [hmeans, hevents, addTable]
  exact hload.bind (foldlM_addIndex_reads fs w task hindexes t)

theorem addTable_reads_error {c : Config} {fs : FileSystem} {task : String} {w : Workload}
    {e : Failure} (htable : tableAt fs (c.resultsPath task w) = .error e) (t : Aggregate) :
    Reads fs (addTable c task w t) (.error e) [] := by
  have hload := loadTable_reads fs (c.resultsPath task w)
  rw [htable] at hload
  rw [addTable]
  exact hload.bind_error _

/-- The table of a task and a workload loads, and no configured index has too many sizes in it. -/
def Averaged (c : Config) (fs : FileSystem) (task : String) (w : Workload) : Prop :=
  ∃ table, tableAt fs (c.resultsPath task w) = .ok table ∧
    ∀ index ∈ c.indexes, table.Countable index

theorem Countable.averaged {c : Config} {fs : FileSystem} (h : Countable c fs) {task : String}
    (htask : task ∈ c.tasks) {w : Workload} (hw : w ∈ c.workloads)
    (hload : ∃ table, tableAt fs (c.resultsPath task w) = .ok table) : Averaged c fs task w := by
  obtain ⟨table, htable⟩ := hload
  exact ⟨table, htable, fun index _ =>
    Results.Table.countable_of_rows (h task htask w hw table htable) index⟩

/-! ## All tables -/

theorem workloads_empty (c : Config) :
    (c.workloads.map fun w => (w, Aggregate.new w.name c.indexes c.tasks)).map (·.1) =
      c.workloads :=
  (List.map_map ..).trans (List.map_id _)

/-- One task gives every workload's aggregate a row. -/
def addRows (c : Config) (fs : FileSystem) (pairs : List (Workload × Aggregate)) (task : String) :
    List (Workload × Aggregate) :=
  pairs.map fun (w, t) => (w, t.insertRow task (meanAt c fs w task) c.indexes)

theorem workloads_addRows (c : Config) (fs : FileSystem) (pairs : List (Workload × Aggregate))
    (task : String) : (addRows c fs pairs task).map (·.1) = pairs.map (·.1) := by
  simp [addRows]

private theorem addPair_reads {c : Config} {fs : FileSystem} {task : String} {w : Workload}
    {t : Aggregate} (h : Averaged c fs task w) :
    Reads fs (do return (w, ← addTable c task w t))
      (.ok (w, t.insertRow task (meanAt c fs w task) c.indexes)) (tableEvents c fs task w) := by
  obtain ⟨table, htable, hindexes⟩ := h
  have h := (addTable_reads htable hindexes t).bind (f := fun t => pure (w, t)) (reads_pure _)
  rwa [List.append_nil] at h

theorem addTask_reads {c : Config} {fs : FileSystem} {task : String}
    {pairs : List (Workload × Aggregate)}
    (h : ∀ w ∈ pairs.map (·.1), Averaged c fs task w) :
    Reads fs (addTask c pairs task) (.ok (addRows c fs pairs task))
      ((pairs.map (·.1)).flatMap (tableEvents c fs task)) := by
  rw [addTask, addRows, List.flatMap_map]
  exact reads_mapM fun p hp => addPair_reads (h p.1 (List.mem_map_of_mem hp))

/-- Within a task, the first workload whose table is not loaded ends the run. -/
theorem addTask_reads_error {c : Config} {fs : FileSystem} {task : String}
    {pairs : List (Workload × Aggregate)} {before after : List Workload} {w : Workload} {e : Failure}
    (hpairs : pairs.map (·.1) = before ++ w :: after)
    (hbefore : ∀ v ∈ before, Averaged c fs task v)
    (hfail : tableAt fs (c.resultsPath task w) = .error e) :
    Reads fs (addTask c pairs task) (.error e) (before.flatMap (tableEvents c fs task)) := by
  obtain ⟨first, last, rfl, rfl, hlast⟩ := List.map_eq_append_iff.mp hpairs
  obtain ⟨p, rest, rfl, rfl, -⟩ := List.map_eq_cons_iff.mp hlast
  have hfirst := fun q hq => addPair_reads (t := Prod.snd q) (hbefore q.1 (List.mem_map_of_mem hq))
  have hp := (addTable_reads_error hfail p.2).bind_error fun t => pure (p.1, t)
  have h : Reads fs (addTask c (first ++ p :: rest) task) (.error e) _ :=
    reads_mapM_error hfirst hp
  rwa [List.append_nil, ← List.flatMap_map] at h

/-- The aggregate of a workload with a row for each task. -/
def filled (c : Config) (fs : FileSystem) (w : Workload) (tasks : List String) : Aggregate :=
  tasks.foldl (fun t task => t.insertRow task (meanAt c fs w task) c.indexes)
    (.new w.name c.indexes c.tasks)

theorem foldl_addRows (c : Config) (fs : FileSystem) (workloads : List Workload)
    (tasks : List String) :
    tasks.foldl (addRows c fs) (workloads.map fun w => (w, .new w.name c.indexes c.tasks)) =
      workloads.map fun w => (w, filled c fs w tasks) := by
  induction tasks using List.reverseRecOn with
  | nil => rfl
  | append_singleton tasks task ih =>
    rw [List.foldl_append, ih]
    simp [addRows, filled]

/-- All tables are averaged: the aggregates of the workloads, each with a row for every task. -/
theorem aggregate_reads_of_averaged {c : Config} {fs : FileSystem}
    (h : ∀ task ∈ c.tasks, ∀ w ∈ c.workloads, Averaged c fs task w) :
    Reads fs (aggregate c) (.ok (c.workloads.map fun w => filled c fs w c.tasks))
      (c.tasks.flatMap fun task => c.workloads.flatMap (tableEvents c fs task)) := by
  let empty := c.workloads.map fun w => (w, Aggregate.new w.name c.indexes c.tasks)
  have hempty : empty.map (·.1) = c.workloads := workloads_empty c
  have htasks : Reads fs (c.tasks.foldlM (addTask c) empty)
      (.ok (c.tasks.foldl (addRows c fs) empty))
      (c.tasks.flatMap fun task => c.workloads.flatMap (tableEvents c fs task)) := by
    refine reads_foldlM (I := fun pairs => pairs.map (·.1) = c.workloads) ?_ ?_ hempty
    · exact fun pairs task h => (workloads_addRows c fs pairs task).trans h
    · intro pairs hpairs task htask
      rw [← hpairs]
      refine addTask_reads fun w hw => ?_
      rw [hpairs] at hw
      exact h task htask w hw
  rw [foldl_addRows] at htasks
  have h := htasks.bind (f := fun pairs => pure (pairs.map (·.2))) (reads_pure _)
  rw [List.append_nil, List.map_map] at h
  exact h

theorem aggregate_reads {c : Config} {fs : FileSystem} (hsmall : Countable c fs)
    (hload : ∀ task ∈ c.tasks, ∀ w ∈ c.workloads, ∃ table,
      tableAt fs (c.resultsPath task w) = .ok table) :
    Reads fs (aggregate c) (.ok (c.workloads.map fun w => filled c fs w c.tasks))
      (c.tasks.flatMap fun task => c.workloads.flatMap (tableEvents c fs task)) :=
  aggregate_reads_of_averaged fun task htask w hw =>
    hsmall.averaged htask hw (hload task htask w hw)

/-- The tables of the tasks in `done`, and under `task` those of the workloads in `before`, are
averaged. The next table does not load, with the failure `e`. -/
structure StopsAfter (c : Config) (fs : FileSystem) (done : List String) (task : String)
    (before : List Workload) (e : Failure) : Prop where
  next : ∃ later w after, c.tasks = done ++ task :: later ∧ c.workloads = before ++ w :: after ∧
    tableAt fs (c.resultsPath task w) = .error e
  done : ∀ k ∈ done, ∀ v ∈ c.workloads, Averaged c fs k v
  before : ∀ v ∈ before, Averaged c fs task v

/-- Some table does not load: the failure of the first one, and the events of those before it. -/
theorem StopsAfter.aggregate_reads {c : Config} {fs : FileSystem} {done : List String}
    {task : String} {before : List Workload} {e : Failure} (h : StopsAfter c fs done task before e) :
    Reads fs (aggregate c) (.error e)
      ((done.flatMap fun k => c.workloads.flatMap (tableEvents c fs k)) ++
        before.flatMap (tableEvents c fs task)) := by
  obtain ⟨later, w, after, htasks, hworkloads, hfail⟩ := h.next
  let empty := c.workloads.map fun w => (w, Aggregate.new w.name c.indexes c.tasks)
  have hempty : empty.map (·.1) = c.workloads := workloads_empty c
  have hfold : Reads fs ((done ++ task :: later).foldlM (addTask c) empty) (.error e)
      ((done.flatMap fun k => c.workloads.flatMap (tableEvents c fs k)) ++
        before.flatMap (tableEvents c fs task)) := by
    refine reads_foldlM_error (I := fun pairs => pairs.map (·.1) = c.workloads)
      (fun pairs k h => (workloads_addRows c fs pairs k).trans h) ?_ ?_ hempty
    · intro pairs hpairs k hk
      rw [← hpairs]
      refine addTask_reads fun v hv => ?_
      rw [hpairs] at hv
      exact h.done k hk v hv
    · exact fun pairs hpairs => addTask_reads_error (hpairs.trans hworkloads) h.before hfail
  rw [← htasks] at hfold
  exact hfold.bind_error _

theorem aggregate_reads_error {c : Config} {fs : FileSystem} (hsmall : Countable c fs)
    {done later : List String} {task : String} {before after : List Workload} {w : Workload}
    {e : Failure} (htasks : c.tasks = done ++ task :: later)
    (hworkloads : c.workloads = before ++ w :: after)
    (hdone : ∀ k ∈ done, ∀ v ∈ c.workloads, ∃ table, tableAt fs (c.resultsPath k v) = .ok table)
    (hbefore : ∀ v ∈ before, ∃ table, tableAt fs (c.resultsPath task v) = .ok table)
    (hfail : tableAt fs (c.resultsPath task w) = .error e) :
    Reads fs (aggregate c) (.error e)
      ((done.flatMap fun k => c.workloads.flatMap (tableEvents c fs k)) ++
        before.flatMap (tableEvents c fs task)) := by
  refine StopsAfter.aggregate_reads ⟨⟨later, w, after, htasks, hworkloads, hfail⟩,
    fun k hk v hv => ?_, fun v hv => ?_⟩
  · exact hsmall.averaged (htasks ▸ List.mem_append_left _ hk) hv (hdone k hk v hv)
  · have htask : task ∈ c.tasks := htasks ▸ List.mem_append_right _ List.mem_cons_self
    exact hsmall.averaged htask (hworkloads ▸ List.mem_append_left _ hv) (hbefore v hv)

/-! ## The lists -/

/-- An aggregate under a workload's name and with the configured lists. -/
structure Shaped (c : Config) (w : Workload) (t : Aggregate) : Prop where
  wellFormed : t.WellFormed
  workload : t.workload = w.name
  indexes : t.indexes = c.indexes
  tasks : t.tasks = c.tasks

theorem shaped_new (c : Config) (w : Workload) : Shaped c w (.new w.name c.indexes c.tasks) :=
  ⟨Aggregate.wellFormed_new _ _ _, rfl, rfl, rfl⟩

theorem addIndex_ok {c : Config} {w : Workload} {task index : String} {table : Results.Table}
    {t t' : Aggregate} {u v : World} (htask : task ∈ c.tasks) (hindex : index ∈ c.indexes)
    (ht : Shaped c w t) (h : outcome (addIndex w task table t index) u = (.ok t', v)) :
    Shaped c w t' := by
  have hsome : ∃ value, t' = t.insertSome index task value := by
    rw [addIndex] at h
    split at h
    · next mean _ =>
      obtain ⟨_, _, -, h⟩ := outcome_bind_ok.mp h
      cases h
      exact ⟨some mean, rfl⟩
    · cases h
    · obtain ⟨_, _, -, h⟩ := outcome_bind_ok.mp h
      cases h
      exact ⟨none, rfl⟩
  obtain ⟨value, rfl⟩ := hsome
  obtain ⟨hwf, hw, hi, hk, -⟩ :=
    Aggregate.insertSome_spec ht.wellFormed (ht.indexes ▸ hindex) (ht.tasks ▸ htask) value
  exact ⟨hwf, hw.trans ht.workload, hi.trans ht.indexes, hk.trans ht.tasks⟩

theorem addTable_ok {c : Config} {w : Workload} {task : String} {t t' : Aggregate} {u v : World}
    (htask : task ∈ c.tasks) (ht : Shaped c w t)
    (h : outcome (addTable c task w t) u = (.ok t', v)) : Shaped c w t' := by
  obtain ⟨table, _, -, h⟩ := outcome_bind_ok.mp h
  exact foldlM_ok (fun _ hindex _ _ _ _ hs => addIndex_ok htask hindex hs) ht h

/-- Each workload keeps its place. -/
theorem workloads_addTask {c : Config} {task : String} {pairs pairs' : List (Workload × Aggregate)}
    {u v : World} (h : outcome (addTask c pairs task) u = (.ok pairs', v)) :
    pairs'.map (·.1) = pairs.map (·.1) := by
  have hall : List.Forall₂ (fun p q => q.1 = p.1) pairs pairs' := by
    refine mapM_ok (fun p _ u q v hq => ?_) h
    obtain ⟨t, _, -, hq⟩ := outcome_bind_ok.mp hq
    cases hq
    rfl
  clear h
  induction hall with
  | nil => rfl
  | cons hq _ ih => rw [List.map_cons, List.map_cons, hq, ih]

theorem addTask_ok {c : Config} {task : String} {pairs pairs' : List (Workload × Aggregate)}
    {u v : World} (htask : task ∈ c.tasks) (hpairs : ∀ p ∈ pairs, Shaped c p.1 p.2)
    (h : outcome (addTask c pairs task) u = (.ok pairs', v)) : ∀ p ∈ pairs', Shaped c p.1 p.2 := by
  have hall : List.Forall₂ (fun _ q => Shaped c q.1 q.2) pairs pairs' := by
    refine mapM_ok (fun p hp u q v hq => ?_) h
    obtain ⟨t, _, ht, hq⟩ := outcome_bind_ok.mp hq
    cases hq
    exact addTable_ok htask (hpairs p hp) ht
  clear h hpairs
  induction hall with
  | nil => simp
  | cons hq _ ih => exact List.forall_mem_cons.mpr ⟨hq, ih⟩

/-- However it is run, averaging gives each workload an aggregate of its own, in their order. -/
theorem aggregate_ok {c : Config} {ts : List Aggregate} {u v : World}
    (h : outcome (aggregate c) u = (.ok ts, v)) : List.Forall₂ (Shaped c) c.workloads ts := by
  let I := fun pairs : List (Workload × Aggregate) =>
    pairs.map (·.1) = c.workloads ∧ ∀ p ∈ pairs, Shaped c p.1 p.2
  obtain ⟨pairs, _, hpairs, h⟩ := outcome_bind_ok.mp h
  cases h
  have hempty : I (c.workloads.map fun w => (w, .new w.name c.indexes c.tasks)) := by
    refine ⟨workloads_empty c, fun p hp => ?_⟩
    obtain ⟨w, -, rfl⟩ := List.mem_map.mp hp
    exact shaped_new c w
  obtain ⟨hworkloads, hshaped⟩ : I pairs := by
    refine foldlM_ok (fun task htask pairs u pairs' v hI h => ?_) hempty hpairs
    exact ⟨(workloads_addTask h).trans hI.1, addTask_ok htask hI.2 h⟩
  rw [← hworkloads, List.forall₂_map_left_iff, List.forall₂_map_right_iff, List.forall₂_same]
  exact hshaped

/-! ## The values -/

/-- With the rows of some tasks, an aggregate holds the means under those tasks and no others. -/
structure Filled (c : Config) (fs : FileSystem) (w : Workload) (done : List String)
    (t : Aggregate) : Prop extends Shaped c w t where
  get?_eq : ∀ index task, t.get? index task =
    if index ∈ c.indexes ∧ task ∈ done then meanAt c fs w task index else none

theorem Filled.insertRow {c : Config} {fs : FileSystem} {w : Workload} {done : List String}
    {t : Aggregate} (h : Filled c fs w done t) {task : String} (htask : task ∈ c.tasks) :
    Filled c fs w (done ++ [task]) (t.insertRow task (meanAt c fs w task) c.indexes) := by
  obtain ⟨hwf, hw, hix, htk, hget⟩ := Aggregate.insertRow_spec h.wellFormed (h.tasks ▸ htask)
    (meanAt c fs w task) fun index hi => h.indexes ▸ hi
  refine ⟨⟨hwf, hw.trans h.workload, hix.trans h.indexes, htk.trans h.tasks⟩, fun i k => ?_⟩
  rw [hget, h.get?_eq]
  by_cases hi : i ∈ c.indexes
  · by_cases hk : k = task
    · subst hk
      by_cases hd : k ∈ done <;> simp [hi, hd]
    · simp [hi, hk]
  · simp [hi]

theorem filled_spec (c : Config) (fs : FileSystem) (w : Workload) {tasks : List String}
    (htasks : ∀ task ∈ tasks, task ∈ c.tasks) : Filled c fs w tasks (filled c fs w tasks) := by
  induction tasks using List.reverseRecOn with
  | nil => exact ⟨shaped_new c w, fun i k => by simp [filled]⟩
  | append_singleton tasks task ih =>
    have hdone := ih fun k hk => htasks k (List.mem_append_left _ hk)
    have htask : task ∈ c.tasks := htasks task (by simp)
    rw [filled, List.foldl_append, List.foldl_cons, List.foldl_nil, ← filled]
    exact hdone.insertRow htask

theorem meanAt_eq_some_iff {c : Config} {fs : FileSystem} (hsmall : Countable c fs) {w : Workload}
    (hw : w ∈ c.workloads) {task : String} (htask : task ∈ c.tasks) {index : String} {m : Float} :
    meanAt c fs w task index = some m ↔ ∃ table,
      tableAt fs (c.resultsPath task w) = .ok table ∧ table.meanSize index = .ok m := by
  have hoption {ε α : Type} (r : Except ε α) (a : α) : r.toOption = some a ↔ r = .ok a := by
    cases r <;> simp [Except.toOption]
  simp only [meanAt, Option.bind_eq_some_iff, hoption]
  refine exists_congr fun table => and_congr_right fun htable => ?_
  rw [Results.Table.meanSize_eq_ok_iff (hsmall task htask w hw table htable)]

theorem firstFailure_eq_some {c : Config} {fs : FileSystem} {e : Failure}
    (h : firstFailure c fs = some e) :
    ∃ done task later before w after, c.tasks = done ++ task :: later ∧
      c.workloads = before ++ w :: after ∧
      (∀ k ∈ done, ∀ v ∈ c.workloads, ∃ table, tableAt fs (c.resultsPath k v) = .ok table) ∧
      (∀ v ∈ before, ∃ table, tableAt fs (c.resultsPath task v) = .ok table) ∧
      tableAt fs (c.resultsPath task w) = .error e := by
  obtain ⟨done, task, later, htasks, htask, hdone⟩ := List.findSome?_eq_some_iff.mp h
  obtain ⟨before, w, after, hworkloads, hw, hbefore⟩ := List.findSome?_eq_some_iff.mp htask
  refine ⟨done, task, later, before, w, after, htasks, hworkloads, fun k hk v hv => ?_,
    fun v hv => failure?_eq_none_iff.mp (hbefore v hv), failure?_eq_some_iff.mp hw⟩
  exact failure?_eq_none_iff.mp (List.findSome?_eq_none_iff.mp (hdone k hk) v hv)

/-- Averaging gives every workload an aggregate of its own, in their order. It holds a value for a
pair exactly when both names are configured and the table of that task and workload has that mean.
When tables cannot be loaded, the failure is that of the first one. No file is changed. -/
theorem aggregate_spec (c : Config) (world : World) (hsmall : Countable c world.files) :
    let fs := world.files
    (outcome (aggregate c) world).2.files = fs ∧
    ((∀ task ∈ c.tasks, ∀ w ∈ c.workloads, ∃ table, tableAt fs (c.resultsPath task w) = .ok table) →
      ∃ ts, (outcome (aggregate c) world).1 = .ok ts ∧
        List.Forall₂ (fun w t => t.workload = w.name ∧ t.indexes = c.indexes ∧ t.tasks = c.tasks ∧
          ∀ index task m, t.get? index task = some m ↔ index ∈ c.indexes ∧ task ∈ c.tasks ∧
            ∃ table, tableAt fs (c.resultsPath task w) = .ok table ∧ table.meanSize index = .ok m)
          c.workloads ts) ∧
    ((∃ task ∈ c.tasks, ∃ w ∈ c.workloads, ∃ e, tableAt fs (c.resultsPath task w) = .error e) →
      ∃ e, firstFailure c fs = some e ∧ (outcome (aggregate c) world).1 = .error e) := by
  intro fs
  have hfailure : ∀ e, firstFailure c fs = some e →
      (outcome (aggregate c) world).1 = .error e ∧ (outcome (aggregate c) world).2.files = fs := by
    intro e he
    obtain ⟨done, task, later, before, w, after, htasks, hworkloads, hdone, hbefore, hfail⟩ :=
      firstFailure_eq_some he
    rw [aggregate_reads_error hsmall htasks hworkloads hdone hbefore hfail world rfl]
    exact ⟨rfl, rfl⟩
  have hnone : firstFailure c fs = none ↔ ∀ task ∈ c.tasks, ∀ w ∈ c.workloads,
      ∃ table, tableAt fs (c.resultsPath task w) = .ok table := by
    simp only [firstFailure, List.findSome?_eq_none_iff, failure?_eq_none_iff]
  refine ⟨?_, fun hload => ?_, fun ⟨task, htask, w, hw, e, he⟩ => ?_⟩
  · cases hf : firstFailure c fs with
    | some e => exact (hfailure e hf).2
    | none => rw [aggregate_reads hsmall (hnone.mp hf) world rfl, World.files_note]
  · refine ⟨_, by rw [aggregate_reads hsmall hload world rfl], ?_⟩
    rw [List.forall₂_map_right_iff, List.forall₂_same]
    intro w hw
    have h := filled_spec c fs w fun task htask => htask
    refine ⟨h.workload, h.indexes, h.tasks, fun index task m => ?_⟩
    rw [h.get?_eq, ← and_assoc]
    split
    · next hmem =>
      rw [meanAt_eq_some_iff hsmall hw hmem.2]
      exact (and_iff_right hmem).symm
    · next hmem => simp [hmem]
  · cases hf : firstFailure c fs with
    | some e => exact ⟨e, rfl, (hfailure e hf).1⟩
    | none =>
      obtain ⟨table, htable⟩ := hnone.mp hf task htask w hw
      rw [he] at htable
      cases htable

private def fourTables : Config where
  tasks := ["fb", "osm"]
  indexes := ["BTree", "LIPP"]
  workloads := [⟨"mix1", 0.1, "Mixed"⟩, ⟨"mix2", 0.9, "Mixed"⟩]

private def fourFiles : FileSystem :=
  let table (task : String) (ratio : Float) (rows : String) : Place × Entry :=
    (["results", fourTables.resultsName task ⟨"", ratio, ""⟩],
      .file (Text.bytes ("index_name,index_size_bytes\n" ++ rows)))
  { entries := [(["results"], .directory),
      table "fb" 0.1 "BTree,1\nBTree,2\nLIPP,nan\n",
      table "fb" 0.9 "LIPP,8\n",
      table "osm" 0.1 "BTree,4\n",
      table "osm" 0.9 "LIPP,32\nBTree,16\n"] }

/-- Each value stands in the slot of its own task, workload and index, and the misses leave none. -/
theorem aggregate_spec_fourFiles : Countable fourTables fourFiles ∧
    ∃ t u, (outcome (aggregate fourTables) ⟨fourFiles, []⟩).1 = .ok [t, u] ∧
      (t.get? "BTree" "fb" = some 1.5 ∧ t.get? "LIPP" "fb" = none ∧
        t.get? "BTree" "osm" = some 4 ∧ t.get? "LIPP" "osm" = none) ∧
      u.get? "BTree" "fb" = none ∧ u.get? "LIPP" "fb" = some 8 ∧
        u.get? "BTree" "osm" = some 16 ∧ u.get? "LIPP" "osm" = some 32 := by
  have hread : ∀ task ∈ fourTables.tasks, ∀ w ∈ fourTables.workloads,
      (tableAt fourFiles (fourTables.resultsPath task w)).toOption.any (·.rows.length ≤ 3) = true := by
    decide +kernel
  have hload : ∀ task ∈ fourTables.tasks, ∀ w ∈ fourTables.workloads, ∃ table,
      tableAt fourFiles (fourTables.resultsPath task w) = .ok table ∧ table.rows.length ≤ 3 := by
    intro task htask w hw
    have h := hread task htask w hw
    cases htable : tableAt fourFiles (fourTables.resultsPath task w) with
    | error e => simp [htable, Except.toOption] at h
    | ok table => exact ⟨table, rfl, by simpa [htable, Except.toOption] using h⟩
  have hsmall : Countable fourTables fourFiles := by
    intro task htask w hw table htable
    obtain ⟨table', htable', hrows⟩ := hload task htask w hw
    rw [htable, Except.ok.injEq] at htable'
    rw [htable']
    exact Nat.lt_of_le_of_lt hrows (by decide)
  obtain ⟨ts, hts, hall⟩ := (aggregate_spec fourTables ⟨fourFiles, []⟩ hsmall).2.1
    fun task htask w hw => (hload task htask w hw).imp fun _ h => h.1
  obtain ⟨t, rest, ht, hrest, rfl⟩ := List.forall₂_cons_left_iff.mp hall
  obtain ⟨u, last, hu, hlast, rfl⟩ := List.forall₂_cons_left_iff.mp hrest
  obtain rfl := List.forall₂_nil_left_iff.mp hlast
  -- A value is there exactly if the table of its slot has that mean.
  have hslot : ∀ w ∈ fourTables.workloads, ∀ t : Aggregate,
      (∀ index task m, t.get? index task = some m ↔
        index ∈ fourTables.indexes ∧ task ∈ fourTables.tasks ∧ ∃ table,
          tableAt fourFiles (fourTables.resultsPath task w) = .ok table ∧
            table.meanSize index = .ok m) →
      ∀ index ∈ fourTables.indexes, ∀ task ∈ fourTables.tasks,
        t.get? index task = meanAt fourTables fourFiles w task index := by
    intro w hw t h index hindex task htask
    refine Option.ext fun m => (h index task m).trans ?_
    rw [meanAt_eq_some_iff hsmall hw htask, and_iff_right hindex, and_iff_right htask]
  have ht := hslot _ List.mem_cons_self t ht.2.2.2
  have hu := hslot ⟨"mix2", 0.9, "Mixed"⟩ (List.mem_cons_of_mem _ List.mem_cons_self) u hu.2.2.2
  have hBTree : "BTree" ∈ fourTables.indexes := List.mem_cons_self
  have hLIPP : "LIPP" ∈ fourTables.indexes := List.mem_cons_of_mem _ List.mem_cons_self
  have hfb : "fb" ∈ fourTables.tasks := List.mem_cons_self
  have hosm : "osm" ∈ fourTables.tasks := List.mem_cons_of_mem _ List.mem_cons_self
  refine ⟨hsmall, t, u, hts, ?_⟩
  rw [ht _ hBTree _ hfb, ht _ hLIPP _ hfb, ht _ hBTree _ hosm, ht _ hLIPP _ hosm,
    hu _ hBTree _ hfb, hu _ hLIPP _ hfb, hu _ hBTree _ hosm, hu _ hLIPP _ hosm]
  decide +kernel

end Footprint.Report
