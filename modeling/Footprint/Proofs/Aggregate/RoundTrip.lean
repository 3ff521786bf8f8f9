import Footprint.Aggregate.Csv
import Footprint.Proofs.Aggregate.Invariant
import Footprint.Proofs.Csv.RoundTrip
import Footprint.Proofs.Number.RoundTrip

/-!
# Reading an aggregate back from its text

Each written row is one task with its value under every index, so reading rows one by one inserts
exactly the values of the tasks that have been read. Tasks without a value are not written, and a
task that is listed twice is written twice with the same values.
-/
namespace Footprint.Aggregate

theorem read_cellText (v : Float) : Number.read (cellText v) = .ok v :=
  Number.Style.cell.read_text v

theorem cellText_ne_empty (v : Float) : cellText v ≠ "" := by
  intro h
  have hread := read_cellText v
  rw [h] at hread
  cases hread

/-! ## One row -/

theorem insertCells_record (t s : Aggregate) (task : String) (indexes : List String) :
    insertCells task s (indexes.zip
      (indexes.map fun index => ((t.get? index task).map cellText).getD "")) =
      .ok (s.insertRow task (fun index => t.get? index task) indexes) := by
  induction indexes generalizing s with
  | nil => rfl
  | cons index indexes ih =>
    simp only [List.map_cons, List.zip_cons_cons, insertCells, insertRow, List.foldl_cons]
    cases hv : t.get? index task with
    | none => simpa [insertRow, insertSome] using ih s
    | some v =>
      simpa [cellText_ne_empty, read_cellText, insertRow, insertSome] using
        ih (s.insert index task v)

/-! ## All rows -/

/-- What has been read after the rows of `tasks`: their values and no others. -/
structure HasRead (t s : Aggregate) (tasks : List String) : Prop where
  wellFormed : s.WellFormed
  workload : s.workload = t.workload
  indexes : s.indexes = t.indexes
  tasks_eq : s.tasks = tasks.eraseDups
  get?_eq : ∀ i k, s.get? i k = if k ∈ tasks then t.get? i k else none

theorem insertRecord_record {t s : Aggregate} {tasks : List String} (ht : t.WellFormed)
    (h : t.HasRead s tasks) (task : String) :
    ∃ u, insertRecord t.indexes s (.ok (t.record task)) = .ok u ∧ t.HasRead u (tasks ++ [task]) := by
  let s' : Aggregate := { s with tasks := appendNew task s.tasks }
  have hmem : task ∈ s'.tasks := mem_appendNew.mpr (Or.inl rfl)
  have hi : ∀ index ∈ t.indexes, index ∈ s'.indexes := fun i hi => by
    change i ∈ s.indexes
    rwa [h.indexes]
  obtain ⟨hwf, hw, hix, htk, hget⟩ :=
    insertRow_spec (h.wellFormed.addTask task) hmem (fun index => t.get? index task) hi
  refine ⟨_, ?_, hwf, hw.trans h.workload, hix.trans h.indexes, ?_, ?_⟩
  · simpa [record, insertRecord] using t.insertCells_record s' task t.indexes
  · rw [eraseDups_concat, ← h.tasks_eq]
    exact htk
  · intro i k
    have hs' : s'.get? i k = s.get? i k := rfl
    rw [hget i k, hs', h.get?_eq i k]
    cases hv : t.get? i k with
    | none =>
      by_cases hk : k = task
      · simp [← hk, hv]
      · simp [hk]
    | some v =>
      have himem : i ∈ t.indexes := ht.mem_indexes hv
      by_cases hk : k = task
      · simp [← hk, hv, himem]
      · simp [hk]

theorem foldlM_records {t : Aggregate} (ht : t.WellFormed) (rest : List String) {s : Aggregate}
    {tasks : List String} (h : t.HasRead s tasks) :
    ∃ u, (rest.map fun task => Except.ok (t.record task)).foldlM (insertRecord t.indexes) s =
      .ok u ∧ t.HasRead u (tasks ++ rest) := by
  induction rest generalizing s tasks with
  | nil => exact ⟨s, rfl, by simpa using h⟩
  | cons task rest ih =>
    obtain ⟨s', hs', h'⟩ := insertRecord_record ht h task
    obtain ⟨u, hu, hread⟩ := ih h'
    refine ⟨u, ?_, by simpa using hread⟩
    rw [List.map_cons, List.foldlM_cons, hs']
    exact hu

theorem hasRead_new (t : Aggregate) : t.HasRead (new t.workload t.indexes []) [] where
  wellFormed := wellFormed_new _ _ _
  workload := rfl
  indexes := rfl
  tasks_eq := rfl
  get?_eq i k := by simp

/-! ## The whole text -/

/-- The header's first field is empty, so the text begins with a comma or a quote. -/
private theorem head?_toCsv (t : Aggregate) : t.toCsv.head? ≠ some 0xEF := by
  have hempty : Text.bytes "" = [] := rfl
  have hfield : Csv.encodeField [] = [] := rfl
  simp only [toCsv, Csv.encodeText, records, Csv.encode, List.map_cons, List.flatMap_cons,
    Csv.encodeRecord, hempty]
  cases hi : t.indexes with
  | nil => simp [Csv.quoteField, Csv.quote]
  | cons i indexes =>
    simp [List.intercalate_cons_cons, hfield, Csv.comma]

theorem length_record (t : Aggregate) (task : String) :
    (t.record task).length = t.indexes.length + 1 := by
  simp [record]

/-- The text is read as a header with the indexes and the record of each task with a value. -/
theorem read_toCsv (t : Aggregate) : Csv.Document.read true t.toCsv = ⟨.ok ("" :: t.indexes),
    t.populatedTasks.map fun task => Except.ok (t.record task)⟩ := by
  have hne : "" :: t.indexes ≠ [] := by simp
  have hlen : ∀ r ∈ t.populatedTasks.map t.record, r.length = ("" :: t.indexes).length := by
    simp [length_record]
  have h := Csv.Document.read_encodeText true hne hlen t.head?_toCsv
  rwa [List.map_map] at h

/-- A well-formed aggregate is read back with its lists and values; a task without a value is lost,
and one that stands twice is kept once. -/
theorem WellFormed.ofCsv_toCsv {t : Aggregate} (ht : t.WellFormed) :
    ∃ u, ofCsv t.workload t.toCsv = .ok u ∧ u.WellFormed ∧ u.workload = t.workload ∧
      u.indexes = t.indexes ∧ u.tasks = t.populatedTasks.eraseDups ∧
      ∀ index task, u.get? index task = t.get? index task := by
  have hdoc := t.read_toCsv
  obtain ⟨u, hu, hread⟩ := foldlM_records ht t.populatedTasks t.hasRead_new
  refine ⟨u, ?_, hread.wellFormed, hread.workload, hread.indexes, hread.tasks_eq, ?_⟩
  · simpa [ofCsv, hdoc] using hu
  · intro index task
    rw [hread.get?_eq, List.nil_append]
    split
    · rfl
    · next hn =>
      cases hv : t.get? index task with
      | none => rfl
      | some v => exact absurd (ht.mem_populatedTasks.mpr ⟨index, v, hv⟩) hn

/-- The text does not hold the workload, so it is read back under any name. -/
theorem WellFormed.ofCsv_toCsv_as {t : Aggregate} (ht : t.WellFormed) (workload : String) :
    ∃ u, ofCsv workload t.toCsv = .ok u ∧ u.WellFormed ∧ u.indexes = t.indexes ∧
      u.tasks = t.populatedTasks.eraseDups ∧ ∀ index task, u.get? index task = t.get? index task := by
  let renamed : Aggregate := { t with workload := workload }
  have hrenamed : renamed.WellFormed :=
    ⟨ht.mem_keys, ht.nodup_keys, ht.column_nodup, ht.column_tasks⟩
  obtain ⟨u, hu, hwf, -, hindexes, htasks, hget⟩ := hrenamed.ofCsv_toCsv
  exact ⟨u, hu, hwf, hindexes, htasks, hget⟩

private theorem eraseDups_populatedTasks_eq_iff {t : Aggregate} (ht : t.WellFormed) :
    t.populatedTasks.eraseDups = t.tasks ↔
      t.tasks.Nodup ∧ ∀ task ∈ t.tasks, ∃ index v, t.get? index task = some v := by
  constructor
  · intro h
    refine ⟨h ▸ nodup_eraseDups _, fun task hm => ?_⟩
    rw [← h, List.mem_eraseDups] at hm
    exact ht.mem_populatedTasks.mp hm
  · rintro ⟨hnodup, hall⟩
    have hp : t.populatedTasks = t.tasks :=
      List.filter_eq_self.mpr fun task hm => ht.hasTask_iff.mpr (hall task hm)
    rw [hp, eraseDups_of_nodup hnodup]

/-- The tasks that are written are those with a value in some column. -/
theorem WellFormed.populatedTasks_eq {t : Aggregate} (ht : t.WellFormed) :
    t.populatedTasks =
      t.tasks.filter fun task => t.indexes.any fun index => (t.get? index task).isSome := by
  refine List.filter_congr fun task _ => Bool.eq_iff_iff.mpr ?_
  simp only [ht.hasTask_iff, List.any_eq_true, Option.isSome_iff_exists]
  constructor
  · rintro ⟨index, v, hv⟩
    exact ⟨index, ht.mem_indexes hv, v, hv⟩
  · rintro ⟨index, -, v, hv⟩
    exact ⟨index, v, hv⟩

/-- Writing any aggregate that insertions have built and reading the text back. Every record has the
header's length, as a writer of such text demands. Lists and values come back, bit for bit; the
tasks that come back are those with a value. The result is the same aggregate exactly when no task
is listed twice or lacks a value and no value is one that differs from itself. -/
theorem ofCsv_toCsv_insertAll (workload : String) (indexes tasks : List String)
    (cells : List (String × String × Float)) :
    let t := (new workload indexes tasks).insertAll cells
    (∀ r ∈ t.records, r.length = t.indexes.length + 1) ∧
    ∃ u, ofCsv workload t.toCsv = .ok u ∧ u.workload = t.workload ∧ u.indexes = t.indexes ∧
      (∀ index task, u.get? index task = t.get? index task) ∧
      u.tasks = (t.tasks.filter fun task =>
        t.indexes.any fun index => (t.get? index task).isSome).eraseDups ∧
      (u.same t = true ↔ t.tasks.Nodup ∧
        (∀ task ∈ t.tasks, ∃ index v, t.get? index task = some v) ∧
        ∀ index task v, t.get? index task = some v → v.isNaN = false) := by
  intro t
  have ht : t.WellFormed := (wellFormed_new workload indexes tasks).insertAll cells
  have hw : t.workload = workload := workload_insertAll _ cells
  obtain ⟨u, hu, huwf, huw, hui, hut, hget⟩ := ht.ofCsv_toCsv
  refine ⟨?_, u, hw ▸ hu, huw, hui, hget, ht.populatedTasks_eq ▸ hut, ?_⟩
  · intro r hr
    rcases List.mem_cons.mp hr with rfl | hr
    · simp
    · obtain ⟨task, -, rfl⟩ := List.mem_map.mp hr
      exact t.length_record task
  · rw [huwf.same_iff ht hget, hut, eraseDups_populatedTasks_eq_iff ht]
    simp only [huw, hui, true_and, Number.beq_self, Bool.not_eq_true', and_assoc]

/-- Only the header is left when no task has a value, with quotes around a name with a comma. -/
example : (new "mix" ["a", "a,b"] ["", "x"]).toCsv = Text.bytes ",a,\"a,b\"\n" := by decide

end Footprint.Aggregate
