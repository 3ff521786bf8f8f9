import Footprint.Proofs.Aggregate.Reading

/-!
# Reading and writing brings a text into its normal form

The text that is written for an aggregate depends on its indexes, on its tasks with a value and on
the values. Reading that text loses none of these, so it is written again as it stands: however the
first text was spelled, one pass settles it.
-/
namespace Footprint.Aggregate

theorem record_congr {t u : Aggregate} (hindexes : u.indexes = t.indexes) {task : String}
    (hget : ∀ index, u.get? index task = t.get? index task) : u.record task = t.record task := by
  rw [record, record, hindexes]
  simp only [hget]

theorem toCsv_congr {t u : Aggregate} (hindexes : u.indexes = t.indexes)
    (htasks : u.populatedTasks = t.populatedTasks)
    (hget : ∀ index task, u.get? index task = t.get? index task) : u.toCsv = t.toCsv := by
  have hrecords : u.populatedTasks.map u.record = t.populatedTasks.map t.record := by
    rw [htasks]
    exact List.map_congr_left fun task _ => record_congr hindexes fun index => hget index task
  rw [toCsv, toCsv, records, records, hindexes, hrecords]

/-- What is read from the text of an aggregate whose tasks stand once each has lost the tasks without
a value, which were not written either, and nothing else. -/
theorem WellFormed.exists_ofCsv_toCsv {t : Aggregate} (ht : t.WellFormed) (htasks : t.tasks.Nodup)
    (workload : String) : ∃ u, ofCsv workload t.toCsv = .ok u ∧ u.indexes = t.indexes ∧
      u.tasks = t.populatedTasks ∧ u.populatedTasks = t.populatedTasks ∧
      ∀ index task, u.get? index task = t.get? index task := by
  obtain ⟨u, hu, huwf, hindexes, hkept, hget⟩ := ht.ofCsv_toCsv_as workload
  have hutasks : u.tasks = t.populatedTasks :=
    hkept.trans (eraseDups_of_nodup (htasks.filter _))
  have hpopulated : u.populatedTasks = u.tasks := by
    refine List.filter_eq_self.mpr fun task hm => huwf.hasTask_iff.mpr ?_
    obtain ⟨index, v, hv⟩ := ht.mem_populatedTasks.mp (hutasks ▸ hm)
    exact ⟨index, v, (hget index task).trans hv⟩
  exact ⟨u, hu, hindexes, hutasks, hpopulated.trans hutasks, hget⟩

/-- A text that is accepted is brought into its normal form by reading and writing it once. Every
record of the normal form has the length of its header, as a writer of such text demands. It is
accepted in turn, under any name, with the same indexes and values and the tasks that have one, and
it is written again byte for byte. -/
theorem ofCsv_normalForm (workload : String) (bs : Bytes) (t : Aggregate)
    (h : ofCsv workload bs = .ok t) :
    (∀ r ∈ t.records, r.length = t.indexes.length + 1) ∧
    ∀ other, ∃ u, ofCsv other t.toCsv = .ok u ∧ u.toCsv = t.toCsv ∧ u.indexes = t.indexes ∧
      u.tasks = t.populatedTasks ∧ ∀ index task, u.get? index task = t.get? index task := by
  obtain ⟨header, records, -, -, hholds⟩ := sound_of_ofCsv h
  have ht : t.WellFormed := (Initial.read h).wellFormed
  have hnodup : t.tasks.Nodup := hholds.tasks_eq ▸ nodup_eraseDups _
  constructor
  · intro r hr
    rcases List.mem_cons.mp hr with rfl | hr
    · exact List.length_cons
    · obtain ⟨task, -, rfl⟩ := List.mem_map.mp hr
      exact t.length_record task
  · intro other
    obtain ⟨u, hu, hindexes, htasks, hpopulated, hget⟩ := ht.exists_ofCsv_toCsv hnodup other
    exact ⟨u, hu, toCsv_congr hindexes hpopulated hget, hindexes, htasks, hget⟩

/-- Quotes, both line ends, a task and an index that stand twice, a task without a value, and values
spelled in other ways. -/
theorem ofCsv_normalForm_respelled : ∃ t u,
    ofCsv "mix" (Text.bytes "any,a,\"b,c\",a\r\n\"x\",1e2,NAN,+.5\r\ry,,,\nx,,-Infinity,") = .ok t ∧
      t.toCsv = Text.bytes ",a,\"b,c\",a\nx,0.5,-inf,0.5\n" ∧
      ofCsv "other" t.toCsv = .ok u ∧ u.toCsv = t.toCsv ∧ u.tasks = t.populatedTasks ∧
      u.get? "a" "x" = t.get? "a" "x" := by
  let text := Text.bytes "any,a,\"b,c\",a\r\n\"x\",1e2,NAN,+.5\r\ry,,,\nx,,-Infinity,"
  have hread : (ofCsv "mix" text).toOption.map toCsv =
      some (Text.bytes ",a,\"b,c\",a\nx,0.5,-inf,0.5\n") := by decide +kernel
  cases h : ofCsv "mix" text with
  | error e => simp [h, Except.toOption] at hread
  | ok t =>
    rw [h] at hread
    obtain ⟨u, hu, hcsv, -, htasks, hget⟩ := (ofCsv_normalForm "mix" text t h).2 "other"
    exact ⟨t, u, rfl, Option.some.inj hread, hu, hcsv, htasks, hget "a" "x"⟩

end Footprint.Aggregate
