import Footprint.Aggregate.Table
import Footprint.Proofs.Assoc
import Mathlib.Data.List.Induction

/-!
# What every aggregate satisfies

The lists of an aggregate and its map of columns are updated separately. They agree after any
insertions: each listed index has one column, and a column has values for listed tasks only. What
an aggregate holds under a pair is the value inserted last.
-/
namespace Footprint

theorem mem_appendNew {x y : String} {xs : List String} :
    y ∈ appendNew x xs ↔ y = x ∨ y ∈ xs := by
  rw [appendNew]
  split
  · next h => exact ⟨Or.inr, fun hy => hy.elim (fun he => he ▸ h) id⟩
  · rw [List.mem_append, List.mem_singleton, or_comm]

theorem appendNew_of_mem {x : String} {xs : List String} (h : x ∈ xs) : appendNew x xs = xs :=
  if_pos h

/-- Adding names one after the other keeps the first occurrence of each. -/
theorem eraseDups_concat (x : String) (xs : List String) :
    (xs ++ [x]).eraseDups = appendNew x xs.eraseDups := by
  rw [List.eraseDups_append]
  by_cases h : x ∈ xs
  · have hx : x ∈ xs.eraseDups := List.mem_eraseDups.mpr h
    simp [appendNew, hx, h, List.removeAll]
  · have hx : x ∉ xs.eraseDups := fun hm => h (List.mem_eraseDups.mp hm)
    simp [appendNew, hx, h, List.removeAll, List.eraseDups_cons]

theorem nodup_eraseDups (xs : List String) : xs.eraseDups.Nodup := by
  induction xs using List.reverseRecOn with
  | nil => exact List.nodup_nil
  | append_singleton xs x ih =>
    rw [eraseDups_concat, appendNew]
    split
    · exact ih
    · next h =>
      rw [← List.concat_eq_append, List.nodup_concat]
      exact ⟨h, ih⟩

theorem eraseDups_of_nodup {xs : List String} (h : xs.Nodup) : xs.eraseDups = xs := by
  induction xs using List.reverseRecOn with
  | nil => rfl
  | append_singleton xs x ih =>
    have hx : xs.Nodup ∧ x ∉ xs := by
      rw [← List.concat_eq_append, List.nodup_concat] at h
      exact h.symm
    rw [eraseDups_concat, ih hx.1, appendNew, if_neg hx.2]

namespace Aggregate

/-- Insertions from left to right, each of an index, a task and a value. -/
def insertAll (t : Aggregate) (cells : List (String × String × Float)) : Aggregate :=
  cells.foldl (fun t (index, task, value) => t.insert index task value) t

structure WellFormed (t : Aggregate) : Prop where
  mem_keys : ∀ index, index ∈ t.values.keys ↔ index ∈ t.indexes
  nodup_keys : t.values.keys.Nodup
  column_nodup : ∀ index, (t.column index).keys.Nodup
  column_tasks : ∀ index, ∀ task ∈ (t.column index).keys, task ∈ t.tasks

/-! ## Values -/

theorem column_insert (t : Aggregate) (index task other : String) (value : Float) :
    (t.insert index task value).column other =
      if other = index then (t.column index).insert task value else t.column other := by
  simp only [column, insert, Assoc.find?_insert]
  split <;> simp

theorem get?_insert (t : Aggregate) (index task i k : String) (value : Float) :
    (t.insert index task value).get? i k =
      if i = index ∧ k = task then some value else t.get? i k := by
  simp only [get?, column_insert]
  by_cases hi : i = index
  · subst hi
    simp [Assoc.find?_insert]
  · simp [hi]

private theorem foldl_columns (indexes : List String) (m : Assoc String (Assoc String Float)) :
    (∀ index, (indexes.foldl (fun m i => m.insert i []) m).find? index =
      if index ∈ indexes then some [] else m.find? index) ∧
    (m.keys.Nodup → (indexes.foldl (fun m i => m.insert i []) m).keys.Nodup) := by
  induction indexes generalizing m with
  | nil => simp
  | cons i indexes ih =>
    obtain ⟨hfind, hnodup⟩ := ih (m.insert i [])
    refine ⟨fun index => ?_, fun h => hnodup (Assoc.nodup_keys_insert h i [])⟩
    rw [List.foldl_cons, hfind, Assoc.find?_insert]
    by_cases h : index = i <;> simp [h]

theorem column_new (workload : String) (indexes tasks : List String) (index : String) :
    (new workload indexes tasks).column index = [] := by
  simp only [column, new, (foldl_columns indexes []).1]
  split <;> rfl

@[simp] theorem get?_new (workload : String) (indexes tasks : List String) (index task : String) :
    (new workload indexes tasks).get? index task = none := by
  rw [get?, column_new, Assoc.find?]

/-! ## The invariant -/

theorem wellFormed_new (workload : String) (indexes tasks : List String) :
    (new workload indexes tasks).WellFormed where
  mem_keys index := by
    simp only [Assoc.mem_keys_iff, new, (foldl_columns indexes []).1]
    by_cases h : index ∈ indexes <;> simp [h, Assoc.find?]
  nodup_keys := (foldl_columns indexes []).2 List.nodup_nil
  column_nodup index := by simp [column_new]
  column_tasks index := by simp [column_new]

theorem WellFormed.insert {t : Aggregate} (h : t.WellFormed) (index task : String) (value : Float) :
    (t.insert index task value).WellFormed where
  mem_keys i := by
    simp only [Aggregate.insert, Assoc.mem_keys_insert, mem_appendNew, h.mem_keys]
  nodup_keys := Assoc.nodup_keys_insert h.nodup_keys _ _
  column_nodup i := by
    rw [column_insert]
    split
    · exact Assoc.nodup_keys_insert (h.column_nodup index) task value
    · exact h.column_nodup i
  column_tasks i k hk := by
    rw [column_insert] at hk
    simp only [Aggregate.insert, mem_appendNew]
    split at hk
    · exact (Assoc.mem_keys_insert.mp hk).imp_right (h.column_tasks index k)
    · exact Or.inr (h.column_tasks i k hk)

theorem WellFormed.addTask {t : Aggregate} (h : t.WellFormed) (task : String) :
    ({ t with tasks := appendNew task t.tasks } : Aggregate).WellFormed where
  mem_keys := h.mem_keys
  nodup_keys := h.nodup_keys
  column_nodup := h.column_nodup
  column_tasks i k hk := mem_appendNew.mpr (Or.inr (h.column_tasks i k hk))

theorem WellFormed.insertAll {t : Aggregate} (h : t.WellFormed)
    (cells : List (String × String × Float)) : (t.insertAll cells).WellFormed := by
  induction cells generalizing t with
  | nil => exact h
  | cons e cells ih => exact ih (h.insert e.1 e.2.1 e.2.2)

@[simp] theorem workload_insertAll (t : Aggregate) (cells : List (String × String × Float)) :
    (t.insertAll cells).workload = t.workload := by
  induction cells generalizing t with
  | nil => rfl
  | cons e cells ih => exact ih (t.insert e.1 e.2.1 e.2.2)

/-! ## Rows

A row gives some of the indexes a value under one task. -/

def insertSome (t : Aggregate) (index task : String) : Option Float → Aggregate
  | some value => t.insert index task value
  | none => t

def insertRow (t : Aggregate) (task : String) (value : String → Option Float)
    (indexes : List String) : Aggregate :=
  indexes.foldl (fun t index => t.insertSome index task (value index)) t

/-- A value for a known task and a known index leaves both lists as they are. -/
theorem insertSome_spec {t : Aggregate} (ht : t.WellFormed) {index task : String}
    (hi : index ∈ t.indexes) (hk : task ∈ t.tasks) (value : Option Float) :
    let u := t.insertSome index task value
    u.WellFormed ∧ u.workload = t.workload ∧ u.indexes = t.indexes ∧ u.tasks = t.tasks ∧
      ∀ i k, u.get? i k = if i = index ∧ k = task then value.or (t.get? i k) else t.get? i k := by
  cases value with
  | none => simp [insertSome, ht]
  | some value =>
    refine ⟨ht.insert index task value, rfl, appendNew_of_mem hi, appendNew_of_mem hk, ?_⟩
    intro i k
    simp [insertSome, get?_insert]

/-- A row for a known task and known indexes changes values only. -/
theorem insertRow_spec {t : Aggregate} (ht : t.WellFormed) {task : String} (hk : task ∈ t.tasks)
    (value : String → Option Float) {indexes : List String}
    (hi : ∀ index ∈ indexes, index ∈ t.indexes) :
    let u := t.insertRow task value indexes
    u.WellFormed ∧ u.workload = t.workload ∧ u.indexes = t.indexes ∧ u.tasks = t.tasks ∧
      ∀ i k, u.get? i k = if i ∈ indexes ∧ k = task then (value i).or (t.get? i k)
        else t.get? i k := by
  induction indexes generalizing t with
  | nil => simp [insertRow, ht]
  | cons index indexes ih =>
    obtain ⟨hwf, hw, hix, htk, hget⟩ :=
      insertSome_spec ht (hi index List.mem_cons_self) hk (value index)
    have hrest : ∀ i ∈ indexes, i ∈ (t.insertSome index task (value index)).indexes :=
      fun i h => hix ▸ hi i (List.mem_cons_of_mem _ h)
    obtain ⟨hwf', hw', hix', htk', hget'⟩ := ih hwf (htk ▸ hk) hrest
    refine ⟨hwf', hw'.trans hw, hix'.trans hix, htk'.trans htk, fun i k => ?_⟩
    rw [insertRow, List.foldl_cons, ← insertRow, hget' i k, hget i k]
    -- An index that stands twice is given the same value twice.
    by_cases hik : i = index ∧ k = task
    · obtain ⟨rfl, rfl⟩ := hik
      cases value i <;> simp
    · grind

/-! ## Consequences -/

theorem WellFormed.mem_indexes {t : Aggregate} (h : t.WellFormed) {index task : String} {v : Float}
    (hv : t.get? index task = some v) : index ∈ t.indexes := by
  rw [← h.mem_keys]
  by_contra hn
  rw [get?, column, Assoc.find?_eq_none_iff.mpr hn] at hv
  simp [Assoc.find?] at hv

theorem WellFormed.mem_tasks {t : Aggregate} (h : t.WellFormed) {index task : String} {v : Float}
    (hv : t.get? index task = some v) : task ∈ t.tasks :=
  h.column_tasks index task (Assoc.mem_keys_iff.mpr ⟨v, hv⟩)

/-- The tasks that are written are those with a value for some index. -/
theorem WellFormed.hasTask_iff {t : Aggregate} (h : t.WellFormed) {task : String} :
    t.hasTask task = true ↔ ∃ index v, t.get? index task = some v := by
  simp only [hasTask, List.any_eq_true, Assoc.contains_iff, Assoc.mem_keys_iff]
  constructor
  · rintro ⟨⟨index, col⟩, hmem, v, hv⟩
    refine ⟨index, v, ?_⟩
    rw [get?, column, Assoc.find?_of_mem h.nodup_keys hmem]
    exact hv
  · rintro ⟨index, v, hv⟩
    obtain ⟨col, hcol⟩ := Assoc.mem_keys_iff.mp ((h.mem_keys index).mpr (h.mem_indexes hv))
    refine ⟨(index, col), Assoc.mem_of_find? hcol, v, ?_⟩
    rwa [get?, column, hcol] at hv

theorem WellFormed.mem_populatedTasks {t : Aggregate} (h : t.WellFormed) {task : String} :
    task ∈ t.populatedTasks ↔ ∃ index v, t.get? index task = some v := by
  rw [populatedTasks, List.mem_filter, h.hasTask_iff, and_iff_right_iff_imp]
  rintro ⟨index, v, hv⟩
  exact h.mem_tasks hv

private theorem WellFormed.find?_values {t : Aggregate} (h : t.WellFormed) {index : String} :
    t.values.find? index = if index ∈ t.indexes then some (t.column index) else none := by
  split
  · next hi =>
    obtain ⟨col, hcol⟩ := Assoc.mem_keys_iff.mp ((h.mem_keys index).mpr hi)
    rw [column, hcol, Option.getD_some]
  · next hi => exact Assoc.find?_eq_none_iff.mpr fun hk => hi ((h.mem_keys index).mp hk)

/-- Aggregates are the same when their names, lists and values agree, and no value is one that
differs from itself. -/
theorem WellFormed.same_iff {t u : Aggregate} (ht : t.WellFormed) (hu : u.WellFormed)
    (hget : ∀ index task, t.get? index task = u.get? index task) :
    t.same u = true ↔ t.workload = u.workload ∧ t.indexes = u.indexes ∧ t.tasks = u.tasks ∧
      ∀ index task v, u.get? index task = some v → (v == v) = true := by
  have hkeys (index k : String) : k ∈ (t.column index).keys ↔ k ∈ (u.column index).keys := by
    simp only [Assoc.mem_keys_iff]
    exact exists_congr fun v => by rw [← get?, ← get?, hget]
  simp only [same, Bool.and_eq_true, decide_eq_true_eq, and_assoc]
  refine and_congr_right fun _ => and_congr_right fun hi => and_congr_right fun _ => ?_
  rw [Assoc.same_iff ht.nodup_keys hu.nodup_keys]
  constructor
  · rintro ⟨-, hcols⟩ index task v hv
    have hindex := hu.mem_indexes hv
    have h := hcols index (t.column index) (u.column index)
      (by rw [ht.find?_values, if_pos (hi ▸ hindex)]) (by rw [hu.find?_values, if_pos hindex])
    rw [Assoc.same_iff (ht.column_nodup index) (hu.column_nodup index)] at h
    exact h.2 task v v (by rw [← get?, hget, hv]) hv
  · intro hself
    refine ⟨fun k => by rw [ht.mem_keys, hu.mem_keys, hi], fun index c d hc hd => ?_⟩
    rw [ht.find?_values] at hc
    rw [hu.find?_values] at hd
    split at hc <;> cases hc
    split at hd <;> cases hd
    rw [Assoc.same_iff (ht.column_nodup index) (hu.column_nodup index)]
    refine ⟨hkeys index, fun task v w hv hw => ?_⟩
    have hvw : t.get? index task = u.get? index task := hget index task
    rw [get?, get?, hv, hw, Option.some.injEq] at hvw
    rw [hvw]
    exact hself index task w hw

end Aggregate
end Footprint
