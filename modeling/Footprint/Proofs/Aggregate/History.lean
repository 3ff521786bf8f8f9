import Footprint.Proofs.Aggregate.RoundTrip
import Footprint.Proofs.Fault
import Mathlib.Data.Set.Card

/-!
# Aggregates after any insertions

An aggregate begins empty or is read from text, and is then changed by insertions alone. Its lists
only grow, by names that they lack; a pair holds what was inserted last; its size counts the pairs
with a value; and its text has a row for each task with a value, and no other.
-/
namespace Footprint.Aggregate

/-- What insertions begin with. -/
inductive Initial : Aggregate → Prop
  | new (workload : String) (indexes tasks : List String) : Initial (new workload indexes tasks)
  | read {workload : String} {bs : Bytes} {t : Aggregate} (h : ofCsv workload bs = .ok t) : Initial t

/-! ## Aggregates that have been read -/

theorem WellFormed.of_insertCells {task : String} {cells : List (String × String)}
    {t u : Aggregate} (ht : t.WellFormed) (h : insertCells task t cells = .ok u) :
    u.WellFormed := by
  induction cells generalizing t with
  | nil =>
    cases h
    exact ht
  | cons first rest ih =>
    obtain ⟨index, cell⟩ := first
    rw [insertCells] at h
    split at h
    · exact ih ht h
    · split at h
      · next value _ => exact ih (ht.insert index task value) h
      · cases h

theorem WellFormed.of_insertRecord {indexes : List String} {t u : Aggregate}
    {record : Except Csv.Error Csv.Record} (ht : t.WellFormed)
    (h : insertRecord indexes t record = .ok u) : u.WellFormed := by
  rcases record with e | ⟨_ | ⟨task, cells⟩⟩
  · cases h
  · cases h
  · rw [insertRecord] at h
    split at h
    · exact (ht.addTask task).of_insertCells h
    · cases h

theorem WellFormed.of_insertRecords {indexes : List String}
    {records : List (Except Csv.Error Csv.Record)} {t u : Aggregate} (ht : t.WellFormed)
    (h : records.foldlM (insertRecord indexes) t = .ok u) : u.WellFormed := by
  induction records generalizing t with
  | nil =>
    cases h
    exact ht
  | cons record records ih =>
    rw [List.foldlM_cons] at h
    obtain ⟨s, hs, h⟩ := bind_eq_ok_iff.mp h
    exact ih (ht.of_insertRecord hs) h

theorem Initial.wellFormed {t : Aggregate} (h : Initial t) : t.WellFormed := by
  cases h with
  | new workload indexes tasks => exact wellFormed_new workload indexes tasks
  | @read workload bs _ h =>
    rw [ofCsv] at h
    split at h
    · cases h
    · next header _ => exact (wellFormed_new workload header.tail []).of_insertRecords h

/-! ## The lists -/

/-- Names have been added at the end, each of them absent when it was added. -/
def Grown (before after : List String) : Prop :=
  ∃ added, after = before ++ added ∧
    ∀ (j : Nat) (name : String), added[j]? = some name → name ∉ before ++ added.take j

theorem Grown.refl (names : List String) : Grown names names := ⟨[], by simp, by simp⟩

theorem Grown.appendNew {before after : List String} (h : Grown before after) (x : String) :
    Grown before (appendNew x after) := by
  obtain ⟨added, rfl, habsent⟩ := h
  rw [Footprint.appendNew]
  split
  · exact ⟨added, rfl, habsent⟩
  · next hx =>
    refine ⟨added ++ [x], List.append_assoc _ _ _, fun j name hj => ?_⟩
    rcases Nat.lt_or_ge j added.length with hlt | hge
    · rw [List.getElem?_append_left hlt] at hj
      rw [List.take_append_of_le_length hlt.le]
      exact habsent j name hj
    · -- The name added now is the only one behind those added before.
      rw [List.getElem?_append_right hge, List.getElem?_singleton] at hj
      obtain ⟨hzero, hname⟩ := (Option.ite_none_right_eq_some ..).mp hj
      obtain rfl := Option.some.inj hname
      obtain rfl : j = added.length := by omega
      rwa [List.take_left]

theorem Grown.nodup {before after : List String} (h : Grown before after) (hb : before.Nodup) :
    after.Nodup := by
  obtain ⟨added, rfl, habsent⟩ := h
  rw [List.nodup_append]
  have hadded : added.Nodup := by
    rw [List.nodup_iff_getElem?_ne_getElem?]
    intro i j hij hj heq
    have hname : added[j]? = some added[j] := List.getElem?_eq_getElem hj
    refine habsent j added[j] hname (List.mem_append_right _ ?_)
    rw [List.mem_take_iff_getElem]
    rw [hname, List.getElem?_eq_getElem (hij.trans hj), Option.some.injEq] at heq
    exact ⟨i, by omega, heq⟩
  refine ⟨hb, hadded, ?_⟩
  rintro name hname _ hmem rfl
  obtain ⟨j, hj⟩ := List.mem_iff_getElem?.mp hmem
  exact habsent j name hj (List.mem_append_left _ hname)

theorem insertAll_concat (t : Aggregate) (cells : List (String × String × Float))
    (index task : String) (value : Float) :
    t.insertAll (cells ++ [(index, task, value)]) = (t.insertAll cells).insert index task value := by
  simp [insertAll]

theorem grown_insertAll (t : Aggregate) (cells : List (String × String × Float)) :
    Grown t.indexes (t.insertAll cells).indexes ∧ Grown t.tasks (t.insertAll cells).tasks := by
  induction cells using List.reverseRecOn with
  | nil => exact ⟨.refl _, .refl _⟩
  | append_singleton cells cell ih =>
    obtain ⟨index, task, value⟩ := cell
    rw [insertAll_concat]
    exact ⟨ih.1.appendNew index, ih.2.appendNew task⟩

/-! ## The values -/

/-- What the last insertion for a pair has given it. -/
def lastValue (cells : List (String × String × Float)) (index task : String) : Option Float :=
  cells.reverse.findSome? fun (i, k, value) => if index = i ∧ task = k then some value else none

theorem get?_insertAll (t : Aggregate) (cells : List (String × String × Float))
    (index task : String) :
    (t.insertAll cells).get? index task = (lastValue cells index task).or (t.get? index task) := by
  induction cells using List.reverseRecOn with
  | nil => rfl
  | append_singleton cells cell ih =>
    obtain ⟨i, k, value⟩ := cell
    rw [insertAll_concat, get?_insert, ih]
    simp only [lastValue, List.reverse_concat, List.findSome?_cons]
    by_cases h : index = i ∧ task = k
    · simp [h]
    · simp [h]

/-! ## The size -/

/-- The pairs with a value. -/
def pairs (t : Aggregate) : List (String × String) :=
  t.values.flatMap fun (index, col) => col.keys.map (index, ·)

theorem length_pairs (t : Aggregate) : t.pairs.length = t.size := by
  rw [pairs, size, List.length_flatMap, List.sum_eq_foldr]
  simp [Assoc.keys]

theorem WellFormed.column_of_mem {t : Aggregate} (h : t.WellFormed) {index : String}
    {col : Assoc String Float} (hmem : (index, col) ∈ t.values) : t.column index = col := by
  rw [column, Assoc.find?_of_mem h.nodup_keys hmem, Option.getD_some]

theorem WellFormed.mem_pairs {t : Aggregate} (h : t.WellFormed) {index task : String} :
    (index, task) ∈ t.pairs ↔ (t.get? index task).isSome = true := by
  rw [Option.isSome_iff_exists]
  constructor
  · intro hp
    obtain ⟨⟨i, col⟩, hmem, hp⟩ := List.mem_flatMap.mp hp
    obtain ⟨k, hk, heq⟩ := List.mem_map.mp hp
    cases heq
    rw [get?, h.column_of_mem hmem]
    exact Assoc.mem_keys_iff.mp hk
  · rintro ⟨v, hv⟩
    obtain ⟨col, hcol⟩ := Assoc.mem_keys_iff.mp ((h.mem_keys index).mpr (h.mem_indexes hv))
    refine List.mem_flatMap.mpr ⟨(index, col), Assoc.mem_of_find? hcol, ?_⟩
    refine List.mem_map_of_mem (Assoc.mem_keys_iff.mpr ⟨v, ?_⟩)
    rwa [get?, column, hcol] at hv

theorem WellFormed.nodup_pairs {t : Aggregate} (h : t.WellFormed) : t.pairs.Nodup := by
  rw [pairs, List.nodup_flatMap]
  constructor
  · rintro ⟨index, col⟩ hmem
    have hcol : col.keys.Nodup := h.column_of_mem hmem ▸ h.column_nodup index
    exact hcol.map fun k l hkl => (Prod.mk.inj hkl).2
  · refine (List.pairwise_map.mp h.nodup_keys).imp fun {e f} hne p hp hq => ?_
    obtain ⟨k, -, rfl⟩ := List.mem_map.mp hp
    obtain ⟨l, -, heq⟩ := List.mem_map.mp hq
    exact hne (Prod.mk.inj heq).1.symm

theorem WellFormed.encard_pairs {t : Aggregate} (h : t.WellFormed) :
    {p : String × String | (t.get? p.1 p.2).isSome = true}.encard = t.size := by
  have hset : {p : String × String | (t.get? p.1 p.2).isSome = true} = ↑t.pairs.toFinset := by
    ext ⟨index, task⟩
    simp [h.mem_pairs]
  rw [hset, Set.encard_coe_eq_coe_finsetCard, List.toFinset_card_of_nodup h.nodup_pairs,
    length_pairs]

/-! ## The text -/

theorem getElem?_record {t : Aggregate} {index task : String} {v : Float} {j : Nat}
    (hv : t.get? index task = some v) (hj : t.indexes[j]? = some index) :
    (t.record task).tail[j]? = some (cellText v) := by
  simp [record, hj, hv]

/-- A task that is written has a value in some column. -/
theorem WellFormed.exists_cell {t : Aggregate} (h : t.WellFormed) {row : List String}
    (hrow : row ∈ t.records.tail) : ∃ cell ∈ row.tail, cell ≠ "" := by
  obtain ⟨task, htask, rfl⟩ := List.mem_map.mp hrow
  obtain ⟨index, v, hv⟩ := h.mem_populatedTasks.mp htask
  obtain ⟨j, hj⟩ := List.mem_iff_getElem?.mp (h.mem_indexes hv)
  exact ⟨cellText v, List.mem_of_getElem? (getElem?_record hv hj), cellText_ne_empty v⟩

/-- A value stands in each row of its task and each column of its index, and there are such. -/
theorem WellFormed.cell_of_value {t : Aggregate} (h : t.WellFormed) {index task : String} {v : Float}
    (hv : t.get? index task = some v) :
    index ∈ t.indexes ∧ (∃ row ∈ t.records.tail, row.head? = some task) ∧
      ∀ row ∈ t.records.tail, row.head? = some task → ∀ j : Nat, t.indexes[j]? = some index →
        row.tail[j]? = some (cellText v) := by
  have htask : task ∈ t.populatedTasks := h.mem_populatedTasks.mpr ⟨index, v, hv⟩
  refine ⟨h.mem_indexes hv, ⟨t.record task, List.mem_map_of_mem htask, rfl⟩, ?_⟩
  intro row hrow hhead j hj
  obtain ⟨k, -, rfl⟩ := List.mem_map.mp hrow
  obtain rfl : k = task := Option.some.inj hhead
  exact getElem?_record hv hj

theorem WellFormed.populatedTasks_eq_nil_iff {t : Aggregate} (h : t.WellFormed) :
    t.populatedTasks = [] ↔ t.isEmpty = true := by
  rw [isEmpty, decide_eq_true_eq, ← length_pairs, List.length_eq_zero_iff,
    List.eq_nil_iff_forall_not_mem, List.eq_nil_iff_forall_not_mem]
  constructor
  · rintro hnone ⟨index, task⟩ hp
    obtain ⟨v, hv⟩ := Option.isSome_iff_exists.mp (h.mem_pairs.mp hp)
    exact hnone task (h.mem_populatedTasks.mpr ⟨index, v, hv⟩)
  · intro hnone task htask
    obtain ⟨index, v, hv⟩ := h.mem_populatedTasks.mp htask
    exact hnone (index, task) (h.mem_pairs.mpr (Option.isSome_iff_exists.mpr ⟨v, hv⟩))

theorem length_encodeRecord_pos (fs : Csv.Fields) : 0 < (Csv.encodeRecord fs).length := by
  simp [Csv.encodeRecord]

/-- The text is the header alone exactly when no record follows it. -/
theorem toCsv_eq_header_iff (t : Aggregate) :
    t.toCsv = Csv.encodeText ["" :: t.indexes] ↔ t.populatedTasks = [] := by
  rw [toCsv, records]
  constructor
  · intro h
    cases htasks : t.populatedTasks with
    | nil => rfl
    | cons task tasks =>
      rw [htasks] at h
      have hlength := congrArg List.length h
      have hpos := length_encodeRecord_pos ((t.record task).map Text.bytes)
      simp only [Csv.encodeText, Csv.encode, List.map_cons, List.flatMap_cons, List.length_append,
        List.map_nil, List.flatMap_nil, List.length_nil] at hlength
      omega
  · intro h
    rw [h, List.map_nil]

/-! ## Any run of insertions -/

/-- Whatever an aggregate began with and whatever has been inserted: its columns are those of its
indexes, with values for listed tasks only; its lists have only grown, by absent names; a pair holds
the value inserted last, or else what it held at first; its size is the number of pairs with a value.
Its text is read as a header with the indexes and one row for each task with a value, in which each
value stands in its column, and reads back as that value; it is a header alone when there is no
value. -/
theorem insertAll_history {s : Aggregate} (hs : Initial s) (cells : List (String × String × Float)) :
    let t := s.insertAll cells
    ((∀ index, index ∈ t.values.keys ↔ index ∈ t.indexes) ∧ t.values.keys.Nodup ∧
      ∀ index col, (index, col) ∈ t.values → col.keys.Nodup ∧ ∀ task ∈ col.keys, task ∈ t.tasks) ∧
    ((Grown s.indexes t.indexes ∧ Grown s.tasks t.tasks) ∧
      (s.indexes.Nodup → t.indexes.Nodup) ∧ (s.tasks.Nodup → t.tasks.Nodup)) ∧
    ((∀ index task, t.get? index task = (lastValue cells index task).or (s.get? index task)) ∧
      ∀ index task value i k, ¬(i = index ∧ k = task) →
        (t.insert index task value).get? i k = t.get? i k) ∧
    {p : String × String | (t.get? p.1 p.2).isSome = true}.encard = t.size ∧
    Csv.Document.read true t.toCsv = ⟨.ok ("" :: t.indexes), t.records.tail.map .ok⟩ ∧
    (∀ row ∈ t.records.tail, ∃ cell ∈ row.tail, cell ≠ "") ∧
    (∀ index task v, t.get? index task = some v → Number.read (cellText v) = .ok v ∧
      index ∈ t.indexes ∧ (∃ row ∈ t.records.tail, row.head? = some task) ∧
        ∀ row ∈ t.records.tail, row.head? = some task → ∀ j : Nat, t.indexes[j]? = some index →
          row.tail[j]? = some (cellText v)) ∧
    (t.toCsv = Csv.encodeText ["" :: t.indexes] ↔ t.isEmpty = true) := by
  intro t
  have ht : t.WellFormed := hs.wellFormed.insertAll cells
  obtain ⟨hindexes, htasks⟩ := grown_insertAll s cells
  have hcolumns : ∀ index col, (index, col) ∈ t.values →
      col.keys.Nodup ∧ ∀ task ∈ col.keys, task ∈ t.tasks := by
    intro index col hmem
    rw [← ht.column_of_mem hmem]
    exact ⟨ht.column_nodup index, ht.column_tasks index⟩
  refine ⟨⟨ht.mem_keys, ht.nodup_keys, hcolumns⟩,
    ⟨⟨hindexes, htasks⟩, hindexes.nodup, htasks.nodup⟩, ⟨get?_insertAll s cells, ?_⟩,
    ht.encard_pairs, ?_, fun row hrow => ht.exists_cell hrow,
    fun index task v hv => ⟨read_cellText v, ht.cell_of_value hv⟩,
    t.toCsv_eq_header_iff.trans ht.populatedTasks_eq_nil_iff⟩
  · intro index task value i k hne
    rw [get?_insert, if_neg hne]
  · rw [t.read_toCsv]
    simp [records]

theorem insertAll_history_read : ∃ s, ofCsv "mix" (Text.bytes ",a,b,a\nx,,,\n") = .ok s ∧
    (s.insertAll [("b", "y", 1.5), ("c", "x", 2), ("b", "y", 4)]).get? "b" "y" = some 4 := by
  have hread : ofCsv "mix" (Text.bytes ",a,b,a\nx,,,\n") =
      .ok ⟨"mix", ["a", "b", "a"], ["x"], [("a", []), ("b", [])]⟩ := by
    rfl
  obtain ⟨-, -, ⟨hget, -⟩, -⟩ :=
    insertAll_history (.read hread) [("b", "y", 1.5), ("c", "x", 2), ("b", "y", 4)]
  exact ⟨_, hread, hget "b" "y"⟩

end Footprint.Aggregate
