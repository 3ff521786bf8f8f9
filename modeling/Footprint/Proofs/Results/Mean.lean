import Footprint.Results.Mean
import Mathlib.Data.List.Induction

/-!
# The mean size of an index

The rows of an index are tallied one by one. As long as the count of sizes stays below its limit,
the mean is the sum of the sizes in row order over their number.
-/
namespace Footprint.Results

/-- The sizes of the rows that have one, in row order. -/
def sizes (rows : List Row) : List Float := rows.filterMap (·.size)

/-- The mean that rows without a limit on their number would have. -/
def Table.mean (t : Table) (index : String) : Except Miss Float :=
  let rows := t.rowsFor index
  if rows = [] then .error (.noRows index)
  else if sizes rows = [] then .error (.noSizes index rows.length)
  else .ok ((sizes rows).foldl (· + ·) 0.0 / (sizes rows).length.toFloat)

theorem length_sizes_le (rows : List Row) : (sizes rows).length ≤ rows.length :=
  List.length_filterMap_le _ rows

theorem tally_concat (rows : List Row) (r : Row) :
    tally (rows ++ [r]) = (tally rows >>= fun t => t.add r) := by
  simp [tally]

/-- The counters and the sum after all rows; the count of sizes only grows. -/
theorem tally_eq (rows : List Row) (h : (sizes rows).length < sizedLimit) :
    tally rows = .ok ⟨rows.length, (sizes rows).length, (sizes rows).foldl (· + ·) 0.0⟩ := by
  induction rows using List.reverseRecOn with
  | nil => rfl
  | append_singleton rows r ih =>
    have hsizes : sizes (rows ++ [r]) = sizes rows ++ r.size.toList := by
      cases hr : r.size <;> simp [sizes, hr]
    rw [hsizes] at h ⊢
    have hrows : (sizes rows).length < sizedLimit := by
      rw [List.length_append] at h
      omega
    rw [tally_concat, ih hrows]
    cases hr : r.size with
    | none => simp [Tally.add, hr, bind, Except.bind]
    | some size =>
      have hlimit : (sizes rows).length + 1 < sizedLimit := by simpa [hr] using h
      simp [Tally.add, hr, hlimit, bind, Except.bind]

/-- Counting stops at faults only. -/
theorem tally_ne_error (rows : List Row) (miss : Miss) : tally rows ≠ .error (.error miss) := by
  induction rows using List.reverseRecOn with
  | nil => nofun
  | append_singleton rows r ih =>
    rw [tally_concat]
    cases hrows : tally rows with
    | error e => simpa [bind, Except.bind, hrows] using ih
    | ok t =>
      cases hr : r.size with
      | none => simp [Tally.add, hr, bind, Except.bind]
      | some size =>
        simp only [Tally.add, hr, bind, Except.bind]
        split <;> simp

/-- A tally that does not stop has counted fewer sizes than the limit. -/
theorem length_sizes_of_tally {rows : List Row} {t : Tally} (h : tally rows = .ok t) :
    (sizes rows).length < sizedLimit := by
  induction rows using List.reverseRecOn generalizing t with
  | nil => decide
  | append_singleton rows r ih =>
    rw [tally_concat] at h
    cases hrows : tally rows with
    | error e => simp [hrows, bind, Except.bind] at h
    | ok s =>
      have hlimit := ih hrows
      rw [tally_eq rows hlimit] at h
      cases hr : r.size with
      | none => simpa [sizes, hr] using hlimit
      | some size =>
        by_contra hlarge
        have hfull : ¬(sizes rows).length + 1 < sizedLimit := by simpa [sizes, hr] using hlarge
        simp [Tally.add, hr, hfull, bind, Except.bind] at h

theorem Table.length_rowsFor_le (t : Table) (index : String) :
    (t.rowsFor index).length ≤ t.rows.length :=
  List.length_filter_le _ _

/-- The index has fewer sizes than the limit on their count. -/
def Table.Countable (t : Table) (index : String) : Prop :=
  (sizes (t.rowsFor index)).length < sizedLimit

theorem Table.countable_of_rows {t : Table} (h : t.rows.length < sizedLimit) (index : String) :
    t.Countable index :=
  Nat.lt_of_le_of_lt (length_sizes_le _) (Nat.lt_of_le_of_lt (t.length_rowsFor_le index) h)

theorem Table.Countable.meanSize_eq {t : Table} {index : String} (h : t.Countable index) :
    t.meanSize index = (t.mean index).mapError .error := by
  rw [Table.meanSize, tally_eq _ h]
  simp only [Tally.mean, Table.mean, bind, Except.bind, List.length_eq_zero_iff]
  split
  · rfl
  · split <;> rfl

/-- Averaging an index stops at a fault exactly when it has too many sizes. -/
theorem Table.countable_iff {t : Table} {index : String} :
    t.Countable index ↔ ∀ f, t.meanSize index ≠ .error (.fault f) := by
  constructor
  · intro h f
    rw [h.meanSize_eq]
    cases t.mean index <;> simp [Except.mapError]
  · intro h
    cases htally : tally (t.rowsFor index) with
    | ok _ => exact length_sizes_of_tally htally
    | error e =>
      have hmean : t.meanSize index = .error e := by
        simp [Table.meanSize, htally, bind, Except.bind]
      cases e with
      | fault f => exact absurd hmean (h f)
      | error miss => exact absurd htally (tally_ne_error _ miss)

/-- A table with fewer rows than the limit never stops at a fault. -/
theorem Table.meanSize_eq {t : Table} (h : t.rows.length < sizedLimit) (index : String) :
    t.meanSize index = (t.mean index).mapError .error :=
  (countable_of_rows h index).meanSize_eq

theorem Table.meanSize_eq_ok_iff {t : Table} (h : t.rows.length < sizedLimit) {index : String}
    {m : Float} : t.meanSize index = .ok m ↔ t.mean index = .ok m := by
  rw [t.meanSize_eq h]
  cases t.mean index <;> simp [Except.mapError]

/-! ## The three outcomes -/

theorem sizes_eq_nil_iff {rows : List Row} : sizes rows = [] ↔ ∀ r ∈ rows, r.size = none :=
  List.filterMap_eq_nil_iff

theorem sizes_ne_nil_iff {rows : List Row} : sizes rows ≠ [] ↔ ∃ r ∈ rows, r.size.isSome = true := by
  simp [sizes_eq_nil_iff, Option.isSome_iff_ne_none]

theorem length_sizes (rows : List Row) : (sizes rows).length = rows.countP (·.size.isSome) :=
  List.length_filterMap_eq_countP

/-- The sizes are those of the rows that have one. -/
theorem sizes_filter (rows : List Row) : sizes (rows.filter (·.size.isSome)) = sizes rows := by
  rw [sizes, List.filterMap_filter]
  have hsize : ∀ r : Row, (if r.size.isSome = true then r.size else none) = r.size := by
    intro r
    cases r.size <;> rfl
  simp only [hsize, sizes]

theorem Table.mean_eq_ok {t : Table} {index : String} {m : Float} (h : t.mean index = .ok m) :
    ∃ r ∈ t.rowsFor index, r.size.isSome = true := by
  simp only [Table.mean] at h
  split_ifs at h with hrows hsizes
  exact sizes_ne_nil_iff.mp hsizes

theorem Table.mean_eq_error {t : Table} {index : String} {miss : Miss}
    (h : t.mean index = .error miss) : ∀ r ∈ t.rowsFor index, r.size = none := by
  simp only [Table.mean] at h
  split_ifs at h with hrows hsizes
  · simp [hrows]
  · exact sizes_eq_nil_iff.mp hsizes

section Outcomes

variable {t u : Table} {index : String}

theorem Table.meanSize_of_no_rows (h : t.rows.length < sizedLimit) (hrows : t.rowsFor index = []) :
    t.meanSize index = .error (.error (.noRows index)) := by
  rw [t.meanSize_eq h, Table.mean, if_pos hrows]
  rfl

theorem Table.meanSize_of_no_sizes (h : t.rows.length < sizedLimit) (hrows : t.rowsFor index ≠ [])
    (hsizes : sizes (t.rowsFor index) = []) :
    t.meanSize index = .error (.error (.noSizes index (t.rowsFor index).length)) := by
  rw [t.meanSize_eq h, Table.mean, if_neg hrows, if_pos hsizes]
  rfl

theorem Table.meanSize_of_sizes (h : t.rows.length < sizedLimit)
    (hsizes : sizes (t.rowsFor index) ≠ []) :
    t.meanSize index = .ok ((sizes (t.rowsFor index)).foldl (· + ·) 0.0 /
      (sizes (t.rowsFor index)).length.toFloat) := by
  have hrows : t.rowsFor index ≠ [] := by
    intro hnil
    rw [hnil] at hsizes
    exact hsizes rfl
  rw [t.meanSize_eq h, Table.mean, if_neg hrows, if_neg hsizes]
  rfl

/-- With a size at all, only the sizes count. -/
theorem Table.meanSize_congr (h : t.rows.length < sizedLimit) (hu : u.rows.length < sizedLimit)
    (hsizes : sizes (t.rowsFor index) ≠ [])
    (hsame : sizes (u.rowsFor index) = sizes (t.rowsFor index)) :
    u.meanSize index = t.meanSize index := by
  rw [t.meanSize_of_sizes h hsizes, u.meanSize_of_sizes hu (hsame ▸ hsizes), hsame]

/-- Rows, sizes and both: each decides one of the three outcomes. -/
theorem Table.meanSize_outcomes (h : t.rows.length < sizedLimit) (index : String) :
    (t.meanSize index = .error (.error (.noRows index)) ↔ t.rowsFor index = []) ∧
    (∀ n, t.meanSize index = .error (.error (.noSizes index n)) ↔
      t.rowsFor index ≠ [] ∧ sizes (t.rowsFor index) = [] ∧ n = (t.rowsFor index).length) ∧
    ∀ m, t.meanSize index = .ok m ↔ sizes (t.rowsFor index) ≠ [] ∧
      m = (sizes (t.rowsFor index)).foldl (· + ·) 0.0 /
        (sizes (t.rowsFor index)).length.toFloat := by
  by_cases hrows : t.rowsFor index = []
  · simp [t.meanSize_of_no_rows h hrows, hrows, sizes]
  · by_cases hsizes : sizes (t.rowsFor index) = []
    · simp [t.meanSize_of_no_sizes h hrows hsizes, hrows, hsizes, eq_comm]
    · simp [t.meanSize_of_sizes h hsizes, hrows, hsizes, eq_comm]

end Outcomes

/-- The mean of an index in a table below the limit. It is missing when the index has no rows, or
when none of its rows has a size, and their number is reported then; otherwise it is the sum of the
sizes, one by one in row order from zero, over the number of rows with a size. Hence only the rows
of the index count, and beside a row with a size only those with a size. -/
theorem Table.meanSize_spec {t : Table} (h : t.rows.length < sizedLimit) (index : String) :
    let own := t.rows.filter (·.name = index)
    (t.meanSize index = .error (.error (.noRows index)) ↔ own = []) ∧
    (∀ n, t.meanSize index = .error (.error (.noSizes index n)) ↔
      own ≠ [] ∧ (∀ r ∈ own, r.size = none) ∧ n = own.length) ∧
    (∀ m, t.meanSize index = .ok m ↔ (∃ r ∈ own, r.size.isSome = true) ∧
      m = (own.filterMap (·.size)).foldl (· + ·) 0.0 / (own.countP (·.size.isSome)).toFloat) ∧
    ∀ u : Table, u.rows.length < sizedLimit →
      (u.rows.filter (·.name = index) = own → u.meanSize index = t.meanSize index) ∧
      ((∃ r ∈ own, r.size.isSome = true) →
        (u.rows.filter (·.name = index)).filter (·.size.isSome) = own.filter (·.size.isSome) →
          u.meanSize index = t.meanSize index) := by
  intro own
  obtain ⟨hrows, hmiss, hmean⟩ := t.meanSize_outcomes h index
  have hnone : sizes own = [] ↔ ∀ r ∈ own, r.size = none := sizes_eq_nil_iff
  have hsome : sizes own ≠ [] ↔ ∃ r ∈ own, r.size.isSome = true := sizes_ne_nil_iff
  refine ⟨hrows, fun n => ?_, fun m => ?_, fun u hu => ⟨fun hsame => ?_, fun hsized hsame => ?_⟩⟩
  · rw [← hnone]
    exact hmiss n
  · rw [← hsome, ← length_sizes]
    exact hmean m
  · have hown : u.rowsFor index = t.rowsFor index := hsame
    rw [t.meanSize_eq h, u.meanSize_eq hu, Table.mean, Table.mean, hown]
  · refine Table.meanSize_congr h hu (hsome.mpr hsized) ?_
    rw [← sizes_filter (u.rowsFor index), ← sizes_filter (t.rowsFor index)]
    exact congrArg sizes hsame

theorem Table.meanSize_spec_mixed :
    let t : Table := ⟨"mix.csv",
      [⟨"BTree", some 1000⟩, ⟨"LIPP", none⟩, ⟨"BTree", none⟩, ⟨"BTree", some 2000⟩]⟩
    t.rows.length < sizedLimit ∧ t.meanSize "BTree" = .ok 1500 ∧
      t.meanSize "LIPP" = .error (.error (.noSizes "LIPP" 1)) ∧
      t.meanSize "ART" = .error (.error (.noRows "ART")) ∧
      (⟨"more.csv", ⟨"BTree", none⟩ :: t.rows⟩ : Table).meanSize "BTree" = .ok 1500 := by
  intro t
  have h : t.rows.length < sizedLimit := by decide
  have hsome : ∃ r ∈ t.rows.filter (·.name = "BTree"), r.size.isSome = true :=
    ⟨⟨"BTree", some 1000⟩, by simp [t], rfl⟩
  have hmean : t.meanSize "BTree" = .ok 1500 :=
    ((Table.meanSize_spec h "BTree").2.2.1 1500).mpr ⟨hsome, by decide +kernel⟩
  refine ⟨h, hmean, ?_, ?_, ?_⟩
  · exact ((Table.meanSize_spec h "LIPP").2.1 1).mpr ⟨by simp [t], by simp [t], rfl⟩
  · exact (Table.meanSize_spec h "ART").1.mpr (by simp [t])
  · rw [← hmean]
    exact ((Table.meanSize_spec h "BTree").2.2.2 _ (by decide)).2 hsome (by simp [t])

end Footprint.Results
