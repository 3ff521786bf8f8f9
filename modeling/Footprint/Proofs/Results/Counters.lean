import Footprint.Proofs.Results.Mean
import Mathlib.Tactic.NormNum

/-!
# The counters of the averaging loop

Rows are counted in a word of 64 bits and sizes in a signed one of 32. A table has fewer rows than
the longer word can count, so only the count of sizes can end the loop: the loop stops at the size
number `2 ^ 31` of an index, whatever follows it.
-/
namespace Footprint.Results

/-! ## The count of rows -/

/-- One more row, when the count of rows is kept in a word as well. -/
def Tally.addInWord (t : Tally) (r : Row) : Except (Stop Miss) Tally := do
  let rows ← addWord t.rows 1
  match r.size with
  | none => .ok { t with rows := rows }
  | some size =>
    if t.sized + 1 < sizedLimit then .ok ⟨rows, t.sized + 1, t.sum + size⟩
    else .error (.fault .addition)

/-- The mean of an index, with both counts in words. -/
def Table.meanSizeInWords (t : Table) (index : String) : Except (Stop Miss) Float := do
  (← (t.rowsFor index).foldlM Tally.addInWord ⟨0, 0, 0.0⟩).mean index

theorem Tally.addInWord_eq {t : Tally} (h : t.rows + 1 < wordLimit) (r : Row) :
    t.addInWord r = t.add r := by
  have hrows : (addWord t.rows 1 : Except (Stop Miss) ℕ) = .ok (t.rows + 1) := if_pos h
  rw [addInWord, hrows]
  rfl

theorem rows_of_tally {rows : List Row} {t : Tally} (h : tally rows = .ok t) :
    t.rows = rows.length := by
  rw [tally_eq rows (length_sizes_of_tally h)] at h
  cases h
  rfl

/-- The count of rows is at most the length of the table, so it fits its word. -/
theorem foldlM_addInWord {rows : List Row} (h : rows.length < wordLimit) :
    rows.foldlM Tally.addInWord ⟨0, 0, 0.0⟩ = tally rows := by
  induction rows using List.reverseRecOn with
  | nil => rfl
  | append_singleton rows r ih =>
    rw [List.length_append, List.length_singleton] at h
    simp only [List.foldlM_append, List.foldlM_cons, List.foldlM_nil, bind_pure]
    rw [ih (by omega), tally_concat]
    cases htally : tally rows with
    | error e => rfl
    | ok t => exact Tally.addInWord_eq (by rwa [rows_of_tally htally]) r

theorem Table.meanSizeInWords_eq {t : Table} (h : t.rows.length < wordLimit) (index : String) :
    t.meanSizeInWords index = t.meanSize index := by
  have hown : (t.rowsFor index).length < wordLimit :=
    Nat.lt_of_le_of_lt (t.length_rowsFor_le index) h
  rw [meanSizeInWords, meanSize, foldlM_addInWord hown]

/-! ## The count of sizes -/

/-- A list with more than `k` items of a kind, cut at the item after the first `k` of them. -/
theorem exists_split_of_lt_countP {α : Type} {p : α → Bool} {l : List α} {k : ℕ}
    (h : k < l.countP p) :
    ∃ before x after, l = before ++ x :: after ∧ before.countP p = k ∧ p x = true := by
  induction l generalizing k with
  | nil => simp at h
  | cons x l ih =>
    by_cases hx : p x = true
    · cases k with
      | zero => exact ⟨[], x, l, rfl, rfl, hx⟩
      | succ k =>
        rw [List.countP_cons_of_pos hx] at h
        obtain ⟨before, y, after, rfl, hcount, hy⟩ := ih (Nat.lt_of_succ_lt_succ h)
        exact ⟨x :: before, y, after, rfl, by rw [List.countP_cons_of_pos hx, hcount], hy⟩
    · rw [List.countP_cons_of_neg hx] at h
      obtain ⟨before, y, after, rfl, hcount, hy⟩ := ih h
      exact ⟨x :: before, y, after, rfl, by rw [List.countP_cons_of_neg hx, hcount], hy⟩

/-- Adding the rows from `before` on to `r` stops at `r`, which is one size too many. -/
structure StopsAt (before : List Row) (r : Row) : Prop where
  sized : r.size.isSome = true
  counted : ∃ s : Tally, tally before = .ok s ∧ s.rows = before.length ∧
    s.sized + 1 = sizedLimit ∧ s.add r = .error (.fault .addition)

theorem StopsAt.tally_eq {before : List Row} {r : Row} (h : StopsAt before r) (after : List Row) :
    tally (before ++ r :: after) = .error (.fault .addition) := by
  obtain ⟨-, s, hbefore, -, -, hstop⟩ := h
  have hsplit : tally (before ++ r :: after) =
      (tally before >>= fun t => (r :: after).foldlM Tally.add t) := List.foldlM_append
  rw [hsplit, hbefore]
  change (s.add r >>= fun t => after.foldlM Tally.add t) = _
  rw [hstop]
  rfl

theorem exists_stopsAt {rows : List Row} (h : sizedLimit ≤ rows.countP (·.size.isSome)) :
    ∃ before r after, rows = before ++ r :: after ∧ StopsAt before r := by
  have hpos : 0 < sizedLimit := by decide
  have hlast : sizedLimit - 1 < rows.countP (·.size.isSome) := by omega
  obtain ⟨before, r, after, rfl, hcount, hr⟩ := exists_split_of_lt_countP hlast
  rw [← length_sizes] at hcount
  obtain ⟨size, hsize⟩ := Option.isSome_iff_exists.mp hr
  have hfull : ¬(sizes before).length + 1 < sizedLimit := by omega
  refine ⟨before, r, after, rfl, hr, _, tally_eq before (by omega), rfl, ?_, ?_⟩
  · change (sizes before).length + 1 = sizedLimit
    omega
  · simp only [Tally.add, hsize, if_neg hfull]

theorem Table.meanSize_of_full {t : Table} {index : String}
    (h : sizedLimit ≤ (t.rowsFor index).countP (·.size.isSome)) :
    t.meanSize index = .error (.fault .addition) := by
  obtain ⟨before, r, after, hrows, hstop⟩ := exists_stopsAt h
  rw [meanSize, hrows, hstop.tally_eq after]
  rfl

/-! ## Where averaging stops -/

/-- A table with no more rows than a word of 64 bits can count. Counting its rows in such a word
makes no difference. Averaging an index gives a mean, or says why there is none, exactly when the
index has fewer than `2 ^ 31` sizes. With more, the loop stops with an overflow at the size of that
number, all rows before it having been counted. -/
theorem Table.meanSize_ends_iff {t : Table} (h : t.rows.length < wordLimit) (index : String) :
    t.meanSizeInWords index = t.meanSize index ∧
    ((∃ m, t.meanSize index = .ok m) ∨ (∃ miss, t.meanSize index = .error (.error miss)) ↔
      (t.rowsFor index).countP (·.size.isSome) < 2 ^ 31) ∧
    (2 ^ 31 ≤ (t.rowsFor index).countP (·.size.isSome) →
      t.meanSize index = .error (.fault .addition) ∧
      ∃ before r after, t.rowsFor index = before ++ r :: after ∧ StopsAt before r) := by
  have hlimit : sizedLimit = 2 ^ 31 := rfl
  refine ⟨meanSizeInWords_eq h index, ⟨fun hends => ?_, fun hlt => ?_⟩, fun hfull => ?_⟩
  · refine Nat.not_le.mp fun hfull => ?_
    rw [meanSize_of_full (hlimit ▸ hfull)] at hends
    rcases hends with ⟨m, hm⟩ | ⟨miss, hmiss⟩
    · cases hm
    · cases hmiss
  · have hcountable : t.Countable index := by
      rw [Table.Countable, length_sizes]
      exact hlt
    rw [hcountable.meanSize_eq]
    cases t.mean index with
    | ok m => exact .inl ⟨m, rfl⟩
    | error miss => exact .inr ⟨miss, rfl⟩
  · exact ⟨meanSize_of_full (hlimit ▸ hfull), exists_stopsAt (hlimit ▸ hfull)⟩

theorem Table.meanSize_ends_iff_three :
    let t : Table := ⟨"mix.csv", [⟨"BTree", some 1000⟩, ⟨"LIPP", some 1⟩, ⟨"BTree", none⟩]⟩
    t.rows.length < wordLimit ∧ t.meanSizeInWords "BTree" = t.meanSize "BTree" ∧
      ((∃ m, t.meanSize "BTree" = .ok m) ∨ ∃ miss, t.meanSize "BTree" = .error (.error miss)) := by
  intro t
  have h : t.rows.length < wordLimit := by decide
  obtain ⟨hwords, hends, -⟩ := Table.meanSize_ends_iff h "BTree"
  exact ⟨h, hwords, hends.mpr (by decide)⟩

theorem Table.meanSize_replicate {n : ℕ} (h : sizedLimit ≤ n) (path index : String) (size : Float) :
    (⟨path, List.replicate n ⟨index, some size⟩⟩ : Table).meanSize index =
      .error (.fault .addition) := by
  refine meanSize_of_full ?_
  have hown : (⟨path, List.replicate n ⟨index, some size⟩⟩ : Table).rowsFor index =
      List.replicate n ⟨index, some size⟩ := List.filter_replicate_of_pos (by simp)
  rw [hown, List.countP_replicate]
  exact h

/-- With `2 ^ 31` sizes of one index their count overflows, though the rows can be counted. -/
theorem Table.meanSize_overflow :
    let t : Table := ⟨"mix.csv", List.replicate (2 ^ 31) ⟨"BTree", some 1⟩⟩
    t.rows.length < wordLimit ∧ t.meanSize "BTree" = .error (.fault .addition) ∧
      Fault.addition.message = "attempt to add with overflow" := by
  intro t
  refine ⟨?_, Table.meanSize_replicate (Nat.le_refl _) "mix.csv" "BTree" 1, rfl⟩
  rw [List.length_replicate]
  decide

end Footprint.Results
