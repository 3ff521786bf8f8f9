import Footprint.Proofs.Config.Validation
import Footprint.Proofs.Number.Classes

/-!
# Why a configuration is refused, and when its panels cannot be counted

The demands on a configuration are checked in a fixed order, and the first that is not met is the
reason given. Panels are counted in machine words: a grid or a reserve beyond them is neither
accepted nor refused, but stops the check. That happens only after the lists in front of the grid
have been found to be there.
-/
namespace Footprint.Config

/-- What a configuration must have, with panels counted in numbers of any size. -/
structure Acceptable (c : Config) : Prop where
  tasks : c.tasks ≠ []
  indexes : c.indexes ≠ []
  workloads : c.workloads ≠ []
  grid : c.figure.reservedPanels.toNat + c.workloads.length ≤
    c.figure.rows.toNat * c.figure.cols.toNat
  barWidth : 0.0 < c.figure.barWidth
  colors : c.figure.colors ≠ []

/-- The demands in the order in which they are checked, each with the reason for a refusal. -/
def demands (c : Config) : List (Bool × Invalid) :=
  let f := c.figure
  let reserved := f.reservedPanels.toNat
  let workloads := c.workloads.length
  [(!c.tasks.isEmpty, .noTasks), (!c.indexes.isEmpty, .noIndexes),
    (!c.workloads.isEmpty, .noWorkloads),
    (reserved + workloads ≤ f.rows.toNat * f.cols.toNat,
      .grid reserved workloads f.rows.toNat f.cols.toNat),
    (0.0 < f.barWidth, .barWidth f.barWidth), (!f.colors.isEmpty, .noColors)]

/-- The reason that goes with the first demand that is not met. -/
def refusal? (c : Config) : Option Invalid := (c.demands.find? fun d => !d.1).map (·.2)

/-- The lists that are checked before the panels are counted. -/
def Listed (c : Config) : Prop := c.tasks ≠ [] ∧ c.indexes ≠ [] ∧ c.workloads ≠ []

def Countable (c : Config) : Prop :=
  c.figure.rows.toNat * c.figure.cols.toNat < wordLimit ∧
    c.figure.reservedPanels.toNat + c.workloads.length < wordLimit

theorem refusal?_eq_none_iff {c : Config} : c.refusal? = none ↔ c.Acceptable := by
  have hmet : c.refusal? = none ↔ ∀ d ∈ c.demands, d.1 = true := by simp [refusal?]
  simp only [hmet, demands, List.forall_mem_cons, Bool.not_eq_true', List.isEmpty_eq_false_iff,
    decide_eq_true_eq]
  constructor
  · rintro ⟨htasks, hindexes, hworkloads, hgrid, hwidth, hcolors, -⟩
    exact ⟨htasks, hindexes, hworkloads, hgrid, hwidth, hcolors⟩
  · intro h
    exact ⟨h.tasks, h.indexes, h.workloads, h.grid, h.barWidth, h.colors, by simp⟩

/-! ## The demands in their order -/

theorem forM_require (ds : List (Bool × Invalid)) :
    ds.forM (fun d => require d.1 d.2) = match (ds.find? fun d => !d.1).map (·.2) with
      | none => .ok ()
      | some reason => .error (.error reason) := by
  induction ds with
  | nil => rfl
  | cons d ds ih =>
    obtain ⟨holds, reason⟩ := d
    cases holds with
    | false => rfl
    | true => exact ih

/-- The grid stands fourth among the demands, and its check may stop at a number that is too large. -/
theorem validate_eq (c : Config) :
    c.validate = ((c.demands.take 3).forM fun d => require d.1 d.2) >>= fun _ =>
      c.checkGrid >>= fun _ => (c.demands.drop 4).forM fun d => require d.1 d.2 := by
  simp [validate, demands]

theorem listed_iff {c : Config} : c.Listed ↔ (c.demands.take 3).find? (fun d => !d.1) = none := by
  simp [Listed, demands]

theorem checkGrid_of_countable {c : Config} (h : c.Countable) :
    c.checkGrid = require
      (c.figure.reservedPanels.toNat + c.workloads.length ≤
        c.figure.rows.toNat * c.figure.cols.toNat)
      (.grid c.figure.reservedPanels.toNat c.workloads.length c.figure.rows.toNat
        c.figure.cols.toNat) := by
  rw [checkGrid]
  simp only [mulWord, addWord, if_pos h.1, if_pos h.2, bind, Except.bind]

theorem validate_of_countable {c : Config} (h : c.Countable) :
    c.validate = c.demands.forM fun d => require d.1 d.2 := by
  rw [validate, checkGrid_of_countable h]
  simp [demands]

/-- Without one of the lists the panels are not looked at. -/
theorem validate_of_not_listed {c : Config} (h : ¬c.Listed) :
    ∃ reason, c.validate = .error (.error reason) ∧ c.refusal? = some reason := by
  rw [listed_iff] at h
  obtain ⟨d, hd⟩ := Option.ne_none_iff_exists'.mp h
  refine ⟨d.2, ?_, ?_⟩
  · rw [validate_eq, forM_require, hd]
    rfl
  · rw [refusal?, ← List.take_append_drop 3 c.demands, List.find?_append, hd]
    rfl

/-! ## Panels beyond the machine words -/

theorem checkGrid_of_rows {c : Config}
    (h : wordLimit ≤ c.figure.rows.toNat * c.figure.cols.toNat) :
    c.checkGrid = .error (.fault .multiplication) := by
  rw [checkGrid]
  simp only [mulWord, if_neg (Nat.not_lt.mpr h), bind, Except.bind]

theorem checkGrid_of_reserve {c : Config}
    (hrows : c.figure.rows.toNat * c.figure.cols.toNat < wordLimit)
    (h : wordLimit ≤ c.figure.reservedPanels.toNat + c.workloads.length) :
    c.checkGrid = .error (.fault .addition) := by
  rw [checkGrid]
  simp only [mulWord, addWord, if_pos hrows, if_neg (Nat.not_lt.mpr h), bind, Except.bind]

theorem validate_of_listed {c : Config} (h : c.Listed) {f : Fault}
    (hgrid : c.checkGrid = .error (.fault f)) : c.validate = .error (.fault f) := by
  rw [validate_eq, forM_require, listed_iff.mp h, hgrid]
  rfl

theorem validate_of_not_countable {c : Config} (hlisted : c.Listed) (h : ¬c.Countable) :
    c.validate = .error (.fault
      (if c.figure.rows.toNat * c.figure.cols.toNat < wordLimit then .addition
        else .multiplication)) := by
  apply validate_of_listed hlisted
  split
  · next hrows => exact checkGrid_of_reserve hrows (Nat.le_of_not_lt fun hused => h ⟨hrows, hused⟩)
  · next hrows => exact checkGrid_of_rows (Nat.le_of_not_lt hrows)

/-! ## The outcome of the check -/

theorem validate_eq_refusal? {c : Config} (h : c.Listed → c.Countable) :
    c.validate = match c.refusal? with
      | none => .ok ()
      | some reason => .error (.error reason) := by
  by_cases hlisted : c.Listed
  · rw [validate_of_countable (h hlisted), forM_require]
    rfl
  · obtain ⟨reason, hvalidate, hreason⟩ := validate_of_not_listed hlisted
    rw [hvalidate, hreason]

/-- A configuration is accepted exactly when it is acceptable, and refused exactly when it is not, as
long as the lists in front of the grid are not all there or both numbers of panels are machine words;
the reason is then the first demand in order that is not met. In every other case it is neither: the
check stops at the product of rows and columns, or else at the sum of the reserve and the workloads.
A bar is wide enough when its width is positive, infinity included. -/
theorem validate_exact_iff (c : Config) :
    (((c.validate = .ok () ↔ c.Acceptable) ∧
        ((∃ reason, c.validate = .error (.error reason)) ↔ ¬c.Acceptable)) ↔
      (c.Listed → c.Countable)) ∧
    ((c.Listed → c.Countable) → c.validate = match c.refusal? with
      | none => .ok ()
      | some reason => .error (.error reason)) ∧
    (c.Listed → ¬c.Countable → c.validate = .error (.fault
      (if c.figure.rows.toNat * c.figure.cols.toNat < wordLimit then .addition
        else .multiplication))) ∧
    (0.0 < c.figure.barWidth ↔ Number.isNegative c.figure.barWidth = false ∧
      0 < Number.magnitude c.figure.barWidth ∧
        Number.magnitude c.figure.barWidth ≤ Number.infinityBits) := by
  refine ⟨⟨?_, ?_⟩, validate_eq_refusal?, validate_of_not_countable, Number.zero_lt_iff _⟩
  · rintro ⟨haccepted, hrefused⟩ hlisted
    by_contra hcount
    have hstop := validate_of_not_countable hlisted hcount
    by_cases h : c.Acceptable
    · rw [haccepted.mpr h] at hstop
      cases hstop
    · obtain ⟨reason, hreason⟩ := hrefused.mpr h
      rw [hreason] at hstop
      cases hstop
  · intro h
    have hvalidate := validate_eq_refusal? h
    rw [hvalidate, ← refusal?_eq_none_iff]
    cases c.refusal? <;> simp

/-- A grid of some rows and columns, with some panels reserved; all else is as by default. -/
def gridded (rows cols reserved : UInt64) : Config where
  figure := { rows := rows, cols := cols, reservedPanels := reserved }

private theorem listed_gridded (rows cols reserved : UInt64) : (gridded rows cols reserved).Listed :=
  ⟨List.cons_ne_nil _ _, List.cons_ne_nil _ _, List.cons_ne_nil _ _⟩

/-- A vast grid is acceptable, and a vast reserve is not; the check stops at both. -/
theorem validate_not_exact :
    ((gridded 8589934592 8589934592 2).Acceptable ∧
      (gridded 8589934592 8589934592 2).validate = .error (.fault .multiplication)) ∧
    (¬(gridded 2 2 18446744073709551615).Acceptable ∧
      (gridded 2 2 18446744073709551615).validate = .error (.fault .addition)) := by
  refine ⟨⟨?_, ?_⟩, ?_, ?_⟩
  · exact ⟨List.cons_ne_nil _ _, List.cons_ne_nil _ _, List.cons_ne_nil _ _, by decide,
      by decide +kernel, List.cons_ne_nil _ _⟩
  · exact validate_of_listed (listed_gridded _ _ _) (checkGrid_of_rows (by decide))
  · exact fun h => absurd h.grid (by decide)
  · exact validate_of_listed (listed_gridded _ _ _) (checkGrid_of_reserve (by decide) (by decide))

end Footprint.Config
