import Footprint.Figure.Layout
import Footprint.Proofs.Config.Validation

/-!
# When a figure can be laid out

The configuration compares the panels in use with the grid once, and the layout looks up one slot per
workload. Both agree whenever there is a workload at all. What the configuration does not compare is
the grid with the memory: no list holds the slots of a grid that is too large.
-/
namespace Footprint

theorem replicateWithin_of_lt {ε α : Type} {size count : Nat} (h : size * count < spaceLimit)
    (x : α) : replicateWithin size count x = (.ok (List.replicate count x) : Except (Stop ε) _) :=
  if_pos h

theorem replicateWithin_of_ge {ε α : Type} {size count : Nat} (h : spaceLimit ≤ size * count)
    (x : α) : replicateWithin size count x = (.error (.fault .capacity) : Except (Stop ε) _) :=
  if_neg (Nat.not_lt.mpr h)

/-- Where there are colors, every task has one of them. -/
theorem Config.exists_taskColor {ε : Type} {c : Config} (hcolors : c.figure.colors ≠ []) (pos : Nat) :
    ∃ color, c.taskColor pos = (.ok color : Except (Stop ε) String) ∧
      c.figure.colors[pos % c.figure.colors.length]? = some color := by
  have hpos : 0 < c.figure.colors.length := List.length_pos_iff.mpr hcolors
  have hcolor := List.getElem?_eq_getElem (Nat.mod_lt pos hpos)
  refine ⟨_, ?_, hcolor⟩
  simp only [taskColor, remWord, if_neg (Nat.ne_of_gt hpos), bind, Except.bind]
  rw [hcolor]
  rfl

namespace Figure

/-- The slots of the grid. -/
def slots (c : Config) : Nat := c.figure.rows.toNat * c.figure.cols.toNat

/-- The slots that are reserved, and one for each workload. -/
def used (c : Config) : Nat := c.figure.reservedPanels.toNat + c.workloads.length

/-! ## Panels -/

theorem exists_allSeries {c : Config} (hcolors : c.figure.colors ≠ []) (t : Aggregate) (pos : Nat)
    (tasks : List String) : ∃ series, allSeries c t pos tasks = .ok series := by
  induction tasks generalizing pos with
  | nil => exact ⟨[], rfl⟩
  | cons task tasks ih =>
    obtain ⟨color, hcolor, -⟩ := Config.exists_taskColor (ε := LayoutError) hcolors pos
    obtain ⟨series, hseries⟩ := ih (pos + 1)
    simp only [allSeries, seriesOf, hcolor, hseries, bind, Except.bind]
    exact ⟨_, rfl⟩

theorem exists_panelOf {c : Config} (hcolors : c.figure.colors ≠ []) (title : String)
    (t : Aggregate) : ∃ panel, panelOf c title t = .ok panel := by
  obtain ⟨series, hseries⟩ := exists_allSeries hcolors t 0 c.tasks
  simp only [panelOf, hseries, bind, Except.bind]
  exact ⟨_, rfl⟩

/-! ## Slots -/

/-- One workload more is put into its slot, if the grid has that slot. -/
theorem fill_cons {c : Config} (hcolors : c.figure.colors ≠ []) (panels : List (Option Panel))
    {i : Nat} (hword : c.figure.reservedPanels.toNat + i < wordLimit) (w : Workload)
    (t : Aggregate) (rest : List (Workload × Aggregate)) :
    (c.figure.reservedPanels.toNat + i < panels.length → ∃ panel, fill c panels i ((w, t) :: rest) =
      fill c (panels.set (c.figure.reservedPanels.toNat + i) (some panel)) (i + 1) rest) ∧
    (panels.length ≤ c.figure.reservedPanels.toNat + i →
      fill c panels i ((w, t) :: rest) = .error (.error .outsideGrid)) := by
  have hslot : addWord c.figure.reservedPanels.toNat i =
      (.ok (c.figure.reservedPanels.toNat + i) : Except (Stop LayoutError) Nat) :=
    addWord_eq_ok_iff.mpr ⟨hword, rfl⟩
  constructor
  · intro hlt
    obtain ⟨panel, hpanel⟩ := exists_panelOf hcolors w.title t
    refine ⟨panel, ?_⟩
    simp only [fill, hslot, bind, Except.bind, if_pos hlt, hpanel]
  · intro hge
    simp only [fill, hslot, bind, Except.bind, if_neg (Nat.not_lt.mpr hge)]

theorem fill_of_fits {c : Config} (hcolors : c.figure.colors ≠ [])
    (pairs : List (Workload × Aggregate)) (panels : List (Option Panel)) {i : Nat}
    (hword : panels.length < wordLimit)
    (hfits : c.figure.reservedPanels.toNat + i + pairs.length ≤ panels.length) :
    ∃ filled, fill c panels i pairs = .ok filled := by
  induction pairs generalizing panels i with
  | nil => exact ⟨panels, rfl⟩
  | cons pair rest ih =>
    obtain ⟨w, t⟩ := pair
    rw [List.length_cons] at hfits
    have hlt : c.figure.reservedPanels.toNat + i < panels.length := by omega
    obtain ⟨panel, hstep⟩ := (fill_cons hcolors panels (Nat.lt_trans hlt hword) w t rest).1 hlt
    rw [hstep]
    apply ih
    · rwa [List.length_set]
    · rw [List.length_set]
      omega

/-- The workloads that do fit are laid out, and the first one that does not ends the layout. -/
theorem fill_of_not_fits {c : Config} (hcolors : c.figure.colors ≠ [])
    {pairs : List (Workload × Aggregate)} (panels : List (Option Panel)) {i : Nat}
    (hword : c.figure.reservedPanels.toNat + i + pairs.length < wordLimit) (hpairs : pairs ≠ [])
    (hfits : panels.length < c.figure.reservedPanels.toNat + i + pairs.length) :
    fill c panels i pairs = .error (.error .outsideGrid) := by
  induction pairs generalizing panels i with
  | nil => exact absurd rfl hpairs
  | cons pair rest ih =>
    obtain ⟨w, t⟩ := pair
    rw [List.length_cons] at hword hfits
    obtain ⟨hinside, houtside⟩ := fill_cons hcolors panels (i := i) (by omega) w t rest
    rcases Nat.lt_or_ge (c.figure.reservedPanels.toNat + i) panels.length with hlt | hge
    · obtain ⟨panel, hstep⟩ := hinside hlt
      rw [hstep]
      apply ih
      · omega
      · rintro rfl
        rw [List.length_nil] at hfits
        omega
      · rw [List.length_set]
        omega
    · exact houtside hge

/-! ## The figure -/

/-- As many aggregates as workloads: first the grid is made, then the panels are put into it. -/
theorem build_eq {c : Config} {ts : List Aggregate} (hlength : ts.length = c.workloads.length)
    (hslots : slots c < wordLimit) :
    build c ts = (do
      let grid ← replicateWithin slotSize (slots c) none
      let panels ← fill c grid 0 (c.workloads.zip ts)
      return ⟨c.figure.width, c.figure.height, c.figure.dpi, c.figure.rows, c.figure.cols,
        c.figure.title, c.figure.titleSize, ⟨0.0, 0.0, 1.0, 0.95⟩, panels⟩) := by
  have hcount : mulWord c.figure.rows.toNat c.figure.cols.toNat =
      (.ok (slots c) : Except (Stop LayoutError) Nat) := mulWord_eq_ok_iff.mpr ⟨hslots, rfl⟩
  simp only [build, ne_eq, hlength, not_true_eq_false, if_false, hcount]
  rfl

section Build

variable {c : Config} {ts : List Aggregate}

theorem build_of_ge (hlength : ts.length = c.workloads.length) (hslots : slots c < wordLimit)
    (hspace : spaceLimit ≤ slotSize * slots c) : build c ts = .error (.fault .capacity) := by
  rw [build_eq hlength hslots, replicateWithin_of_ge hspace]
  rfl

theorem build_of_fits (hlength : ts.length = c.workloads.length) (hslots : slots c < wordLimit)
    (hspace : slotSize * slots c < spaceLimit) (hcolors : c.figure.colors ≠ [])
    (hfits : used c ≤ slots c) : ∃ f, build c ts = .ok f := by
  have hpairs : (c.workloads.zip ts).length = c.workloads.length := by simp [hlength]
  obtain ⟨panels, hpanels⟩ := fill_of_fits hcolors (c.workloads.zip ts)
    (List.replicate (slots c) none) (i := 0) (by rwa [List.length_replicate])
    (by rw [List.length_replicate, hpairs]; exact hfits)
  rw [build_eq hlength hslots, replicateWithin_of_lt hspace]
  simp only [bind, Except.bind, hpanels]
  exact ⟨_, rfl⟩

theorem build_of_not_fits (hlength : ts.length = c.workloads.length) (hslots : slots c < wordLimit)
    (hspace : slotSize * slots c < spaceLimit) (hcolors : c.figure.colors ≠ [])
    (hworkloads : c.workloads ≠ []) (hused : used c < wordLimit) (hfits : slots c < used c) :
    build c ts = .error (.error .outsideGrid) := by
  have hpairs : (c.workloads.zip ts).length = c.workloads.length := by simp [hlength]
  have hne : c.workloads.zip ts ≠ [] := by
    rw [← List.length_pos_iff, hpairs]
    exact List.length_pos_iff.mpr hworkloads
  have hfill := fill_of_not_fits hcolors (List.replicate (slots c) none) (i := 0)
    (by rw [hpairs]; exact hused) hne (by rw [List.length_replicate, hpairs]; exact hfits)
  rw [build_eq hlength hslots, replicateWithin_of_lt hspace]
  simp only [bind, Except.bind, hfill]

end Build

/-- With one aggregate per workload. A configuration that is accepted has its figure laid out exactly
when the grid can be made at all, and otherwise the layout stops at the grid's size; neither the count
of slots nor the place of a workload's panel leaves the machine words, each panel has its slot, and
each task a color. Accepted or not, as long as both counts are machine words and there are a workload
and a color: a figure whose grid can be made is laid out exactly when the reserved panels and the
workloads fit the grid. -/
theorem build_eq_ok_iff (c : Config) (ts : List Aggregate)
    (hlength : ts.length = c.workloads.length) :
    (c.validate = .ok () →
      ((∃ f, build c ts = .ok f) ↔ slotSize * slots c < spaceLimit) ∧
      (spaceLimit ≤ slotSize * slots c → build c ts = .error (.fault .capacity)) ∧
      slots c < wordLimit ∧
      (∀ i < c.workloads.length, c.figure.reservedPanels.toNat + i < wordLimit ∧
        c.figure.reservedPanels.toNat + i < slots c) ∧
      ∀ pos, ∃ color, c.taskColor pos = (.ok color : Except (Stop LayoutError) String) ∧
        c.figure.colors[pos % c.figure.colors.length]? = some color) ∧
    (c.workloads ≠ [] → c.figure.colors ≠ [] → slots c < wordLimit → used c < wordLimit →
      ((∃ f, build c ts = .ok f) ↔ slotSize * slots c < spaceLimit ∧ used c ≤ slots c) ∧
      (slotSize * slots c < spaceLimit → slots c < used c →
        build c ts = .error (.error .outsideGrid))) := by
  constructor
  · intro hvalidate
    obtain ⟨-, -, -, ⟨hslots, hused, hfits⟩, -, hcolors⟩ := Config.validate_eq_ok_iff.mp hvalidate
    refine ⟨⟨?_, fun hspace => build_of_fits hlength hslots hspace hcolors hfits⟩,
      build_of_ge hlength hslots, hslots, fun i hi => ?_, Config.exists_taskColor hcolors⟩
    · rintro ⟨f, hf⟩
      by_contra hspace
      rw [build_of_ge hlength hslots (Nat.le_of_not_lt hspace)] at hf
      cases hf
    · have hslot : c.figure.reservedPanels.toNat + i < slots c := by
        rw [slots]
        omega
      exact ⟨Nat.lt_trans hslot hslots, hslot⟩
  · intro hworkloads hcolors hslots hused
    refine ⟨⟨?_, fun h => build_of_fits hlength hslots h.1 hcolors h.2⟩, fun hspace hfits =>
      build_of_not_fits hlength hslots hspace hcolors hworkloads hused hfits⟩
    rintro ⟨f, hf⟩
    by_contra hnot
    rw [not_and_or, Nat.not_lt, Nat.not_le] at hnot
    by_cases hspace : slotSize * slots c < spaceLimit
    · have hfits := hnot.resolve_left (Nat.not_le.mpr hspace)
      rw [build_of_not_fits hlength hslots hspace hcolors hworkloads hused hfits] at hf
      cases hf
    · rw [build_of_ge hlength hslots (Nat.le_of_not_lt hspace)] at hf
      cases hf

/-- A grid of some rows and columns for two workloads. -/
private def gridOf (rows cols : UInt64) : Config where
  figure := { rows := rows, cols := cols, reservedPanels := 0 }

private theorem validate_gridOf {rows cols : UInt64} (h : (gridOf rows cols).Fits) :
    (gridOf rows cols).validate = .ok () := by
  have hwidth : (0.0 : Float) < 0.2 := by decide +kernel
  exact Config.validate_eq_ok_iff.mpr ⟨List.cons_ne_nil _ _, List.cons_ne_nil _ _,
    List.cons_ne_nil _ _, h, hwidth, List.cons_ne_nil _ _⟩

theorem build_eq_ok_iff_row : ∃ ts : List Aggregate,
    ts.length = (gridOf 1 2).workloads.length ∧ (gridOf 1 2).validate = .ok () ∧
      ∃ f, build (gridOf 1 2) ts = .ok f := by
  have hvalidate : (gridOf 1 2).validate = .ok () := validate_gridOf (by unfold Config.Fits; decide)
  refine ⟨[.new "mix1" [] [], .new "mix2" [] []], rfl, hvalidate, ?_⟩
  exact ((build_eq_ok_iff _ _ rfl).1 hvalidate).1.mpr (by decide)

/-- A grid that is accepted for its many slots, and that no list can hold. -/
theorem build_vast_grid : ∃ ts : List Aggregate,
    ts.length = (gridOf 4294967296 2147483648).workloads.length ∧
      (gridOf 4294967296 2147483648).validate = .ok () ∧
      build (gridOf 4294967296 2147483648) ts = .error (.fault .capacity) :=
  ⟨[.new "mix1" [] [], .new "mix2" [] []], rfl, validate_gridOf (by unfold Config.Fits; decide),
    build_of_ge rfl (by decide) (by decide)⟩

end Figure
end Footprint
