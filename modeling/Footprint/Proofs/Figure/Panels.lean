import Footprint.Proofs.Figure.Layout

/-!
# What a laid-out figure shows

The panels fill the slots behind the reserved ones, one for each workload and in the order of the
workloads. A panel is made from the aggregate of its own workload alone, with the bars of one task
after the other.
-/
namespace Footprint

/-- The bars of the task at position `pos`: one for each index, flat where there is no value. -/
structure Series.Shows (s : Series) (c : Config) (t : Aggregate) (pos : Nat) (task : String) :
    Prop where
  label : s.label = task
  color : c.figure.colors[pos % c.figure.colors.length]? = some s.color
  width : s.width = c.figure.barWidth
  length_x : s.x.length = c.indexes.length
  length_heights : s.heights.length = c.indexes.length
  /-- Each task stands one bar to the right of the task before it. -/
  x : ∀ j < c.indexes.length, s.x[j]? = some (j.toFloat + pos.toFloat * c.figure.barWidth)
  height : ∀ (j : Nat) (index : String), c.indexes[j]? = some index →
    s.heights[j]? = some ((t.get? index task).getD 0.0)

/-- The panel of a workload with that title and the aggregate `t`. -/
structure Panel.Shows (p : Panel) (c : Config) (title : String) (t : Aggregate) : Prop where
  title : p.title = title
  yLabel : p.yLabel = c.figure.yLabel
  tickLabels : p.tickLabels = c.indexes
  length_ticks : p.ticks.length = c.indexes.length
  length_series : p.series.length = c.tasks.length
  series : ∀ (pos : Nat) (task : String), c.tasks[pos]? = some task →
    ∃ s, p.series[pos]? = some s ∧ s.Shows c t pos task

theorem Config.taskColor_eq_ok {ε : Type} {c : Config} {pos : Nat} {color : String}
    (h : c.taskColor pos = (.ok color : Except (Stop ε) String)) :
    c.figure.colors[pos % c.figure.colors.length]? = some color := by
  have hcolors : c.figure.colors ≠ [] := by
    intro hnil
    rw [taskColor, remWord, hnil] at h
    cases h
  obtain ⟨color', hcolor', hget⟩ := Config.exists_taskColor (ε := ε) hcolors pos
  rw [hcolor', Except.ok.injEq] at h
  rw [hget, h]

namespace Figure

variable {c : Config} {t : Aggregate}

/-! ## One panel -/

theorem seriesOf_shows {pos : Nat} {task : String} {s : Series}
    (h : seriesOf c t pos task = .ok s) : s.Shows c t pos task := by
  simp only [seriesOf, bind_eq_ok_iff] at h
  obtain ⟨color, hcolor, h⟩ := h
  cases h
  exact {
    label := rfl
    color := Config.taskColor_eq_ok hcolor
    width := rfl
    length_x := by rw [List.length_map, List.length_range]
    length_heights := List.length_map _
    x := fun j hj => by rw [List.getElem?_map, List.getElem?_range hj, Option.map_some]
    height := fun j index hindex => by rw [List.getElem?_map, hindex, Option.map_some]; rfl }

/-- The list begins with the task at position `pos`, and a task's bars know the position of the task
in the whole list. -/
theorem allSeries_shows {pos : Nat} {tasks : List String} {series : List Series}
    (h : allSeries c t pos tasks = .ok series) :
    series.length = tasks.length ∧ ∀ (i : Nat) (task : String), tasks[i]? = some task →
      ∃ s, series[i]? = some s ∧ s.Shows c t (pos + i) task := by
  induction tasks generalizing pos series with
  | nil =>
    cases h
    exact ⟨rfl, fun i task htask => by cases htask⟩
  | cons first tasks ih =>
    simp only [allSeries, bind_eq_ok_iff] at h
    obtain ⟨s, hs, rest, hrest, h⟩ := h
    cases h
    obtain ⟨hlength, hshows⟩ := ih hrest
    refine ⟨congrArg Nat.succ hlength, fun i task htask => ?_⟩
    cases i with
    | zero =>
      cases htask
      exact ⟨s, rfl, seriesOf_shows hs⟩
    | succ i =>
      obtain ⟨s', hs', hshows'⟩ := hshows i task htask
      exact ⟨s', hs', by rwa [Nat.add_right_comm] at hshows'⟩

theorem panelOf_shows {title : String} {p : Panel} (h : panelOf c title t = .ok p) :
    p.Shows c title t := by
  simp only [panelOf, bind_eq_ok_iff] at h
  obtain ⟨series, hseries, h⟩ := h
  cases h
  obtain ⟨hlength, hshows⟩ := allSeries_shows hseries
  exact {
    title := rfl
    yLabel := rfl
    tickLabels := rfl
    length_ticks := by rw [List.length_map, List.length_range]
    length_series := hlength
    series := fun pos task htask => by simpa only [Nat.zero_add] using hshows pos task htask }

/-! ## The grid -/

/-- The slots from `start` on hold the panels of `pairs`, and the other slots are as they were. -/
structure Filled (c : Config) (start : Nat) (pairs : List (Workload × Aggregate))
    (before after : List (Option Panel)) : Prop where
  length_eq : after.length = before.length
  inside : ∀ (j : Nat) (w : Workload) (t : Aggregate), pairs[j]? = some (w, t) →
    ∃ p, after[start + j]? = some (some p) ∧ p.Shows c w.title t
  outside : ∀ k, k < start ∨ start + pairs.length ≤ k → after[k]? = before[k]?

/-- The first panel stays in its slot while the later ones are filled in behind it. -/
theorem Filled.cons {start : Nat} {w : Workload} {p : Panel} {pairs : List (Workload × Aggregate)}
    {before after : List (Option Panel)} (hstart : start < before.length)
    (hp : p.Shows c w.title t)
    (h : Filled c (start + 1) pairs (before.set start (some p)) after) :
    Filled c start ((w, t) :: pairs) before after where
  length_eq := h.length_eq.trans List.length_set
  inside := fun j w' t' hj => by
    cases j with
    | zero =>
      cases hj
      refine ⟨p, ?_, hp⟩
      rw [Nat.add_zero, h.outside start (.inl (Nat.lt_succ_self start)),
        List.getElem?_set_self hstart]
    | succ j =>
      obtain ⟨p', hp', hshows⟩ := h.inside j w' t' hj
      exact ⟨p', by rwa [Nat.add_right_comm] at hp', hshows⟩
  outside := fun k hk => by
    rw [List.length_cons] at hk
    rw [h.outside k (by omega), List.getElem?_set_ne (by omega)]

theorem fill_filled {i : Nat} {pairs : List (Workload × Aggregate)}
    {before after : List (Option Panel)} (h : fill c before i pairs = .ok after) :
    Filled c (c.figure.reservedPanels.toNat + i) pairs before after := by
  induction pairs generalizing i before with
  | nil =>
    cases h
    exact ⟨rfl, fun _ _ _ hj => (nomatch hj), fun _ _ => rfl⟩
  | cons pair pairs ih =>
    obtain ⟨w, t⟩ := pair
    simp only [fill, bind_eq_ok_iff, addWord_eq_ok_iff] at h
    obtain ⟨slot, ⟨-, rfl⟩, h⟩ := h
    split at h
    · next hslot =>
      obtain ⟨p, hp, h⟩ := bind_eq_ok_iff.mp h
      exact Filled.cons hslot (panelOf_shows hp) (ih h)
    · cases h

/-- In a grid that was empty, the slots of the pairs are drawn and no other. -/
theorem Filled.drawn_iff {start n : Nat} {pairs : List (Workload × Aggregate)}
    {after : List (Option Panel)} (h : Filled c start pairs (List.replicate n none) after)
    (k : Nat) : (∃ p, after[k]? = some (some p)) ↔ start ≤ k ∧ k < start + pairs.length := by
  constructor
  · rintro ⟨p, hp⟩
    by_contra hk
    rw [h.outside k (by omega), List.getElem?_replicate] at hp
    split at hp
    · cases hp
    · cases hp
  · rintro ⟨hge, hlt⟩
    obtain ⟨j, rfl⟩ := Nat.exists_eq_add_of_le hge
    have hj : j < pairs.length := by omega
    obtain ⟨p, hp, -⟩ := h.inside j pairs[j].1 pairs[j].2 (List.getElem?_eq_getElem hj)
    exact ⟨p, hp⟩

theorem build_filled {ts : List Aggregate} {f : Figure} (h : build c ts = .ok f) :
    ts.length = c.workloads.length ∧ Filled c c.figure.reservedPanels.toNat (c.workloads.zip ts)
      (List.replicate (slots c) none) f.panels := by
  rw [build] at h
  split at h
  · cases h
  · next hlength =>
    simp only [bind_eq_ok_iff, mulWord_eq_ok_iff, replicateWithin] at h
    obtain ⟨count, ⟨-, rfl⟩, grid, hgrid, panels, hpanels, h⟩ := h
    cases h
    split at hgrid
    · cases hgrid
      exact ⟨Decidable.not_not.mp hlength, fill_filled hpanels⟩
    · cases hgrid

/-- A figure that is made has as many slots as its grid. The slots of the workloads, and only those,
are drawn, and each shows its own workload: one series for each task in the order of the tasks, one
bar for each index in the order of the indexes. No figure is made for another number of aggregates,
whatever the grid. -/
theorem build_panels (c : Config) (ts : List Aggregate) :
    (∀ f, build c ts = .ok f →
      f.panels.length = c.figure.rows.toNat * c.figure.cols.toNat ∧
      (∀ k, (∃ p, f.panels[k]? = some (some p)) ↔ c.figure.reservedPanels.toNat ≤ k ∧
        k < c.figure.reservedPanels.toNat + c.workloads.length) ∧
      ∀ (i : Nat) (w : Workload), c.workloads[i]? = some w →
        ∃ t p, ts[i]? = some t ∧ f.panels[c.figure.reservedPanels.toNat + i]? = some (some p) ∧
          p.Shows c w.title t) ∧
    (ts.length ≠ c.workloads.length →
      build c ts = .error (.error (.count ts.length c.workloads.length))) := by
  refine ⟨fun f h => ?_, fun hlength => if_pos hlength⟩
  obtain ⟨hlength, hfilled⟩ := build_filled h
  have hpairs : (c.workloads.zip ts).length = c.workloads.length := by simp [hlength]
  refine ⟨by rw [hfilled.length_eq, List.length_replicate]; rfl, fun k => ?_, fun i w hw => ?_⟩
  · rw [hfilled.drawn_iff, hpairs]
  · have hi : i < ts.length := hlength ▸ (List.getElem?_eq_some_iff.mp hw).1
    have ht : ts[i]? = some ts[i] := List.getElem?_eq_getElem hi
    obtain ⟨p, hp, hshows⟩ := hfilled.inside i w ts[i] (List.getElem?_zip_eq_some.mpr ⟨hw, ht⟩)
    exact ⟨ts[i], p, ht, hp, hshows⟩

/-- Three tasks for two colors, one index twice and one without a value, and one slot reserved. -/
private def palette : Config where
  tasks := ["fb", "osmc", "books"]
  indexes := ["BTree", "LIPP", "BTree"]
  figure := { rows := 2, cols := 2, reservedPanels := 1, colors := ["blue", "green"] }

private def measured : List Aggregate :=
  [(Aggregate.new "mix1" [] []).insert "BTree" "books" 1500.0, .new "mix2" [] []]

theorem build_panels_palette :
    (∃ f, build palette measured = .ok f ∧ f.panels.length = 4 ∧
      (∀ k, (∃ p, f.panels[k]? = some (some p)) ↔ 1 ≤ k ∧ k < 3) ∧
      ∃ p s, f.panels[1]? = some (some p) ∧ p.title = "Mixed Workload (10% insert ratio)" ∧
        p.tickLabels = ["BTree", "LIPP", "BTree"] ∧ p.series.length = 3 ∧
        p.series[2]? = some s ∧ s.label = "books" ∧ s.color = "blue" ∧
        s.heights[0]? = some 1500.0 ∧ s.heights[1]? = some 0.0 ∧ s.heights[2]? = some 1500.0) ∧
    build palette [] = .error (.error (.count 0 2)) := by
  constructor
  · obtain ⟨f, hf⟩ : ∃ f, build palette measured = .ok f :=
      build_of_fits rfl (by decide) (by decide) (List.cons_ne_nil _ _) (by decide)
    obtain ⟨hlength, hdrawn, hpanels⟩ := (build_panels palette measured).1 f hf
    obtain ⟨t, p, ht, hp, hpanel⟩ := hpanels 0 _ rfl
    cases ht
    obtain ⟨s, hs, hseries⟩ := hpanel.series 2 "books" rfl
    have hcolor : some s.color = some "blue" := hseries.color.symm
    exact ⟨f, hf, hlength, hdrawn, p, s, hp, hpanel.title, hpanel.tickLabels, hpanel.length_series,
      hs, hseries.label, Option.some.inj hcolor, hseries.height 0 "BTree" rfl,
      hseries.height 1 "LIPP" rfl, hseries.height 2 "BTree" rfl⟩
  · exact (build_panels palette []).2 (by decide)

end Figure
end Footprint
