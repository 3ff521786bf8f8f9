import Footprint.Figure.Basic
import Footprint.Proofs.Json.RoundTrip

/-!
# Plot data, read back as a figure

The text of a figure determines all of it but its numbers: the figure comes back as it was exactly
when each of them is read back from its own digits.
-/
namespace Footprint

def Series.reals (s : Series) : List Float := s.width :: (s.x ++ s.heights)

def Panel.reals (p : Panel) : List Float := p.ticks ++ p.series.flatMap Series.reals

/-- The real numbers of a figure: sizes of the page and its layout, ticks, and the places, widths and
heights of the bars. -/
def Figure.reals (f : Figure) : List Float :=
  [f.width, f.height, f.layoutRect.a, f.layoutRect.b, f.layoutRect.c, f.layoutRect.d] ++
    f.panels.flatMap fun p => p.toList.flatMap Panel.reals

namespace Figure

open Json

theorem isSound_shape : shape.isSound = true := by decide

theorem toPanel_ofPanel (p : Panel) : toPanel (ofPanel p) = p := by
  have hid : toSeries ∘ ofSeries = id := rfl
  have h : List.map toSeries (p.series.map ofSeries) = p.series := by
    rw [List.map_map, hid, List.map_id]
  exact congrArg (fun series => { p with series := series }) h

theorem ofPanel_toPanel (v : panelFields.Value) : ofPanel (toPanel v) = v := by
  obtain ⟨title, yLabel, ticks, tickLabels, (series : List seriesFields.Value), ⟨⟩⟩ := v
  have hid : ofSeries ∘ toSeries = id := rfl
  have h : List.map ofSeries (series.map toSeries) = series := by
    rw [List.map_map, hid, List.map_id]
  exact congrArg (fun series => (title, yLabel, ticks, tickLabels, series, ())) h

theorem ofValue_toValue (f : Figure) : ofValue f.toValue = f := by
  have hid : toPanel ∘ ofPanel = id := funext toPanel_ofPanel
  have h : List.map (Option.map toPanel) (f.panels.map (·.map ofPanel)) = f.panels := by
    rw [List.map_map, Option.map_comp_map, hid, Option.map_id, List.map_id]
  exact congrArg (fun panels => { f with panels := panels }) h

theorem toValue_ofValue (v : shape.Value) : toValue (ofValue v) = v := by
  obtain ⟨width, height, dpi, rows, cols, title, titleSize, layoutRect,
    (panels : List (Option panelFields.Value)), ⟨⟩⟩ := v
  have hid : ofPanel ∘ toPanel = id := funext ofPanel_toPanel
  have h : List.map (Option.map ofPanel) (panels.map (Option.map toPanel)) = panels := by
    rw [List.map_map, Option.map_comp_map, hid, Option.map_id, List.map_id]
  exact congrArg (fun panels => (width, height, dpi, rows, cols, title, titleSize, layoutRect,
    panels, ())) h

/-! ## Numbers -/

theorem reals_ofSeries (s : Series) : seriesFields.reals (ofSeries s) = s.reals := by
  have hx (xs : List Float) : xs.flatMap (fun x => [x]) = xs := List.flatMap_singleton' xs
  have h : seriesFields.reals (ofSeries s) =
      s.width :: (s.x.flatMap (fun x => [x]) ++ (s.heights.flatMap (fun x => [x]) ++ [])) := rfl
  rw [h, hx, hx, List.append_nil, Series.reals]

theorem reals_ofPanel (p : Panel) : panelFields.reals (ofPanel p) = p.reals := by
  have h : panelFields.reals (ofPanel p) = p.ticks.flatMap (fun x => [x]) ++
      (p.tickLabels.flatMap (fun _ => []) ++
        ((p.series.map ofSeries).flatMap seriesFields.reals ++ [])) := rfl
  have hseries : (p.series.map ofSeries).flatMap seriesFields.reals =
      p.series.flatMap Series.reals := by
    rw [List.flatMap_map]
    exact List.flatMap_congr fun s _ => reals_ofSeries s
  have hlabels : p.tickLabels.flatMap (fun _ => ([] : List Float)) = [] := by simp
  rw [h, List.flatMap_singleton', hlabels, hseries, List.append_nil, List.nil_append, Panel.reals]

theorem reals_toValue (f : Figure) : shape.reals f.toValue = f.reals := by
  let ofOption : Option panelFields.Value → List Float :=
    (Shape.optional (.record "BarPanel" panelFields)).reals
  have h : shape.reals f.toValue = [f.width, f.height, f.layoutRect.a, f.layoutRect.b,
      f.layoutRect.c, f.layoutRect.d] ++ ((f.panels.map (·.map ofPanel)).flatMap ofOption ++ []) := rfl
  have hpanels : (f.panels.map (·.map ofPanel)).flatMap ofOption =
      f.panels.flatMap fun p => p.toList.flatMap Panel.reals := by
    rw [List.flatMap_map]
    refine List.flatMap_congr fun p _ => ?_
    cases p with
    | none => rfl
    | some p =>
      have hpanel : ofOption (some (ofPanel p)) = panelFields.reals (ofPanel p) := rfl
      simpa [hpanel] using reals_ofPanel p
  rw [h, hpanels, List.append_nil, reals]

/-- Plot data are read as the figure that they are made from exactly when each of its numbers is
read back from its own text. -/
theorem parse_render_eq_ok_iff (f : Figure) :
    parse f.render = .ok f ↔ ∀ x ∈ f.reals, Reader.reread x = .ok x := by
  rw [parse, render, Shape.parse_render isSound_shape, ← reals_toValue,
    ← shape.reread_eq_self_iff f.toValue]
  cases shape.reread f.toValue with
  | error e => simp [Except.map]
  | ok v =>
    simp only [Except.map, Except.ok.injEq]
    constructor
    · intro h
      rw [← h, toValue_ofValue]
    · intro h
      rw [h, ofValue_toValue]

end Figure
end Footprint
