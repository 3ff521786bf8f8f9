import Footprint.Proofs.Fault
import Footprint.Proofs.Json.Acceptance
import Footprint.Proofs.Report.PlotData

/-!
# What any plot data are read back as

Nothing of a figure is lost in its text but the last digits of some numbers. Texts, whole numbers,
empty panels and the lengths of lists come back as they were, and each other number as what its own
digits are read as.
-/
namespace Footprint

open Json (Fields Shape)
open Json.Reader (reread)

/-- `u` is `s` with its numbers read back. -/
structure Series.Rereads (s u : Series) : Prop where
  label : s.label = u.label
  color : s.color = u.color
  width : reread s.width = .ok u.width
  x : List.Forall₂ (fun a b => reread a = .ok b) s.x u.x
  heights : List.Forall₂ (fun a b => reread a = .ok b) s.heights u.heights

structure Panel.Rereads (p q : Panel) : Prop where
  title : p.title = q.title
  yLabel : p.yLabel = q.yLabel
  ticks : List.Forall₂ (fun a b => reread a = .ok b) p.ticks q.ticks
  tickLabels : p.tickLabels = q.tickLabels
  series : List.Forall₂ Series.Rereads p.series q.series

structure Figure.Rereads (f g : Figure) : Prop where
  width : reread f.width = .ok g.width
  height : reread f.height = .ok g.height
  dpi : f.dpi = g.dpi
  rows : f.rows = g.rows
  cols : f.cols = g.cols
  title : f.title = g.title
  titleSize : f.titleSize = g.titleSize
  left : reread f.layoutRect.a = .ok g.layoutRect.a
  bottom : reread f.layoutRect.b = .ok g.layoutRect.b
  right : reread f.layoutRect.c = .ok g.layoutRect.c
  top : reread f.layoutRect.d = .ok g.layoutRect.d
  /-- An empty panel stays empty, and one that is drawn stays drawn. -/
  panels : List.Forall₂ (Option.Rel Panel.Rereads) f.panels g.panels

namespace Figure

/-- A record is read back field by field. -/
theorem reread_cons_iff {name : String} {shape : Shape} {rest : Fields} {v u : shape.Value}
    {vs us : rest.Value} : (Fields.cons name shape rest).reread (v, vs) = .ok (u, us) ↔
      shape.reread v = .ok u ∧ rest.reread vs = .ok us :=
  Json.pair_eq_ok_iff (shape.reread v) (rest.reread vs) u us

/-- A list is read back item by item. -/
theorem reread_list_iff {α : Type} (item : Shape) {ofItem : α → item.Value} {R : α → α → Prop}
    (h : ∀ x y, item.reread (ofItem x) = .ok (ofItem y) ↔ R x y) (xs ys : List α) :
    (Shape.list item).reread (xs.map ofItem) = .ok (ys.map ofItem) ↔ List.Forall₂ R xs ys := by
  have hR : (fun x y => item.reread (ofItem x) = .ok (ofItem y)) = R :=
    funext₂ fun x y => propext (h x y)
  refine Json.mapM_eq_ok_iff.trans ?_
  rw [List.forall₂_map_left_iff, List.forall₂_map_right_iff, hR]

theorem reread_optional_iff {α : Type} (item : Shape) {ofItem : α → item.Value} {R : α → α → Prop}
    (h : ∀ x y, item.reread (ofItem x) = .ok (ofItem y) ↔ R x y) (x y : Option α) :
    (Shape.optional item).reread (x.map ofItem) = .ok (y.map ofItem) ↔ Option.Rel R x y := by
  cases x with
  | none =>
    cases y with
    | none => exact iff_of_true rfl .none
    | some y => exact iff_of_false nofun nofun
  | some x =>
    cases y with
    | some y => exact (Json.map_some_eq_ok_iff _ _).trans ((h x y).trans Option.rel_some_some.symm)
    | none =>
      -- An item that is there is never read as an absent one.
      refine iff_of_false (fun hnone => ?_) nofun
      have hmap : (item.reread (ofItem x)).map some = .ok none := hnone
      cases hread : item.reread (ofItem x) <;> simp [hread, Except.map] at hmap

theorem reread_reals_iff (xs ys : List Float) : (Shape.list .real).reread xs = .ok ys ↔
    List.Forall₂ (fun a b => reread a = .ok b) xs ys := Json.mapM_eq_ok_iff

theorem reread_text_iff (x y : String) : Shape.text.reread x = .ok y ↔ x = y :=
  iff_of_eq (Except.ok.injEq x y)

theorem reread_texts_iff (xs ys : List String) :
    (Shape.list .text).reread xs = .ok ys ↔ xs = ys := by
  have hitems : (Shape.list .text).reread xs = .ok ys ↔
    List.Forall₂ (fun x y => Shape.text.reread x = .ok y) xs ys := Json.mapM_eq_ok_iff
  have heq : (fun x y => Shape.text.reread x = .ok y) = Eq :=
    funext₂ fun x y => propext (reread_text_iff x y)
  rw [heq, List.forall₂_eq_eq_eq] at hitems
  exact hitems

theorem reread_word32_iff (m n : UInt32) : Shape.word32.reread m = .ok n ↔ m = n :=
  iff_of_eq (Except.ok.injEq m n)

theorem reread_word64_iff (m n : UInt64) : Shape.word64.reread m = .ok n ↔ m = n :=
  iff_of_eq (Except.ok.injEq m n)

theorem reread_series_iff (s u : Series) :
    seriesFields.reread (ofSeries s) = .ok (ofSeries u) ↔ s.Rereads u := by
  have h : seriesFields.reread (ofSeries s) = .ok (ofSeries u) ↔
      Shape.text.reread s.label = .ok u.label ∧ Shape.text.reread s.color = .ok u.color ∧
        reread s.width = .ok u.width ∧ (Shape.list .real).reread s.x = .ok u.x ∧
        (Shape.list .real).reread s.heights = .ok u.heights ∧ Fields.nil.reread () = .ok () :=
    reread_cons_iff.trans <| and_congr_right' <| reread_cons_iff.trans <| and_congr_right' <|
      reread_cons_iff.trans <| and_congr_right' <| reread_cons_iff.trans <| and_congr_right'
      reread_cons_iff
  rw [h, reread_text_iff, reread_text_iff, reread_reals_iff, reread_reals_iff]
  exact ⟨fun ⟨hlabel, hcolor, hwidth, hx, hheights, _⟩ => ⟨hlabel, hcolor, hwidth, hx, hheights⟩,
    fun ⟨hlabel, hcolor, hwidth, hx, hheights⟩ => ⟨hlabel, hcolor, hwidth, hx, hheights, rfl⟩⟩

theorem reread_panel_iff (p q : Panel) :
    panelFields.reread (ofPanel p) = .ok (ofPanel q) ↔ p.Rereads q := by
  have h : panelFields.reread (ofPanel p) = .ok (ofPanel q) ↔
      Shape.text.reread p.title = .ok q.title ∧ Shape.text.reread p.yLabel = .ok q.yLabel ∧
        (Shape.list .real).reread p.ticks = .ok q.ticks ∧
        (Shape.list .text).reread p.tickLabels = .ok q.tickLabels ∧
        (Shape.list (.record "BarSeries" seriesFields)).reread (p.series.map ofSeries) =
          .ok (q.series.map ofSeries) ∧ Fields.nil.reread () = .ok () :=
    reread_cons_iff.trans <| and_congr_right' <| reread_cons_iff.trans <| and_congr_right' <|
      reread_cons_iff.trans <| and_congr_right' <| reread_cons_iff.trans <| and_congr_right'
      reread_cons_iff
  have hseries := reread_list_iff (.record "BarSeries" seriesFields) reread_series_iff
    p.series q.series
  rw [h, reread_text_iff, reread_text_iff, reread_reals_iff, reread_texts_iff, hseries]
  exact ⟨fun ⟨htitle, hlabel, hticks, htickLabels, hseries, _⟩ =>
      ⟨htitle, hlabel, hticks, htickLabels, hseries⟩,
    fun ⟨htitle, hlabel, hticks, htickLabels, hseries⟩ =>
      ⟨htitle, hlabel, hticks, htickLabels, hseries, rfl⟩⟩

theorem reread_layout_iff (r t : Json.Quad Float) : (Shape.quad .real).reread r = .ok t ↔
    reread r.a = .ok t.a ∧ reread r.b = .ok t.b ∧ reread r.c = .ok t.c ∧ reread r.d = .ok t.d :=
  Json.quad_eq_ok_iff _ _ _ _ t.a t.b t.c t.d

theorem reread_toValue_iff (f g : Figure) :
    shape.reread f.toValue = .ok g.toValue ↔ f.Rereads g := by
  have h : shape.reread f.toValue = .ok g.toValue ↔
      reread f.width = .ok g.width ∧ reread f.height = .ok g.height ∧
        Shape.word32.reread f.dpi = .ok g.dpi ∧ Shape.word64.reread f.rows = .ok g.rows ∧
        Shape.word64.reread f.cols = .ok g.cols ∧ Shape.text.reread f.title = .ok g.title ∧
        Shape.word32.reread f.titleSize = .ok g.titleSize ∧
        (Shape.quad .real).reread f.layoutRect = .ok g.layoutRect ∧
        (Shape.list (.optional (.record "BarPanel" panelFields))).reread
          (f.panels.map (·.map ofPanel)) = .ok (g.panels.map (·.map ofPanel)) ∧
        Fields.nil.reread () = .ok () :=
    reread_cons_iff.trans <| and_congr_right' <| reread_cons_iff.trans <| and_congr_right' <|
      reread_cons_iff.trans <| and_congr_right' <| reread_cons_iff.trans <| and_congr_right' <|
      reread_cons_iff.trans <| and_congr_right' <| reread_cons_iff.trans <| and_congr_right' <|
      reread_cons_iff.trans <| and_congr_right' <| reread_cons_iff.trans <| and_congr_right'
      reread_cons_iff
  have hpanels : (Shape.list (.optional (.record "BarPanel" panelFields))).reread
      (f.panels.map (·.map ofPanel)) = .ok (g.panels.map (·.map ofPanel)) ↔
        List.Forall₂ (Option.Rel Panel.Rereads) f.panels g.panels :=
    reread_list_iff _ (reread_optional_iff _ reread_panel_iff) f.panels g.panels
  rw [h, reread_word32_iff, reread_word64_iff, reread_word64_iff, reread_text_iff,
    reread_word32_iff, reread_layout_iff, hpanels]
  constructor
  · rintro ⟨hwidth, hheight, hdpi, hrows, hcols, htitle, hsize, ⟨ha, hb, hc, hd⟩, hpanels, -⟩
    exact ⟨hwidth, hheight, hdpi, hrows, hcols, htitle, hsize, ha, hb, hc, hd, hpanels⟩
  · rintro ⟨hwidth, hheight, hdpi, hrows, hcols, htitle, hsize, ha, hb, hc, hd, hpanels⟩
    exact ⟨hwidth, hheight, hdpi, hrows, hcols, htitle, hsize, ⟨ha, hb, hc, hd⟩, hpanels, rfl⟩

theorem settles_parse_render (f : Figure) : Json.Settles f.reals (parse f.render) := by
  rw [parse, render, Shape.parse_render isSound_shape, ← reals_toValue]
  exact (shape.settles f.toValue).map ofValue

/-- The one figure that plot data are read as. -/
theorem parse_render_eq_ok_iff_rereads (f g : Figure) : parse f.render = .ok g ↔ f.Rereads g := by
  rw [parse, render, Shape.parse_render isSound_shape, ← reread_toValue_iff]
  cases shape.reread f.toValue with
  | error e => simp [Except.map]
  | ok v =>
    simp only [Except.map, Except.ok.injEq]
    constructor
    · rintro rfl
      exact (toValue_ofValue v).symm
    · rintro rfl
      exact ofValue_toValue g

end Figure

namespace Report

open Run

/-- Plot data are read when all numbers of their figure are finite, as the same figure with each
number read back from its own digits; a number that is not finite is the fault otherwise. -/
theorem writePlotData_reread (f : Figure) :
    (∀ path u v, outcome (writePlotData f path) u = (.ok (), v) →
      v.files.lookup path = .ok (.file (Text.bytes f.render)) ∨
        ∃ full, v.files.lookup path = .ok (.device full)) ∧
    ((∃ g, Figure.parse f.render = .ok g) ↔ ∀ x ∈ f.reals, x.isFinite = true) ∧
    (∀ x ∈ f.reals, x.isFinite = false →
      Figure.parse f.render = .error (.invalidType .null "f64")) ∧
    ∀ g, Figure.parse f.render = .ok g ↔ f.Rereads g :=
  have hsettles := f.settles_parse_render
  ⟨fun _ _ _ => writePlotData_spec, hsettles.exists_iff, fun _ hx => hsettles.eq_error hx,
    f.parse_render_eq_ok_iff_rereads⟩

/-- A figure of an empty panel and one with a tick at `tick`. -/
private def onePanel (tick : Float) : Figure where
  width := 1e300
  height := -0.0
  dpi := 300
  rows := 1
  cols := 18446744073709551615
  title := "\"a\\b\"\u0001\n\t é😀"
  titleSize := 0
  layoutRect := ⟨0.1, 1e-7, 90666667301.66667, 1.5e22⟩
  panels := [none, some ⟨"", "/", [tick], ["mix", "\u007f"], [⟨"fb", "", 0.4, [], [5e-324]⟩]⟩]

private def empty : World := ⟨{ entries := [] }, []⟩

theorem writePlotData_reread_onePanel :
    (∃ v, outcome (writePlotData (onePanel 0.3) "plots/data.json") empty = (.ok (), v) ∧
      (v.files.lookup "plots/data.json" = .ok (.file (Text.bytes (onePanel 0.3).render)) ∨
        ∃ full, v.files.lookup "plots/data.json" = .ok (.device full))) ∧
    (∃ g, Figure.parse (onePanel 0.3).render = .ok g ∧ (onePanel 0.3).Rereads g) ∧
    Figure.parse (onePanel (1.0 / 0.0)).render = .error (.invalidType .null "f64") := by
  obtain ⟨hwritten, hread, -, hrereads⟩ := writePlotData_reread (onePanel 0.3)
  have hok : (outcome (writePlotData (onePanel 0.3) "plots/data.json") empty).1.isOk = true := by
    decide +kernel
  have hfinite : ∀ x ∈ (onePanel 0.3).reals, x.isFinite = true := by decide +kernel
  obtain ⟨⟨⟩, hresult⟩ := Json.isOk_iff.mp hok
  obtain ⟨g, hg⟩ := hread.mpr hfinite
  have hmem : (1.0 / 0.0 : Float) ∈ (onePanel (1.0 / 0.0)).reals := by
    simp [Figure.reals, Panel.reals, onePanel]
  have hout := Prod.ext hresult (Eq.refl (outcome _ _).2)
  exact ⟨⟨_, hout, hwritten _ _ _ hout⟩, ⟨g, hg, (hrereads g).mp hg⟩,
    (writePlotData_reread (onePanel (1.0 / 0.0))).2.2.1 _ hmem (by decide +kernel)⟩

end Report
end Footprint
