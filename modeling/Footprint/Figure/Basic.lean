import Footprint.Json.Printer

/-! # The figure: panels of bars in a grid, and its text for the plot script -/
namespace Footprint

/-- The bars of one task. -/
structure Series where
  label : String
  color : String
  width : Float
  x : List Float
  heights : List Float

/-- The bars of one workload. -/
structure Panel where
  title : String
  yLabel : String
  ticks : List Float
  tickLabels : List String
  series : List Series

structure Figure where
  width : Float
  height : Float
  dpi : UInt32
  rows : UInt64
  cols : UInt64
  title : String
  titleSize : UInt32
  /-- The part of the page that the panels take: left, bottom, right and top. -/
  layoutRect : Json.Quad Float
  /-- Row after row; none is drawn as empty axes. -/
  panels : List (Option Panel)

namespace Figure

open Json

def seriesFields : Fields :=
  .cons "label" .text <| .cons "color" .text <| .cons "width" .real <|
  .cons "x" (.list .real) <| .cons "heights" (.list .real) .nil

def panelFields : Fields :=
  .cons "title" .text <| .cons "y_label" .text <| .cons "ticks" (.list .real) <|
  .cons "tick_labels" (.list .text) <|
  .cons "series" (.list (.record "BarSeries" seriesFields)) .nil

def figureFields : Fields :=
  .cons "width" .real <| .cons "height" .real <| .cons "dpi" .word32 <|
  .cons "rows" .word64 <| .cons "cols" .word64 <| .cons "title" .text <|
  .cons "title_size" .word32 <| .cons "layout_rect" (.quad .real) <|
  .cons "panels" (.list (.optional (.record "BarPanel" panelFields))) .nil

/-- The shape of plot data. -/
def shape : Shape := .record "FigureSpec" figureFields

def ofSeries (s : Series) : seriesFields.Value := (s.label, s.color, s.width, s.x, s.heights, ())

def toSeries : seriesFields.Value → Series
  | (label, color, width, x, heights, ()) => ⟨label, color, width, x, heights⟩

def ofPanel (p : Panel) : panelFields.Value :=
  (p.title, p.yLabel, p.ticks, p.tickLabels, p.series.map ofSeries, ())

def toPanel : panelFields.Value → Panel
  | (title, yLabel, ticks, tickLabels, series, ()) =>
    ⟨title, yLabel, ticks, tickLabels, List.map toSeries series⟩

def toValue (f : Figure) : shape.Value :=
  (f.width, f.height, f.dpi, f.rows, f.cols, f.title, f.titleSize, f.layoutRect,
    f.panels.map (·.map ofPanel), ())

def ofValue : shape.Value → Figure
  | (width, height, dpi, rows, cols, title, titleSize, layoutRect, panels, ()) =>
    ⟨width, height, dpi, rows, cols, title, titleSize, layoutRect,
      List.map (Option.map toPanel) panels⟩

/-- The figure as plot data. -/
def render (f : Figure) : String := shape.render f.toValue

def parse (text : String) : Except Json.Error Figure := (shape.parse text).map ofValue

end Figure
end Footprint
