import DiagramMarkup.Layout.Settings
import DiagramMarkup.Svg.Elements
import DiagramMarkup.Svg.Lines

/-! # Pictures of diagrams

A picture shows a diagram as it is laid out. Frames and lanes lie behind links, and links behind
elements.
-/

namespace DiagramMarkup

open Scalar Svg

namespace Svg

variable {α : Type} [Scalar α]

/-- A head for the ends of lines, under the name that lines refer to. -/
def marker (id width height x y units : String) (shape : List (Markup.Attribute α)) : Markup α :=
  .element "marker"
    [.text "id" id, .text "markerWidth" width, .text "markerHeight" height, .text "refX" x,
      .text "refY" y, .text "orient" "auto", .text "markerUnits" units]
    [.element "path" shape []]

/-- The heads that lines can have at their ends. -/
def markers : Markup α :=
  let fill (color : String) : Markup.Attribute α := .text "fill" color
  let gray : Markup.Attribute α := .text "stroke" "#666"
  let diamond : Markup.Attribute α := .text "d" "M1,5 L9,1 L17,5 L9,9 z"
  .element "defs" []
    [marker "arrow" "10" "10" "9" "3" "strokeWidth" [.text "d" "M0,0 L0,6 L9,3 z", fill "#666"],
      marker "open-arrow" "10" "10" "9" "4" "strokeWidth"
        [.text "d" "M0,0 L9,4 L0,8", fill "none", gray],
      marker "triangle" "14" "14" "13" "7" "userSpaceOnUse"
        [.text "d" "M1,1 L1,13 L13,7 z", fill "white", gray],
      marker "diamond" "18" "10" "1" "5" "userSpaceOnUse" [diamond, fill "white", gray],
      marker "diamond-filled" "18" "10" "1" "5" "userSpaceOnUse" [diamond, fill "#666", gray]]

/-- The frame of a boundary or a partition, with its title in the upper left corner. -/
def groupFrame (lineHeight : α) (f : Frame α) : Markup α :=
  group "group"
    [.element "rect"
        (rectangleAttributes f.left f.top f.width f.height ++
          .text "rx" "6" :: paint ⟨"none", "#999"⟩ ++ [.text "stroke-dasharray" "6 3"])
        [],
      textBlock (f.left + 8) (f.top + 12) f.name .start lineHeight [bold]]

/-- The column of a lane, with its title in a bar at the top. -/
def laneFrame (title lineHeight : α) (f : Frame α) : Markup α :=
  let below := f.top + title
  group "lane"
    [.element "rect"
        (rectangleAttributes f.left f.top f.width f.height ++ paint ⟨"#fafafa", "#999"⟩) [],
      ruler f.left (f.left + f.width) below "#999",
      textBlock (f.left + f.width / 2) (f.top + title / 2) f.name .middle lineHeight [bold]]

/-- What a picture says about its size and its font. -/
def pictureAttributes (width height fontSize : α) : List (Markup.Attribute α) :=
  [.text "xmlns" "http://www.w3.org/2000/svg", .number "width" width, .number "height" height,
    ⟨"viewBox", [.text "0 0 ", .number width, .text " ", .number height]⟩,
    .text "font-family" "Arial, Helvetica, sans-serif", .number "font-size" fontSize]

def ground : Markup α :=
  .element "rect"
    [.text "x" "0", .text "y" "0", .text "width" "100%", .text "height" "100%",
      .text "fill" "white"]
    []

end Svg

namespace Diagram

variable {α : Type} [Scalar α]

/-- The picture of a diagram. Frames lie at the bottom, then what stands behind the elements, the
lines, and the elements on top. -/
def picture (settings : Settings α) (l : Layout α) (links : List (Link α)) (d : Diagram) :
    Except LayoutFault (Markup α) := do
  let lineHeight := settings.fontSize * 1.2
  let lines ← links.mapM (Link.draw l lineHeight)
  let elements ← d.content.drawElements l lineHeight
  let title : List (Markup α) := d.title.toList.map fun text => .element "title" [] [.text text]
  return .element "svg"
    (pictureAttributes (larger l.bounds.width 1) (larger l.bounds.height 1) settings.fontSize)
    (title ++ markers :: ground :: l.groups.map (groupFrame lineHeight) ++
      l.lanes.map (laneFrame settings.laneTitle lineHeight) ++
      d.content.backdrop l lineHeight ++ lines ++ elements)

end Diagram

end DiagramMarkup
