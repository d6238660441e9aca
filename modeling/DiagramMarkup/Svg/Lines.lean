import DiagramMarkup.Layout.Fault
import DiagramMarkup.Layout.Links
import DiagramMarkup.Svg.Shapes

/-! # The lines of links -/

namespace DiagramMarkup

open Scalar Svg

namespace Link

variable {α : Type} [Scalar α]

/-- The heads of a line, for a message by its sort and otherwise by the kind of its relation. -/
def markAttributes (link : Link α) : List (Markup.Attribute α) :=
  let atEnd (mark : String) : List (Markup.Attribute α) :=
    [.text "marker-end" ("url(#" ++ mark ++ ")")]
  let atStart (mark : String) : List (Markup.Attribute α) :=
    [.text "marker-start" ("url(#" ++ mark ++ ")")]
  if link.message.any fun m => m.1 ≠ .sync then atEnd "open-arrow"
  else
    match link.kind with
    | .inherits => atEnd "triangle"
    | .implements => atEnd "triangle"
    | .composition => atStart "diamond-filled"
    | .aggregation => atStart "diamond"
    | .relationship => []
    | .note => []
    | .containment => []
    | _ => atEnd "arrow"

/-- How a line is drawn, with its dashes and heads. -/
def strokeAttributes (link : Link α) : List (Markup.Attribute α) :=
  [.text "fill" "none", .text "stroke" "#666", .text "stroke-width" "1.5"] ++
    (if link.dashed then [.text "stroke-dasharray" "5 4"] else []) ++ link.markAttributes

def textAt (x y : α) (text : String) (anchor : Anchor) (lineHeight : α) : Markup α :=
  textBlock x y text anchor lineHeight [.text "fill" "#333"]

/-- The text of a label beside a line, if there is one. -/
def labelAt (x y : α) (label : Option String) (anchor : Anchor) (lineHeight : α) : List (Markup α) :=
  label.toList.map fun text => textAt x y text anchor lineHeight

/-- The line of a message at its height, straight to the other lifeline or around to the same one.
-/
def messageShapes (link : Link α) (source target : Box α) (y lineHeight : α) : List (Markup α) :=
  if link.isLoop then
    let x := source.x + loopWidth
    let below := y + loopDrop
    polyline [⟨source.x, y⟩, ⟨x, y⟩, ⟨x, below⟩, ⟨source.x, below⟩] link.strokeAttributes ::
      labelAt (x + 6) y link.label .start lineHeight
  else
    line ⟨source.x, y⟩ ⟨target.x, y⟩ link.strokeAttributes ::
      labelAt ((source.x + target.x) / 2) (y - lineHeight * 0.75) link.label .middle lineHeight

/-- The distance between boxes and a line that leads back upwards on their right. -/
def detour : α :=
  24

/-- The line that leads back upwards around the right side. -/
def upwardShapes (link : Link α) (source target : Box α) (lineHeight : α) : List (Markup α) :=
  let x := larger source.right target.right + detour
  polyline [⟨source.right, source.y⟩, ⟨x, source.y⟩, ⟨x, target.y⟩, ⟨target.right, target.y⟩]
      link.strokeAttributes ::
    labelAt (x + 6) ((source.y + target.y) / 2) link.label .start lineHeight

/-- A straight line between the borders of two boxes, with its label in the middle and further texts
near its ends. -/
def straightShapes (link : Link α) (source target : Box α) (lineHeight : α) : List (Markup α) :=
  let a := source.borderPoint ⟨target.x, target.y⟩
  let b := target.borderPoint ⟨source.x, source.y⟩
  line a b link.strokeAttributes ::
    (labelAt ((a.x + b.x) / 2) ((a.y + b.y) / 2 - lineHeight * 0.6) link.label .middle
      lineHeight ++
    labelAt (a.x + (b.x - a.x) * 0.15) (a.y + (b.y - a.y) * 0.15 - 8) link.sourceLabel .middle
      lineHeight ++
    labelAt (b.x - (b.x - a.x) * 0.15) (b.y - (b.y - a.y) * 0.15 - 8) link.targetLabel .middle
      lineHeight)

/-- The shapes of a link: a message, a line that leads back upwards, or a straight one. -/
def shapes (link : Link α) (source target : Box α) (lineHeight : α) : List (Markup α) :=
  match link.message with
  | some (_, y) => link.messageShapes source target y lineHeight
  | none =>
    if link.upwards then link.upwardShapes source target lineHeight
    else link.straightShapes source target lineHeight

/-- Draws a link between the boxes of its two elements. -/
def draw (l : Layout α) (lineHeight : α) (link : Link α) : Except LayoutFault (Markup α) := do
  let source ← l.require link.source
  let target ← l.require link.target
  return group "edge" (link.shapes source target lineHeight)

end Link

end DiagramMarkup
