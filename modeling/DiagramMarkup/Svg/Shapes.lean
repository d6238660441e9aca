import DiagramMarkup.Geometry.Box
import DiagramMarkup.Layout.Fault
import DiagramMarkup.Layout.Measure
import DiagramMarkup.Markup.Tree

/-! # Shapes

The elements of pictures, each as a tree.
-/

namespace DiagramMarkup.Svg

open Scalar

variable {α : Type} [Scalar α]

/-- The fields that give a shape its colours. -/
def paint (colors : Colors) : List (Markup.Attribute α) :=
  [.text "fill" colors.fill, .text "stroke" colors.stroke]

def dark : Colors :=
  ⟨"#333", "#333"⟩

/-- The fields that place a rectangle. -/
def rectangleAttributes (left top width height : α) : List (Markup.Attribute α) :=
  [.number "x" left, .number "y" top, .number "width" width, .number "height" height]

def rounded (b : Box α) (radius : α) (colors : Colors) : Markup α :=
  .element "rect"
    (rectangleAttributes b.left b.top b.width b.height ++ .number "rx" radius :: paint colors) []

def circle (x y radius : α) (colors : Colors) (thickness : α) : Markup α :=
  .element "circle"
    ([.number "cx" x, .number "cy" y, .number "r" radius] ++ paint colors ++
      [.number "stroke-width" thickness])
    []

def ellipse (b : Box α) (colors : Colors) : Markup α :=
  .element "ellipse"
    ([.number "cx" b.x, .number "cy" b.y, .number "rx" (b.width / 2), .number "ry" (b.height / 2)] ++
      paint colors)
    []

/-- A rhombus that touches all sides of a box. -/
def diamond (b : Box α) (colors : Colors) : Markup α :=
  .element "polygon"
    (.points "points" [⟨b.x, b.top⟩, ⟨b.right, b.y⟩, ⟨b.x, b.bottom⟩, ⟨b.left, b.y⟩] ::
      paint colors)
    []

/-- The fields that place a line. -/
def lineAttributes (a b : Point α) : List (Markup.Attribute α) :=
  [.number "x1" a.x, .number "y1" a.y, .number "x2" b.x, .number "y2" b.y]

def line (a b : Point α) (attributes : List (Markup.Attribute α)) : Markup α :=
  .element "line" (lineAttributes a b ++ attributes) []

def polyline (points : List (Point α)) (attributes : List (Markup.Attribute α)) : Markup α :=
  .element "polyline" (.points "points" points :: attributes) []

def ruler (left right y : α) (stroke : String) : Markup α :=
  line ⟨left, y⟩ ⟨right, y⟩ [.text "stroke" stroke]

/-- A step of an outline. -/
inductive Stroke (α : Type)
  | move (p : Point α)
  | straight (p : Point α)
  /-- A part of an ellipse with the given radii, in one of the two directions. -/
  | arc (rx ry : α) (clockwise : Bool) (p : Point α)
  | close
deriving Repr, DecidableEq

/-- How a stroke is written in the description of a path. -/
def Stroke.pieces : Stroke α → List (Markup.Piece α)
  | move p => .text "M" :: Markup.Attribute.pointPieces p
  | straight p => .text "L" :: Markup.Attribute.pointPieces p
  | arc rx ry clockwise p =>
    [.text "A", .number rx, .text ",", .number ry,
      .text (if clockwise then " 0 0 1 " else " 0 0 0 ")] ++ Markup.Attribute.pointPieces p
  | close => [.text "z"]

/-- A shape along strokes of a pen. -/
def path (strokes : List (Stroke α)) (colors : Colors) : Markup α :=
  .element "path"
    (⟨"d", ((strokes.map Stroke.pieces).intersperse [.text " "]).flatten⟩ :: paint colors) []

/-- Where a text stands from its point. -/
inductive Anchor
  | start
  | middle
deriving Repr, DecidableEq

def Anchor.name : Anchor → String
  | start => "start"
  | middle => "middle"

/-- The height of the first of some lines that are centred on a height. -/
def firstLine (y lineHeight : α) (lines : Nat) : α :=
  y - ((lines : α) - 1) * lineHeight / 2

/-- The lines of a text, centred on a height. -/
def textBlock (x y : α) (text : String) (anchor : Anchor) (lineHeight : α)
    (attributes : List (Markup.Attribute α) := []) : Markup α :=
  let lines := Text.lines text
  let first := firstLine y lineHeight lines.length
  let span : String × Nat → Markup α := fun (s, index) =>
    .element "tspan" [.number "x" x, .number "y" (first + (index : α) * lineHeight)] [.text s]
  .element "text"
    ([.number "x" x, .number "y" first, .text "text-anchor" anchor.name,
      .text "dominant-baseline" "central"] ++ attributes)
    (lines.zipIdx.map span)

def bold : Markup.Attribute α :=
  .text "font-weight" "bold"

/-- A text in the middle of a box. -/
def caption (b : Box α) (text : String) (lineHeight : α) : Markup α :=
  textBlock b.x b.y text .middle lineHeight

/-- Shapes that belong together, under the name of their class. -/
def group (name : String) (children : List (Markup α)) : Markup α :=
  .element "g" [.text "class" name] children

/-- The figure of an actor; its arms and legs reach to the sides of its box. -/
def figure (b : Box α) : Markup α :=
  let hip : Point α := ⟨b.x, b.top + 40⟩
  let arms := b.top + 28
  .element "g"
    [.text "fill" "white", .text "stroke" Palette.blue.stroke, .text "stroke-width" "1.5"]
    [.element "circle" [.number "cx" b.x, .number "cy" (b.top + 10), .text "r" "10"] [],
      line ⟨b.x, b.top + 20⟩ hip [],
      line ⟨b.left, arms⟩ ⟨b.right, arms⟩ [],
      line hip ⟨b.left, b.bottom⟩ [],
      line hip ⟨b.right, b.bottom⟩ []]

/-- The size of the folded corner of a note. -/
def foldSize : α :=
  12

/-- A note, a sheet with a folded corner, with its text. -/
def note (b : Box α) (text : String) (lineHeight : α) : Markup α :=
  let fold := b.right - foldSize
  let below := b.top + foldSize
  group "note"
    [path [.move ⟨b.left, b.top⟩, .straight ⟨fold, b.top⟩, .straight ⟨b.right, below⟩,
        .straight ⟨b.right, b.bottom⟩, .straight ⟨b.left, b.bottom⟩, .close] Palette.yellow,
      path [.move ⟨fold, b.top⟩, .straight ⟨fold, below⟩, .straight ⟨b.right, below⟩]
        ⟨"none", Palette.yellow.stroke⟩,
      textBlock (b.left + 8) b.y text .start lineHeight]

/-- A cylinder in a box, with caps of a height. -/
def cylinder (b : Box α) (cap : α) : List (Markup α) :=
  let radius := b.width / 2
  let upper := b.top + cap
  let lower := b.bottom - cap
  [path [.move ⟨b.left, upper⟩, .arc radius cap true ⟨b.right, upper⟩,
      .straight ⟨b.right, lower⟩, .arc radius cap true ⟨b.left, lower⟩, .close] Palette.blue,
    path [.move ⟨b.left, upper⟩, .arc radius cap false ⟨b.right, upper⟩]
      ⟨"none", Palette.blue.stroke⟩]

end DiagramMarkup.Svg
