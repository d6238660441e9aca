import DiagramMarkup.Drawio.Styles
import DiagramMarkup.Markup.Printer
import DiagramMarkup.Number.Decimal

/-! # draw.io documents

A graph is written as a tree of elements, one for every cell, inside of a document with one page.
-/

namespace DiagramMarkup.Drawio

variable {α : Type}

/-- A field that holds the number of a cell. -/
def reference (name : String) (number : Nat) : Markup.Attribute α :=
  .text name (String.ofList (Number.digitText number))

/-- The course of a line: the points that it turns at, or nothing where it runs straight. -/
def lineGeometry (points : List (Point α)) : Markup α :=
  let attributes := [.text "relative" "1", .text "as" "geometry"]
  let point (p : Point α) : Markup α := .element "mxPoint" [.number "x" p.x, .number "y" p.y] []
  if points.isEmpty then .element "mxGeometry" attributes []
  else
    .element "mxGeometry" attributes
      [.element "Array" [.text "as" "points"] (points.map point)]

namespace Cell

/-- The element of a cell that stands under a number. A vertex brings its area, an edge its two ends
and its course. -/
def element (number : Nat) : Cell α → Markup α
  | vertex label style parent area =>
    .element "mxCell"
      [reference "id" number, .text "value" label, ⟨"style", style⟩, .text "vertex" "1",
        reference "parent" parent]
      [.element "mxGeometry"
        [.number "x" area.left, .number "y" area.top, .number "width" area.width,
          .number "height" area.height, .text "as" "geometry"]
        []]
  | edge label style source target points =>
    .element "mxCell"
      [reference "id" number, .text "value" label, ⟨"style", style⟩, .text "edge" "1",
        reference "parent" layer, reference "source" source, reference "target" target]
      [lineGeometry points]
  | edgeLabel label line position =>
    .element "mxCell"
      [reference "id" number, .text "value" label, ⟨"style", Style.edgeLabel⟩, .text "vertex" "1",
        .text "connectable" "0", reference "parent" line]
      [.element "mxGeometry" [.number "x" position, .text "relative" "1", .text "as" "geometry"]
        [.element "mxPoint" [.text "as" "offset"] []]]

/-- The elements of cells that stand under consecutive numbers, from the given one on. -/
def elements : Nat → List (Cell α) → List (Markup α)
  | _, [] => []
  | number, cell :: cells => cell.element number :: elements (number + 1) cells

end Cell

def graphAttributes : List (Markup.Attribute α) :=
  [.text "dx" "1200", .text "dy" "800", .text "grid" "1", .text "gridSize" "10",
    .text "guides" "1", .text "tooltips" "1", .text "connect" "1", .text "arrows" "1",
    .text "fold" "1", .text "page" "1", .text "pageScale" "1", .text "pageWidth" "850",
    .text "pageHeight" "1100", .text "math" "0", .text "shadow" "0"]

/-- The element of a whole graph: the root and the only layer, which every graph has, and then its
own cells. -/
def Graph.element (g : Graph α) : Markup α :=
  let root : Markup α := .element "mxCell" [reference "id" 0] []
  let only : Markup α := .element "mxCell" [reference "id" layer, reference "parent" 0] []
  .element "mxGraphModel" graphAttributes
    [.element "root" [] (root :: only :: Cell.elements firstNumber g.cells)]

/-- What a document says about itself. -/
structure Header where
  page : String
  /-- The time of the last change. -/
  modified : String
deriving Repr, DecidableEq

def declaration : List Char :=
  "<?xml version=\"1.0\" encoding=\"UTF-8\"?>".toList

/-- The document around the content of its page. -/
def Header.element (header : Header) (content : Markup α) : Markup α :=
  .element "mxfile"
    [.text "host" "pumldraw", .text "modified" header.modified, .text "agent" "pumldraw/0.1.0",
      .text "version" "1.0"]
    [.element "diagram" [.text "name" header.page, .text "id" "diagram-1"] [content]]

/-- A document that shows its graph, over several lines. -/
def Header.printOpen (write : α → String) (header : Header) (g : Graph α) : List Char :=
  declaration ++ '\n' :: (header.element g.element).printLines write 0

/-- The text of a graph without a document around it. -/
def Graph.print (write : α → String) (g : Graph α) : List Char :=
  g.element.print write

/-- A document on one line around a packed graph. -/
def Header.printPacked (header : Header) (packed : String) : List Char :=
  declaration ++ (header.element (.text packed) : Markup Empty).print fun number => nomatch number

end DiagramMarkup.Drawio
