import DiagramMarkup.Geometry.Box
import DiagramMarkup.Layout.Fault
import DiagramMarkup.Markup.Tree

/-! # Graphs of cells

A draw.io graph is a list of cells that are numbered in order. A cell refers to the one that it lies
in, or to the ones that it connects, by their numbers. The numbers 0 and 1 belong to the graph itself
and its only layer.
-/

namespace DiagramMarkup.Drawio

/-- How a cell is drawn: texts and numbers that are written one behind the other. -/
abbrev Style (α : Type) : Type :=
  List (Markup.Piece α)

/-- A rectangle within another one, by its upper left corner. -/
structure Area (α : Type) where
  left : α
  top : α
  width : α
  height : α
deriving Repr, DecidableEq

namespace Area

variable {α : Type} [Scalar α]

def ofBox (b : Box α) : Area α :=
  ⟨b.left, b.top, b.width, b.height⟩

def ofFrame (f : Frame α) : Area α :=
  ⟨f.left, f.top, f.width, f.height⟩

end Area

/-- An entry of a graph. Others refer to it by its number. -/
inductive Cell (α : Type)
  /-- A shape with a label inside of another cell. -/
  | vertex (label : String) (style : Style α) (parent : Nat) (area : Area α)
  /-- A line with a label between two cells, through some points. -/
  | edge (label : String) (style : Style α) (source target : Nat) (points : List (Point α))
  /-- A text beside a line, at its start for -1 and at its end for 1. -/
  | edgeLabel (label : String) (edge : Nat) (position : α)
deriving Repr, DecidableEq

/-- The number of the layer that every cell without a group lies in. -/
def layer : Nat :=
  1

/-- The number of the first cell of a graph; the root and the layer stand before it. -/
def firstNumber : Nat :=
  2

/-- A graph that is being built. -/
structure Graph (α : Type) where
  cells : List (Cell α) := []
  /-- The numbers of the cells that stand for elements, the latest first. -/
  elements : List (String × Nat) := []
deriving Repr, DecidableEq

namespace Graph

variable {α : Type}

/-- The number that the next cell will have. -/
def next (g : Graph α) : Nat :=
  firstNumber + g.cells.length

def add (g : Graph α) (cells : List (Cell α)) : Graph α :=
  { g with cells := g.cells ++ cells }

/-- Adds a cell that stands for an element. -/
def addElement (g : Graph α) (name : String) (cell : Cell α) : Graph α where
  cells := g.cells ++ [cell]
  elements := (name, g.next) :: g.elements

/-- The number of the cell that shows an element. -/
def number (g : Graph α) (name : String) : Except LayoutFault Nat :=
  match g.elements.lookup name with
  | some number => .ok number
  | none => .error (.undrawn name)

end Graph

end DiagramMarkup.Drawio
