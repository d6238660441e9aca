import DiagramMarkup.Diagram.Table
import DiagramMarkup.Geometry.Box

/-! # Layouts

A layout says where every element of a diagram is drawn. It is computed around any origin and then
moved onto the margin of the canvas.
-/

namespace DiagramMarkup

open Scalar

/-- The vertical order of a sequence: the heads, the rows of the steps, and the end of the
lifelines. -/
structure Timeline (α : Type) where
  top : α
  headHeight : α
  /-- The middle of the row of every step. -/
  rows : List α
  lifelineEnd : α
  left : α
  right : α
deriving Repr, DecidableEq

namespace Timeline

variable {α : Type} [Scalar α]

def bounds (t : Timeline α) : Bounds α :=
  ⟨t.left, t.top, t.right, t.lifelineEnd⟩

def shift (dx dy : α) (t : Timeline α) : Timeline α where
  top := t.top + dy
  headHeight := t.headHeight
  rows := t.rows.map fun row => row + dy
  lifelineEnd := t.lifelineEnd + dy
  left := t.left + dx
  right := t.right + dx

/-- The part of a lifeline that lies above a height, between zero and one. -/
def partAbove (t : Timeline α) (y : α) : α :=
  let length := t.lifelineEnd - t.top
  if length ≤ 0 then 0 else fraction ((y - t.top) / length)

end Timeline

/-- Where the elements of a diagram are drawn. Notes have boxes like nodes. -/
structure Layout (α : Type) where
  boxes : Table (Box α) := .empty
  lanes : List (Frame α) := []
  groups : List (Frame α) := []
  timeline : Option (Timeline α) := none
  bounds : Bounds α
deriving Repr, DecidableEq

namespace Layout

variable {α : Type} [Scalar α]

def empty : Layout α where
  bounds := ⟨0, 0, 0, 0⟩

/-- The bounds of everything that has a place. -/
def contents (l : Layout α) : List (Bounds α) :=
  l.boxes.values.map Box.bounds ++ l.lanes.map Frame.bounds ++ l.groups.map Frame.bounds ++
    l.timeline.toList.map Timeline.bounds

def shift (dx dy : α) (l : Layout α) : Layout α where
  boxes := l.boxes.map (Box.shift dx dy)
  lanes := l.lanes.map (Frame.shift dx dy)
  groups := l.groups.map (Frame.shift dx dy)
  timeline := l.timeline.map (Timeline.shift dx dy)
  bounds := l.bounds

/-- Moves the content to a margin on the left and at the top, and leaves the margin at the other
sides of the canvas. -/
def finish (margin : α) (l : Layout α) : Layout α :=
  match Bounds.unionAll? l.contents with
  | none => l
  | some content =>
    let dx := margin - content.left
    let dy := margin - content.top
    let moved :=
      if epsilon < magnitude dx ∨ epsilon < magnitude dy then l.shift dx dy else l
    { moved with
      bounds := ⟨0, 0, content.width + margin * 2, content.height + margin * 2⟩ }

end Layout

end DiagramMarkup
