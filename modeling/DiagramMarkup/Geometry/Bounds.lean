import DiagramMarkup.Geometry.Scalar

/-! # Bounds

The axis-parallel rectangle that some points or other rectangles span.
-/

namespace DiagramMarkup

open Scalar

/-- A point of the plane; the second coordinate grows downwards. -/
structure Point (α : Type) where
  x : α
  y : α
deriving Repr, DecidableEq

/-- The rectangle between two opposite corners. -/
structure Bounds (α : Type) where
  left : α
  top : α
  right : α
  bottom : α
deriving Repr, DecidableEq

namespace Bounds

variable {α : Type} [Scalar α]

def width (b : Bounds α) : α :=
  b.right - b.left

def height (b : Bounds α) : α :=
  b.bottom - b.top

/-- The least bounds that hold two others. -/
def union (a b : Bounds α) : Bounds α where
  left := smaller a.left b.left
  top := smaller a.top b.top
  right := larger a.right b.right
  bottom := larger a.bottom b.bottom

def ofPoint (p : Point α) : Bounds α :=
  ⟨p.x, p.y, p.x, p.y⟩

/-- The union of some bounds, if there are any. -/
def unionAll? : List (Bounds α) → Option (Bounds α)
  | [] => none
  | first :: rest => some (rest.foldl union first)

/-- The least bounds that hold some points, if there are any. -/
def ofPoints? (points : List (Point α)) : Option (Bounds α) :=
  unionAll? (points.map ofPoint)

end Bounds

end DiagramMarkup
