import DiagramMarkup.Geometry.Bounds

/-! # Boxes

A box is known by its centre and its size, and a frame by its upper left corner and its size.
-/

namespace DiagramMarkup

open Scalar

structure Size (α : Type) where
  width : α
  height : α
deriving Repr, DecidableEq

/-- A rectangle around a centre. -/
structure Box (α : Type) where
  x : α
  y : α
  width : α
  height : α
deriving Repr, DecidableEq

namespace Box

variable {α : Type} [Scalar α]

def left (b : Box α) : α :=
  b.x - b.width / 2

def top (b : Box α) : α :=
  b.y - b.height / 2

def right (b : Box α) : α :=
  b.x + b.width / 2

def bottom (b : Box α) : α :=
  b.y + b.height / 2

def bounds (b : Box α) : Bounds α :=
  ⟨b.left, b.top, b.right, b.bottom⟩

def shift (dx dy : α) (b : Box α) : Box α :=
  { b with x := b.x + dx, y := b.y + dy }

/-- The part of a way from the centre at which a side is reached, given the distance of the side and
the length of the way; a way that hardly moves does not reach it. -/
def reach? (side way : α) : Option α :=
  if epsilon < magnitude way then some (side / magnitude way) else none

/-- The smaller of two numbers that may be missing. -/
def smaller? : Option α → Option α → Option α
  | some a, some b => some (smaller a b)
  | some a, none => some a
  | none, b => b

/-- The point where the way from the centre to a target leaves the box; a target inside of the box is
reached. -/
def borderPoint (b : Box α) (target : Point α) : Point α :=
  let dx := target.x - b.x
  let dy := target.y - b.y
  if magnitude dx < epsilon ∧ magnitude dy < epsilon then ⟨b.x, b.y⟩
  else
    let part :=
      match smaller? (reach? (b.width / 2) dx) (reach? (b.height / 2) dy) with
      | some part => smaller part 1
      | none => 1
    ⟨b.x + dx * part, b.y + dy * part⟩

end Box

/-- A named frame around elements, by its upper left corner and its size. -/
structure Frame (α : Type) where
  name : String
  left : α
  top : α
  width : α
  height : α
deriving Repr, DecidableEq

namespace Frame

variable {α : Type} [Scalar α]

def bounds (f : Frame α) : Bounds α :=
  ⟨f.left, f.top, f.left + f.width, f.top + f.height⟩

def shift (dx dy : α) (f : Frame α) : Frame α :=
  { f with left := f.left + dx, top := f.top + dy }

/-- A frame around some content, with room at all sides and a strip above for its title. -/
def around (name : String) (content : Bounds α) (padding title : α) : Frame α where
  name := name
  left := content.left - padding
  top := content.top - padding - title
  width := content.width + padding * 2
  height := content.height + padding * 2 + title

end Frame

end DiagramMarkup
