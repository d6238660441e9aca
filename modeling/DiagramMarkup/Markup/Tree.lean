import DiagramMarkup.Geometry.Bounds

/-! # Markup trees

Documents are built as trees of elements, and become texts only when they are printed. Attributes may
hold numbers, which the printer writes.
-/

namespace DiagramMarkup

namespace Markup

/-- A part of the value of an attribute. Numbers stay numbers until they are printed. -/
inductive Piece (α : Type)
  | text (s : String)
  | number (x : α)
deriving Repr, DecidableEq

/-- A named value in the tag of an element. -/
structure Attribute (α : Type) where
  name : String
  value : List (Piece α)
deriving Repr, DecidableEq

namespace Attribute

variable {α : Type}

def text (name value : String) : Attribute α :=
  ⟨name, [.text value]⟩

def number (name : String) (x : α) : Attribute α :=
  ⟨name, [.number x]⟩

/-- A point, its coordinates with a comma between them. -/
def pointPieces (p : Point α) : List (Piece α) :=
  [.number p.x, .text ",", .number p.y]

/-- An attribute whose value is a row of points. -/
def points (name : String) (ps : List (Point α)) : Attribute α :=
  ⟨name, (ps.map pointPieces).intersperse [.text " "] |>.flatten⟩

end Attribute

end Markup

/-- An element with attributes and children, or a text. -/
inductive Markup (α : Type)
  | element (name : String) (attributes : List (Markup.Attribute α)) (children : List (Markup α))
  | text (s : String)
deriving Repr, Inhabited

end DiagramMarkup
