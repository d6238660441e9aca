import DiagramMarkup.Diagram.Classes
import DiagramMarkup.Layout.Basic

/-! # What the drawings of a layout share

The colours of the shapes, and the faults that a layout can have. A drawing asks a layout for the box
of an element and stops where there is none.
-/

namespace DiagramMarkup

/-- The colours of a shape. -/
structure Colors where
  fill : String
  stroke : String
deriving Repr, DecidableEq

namespace Palette

/-- Most elements. -/
def blue : Colors :=
  ⟨"#dae8fc", "#6c8ebf"⟩

/-- Interfaces. -/
def green : Colors :=
  ⟨"#d5e8d4", "#82b366"⟩

/-- Abstract classes, choices and notes. -/
def yellow : Colors :=
  ⟨"#fff2cc", "#d6b656"⟩

/-- Enumerations. -/
def violet : Colors :=
  ⟨"#e1d5e7", "#9673a6"⟩

/-- Entities and merges. -/
def gray : Colors :=
  ⟨"#f5f5f5", "#666666"⟩

end Palette

def ClassKind.colors : ClassKind → Colors
  | .interface => Palette.green
  | .abstract => Palette.yellow
  | .enumeration => Palette.violet
  | _ => Palette.blue

/-- Why a layout cannot be drawn. -/
inductive LayoutFault
  /-- An element has no place. -/
  | unplaced (name : String)
  /-- A line ends at an element that was not drawn. -/
  | undrawn (name : String)
  /-- A sequence has no rows. -/
  | noTimeline
deriving Repr, DecidableEq

namespace LayoutFault

/-- What is wrong with a layout, in words. -/
def reason : LayoutFault → String
  | unplaced name => s!"node {name} has no coordinates"
  | undrawn name => s!"edge endpoint {name} was never emitted"
  | noTimeline => "sequence diagram laid out without rows"

def message (fault : LayoutFault) : String :=
  "invalid diagram model: " ++ fault.reason

end LayoutFault

/-- The box of an element that must have a place. -/
def Layout.require {α : Type} (l : Layout α) (name : String) : Except LayoutFault (Box α) :=
  match l.boxes.get? name with
  | some box => .ok box
  | none => .error (.unplaced name)

end DiagramMarkup
