import DiagramMarkup.Geometry.Box
import DiagramMarkup.Text.Cut
import DiagramMarkup.Text.Width

/-! # The size of a text

A layout only needs to know how large a text is drawn. Here every column of the terminal takes the
same part of the font size, and so does every line.
-/

namespace DiagramMarkup

open Scalar

/-- Tells the size of a text. -/
abbrev Measure (α : Type) : Type :=
  String → Size α

/-- The lines of a text; there is always one. -/
def Text.lines (text : String) : List String :=
  (splitAt '\n' text.toList).map String.ofList

/-- The part of the font size that a column and a line take; a factor of zero stands for the usual
one. -/
structure CellFactors (α : Type) where
  width : α
  height : α
deriving Repr, DecidableEq

namespace CellFactors

variable {α : Type} [Scalar α]

def standard : CellFactors α :=
  ⟨0, 0⟩

/-- A factor, or the usual one where it is zero. -/
def orUsual (factor usual : α) : α :=
  if factor ≤ 0 ∧ 0 ≤ factor then usual else factor

/-- The columns of the widest line of a text. -/
def widestLine (text : String) : Nat :=
  ((Text.lines text).map fun line => Text.width line.toList).foldl max 0

/-- The size of a text in a font of at least size one. -/
def measure (factors : CellFactors α) (fontSize : α) : Measure α := fun text =>
  let size := larger fontSize 1
  { width := (widestLine text : α) * size * orUsual factors.width 0.6
    height := ((Text.lines text).length : α) * size * orUsual factors.height 1.2 }

end CellFactors

end DiagramMarkup
