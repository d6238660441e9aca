/-! # Numbers to measure with

Positions and sizes are computed over any kind of numbers that has the four operations, an order and
decimal constants. Floating point numbers are what is drawn with; rational numbers are exact.
-/

namespace DiagramMarkup

/-- The numbers that lengths and coordinates are made of. -/
class Scalar (α : Type) extends Add α, Sub α, Mul α, Div α, Neg α, LT α, LE α, NatCast α,
    OfScientific α where
  literal (n : Nat) : OfNat α n
  decidableLT : DecidableLT α
  decidableLE : DecidableLE α

namespace Scalar

instance (priority := low) {α : Type} [Scalar α] {n : Nat} : OfNat α n :=
  literal n

instance (priority := low) {α : Type} [Scalar α] : DecidableLT α :=
  decidableLT

instance (priority := low) {α : Type} [Scalar α] : DecidableLE α :=
  decidableLE

instance : Scalar Float where
  natCast := Float.ofNat
  literal _ := inferInstance
  decidableLT := inferInstance
  decidableLE := inferInstance

instance : Scalar Rat where
  literal _ := inferInstance
  decidableLT := inferInstance
  decidableLE := inferInstance

variable {α : Type} [Scalar α]

/-- The larger of two numbers; a value that cannot be compared yields to the other one. -/
def larger (a b : α) : α :=
  if a < b ∨ ¬a ≤ a then b else a

/-- The smaller of two numbers; a value that cannot be compared yields to the other one. -/
def smaller (a b : α) : α :=
  if b < a ∨ ¬a ≤ a then b else a

/-- The largest of some numbers that are not negative. -/
def largest (numbers : List α) : α :=
  numbers.foldl larger 0

/-- The size of a number without its sign. -/
def magnitude (a : α) : α :=
  if a < 0 then -a else a

/-- Distances below this one count as none: the gap between one and the next larger floating point
number. -/
def epsilon : α :=
  1 / 4503599627370496

/-- The nearest number between zero and one. -/
def fraction (a : α) : α :=
  if a < 0 then 0 else if 1 < a then 1 else a

end Scalar

end DiagramMarkup
