import DiagramMarkup.Geometry.Box
import Mathlib.Algebra.Order.Field.Rat
import Mathlib.Tactic.Linarith

/-! # Exact numbers

Rational numbers can all be compared, so that the larger of two is the same in either order. Two
rectangles are apart where no point lies inside of both; their borders may touch. One is outside of
another where it has no point inside of that one.
-/

namespace DiagramMarkup

namespace Scalar

theorem larger_eq_max (a b : Rat) : larger a b = max a b := by
  have same : (a < b ∨ ¬a ≤ a) ↔ a < b := or_iff_left (not_not.mpr (le_refl a))
  rw [max_def_lt]
  exact if_congr same rfl rfl

theorem smaller_eq_min (a b : Rat) : smaller a b = min a b := by
  have same : (b < a ∨ ¬a ≤ a) ↔ b < a := or_iff_left (not_not.mpr (le_refl a))
  rw [min_comm, min_def_lt]
  exact if_congr same rfl rfl

theorem magnitude_eq_abs (a : Rat) : magnitude a = |a| := by
  rcases lt_or_ge a 0 with negative | other
  · exact (if_pos negative).trans (abs_of_neg negative).symm
  · exact (if_neg (not_lt_of_ge other)).trans (abs_of_nonneg other).symm

theorem le_foldl_larger (numbers : List Rat) (a : Rat) :
    a ≤ numbers.foldl larger a ∧ ∀ b ∈ numbers, b ≤ numbers.foldl larger a := by
  induction numbers generalizing a with
  | nil => exact ⟨le_refl a, fun _ member => absurd member List.not_mem_nil⟩
  | cons b numbers ih =>
      obtain ⟨kept, others⟩ := ih (larger a b)
      rw [larger_eq_max] at kept others
      rw [List.foldl_cons, larger_eq_max]
      exact ⟨(le_max_left a b).trans kept,
        List.forall_mem_cons.mpr ⟨(le_max_right a b).trans kept, others⟩⟩

theorem largest_nonneg (numbers : List Rat) : 0 ≤ largest numbers :=
  (le_foldl_larger numbers 0).1

theorem le_largest {numbers : List Rat} {a : Rat} (member : a ∈ numbers) : a ≤ largest numbers :=
  (le_foldl_larger numbers 0).2 a member

end Scalar

/-! ## Sides -/

namespace Box

variable (b : Box Rat)

theorem left_eq : b.left = b.x - b.width / 2 := rfl

theorem right_eq : b.right = b.x + b.width / 2 := rfl

variable {b} {y : Rat}

/-- A box that is hung up at some height begins there. -/
theorem top_of_hung (hung : b.y = y + b.height / 2) : b.top = y := by
  rw [top, hung, add_sub_cancel_right]

theorem bottom_of_hung (hung : b.y = y + b.height / 2) : b.bottom = y + b.height := by
  rw [bottom, hung, add_assoc, add_halves]

end Box

/-! ## Rectangles without a common inside -/

namespace Bounds

/-- A point lies inside of a rectangle and not on its border. -/
def Surrounds (b : Bounds Rat) (p : Point Rat) : Prop :=
  b.left < p.x ∧ p.x < b.right ∧ b.top < p.y ∧ p.y < b.bottom

/-- A point lies inside of a rectangle or on its border. -/
def Covers (b : Bounds Rat) (p : Point Rat) : Prop :=
  b.left ≤ p.x ∧ p.x ≤ b.right ∧ b.top ≤ p.y ∧ p.y ≤ b.bottom

/-- No point lies inside of both rectangles. -/
def Apart (a b : Bounds Rat) : Prop :=
  ∀ p, ¬ (a.Surrounds p ∧ b.Surrounds p)

/-- No point of a rectangle, not even one on its border, lies inside of another one. -/
def Outside (a b : Bounds Rat) : Prop :=
  ∀ p, ¬ (a.Covers p ∧ b.Surrounds p)

/-- A rectangle does not reach beyond any side of another one. -/
structure Within (a b : Bounds Rat) : Prop where
  left : b.left ≤ a.left
  top : b.top ≤ a.top
  right : a.right ≤ b.right
  bottom : a.bottom ≤ b.bottom

variable {a b c : Bounds Rat}

theorem apart_of_right_le_left (beside : a.right ≤ b.left) : a.Apart b := by
  rintro p ⟨⟨_, right, _⟩, left, _⟩
  linarith

theorem apart_of_bottom_le_top (above : a.bottom ≤ b.top) : a.Apart b := by
  rintro p ⟨⟨_, _, _, bottom⟩, _, _, top, _⟩
  linarith

theorem outside_of_above (above : a.bottom ≤ b.top) : a.Outside b := by
  rintro p ⟨⟨_, _, _, bottom⟩, _, _, top, _⟩
  linarith

theorem outside_of_below (below : b.bottom ≤ a.top) : a.Outside b := by
  rintro p ⟨⟨_, _, top, _⟩, _, _, _, bottom⟩
  linarith

theorem Within.refl (a : Bounds Rat) : a.Within a :=
  ⟨le_refl _, le_refl _, le_refl _, le_refl _⟩

theorem Within.trans (first : a.Within b) (second : b.Within c) : a.Within c where
  left := second.left.trans first.left
  top := second.top.trans first.top
  right := first.right.trans second.right
  bottom := first.bottom.trans second.bottom

theorem Within.antisymm (first : a.Within b) (second : b.Within a) : a = b :=
  (Bounds.mk.injEq ..).mpr ⟨le_antisymm second.left first.left, le_antisymm second.top first.top,
    le_antisymm first.right second.right, le_antisymm first.bottom second.bottom⟩

end Bounds

end DiagramMarkup
