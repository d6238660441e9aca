import DiagramMarkup.Proofs.Geometry.Exact
import Mathlib.Algebra.Order.Ring.Abs

/-! # The way out of a box

The way from the centre of a box to a target ends at the target where that is in the box, and at the
border of the box otherwise. Only a target that hardly differs from the centre is not gone to. A way
that hardly moves along an axis is not limited on that axis, and in a box that is not tiny it need
not be.
-/

namespace DiagramMarkup

open Scalar

namespace Point

/-- The point that some part of the way from one point to another leads to. -/
def along (a b : Point Rat) (part : Rat) : Point Rat :=
  ⟨a.x + (b.x - a.x) * part, a.y + (b.y - a.y) * part⟩

/-- A point lies on the segment between two others. -/
def Between (a b p : Point Rat) : Prop :=
  ∃ part, 0 ≤ part ∧ part ≤ 1 ∧ p = a.along b part

variable (a b : Point Rat)

theorem along_zero : a.along b 0 = a := by
  simp only [along, mul_zero, add_zero]

theorem along_one : a.along b 1 = b := by
  simp only [along, mul_one, add_sub_cancel]

end Point

/-- A point lies on the border of a rectangle. -/
def Bounds.Borders (b : Bounds Rat) (p : Point Rat) : Prop :=
  b.Covers p ∧ ¬ b.Surrounds p

theorem Scalar.epsilon_pos : (0 : Rat) < epsilon := by
  decide +kernel

namespace Box

/-! ## One axis -/

/-- How much of a way can be gone until it passes a side. -/
def limit (side way : Rat) : Rat :=
  (reach? side way).getD 1

section Axis

variable {side way part : Rat}

theorem limit_of_far (far : epsilon < |way|) : limit side way = side / |way| := by
  rw [limit, reach?, magnitude_eq_abs, if_pos far, Option.getD_some]

theorem limit_of_close (close : |way| ≤ epsilon) : limit side way = 1 := by
  rw [limit, reach?, magnitude_eq_abs, if_neg (not_lt_of_ge close), Option.getD_none]

theorem limit_pos (room : epsilon ≤ side) : 0 < limit side way := by
  rcases lt_or_ge epsilon |way| with far | close
  · rw [limit_of_far far]
    exact div_pos (epsilon_pos.trans_le room) (epsilon_pos.trans far)
  · rw [limit_of_close close]
    exact one_pos

theorem abs_mul_le_of_le_limit (room : epsilon ≤ side) (start : 0 ≤ part) (stop : part ≤ 1)
    (before : part ≤ limit side way) : |way * part| ≤ side := by
  rw [abs_mul, abs_of_nonneg start]
  rcases lt_or_ge epsilon |way| with far | close
  · rw [limit_of_far far, le_div_iff₀ (epsilon_pos.trans far)] at before
    rwa [mul_comm]
  · -- nothing limits such a way, but it is too short to pass the side
    calc
      |way| * part ≤ |way| := mul_le_of_le_one_right (abs_nonneg way) stop
      _ ≤ side := close.trans room

/-- A way that cannot be gone to its end is at the side where its limit is. -/
theorem abs_mul_limit (room : epsilon ≤ side) (limited : limit side way < 1) :
    |way * limit side way| = side := by
  rw [abs_mul, abs_of_pos (limit_pos room)]
  rcases lt_or_ge epsilon |way| with far | close
  · rw [limit_of_far far]
    exact mul_div_cancel₀ side (epsilon_pos.trans far).ne'
  · exact absurd (limit_of_close close) limited.ne

/-- A way can be gone to its end exactly if that is not beyond the side. -/
theorem one_le_limit_iff (room : epsilon ≤ side) : 1 ≤ limit side way ↔ |way| ≤ side := by
  rcases lt_or_ge epsilon |way| with far | close
  · rw [limit_of_far far, one_le_div₀ (epsilon_pos.trans far)]
  · rw [limit_of_close close]
    exact iff_of_true (le_refl 1) (close.trans room)

end Axis

/-! ## Both axes -/

def centre (b : Box Rat) : Point Rat :=
  ⟨b.x, b.y⟩

/-- A target hardly differs from the centre of a box. -/
def Near (b : Box Rat) (target : Point Rat) : Prop :=
  |target.x - b.x| < epsilon ∧ |target.y - b.y| < epsilon

/-- How much of the way to a target can be gone until it leaves the box. -/
def part (b : Box Rat) (target : Point Rat) : Rat :=
  min (min (limit (b.width / 2) (target.x - b.x)) (limit (b.height / 2) (target.y - b.y))) 1

variable {b : Box Rat} {target p : Point Rat}

theorem covers_iff :
    b.bounds.Covers p ↔ |p.x - b.x| ≤ b.width / 2 ∧ |p.y - b.y| ≤ b.height / 2 := by
  have axis (c middle half : Rat) :
      |c - middle| ≤ half ↔ middle - half ≤ c ∧ c ≤ middle + half := by
    rw [abs_sub_le_iff, sub_le_iff_le_add', sub_le_comm, and_comm]
  rw [axis, axis, and_assoc]
  rfl

theorem surrounds_iff :
    b.bounds.Surrounds p ↔ |p.x - b.x| < b.width / 2 ∧ |p.y - b.y| < b.height / 2 := by
  have axis (c middle half : Rat) :
      |c - middle| < half ↔ middle - half < c ∧ c < middle + half := by
    rw [abs_sub_lt_iff, sub_lt_iff_lt_add', sub_lt_comm, and_comm]
  rw [axis, axis, and_assoc]
  rfl

theorem borderPoint_of_near (near : b.Near target) : b.borderPoint target = b.centre := by
  unfold borderPoint
  simp only [magnitude_eq_abs]
  exact if_pos near

theorem elim_smaller? (a b : Option Rat) :
    (smaller? a b).elim 1 (smaller · 1) = min (min (a.getD 1) (b.getD 1)) 1 := by
  cases a with
  | none =>
      cases b with
      | none => simp only [smaller?, Option.elim_none, Option.getD_none, min_self]
      | some b =>
          simp only [smaller?, Option.elim_some, smaller_eq_min, Option.getD_none, Option.getD_some,
            min_comm 1 b, min_assoc, min_self]
  | some a =>
      cases b with
      | none =>
          simp only [smaller?, Option.elim_some, smaller_eq_min, Option.getD_none, Option.getD_some,
            min_assoc, min_self]
      | some b => simp only [smaller?, Option.elim_some, smaller_eq_min, Option.getD_some]

theorem borderPoint_of_far (far : ¬ b.Near target) :
    b.borderPoint target = b.centre.along target (b.part target) := by
  let across := reach? (b.width / 2) (target.x - b.x)
  let down := reach? (b.height / 2) (target.y - b.y)
  have gone : b.borderPoint target =
      b.centre.along target ((smaller? across down).elim 1 (smaller · 1)) := by
    unfold borderPoint
    simp only [magnitude_eq_abs]
    refine (if_neg far).trans ?_
    cases smaller? across down <;> rfl
  rw [gone, elim_smaller?]
  rfl

/-- The way from the centre of a box to a target ends at a point: one in the box and on the way,
which is the target itself if that is in the box, and on the border if it is not. Near the centre,
it is the centre. -/
structure Clips (b : Box Rat) (target p : Point Rat) : Prop where
  between : b.centre.Between target p
  covered : b.bounds.Covers p
  near : b.Near target → p = b.centre
  reached : ¬ b.Near target → b.bounds.Covers target → p = target
  border : ¬ b.bounds.Covers target → b.bounds.Borders p

section Room

variable (room : epsilon ≤ b.width / 2 ∧ epsilon ≤ b.height / 2)

include room

theorem covers_centre : b.bounds.Covers b.centre := by
  simp only [covers_iff, centre, sub_self, abs_zero]
  exact ⟨epsilon_pos.le.trans room.1, epsilon_pos.le.trans room.2⟩

theorem covers_of_near (near : b.Near target) : b.bounds.Covers target :=
  covers_iff.mpr ⟨near.1.le.trans room.1, near.2.le.trans room.2⟩

theorem part_nonneg : 0 ≤ b.part target :=
  le_min (le_min (limit_pos room.1).le (limit_pos room.2).le) zero_le_one

theorem part_eq_one (covered : b.bounds.Covers target) : b.part target = 1 := by
  obtain ⟨across, down⟩ := covers_iff.mp covered
  exact min_eq_right (le_min ((one_le_limit_iff room.1).mpr across)
    ((one_le_limit_iff room.2).mpr down))

theorem covers_along : b.bounds.Covers (b.centre.along target (b.part target)) := by
  have start : 0 ≤ b.part target := part_nonneg room
  have stop : b.part target ≤ 1 := min_le_right _ _
  have limited : b.part target ≤ min (limit (b.width / 2) (target.x - b.x))
    (limit (b.height / 2) (target.y - b.y)) := min_le_left _ _
  simp only [covers_iff, Point.along, centre, add_sub_cancel_left]
  exact ⟨abs_mul_le_of_le_limit room.1 start stop (limited.trans (min_le_left _ _)),
    abs_mul_le_of_le_limit room.2 start stop (limited.trans (min_le_right _ _))⟩

/-- The way to a target outside of the box ends where one of the axes is at its limit. -/
theorem not_surrounds_along (outside : ¬ b.bounds.Covers target) :
    ¬ b.bounds.Surrounds (b.centre.along target (b.part target)) := by
  rw [covers_iff, ← one_le_limit_iff room.1, ← one_le_limit_iff room.2, ← le_min_iff, not_le]
    at outside
  rw [part, min_eq_left outside.le, surrounds_iff]
  simp only [Point.along, centre, add_sub_cancel_left]
  rintro ⟨across, down⟩
  rcases min_choice (limit (b.width / 2) (target.x - b.x)) (limit (b.height / 2) (target.y - b.y))
    with first | first
  · rw [first] at outside across
    exact across.ne (abs_mul_limit room.1 outside)
  · rw [first] at outside down
    exact down.ne (abs_mul_limit room.2 outside)

end Room

/-- In a box that is not tiny, the way to any target ends as it should, however little the target
differs from the centre on one of the axes. -/
theorem clips_borderPoint (b : Box Rat) (wide : 2 * epsilon ≤ b.width)
    (high : 2 * epsilon ≤ b.height) (target : Point Rat) :
    b.Clips target (b.borderPoint target) := by
  have room : epsilon ≤ b.width / 2 ∧ epsilon ≤ b.height / 2 := ⟨by linarith, by linarith⟩
  by_cases near : b.Near target
  · rw [borderPoint_of_near near]
    exact {
      between := ⟨0, le_refl 0, zero_le_one, (Point.along_zero ..).symm⟩
      covered := covers_centre room
      near := fun _ => rfl
      reached := fun far => absurd near far
      border := fun outside => absurd (covers_of_near room near) outside }
  · rw [borderPoint_of_far near]
    exact {
      between := ⟨b.part target, part_nonneg room, min_le_right _ _, rfl⟩
      covered := covers_along room
      near := fun close => absurd close near
      reached := fun _ covered => by rw [part_eq_one room covered, Point.along_one]
      border := fun outside => ⟨covers_along room, not_surrounds_along room outside⟩ }

/-- A way to a target on the right that leaves through the right side. -/
theorem clips_borderPoint_right :
    let b : Box Rat := ⟨0, 0, 100, 40⟩
    2 * epsilon ≤ b.width ∧ 2 * epsilon ≤ b.height ∧ b.borderPoint ⟨200, 30⟩ = ⟨50, 15 / 2⟩ ∧
      b.Clips ⟨200, 30⟩ (b.borderPoint ⟨200, 30⟩) :=
  have wide : 2 * epsilon ≤ (100 : Rat) := by decide +kernel
  have high : 2 * epsilon ≤ (40 : Rat) := by decide +kernel
  ⟨wide, high, by decide +kernel, clips_borderPoint ⟨0, 0, 100, 40⟩ wide high ⟨200, 30⟩⟩

end Box

end DiagramMarkup
