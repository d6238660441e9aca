import DiagramMarkup.Proofs.Layout.Frames

/-! # The margins of a finished layout

A finished layout is the one that was computed, moved until it begins at the margin on the left and at
the top; its canvas leaves the margin at the other two sides as well. Only what is off by less than
numbers can tell is not moved. A finished layout stays as it is when it is finished once more.
-/

namespace DiagramMarkup

open Scalar

namespace Layout

/-! ## What finishing says -/

/-- Every part of a layout stands at one distance from where it stands in another one, and is as large
as there. -/
structure MovedBy (dx dy : Rat) (l moved : Layout Rat) : Prop where
  boxes : moved.boxes.entries =
    l.boxes.entries.map fun (name, b) => (name, ⟨b.x + dx, b.y + dy, b.width, b.height⟩)
  lanes : moved.lanes =
    l.lanes.map fun f => ⟨f.name, f.left + dx, f.top + dy, f.width, f.height⟩
  groups : moved.groups =
    l.groups.map fun f => ⟨f.name, f.left + dx, f.top + dy, f.width, f.height⟩
  timeline : moved.timeline = l.timeline.map fun t =>
    { top := t.top + dy
      headHeight := t.headHeight
      rows := t.rows.map fun row => row + dy
      lifelineEnd := t.lifelineEnd + dy
      left := t.left + dx
      right := t.right + dx }

/-- The rectangles of a layout: its boxes, its lanes and frames, and the area of its lifelines. -/
inductive Occupies (l : Layout Rat) : Bounds Rat → Prop
  | box {box : Box Rat} (member : box ∈ l.boxes.values) : Occupies l box.bounds
  | lane {lane : Frame Rat} (member : lane ∈ l.lanes) : Occupies l lane.bounds
  | group {group : Frame Rat} (member : group ∈ l.groups) : Occupies l group.bounds
  | lifelines {t : Timeline Rat} (timed : l.timeline = some t) :
      Occupies l ⟨t.left, t.top, t.right, t.lifelineEnd⟩

/-- The rectangles of a layout lie between the margins of its canvas and reach all four of them, up to
a tolerance. -/
structure FillsMargins (margin tolerance : Rat) (l : Layout Rat) : Prop where
  origin : l.bounds.left = 0 ∧ l.bounds.top = 0
  within : ∀ b, l.Occupies b → b.Within
    ⟨margin - tolerance, margin - tolerance,
      l.bounds.right - margin + tolerance, l.bounds.bottom - margin + tolerance⟩
  left : ∃ b, l.Occupies b ∧ |b.left - margin| ≤ tolerance
  top : ∃ b, l.Occupies b ∧ |b.top - margin| ≤ tolerance
  right : ∃ b, l.Occupies b ∧ |b.right - (l.bounds.right - margin)| ≤ tolerance
  bottom : ∃ b, l.Occupies b ∧ |b.bottom - (l.bounds.bottom - margin)| ≤ tolerance

/-! ## The canvas around some content -/

variable {margin tolerance dx dy : Rat} {l : Layout Rat} {content b : Bounds Rat}

theorem movedBy_shift (l : Layout Rat) (dx dy : Rat) (bounds : Bounds Rat) :
    MovedBy dx dy l { l.shift dx dy with bounds } where
  boxes := rfl
  lanes := rfl
  groups := rfl
  timeline := rfl

theorem occupies_iff : l.Occupies b ↔ b ∈ l.contents := by
  simp only [contents, List.mem_append, List.mem_map, Option.mem_toList]
  constructor
  · rintro (⟨member⟩ | ⟨member⟩ | ⟨member⟩ | ⟨timed⟩)
    · exact .inl (.inl (.inl ⟨_, member, rfl⟩))
    · exact .inl (.inl (.inr ⟨_, member, rfl⟩))
    · exact .inl (.inr ⟨_, member, rfl⟩)
    · exact .inr ⟨_, timed, rfl⟩
  · rintro (((⟨box, member, rfl⟩ | ⟨lane, member, rfl⟩) | ⟨group, member, rfl⟩) | ⟨t, timed, rfl⟩)
    · exact .box member
    · exact .lane member
    · exact .group member
    · exact .lifelines timed

/-- The canvas that has a margin around some content. -/
def canvas (margin : Rat) (content : Bounds Rat) : Bounds Rat :=
  ⟨0, 0, content.width + margin * 2, content.height + margin * 2⟩

theorem canvas_shift (margin dx dy : Rat) (content : Bounds Rat) :
    canvas margin (content.shift dx dy) = canvas margin content := by
  have width : (content.shift dx dy).width = content.width := add_sub_add_right_eq_sub ..
  have height : (content.shift dx dy).height = content.height := add_sub_add_right_eq_sub ..
  rw [canvas, canvas, width, height]

/-- Content that begins near the margin fills the canvas around it. -/
theorem fillsMargins_of_isHull (isHull : content.IsHull l.contents)
    (measured : l.bounds = canvas margin content) (left : |content.left - margin| ≤ tolerance)
    (top : |content.top - margin| ≤ tolerance) : FillsMargins margin tolerance l := by
  have right : content.right - (l.bounds.right - margin) = content.left - margin := by
    simp only [measured, canvas, Bounds.width]
    ring
  have bottom : content.bottom - (l.bounds.bottom - margin) = content.top - margin := by
    simp only [measured, canvas, Bounds.height]
    ring
  have reached {view : Bounds Rat → Rat} {side : Rat} (tight : ∃ b ∈ l.contents, view b = view content)
      (near : |view content - side| ≤ tolerance) : ∃ b, l.Occupies b ∧ |view b - side| ≤ tolerance := by
    obtain ⟨b, member, same⟩ := tight
    exact ⟨b, occupies_iff.mpr member, same ▸ near⟩
  constructor
  case origin => rw [measured]; exact ⟨rfl, rfl⟩
  case within =>
    intro b occupied
    have within := isHull.holds b (occupies_iff.mp occupied)
    obtain ⟨leftBelow, leftAbove⟩ := abs_le.mp left
    obtain ⟨topBelow, topAbove⟩ := abs_le.mp top
    refine within.trans ⟨?_, ?_, ?_, ?_⟩ <;> dsimp only <;> linarith
  case left => exact reached isHull.left left
  case top => exact reached isHull.top top
  case right => exact reached isHull.right (right ▸ left)
  case bottom => exact reached isHull.bottom (bottom ▸ top)

/-! ## Near the margin or far from it -/

/-- Some content begins so near to the margin that it is not moved. -/
def IsNear (margin : Rat) (content : Bounds Rat) : Prop :=
  |content.left - margin| ≤ epsilon ∧ |content.top - margin| ≤ epsilon

theorem isNear_iff : IsNear margin content ↔
    ¬ (epsilon < magnitude (margin - content.left) ∨ epsilon < magnitude (margin - content.top)) := by
  rw [magnitude_eq_abs, magnitude_eq_abs, not_or, not_lt, not_lt, abs_sub_comm margin,
    abs_sub_comm margin]
  rfl

/-- Some content begins just at the margin. -/
def IsAt (margin : Rat) (content : Bounds Rat) : Prop :=
  content.left = margin ∧ content.top = margin

theorem isAt_shift (margin : Rat) (content : Bounds Rat) :
    IsAt margin (content.shift (margin - content.left) (margin - content.top)) :=
  ⟨add_sub_cancel .., add_sub_cancel ..⟩

theorem IsAt.offsets (isAt : IsAt margin content) :
    |content.left - margin| = 0 ∧ |content.top - margin| = 0 := by
  rw [isAt.1, isAt.2, sub_self, abs_zero]
  exact ⟨rfl, rfl⟩

theorem IsAt.isNear (isAt : IsAt margin content) : IsNear margin content := by
  have small : (0 : Rat) ≤ epsilon := by decide +kernel
  exact ⟨isAt.offsets.1.trans_le small, isAt.offsets.2.trans_le small⟩

theorem finish_of_isNear (found : Bounds.unionAll? l.contents = some content)
    (near : IsNear margin content) : l.finish margin = { l with bounds := canvas margin content } := by
  simp only [finish, found, if_neg (isNear_iff.mp near)]
  rfl

theorem finish_of_not_isNear (found : Bounds.unionAll? l.contents = some content)
    (far : ¬ IsNear margin content) :
    l.finish margin = { l.shift (margin - content.left) (margin - content.top) with
      bounds := canvas margin content } := by
  simp only [finish, found, if_pos (not_not.mp (mt isNear_iff.mpr far))]
  rfl

/-- The content of a layout is moved to the margin, unless it is near to it and stays. -/
theorem finish_cases (found : Bounds.unionAll? l.contents = some content) (margin : Rat) :
    ∃ dx dy, l.finish margin =
        { l.shift dx dy with bounds := canvas margin (content.shift dx dy) } ∧
      Bounds.unionAll? (l.finish margin).contents = some (content.shift dx dy) ∧
      (IsAt margin (content.shift dx dy) ∨
        dx = 0 ∧ dy = 0 ∧ IsNear margin (content.shift dx dy)) := by
  have moved (dx dy : Rat) : Bounds.unionAll? (l.shift dx dy).contents = some (content.shift dx dy) := by
    rw [contents_shift, Bounds.unionAll?_shift, found, Option.map_some]
  by_cases near : IsNear margin content
  · have stays : content.shift 0 0 = content :=
      (Bounds.mk.injEq ..).mpr ⟨add_zero _, add_zero _, add_zero _, add_zero _⟩
    refine ⟨0, 0, ?_⟩
    rw [shift_zero, stays, finish_of_isNear found near]
    exact ⟨rfl, found, .inr ⟨rfl, rfl, near⟩⟩
  · refine ⟨margin - content.left, margin - content.top, ?_⟩
    rw [canvas_shift, finish_of_not_isNear found near]
    exact ⟨rfl, moved _ _, .inl (isAt_shift margin content)⟩

theorem finish_finish (margin : Rat) (l : Layout Rat) :
    (l.finish margin).finish margin = l.finish margin := by
  cases found : Bounds.unionAll? l.contents with
  | none =>
      have same : l.finish margin = l := by simp only [finish, found]
      rw [same, same]
  | some content =>
      obtain ⟨dx, dy, same, found, place⟩ := finish_cases found margin
      have near : IsNear margin (content.shift dx dy) := by
        rcases place with isAt | ⟨_, _, near⟩
        · exact isAt.isNear
        · exact near
      rw [finish_of_isNear found near, same]

/-- Whatever is in a layout, finishing it moves all of it by one distance and changes no size. Then the
canvas begins at zero, and everything lies between its margins and reaches all four of them: exactly,
unless nothing was moved because the content began at the margin up to the tolerance. To finish the
layout once more changes nothing. -/
theorem fillsMargins_finish (margin : Rat) {l : Layout Rat} (occupied : ∃ b, l.Occupies b) :
    (∃ dx dy, MovedBy dx dy l (l.finish margin) ∧
      (FillsMargins margin 0 (l.finish margin) ∨
        dx = 0 ∧ dy = 0 ∧ FillsMargins margin epsilon (l.finish margin))) ∧
      (l.finish margin).finish margin = l.finish margin := by
  refine ⟨?_, finish_finish margin l⟩
  obtain ⟨b, occupied⟩ := occupied
  obtain ⟨content, found⟩ := Bounds.exists_unionAll? (occupies_iff.mp occupied)
  obtain ⟨dx, dy, same, found, place⟩ := finish_cases found margin
  have isHull := Bounds.isHull_unionAll? found
  have measured : (l.finish margin).bounds = canvas margin (content.shift dx dy) := by rw [same]
  have moved : MovedBy dx dy l (l.finish margin) := by
    rw [same]
    exact movedBy_shift l dx dy _
  refine ⟨dx, dy, moved, ?_⟩
  rcases place with isAt | ⟨still, still', near⟩
  · exact .inl (fillsMargins_of_isHull isHull measured isAt.offsets.1.le isAt.offsets.2.le)
  · exact .inr ⟨still, still', fillsMargins_of_isHull isHull measured near.1 near.2⟩

/-- A box, a lane, a frame and lifelines, each of which is the one that reaches farthest at one side. -/
theorem fillsMargins_finish_parts :
    let l : Layout Rat :=
      { boxes := .ofList [("A", ⟨-50, 0, 20, 30⟩)]
        lanes := [⟨"Shop", 0, -40, 30, 60⟩]
        groups := [⟨"P", 0, 0, 50, 100⟩]
        timeline := some ⟨-20, 10, [0, 30], 50, -5, 200⟩
        bounds := ⟨0, 0, 0, 0⟩ }
    (∃ b, l.Occupies b) ∧
      (∃ dx dy, MovedBy dx dy l (l.finish 10) ∧
        (FillsMargins 10 0 (l.finish 10) ∨
          dx = 0 ∧ dy = 0 ∧ FillsMargins 10 epsilon (l.finish 10))) ∧
        (l.finish 10).finish 10 = l.finish 10 := by
  intro l
  have occupied : ∃ b, l.Occupies b := ⟨_, .lane (List.mem_singleton_self _)⟩
  exact ⟨occupied, fillsMargins_finish 10 occupied⟩

-- What is off by no more than the tolerance is left where it is.
example :
    let lane : Frame Rat := ⟨"Shop", 10 + epsilon, 10, 30, 60⟩
    (({ empty with lanes := [lane] } : Layout Rat).finish 10).lanes = [lane] := by decide +kernel

end Layout

end DiagramMarkup
