import DiagramMarkup.Layout.Basic
import DiagramMarkup.Proofs.Geometry.Exact
import DiagramMarkup.Proofs.Tables
import Mathlib.Algebra.Order.Group.MinMax
import Mathlib.Tactic.Ring

/-! # Moving a layout as a whole

A finished layout is the one that was computed, with all of its parts moved by one distance. Rectangles
that are moved together have a union that is moved with them.
-/

namespace DiagramMarkup

open Scalar

variable {dx dy : Rat}

namespace Bounds

def shift (dx dy : Rat) (b : Bounds Rat) : Bounds Rat :=
  ⟨b.left + dx, b.top + dy, b.right + dx, b.bottom + dy⟩

theorem union_shift (a b : Bounds Rat) :
    (a.shift dx dy).union (b.shift dx dy) = (a.union b).shift dx dy := by
  simp only [union, shift, larger_eq_max, smaller_eq_min, max_add_add_right, min_add_add_right]

theorem unionAll?_shift (parts : List (Bounds Rat)) :
    unionAll? (parts.map (shift dx dy)) = (unionAll? parts).map (shift dx dy) := by
  have from_first (first : Bounds Rat) (rest : List (Bounds Rat)) :
      (rest.map (shift dx dy)).foldl union (first.shift dx dy) =
        (rest.foldl union first).shift dx dy := by
    induction rest generalizing first with
    | nil => rfl
    | cons b rest ih => rw [List.map_cons, List.foldl_cons, union_shift, ih, List.foldl_cons]
  cases parts with
  | nil => rfl
  | cons first rest => exact congrArg some (from_first first rest)

end Bounds

namespace Box

theorem bounds_shift (b : Box Rat) : (b.shift dx dy).bounds = b.bounds.shift dx dy := by
  have left : b.x + dx - b.width / 2 = b.x - b.width / 2 + dx := by ring
  have top : b.y + dy - b.height / 2 = b.y - b.height / 2 + dy := by ring
  have right : b.x + dx + b.width / 2 = b.x + b.width / 2 + dx := by ring
  have bottom : b.y + dy + b.height / 2 = b.y + b.height / 2 + dy := by ring
  exact (Bounds.mk.injEq ..).mpr ⟨left, top, right, bottom⟩

theorem left_shift (b : Box Rat) : (b.shift dx dy).left = b.left + dx :=
  congrArg Bounds.left b.bounds_shift

theorem top_shift (b : Box Rat) : (b.shift dx dy).top = b.top + dy :=
  congrArg Bounds.top b.bounds_shift

theorem right_shift (b : Box Rat) : (b.shift dx dy).right = b.right + dx :=
  congrArg Bounds.right b.bounds_shift

theorem bottom_shift (b : Box Rat) : (b.shift dx dy).bottom = b.bottom + dy :=
  congrArg Bounds.bottom b.bounds_shift

end Box

theorem Frame.bounds_shift (f : Frame Rat) : (f.shift dx dy).bounds = f.bounds.shift dx dy :=
  (Bounds.mk.injEq ..).mpr ⟨rfl, rfl, add_right_comm .., add_right_comm ..⟩

theorem Frame.around_shift (name : String) (content : Bounds Rat) (padding title : Rat) :
    Frame.around name (content.shift dx dy) padding title =
      (Frame.around name content padding title).shift dx dy := by
  have left : content.left + dx - padding = content.left - padding + dx := by ring
  have top : content.top + dy - padding - title = content.top - padding - title + dy := by ring
  have width : content.right + dx - (content.left + dx) + padding * 2 =
      content.right - content.left + padding * 2 := by ring
  have height : content.bottom + dy - (content.top + dy) + padding * 2 + title =
      content.bottom - content.top + padding * 2 + title := by ring
  exact (Frame.mk.injEq ..).mpr ⟨rfl, left, top, width, height⟩

namespace Layout

theorem shift_zero (l : Layout Rat) : l.shift 0 0 = l := by
  have box (b : Box Rat) : b.shift 0 0 = b :=
    (Box.mk.injEq ..).mpr ⟨add_zero b.x, add_zero b.y, rfl, rfl⟩
  have frame (f : Frame Rat) : f.shift 0 0 = f :=
    (Frame.mk.injEq ..).mpr ⟨rfl, add_zero f.left, add_zero f.top, rfl, rfl⟩
  have timeline (t : Timeline Rat) : t.shift 0 0 = t := by
    have rows : t.rows.map (fun row => row + 0) = t.rows := by
      simp only [add_zero, List.map_id']
    exact (Timeline.mk.injEq ..).mpr
      ⟨add_zero t.top, rfl, rows, add_zero t.lifelineEnd, add_zero t.left, add_zero t.right⟩
  have boxes : l.boxes.map (Box.shift 0 0) = l.boxes := by
    apply Table.ext_entries
    simp only [Table.map, box, Prod.mk.eta, List.map_id']
  have frames (fs : List (Frame Rat)) : fs.map (Frame.shift 0 0) = fs := by
    simp only [List.map_congr_left fun f _ => frame f, List.map_id']
  have timelines : l.timeline.map (Timeline.shift 0 0) = l.timeline := by
    cases l.timeline with
    | none => rfl
    | some t => exact congrArg some (timeline t)
  exact (Layout.mk.injEq ..).mpr ⟨boxes, frames l.lanes, frames l.groups, timelines, rfl⟩

theorem contents_shift (l : Layout Rat) :
    (l.shift dx dy).contents = l.contents.map (Bounds.shift dx dy) := by
  have boxes : (l.boxes.map (Box.shift dx dy)).values.map Box.bounds =
      (l.boxes.values.map Box.bounds).map (Bounds.shift dx dy) := by
    simp only [Table.map, Table.values, List.map_map, Function.comp_def, Box.bounds_shift]
  have frames (fs : List (Frame Rat)) : (fs.map (Frame.shift dx dy)).map Frame.bounds =
      (fs.map Frame.bounds).map (Bounds.shift dx dy) := by
    simp only [List.map_map, Function.comp_def, Frame.bounds_shift]
  have timelines : (l.timeline.map (Timeline.shift dx dy)).toList.map Timeline.bounds =
      (l.timeline.toList.map Timeline.bounds).map (Bounds.shift dx dy) := by
    cases l.timeline <;> rfl
  simp only [contents, shift, boxes, frames, timelines, List.map_append]

/-- A finished layout is moved as a whole, and its bounds are measured. -/
theorem exists_finish (l : Layout Rat) (margin : Rat) :
    ∃ dx dy bounds, l.finish margin = { l.shift dx dy with bounds } := by
  unfold finish
  split
  · exact ⟨0, 0, l.bounds, (shift_zero l).symm⟩
  · dsimp only
    split
    · exact ⟨_, _, _, rfl⟩
    · exact ⟨0, 0, _, by rw [shift_zero]⟩

end Layout

end DiagramMarkup
