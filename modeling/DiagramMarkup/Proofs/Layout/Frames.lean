import DiagramMarkup.Layout.Activity
import DiagramMarkup.Layout.Grid
import DiagramMarkup.Proofs.Geometry.Moving

/-! # Frames around boxes

A frame leaves some room at every side of the boxes that it is drawn around, and a strip for its title
above them. It is as small as that allows, so that what is far enough from all of these boxes is
outside of it.
-/

namespace DiagramMarkup

open Scalar

/-! ## The least bounds of some rectangles -/

namespace Bounds

/-- A rectangle holds some others, and every one of its sides is that of one of them. -/
structure IsHull (hull : Bounds Rat) (parts : List (Bounds Rat)) : Prop where
  holds : ∀ b ∈ parts, b.Within hull
  left : ∃ b ∈ parts, b.left = hull.left
  top : ∃ b ∈ parts, b.top = hull.top
  right : ∃ b ∈ parts, b.right = hull.right
  bottom : ∃ b ∈ parts, b.bottom = hull.bottom

variable {a b hull : Bounds Rat} {parts : List (Bounds Rat)}

theorem isHull_union (a b : Bounds Rat) : (a.union b).IsHull [a, b] := by
  unfold union
  simp only [smaller_eq_min, larger_eq_max]
  constructor
  case holds =>
    rw [List.forall_mem_cons, List.forall_mem_singleton]
    exact ⟨⟨min_le_left .., min_le_left .., le_max_left .., le_max_left ..⟩,
      min_le_right .., min_le_right .., le_max_right .., le_max_right ..⟩
  case left => rcases min_choice a.left b.left with same | same <;> simp [same]
  case top => rcases min_choice a.top b.top with same | same <;> simp [same]
  case right => rcases max_choice a.right b.right with same | same <;> simp [same]
  case bottom => rcases max_choice a.bottom b.bottom with same | same <;> simp [same]

theorem IsHull.of_union (isHull : hull.IsHull (a.union b :: parts)) : hull.IsHull (a :: b :: parts) := by
  have both := isHull_union a b
  have side (view : Bounds Rat → Rat) {x : Rat}
      (tight : ∃ c ∈ [a, b], view c = view (a.union b))
      (found : ∃ c ∈ a.union b :: parts, view c = x) : ∃ c ∈ a :: b :: parts, view c = x := by
    obtain ⟨c, member, rfl⟩ := found
    rcases List.mem_cons.mp member with rfl | other
    · obtain ⟨c, one, same⟩ := tight
      exact ⟨c, List.mem_append_left parts one, same⟩
    · exact ⟨c, List.mem_append_right [a, b] other, rfl⟩
  obtain ⟨here, others⟩ := List.forall_mem_cons.mp isHull.holds
  constructor
  case holds =>
    have held : ∀ c ∈ [a, b], c.Within hull := fun c one => (both.holds c one).trans here
    exact List.forall_mem_append.mpr ⟨held, others⟩
  case left => exact side Bounds.left both.left isHull.left
  case top => exact side Bounds.top both.top isHull.top
  case right => exact side Bounds.right both.right isHull.right
  case bottom => exact side Bounds.bottom both.bottom isHull.bottom

theorem isHull_foldl_union (first : Bounds Rat) (rest : List (Bounds Rat)) :
    (rest.foldl union first).IsHull (first :: rest) := by
  induction rest generalizing first with
  | nil =>
      have self (view : Bounds Rat → Rat) : ∃ b ∈ [first], view b = view first :=
        ⟨first, List.mem_singleton_self first, rfl⟩
      exact ⟨List.forall_mem_singleton.mpr (.refl first), self Bounds.left, self Bounds.top,
        self Bounds.right, self Bounds.bottom⟩
  | cons b rest ih => exact (ih (first.union b)).of_union

theorem isHull_unionAll? (found : unionAll? parts = some hull) : hull.IsHull parts := by
  cases parts with
  | nil => cases found
  | cons first rest =>
      cases found
      exact isHull_foldl_union first rest

/-- Whatever holds some rectangles holds the least bounds of them. -/
theorem IsHull.within (isHull : hull.IsHull parts) (held : ∀ c ∈ parts, c.Within b) :
    hull.Within b := by
  obtain ⟨left, atLeft, sameLeft⟩ := isHull.left
  obtain ⟨top, atTop, sameTop⟩ := isHull.top
  obtain ⟨right, atRight, sameRight⟩ := isHull.right
  obtain ⟨bottom, atBottom, sameBottom⟩ := isHull.bottom
  exact {
    left := sameLeft ▸ (held left atLeft).left
    top := sameTop ▸ (held top atTop).top
    right := sameRight ▸ (held right atRight).right
    bottom := sameBottom ▸ (held bottom atBottom).bottom }

theorem exists_unionAll? (member : b ∈ parts) : ∃ hull, unionAll? parts = some hull := by
  cases parts with
  | nil => exact absurd member List.not_mem_nil
  | cons first rest => exact ⟨_, rfl⟩

end Bounds

/-! ## The frame around the boxes of some names -/

namespace Frame

/-- What a frame leaves for its content, inside of some padding and below its title. -/
def inside (f : Frame Rat) (padding title : Rat) : Bounds Rat where
  left := f.bounds.left + padding
  top := f.bounds.top + title + padding
  right := f.bounds.right - padding
  bottom := f.bounds.bottom - padding

theorem inside_around (name : String) (content : Bounds Rat) (padding title : Rat) :
    (around name content padding title).inside padding title = content := by
  have left : content.left - padding + padding = content.left := by ring
  have top : content.top - padding - title + title + padding = content.top := by ring
  have right : content.left - padding + (content.right - content.left + padding * 2) - padding =
      content.right := by ring
  have bottom : content.top - padding - title +
      (content.bottom - content.top + padding * 2 + title) - padding = content.bottom := by ring
  exact (Bounds.mk.injEq ..).mpr ⟨left, top, right, bottom⟩

variable {boxes : Table (Box Rat)} {names others : List String} {name key : String}
  {padding title : Rat} {frame inner : Frame Rat} {box : Box Rat}

/-- The frame around the boxes of some names, if one of them has a box. -/
def enclosing? (boxes : Table (Box Rat)) (names : List String) (name : String)
    (padding title : Rat) : Option (Frame Rat) :=
  (Bounds.unionAll? (names.filterMap fun key => (boxes.get? key).map Box.bounds)).map fun content =>
    around name content padding title

theorem mem_placed {b : Bounds Rat} :
    b ∈ names.filterMap (fun key => (boxes.get? key).map Box.bounds) ↔
      ∃ key ∈ names, ∃ box, boxes.get? key = some box ∧ box.bounds = b := by
  simp only [List.mem_filterMap, Option.map_eq_some_iff]

theorem exists_enclosing? (name : String) (padding title : Rat) (member : key ∈ names)
    (found : boxes.get? key = some box) :
    ∃ frame, enclosing? boxes names name padding title = some frame := by
  obtain ⟨hull, hulled⟩ := Bounds.exists_unionAll? (mem_placed.mpr ⟨key, member, box, found, rfl⟩)
  exact ⟨_, congrArg (Option.map _) hulled⟩

theorem enclosing?_eq_none (none_placed : ∀ key ∈ names, boxes.get? key = none) :
    enclosing? boxes names name padding title = none := by
  have empty : names.filterMap (fun key => (boxes.get? key).map Box.bounds) = [] := by
    rw [List.filterMap_eq_nil_iff]
    intro key member
    rw [none_placed key member, Option.map_none]
  rw [enclosing?, empty]
  rfl

/-- Boxes that are moved have a frame that is moved with them. -/
theorem enclosing?_shift (dx dy : Rat) :
    enclosing? (boxes.map (Box.shift dx dy)) names name padding title =
      (enclosing? boxes names name padding title).map (shift dx dy) := by
  have placed : names.filterMap (fun key => ((boxes.map (Box.shift dx dy)).get? key).map Box.bounds) =
      (names.filterMap fun key => (boxes.get? key).map Box.bounds).map (Bounds.shift dx dy) := by
    rw [List.map_filterMap]
    congr 1
    funext key
    rw [Table.get?_map, Option.map_map, Option.map_map]
    exact congrArg (Option.map · _) (funext Box.bounds_shift)
  unfold enclosing?
  rw [placed, Bounds.unionAll?_shift, Option.map_map, Option.map_map]
  exact congrArg (Option.map · _) (funext fun content => around_shift name content padding title)

section

variable (found : enclosing? boxes names name padding title = some frame)

include found

theorem name_enclosing? : frame.name = name := by
  obtain ⟨content, _, rfl⟩ := Option.map_eq_some_iff.mp found
  rfl

theorem isHull_inside :
    (frame.inside padding title).IsHull
      (names.filterMap fun key => (boxes.get? key).map Box.bounds) := by
  obtain ⟨content, hulled, rfl⟩ := Option.map_eq_some_iff.mp found
  rw [inside_around]
  exact Bounds.isHull_unionAll? hulled

theorem within_enclosing? (padded : 0 ≤ padding) (titled : 0 ≤ title) (member : key ∈ names)
    (placed : boxes.get? key = some box) : box.bounds.Within frame.bounds := by
  have within := (isHull_inside found).holds _ (mem_placed.mpr ⟨key, member, box, placed, rfl⟩)
  obtain ⟨left, top, right, bottom⟩ := within
  unfold inside at left top right bottom
  dsimp only at left top right bottom
  constructor <;> linarith

theorem room_enclosing? (member : key ∈ names) (placed : boxes.get? key = some box) :
    frame.bounds.top + title + padding ≤ box.top ∧ box.bottom ≤ frame.bounds.bottom - padding := by
  have within := (isHull_inside found).holds _ (mem_placed.mpr ⟨key, member, box, placed, rfl⟩)
  exact ⟨within.top, within.bottom⟩

theorem exists_top : ∃ key ∈ names, ∃ box, boxes.get? key = some box ∧
    box.top = frame.bounds.top + title + padding := by
  obtain ⟨_, member, same⟩ := (isHull_inside found).top
  obtain ⟨key, inside, box, placed, rfl⟩ := mem_placed.mp member
  exact ⟨key, inside, box, placed, same⟩

theorem exists_bottom : ∃ key ∈ names, ∃ box, boxes.get? key = some box ∧
    box.bottom = frame.bounds.bottom - padding := by
  obtain ⟨_, member, same⟩ := (isHull_inside found).bottom
  obtain ⟨key, inside, box, placed, rfl⟩ := mem_placed.mp member
  exact ⟨key, inside, box, placed, same⟩

end

theorem within_of_subset {first second : String}
    (found : enclosing? boxes names first padding title = some inner)
    (around : enclosing? boxes others second padding title = some frame)
    (subset : ∀ key ∈ names, ∀ box, boxes.get? key = some box → key ∈ others) :
    inner.bounds.Within frame.bounds := by
  obtain ⟨left, top, right, bottom⟩ := (isHull_inside found).within (b := frame.inside padding title)
    fun b member => by
      obtain ⟨key, inside, box, placed, rfl⟩ := mem_placed.mp member
      have own := subset key inside box placed
      exact (isHull_inside around).holds _ (mem_placed.mpr ⟨key, own, box, placed, rfl⟩)
  unfold inside at left top right bottom
  dsimp only at left top right bottom
  constructor <;> linarith

end Frame

/-! ## Boxes above each other -/

/-- Where two names have boxes, the first one stands above the second one, at a distance. -/
def Above (boxes : Table (Box Rat)) (distance : Rat) (a b : String) : Prop :=
  ∀ upper lower, boxes.get? a = some upper → boxes.get? b = some lower →
    upper.bottom + distance ≤ lower.top

section

variable {boxes : Table (Box Rat)} {names others : List String} {name other key : String}
  {padding title distance : Rat} {frame second : Frame Rat} {box : Box Rat}

theorem Above.shift {a b : String} (above : Above boxes distance a b) (dx dy : Rat) :
    Above (boxes.map (Box.shift dx dy)) distance a b := by
  refine Table.related_map fun upper lower there here => ?_
  rw [Box.bottom_shift, Box.top_shift, add_right_comm]
  exact add_le_add_left (above upper lower there here) dy

namespace Frame

variable (found : enclosing? boxes names name padding title = some frame)

include found

/-- What stands far enough above all boxes of a frame is outside of it. -/
theorem outside_of_above (placed : boxes.get? key = some box)
    (above : ∀ member ∈ names, Above boxes distance key member) (far : padding + title ≤ distance) :
    box.bounds.Outside frame.bounds := by
  obtain ⟨member, inside, highest, here, top⟩ := exists_top found
  have apart := above member inside box highest placed here
  apply Bounds.outside_of_above
  change box.bottom ≤ frame.bounds.top
  linarith

theorem outside_of_below (placed : boxes.get? key = some box)
    (below : ∀ member ∈ names, Above boxes distance member key) (far : padding ≤ distance) :
    box.bounds.Outside frame.bounds := by
  obtain ⟨member, inside, lowest, here, bottom⟩ := exists_bottom found
  have apart := below member inside lowest box here placed
  apply Bounds.outside_of_below
  change frame.bounds.bottom ≤ box.top
  linarith

theorem apart_of_above (foundOther : enclosing? boxes others other padding title = some second)
    (above : ∀ a ∈ names, ∀ b ∈ others, Above boxes distance a b)
    (far : padding + (padding + title) ≤ distance) : frame.bounds.Apart second.bounds := by
  obtain ⟨a, inside, lowest, there, bottom⟩ := exists_bottom found
  obtain ⟨b, insideOther, highest, here, top⟩ := exists_top foundOther
  have apart := above a inside b insideOther lowest highest there here
  apply Bounds.apart_of_bottom_le_top
  linarith

end Frame

end

/-! ## The frames of boundaries and partitions -/

/-- Where frames are moved with the boxes that they are drawn around, those of a finished layout are
drawn around the boxes where these have come to stand. -/
theorem Layout.exists_moved {ι : Type} (l : Layout Rat) {parts : List ι}
    (frame? : Table (Box Rat) → ι → Option (Frame Rat))
    (moves : ∀ dx dy boxes part,
      frame? (boxes.map (Box.shift dx dy)) part = (frame? boxes part).map (Frame.shift dx dy))
    (groups : l.groups = parts.filterMap (frame? l.boxes)) (margin : Rat) :
    ∃ dx dy, (l.finish margin).boxes = l.boxes.map (Box.shift dx dy) ∧
      (l.finish margin).lanes = l.lanes.map (Frame.shift dx dy) ∧
      (l.finish margin).groups = parts.filterMap (frame? (l.finish margin).boxes) := by
  obtain ⟨dx, dy, bounds, moved⟩ := l.exists_finish margin
  refine ⟨dx, dy, congrArg boxes moved, congrArg lanes moved, ?_⟩
  rw [moved]
  change l.groups.map (Frame.shift dx dy) = parts.filterMap (frame? (l.boxes.map (Box.shift dx dy)))
  rw [groups, List.map_filterMap]
  congr 1
  funext part
  exact (moves dx dy l.boxes part).symm

namespace UseCaseDiagram

variable (d : UseCaseDiagram) (boxes : Table (Box Rat)) (boundary : String)

theorem frame?_eq : d.frame? boxes boundary = Frame.enclosing? boxes
    ((d.members boundary).map UseCaseNode.name) boundary boundaryPadding boundaryTitle := by
  unfold Frame.enclosing?
  rw [List.filterMap_map]
  rfl

theorem frame?_shift (dx dy : Rat) : d.frame? (boxes.map (Box.shift dx dy)) boundary =
    (d.frame? boxes boundary).map (Frame.shift dx dy) := by
  rw [frame?_eq, frame?_eq, Frame.enclosing?_shift]

end UseCaseDiagram

namespace ActivityDiagram

variable (d : ActivityDiagram) (boxes : Table (Box Rat)) (p : Partition)

theorem frame?_eq : d.frame? boxes p = Frame.enclosing? boxes
    ((d.members p).map ActivityNode.name) p.name partitionPadding partitionTitle := by
  unfold Frame.enclosing?
  rw [List.filterMap_map]
  rfl

theorem frame?_shift (dx dy : Rat) : d.frame? (boxes.map (Box.shift dx dy)) p =
    (d.frame? boxes p).map (Frame.shift dx dy) := by
  rw [frame?_eq, frame?_eq, Frame.enclosing?_shift]

end ActivityDiagram

end DiagramMarkup
