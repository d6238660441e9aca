import DiagramMarkup.Proofs.Activity.Names
import DiagramMarkup.Proofs.Activity.Partitions
import DiagramMarkup.Proofs.Drawing.Fits
import DiagramMarkup.Proofs.Layout.Frames
import Mathlib.Data.List.Perm.Basic
import Mathlib.Order.Monotone.Basic

/-! # The chain of an activity

The nodes of an activity stand one below the other. A node begins where the one before it and its gap
end, with room above it for the partitions that it opens, and room below it for those that it closes.
So whatever stands on different sides of the border of a partition keeps a larger distance.
-/

namespace DiagramMarkup

open Scalar

theorem ActivityNode.size_height_pos (measure : Measure Rat) {node : ActivityNode}
    (drawn : node.isMarker = false) : 0 < (node.size measure).height := by
  have above {a b : Rat} (positive : 0 < b) : 0 < larger a b := by
    rw [larger_eq_max]
    exact lt_max_of_lt_right positive
  unfold size
  cases kind : node.kind with
  | start | stop | merge | fork | join =>
      dsimp only
      decide
  | action | decision => exact above (by decide)
  | elseMarker | elseifMarker | forkAgainMarker => simp [isMarker, kind, ActivityKind.isMarker] at drawn

namespace ActivityDiagram

/-! ## Heights -/

theorem placeFrom_append (settings : Settings Rat) (width : Rat) (measure : Measure Rat)
    (d : ActivityDiagram) (index : Nat) (y : Rat) (before behind : List ActivityNode) :
    placeFrom settings width measure d index y (before ++ behind) =
      let (upper, height) := placeFrom settings width measure d index y before
      let (lower, stop) :=
        placeFrom settings width measure d (index + before.length) height behind
      (upper ++ lower, stop) := by
  induction before generalizing index y with
  | nil => rfl
  | cons node before ih =>
      simp only [List.cons_append, placeFrom, ih, List.length_cons, List.append_assoc,
        Nat.add_right_comm, Nat.add_assoc]

section

variable (settings : Settings Rat) (measure : Measure Rat) (d : ActivityDiagram)

/-- The height at which the chain begins. -/
def firstHeight : Rat :=
  if d.swimlanes.isEmpty then settings.margin else settings.margin + settings.laneTitle

/-- The height at which the node of a number begins, with the room above it. -/
def heightAt (index : Nat) : Rat :=
  (placeFrom settings (d.laneWidth settings measure) measure d 0 (d.firstHeight settings)
    (d.nodes.take index)).2

/-- The box of the node of a number. -/
def boxAt (index : Nat) (node : ActivityNode) : Box Rat :=
  nodeBox settings (d.laneWidth settings measure) measure d
    (d.heightAt settings measure index + d.roomAbove index) node

end

variable {settings : Settings Rat} {measure : Measure Rat} {d : ActivityDiagram} {i j : Nat}
  {node other : ActivityNode} {p : Partition}

theorem heightAt_succ (here : d.nodes[i]? = some node) :
    d.heightAt settings measure (i + 1) =
      (place settings (d.laneWidth settings measure) measure d
        (d.heightAt settings measure i + d.roomAbove i) node).2 + d.roomBelow i := by
  have inside : i < d.nodes.length := (List.getElem?_eq_some_iff.mp here).1
  have length : (d.nodes.take i).length = i := List.length_take_of_le (Nat.le_of_lt inside)
  rw [heightAt, List.take_add_one, here, Option.toList_some, placeFrom_append, length]
  simp only [placeFrom, Nat.zero_add]
  rfl

theorem heightAt_succ_of_none (behind : d.nodes[i]? = none) :
    d.heightAt settings measure (i + 1) = d.heightAt settings measure i := by
  rw [heightAt, List.take_add_one, behind, Option.toList_none, List.append_nil, heightAt]

theorem top_boxAt :
    (d.boxAt settings measure i node).top = d.heightAt settings measure i + d.roomAbove i :=
  Box.top_of_hung rfl

theorem bottom_boxAt :
    (d.boxAt settings measure i node).bottom =
      d.heightAt settings measure i + d.roomAbove i + (node.size measure).height :=
  Box.bottom_of_hung rfl

theorem heightAt_succ_of_drawn (settings : Settings Rat) (measure : Measure Rat)
    (here : d.nodes[i]? = some node) (drawn : node.isMarker = false) :
    d.heightAt settings measure (i + 1) =
      (d.boxAt settings measure i node).bottom + settings.activityGap + d.roomBelow i := by
  rw [heightAt_succ here, bottom_boxAt, place, drawn, add_assoc (_ + _) _ settings.activityGap]
  rfl

/-! ## Room for the frames of partitions -/

theorem le_countP_mul {test : Partition → Bool} {partitions : List Partition} {room : Rat}
    (positive : 0 ≤ room) (member : p ∈ partitions) (fits : test p = true) :
    room ≤ (partitions.countP test : Rat) * room := by
  have counted : 0 < partitions.countP test := List.countP_pos_iff.mpr ⟨p, member, fits⟩
  exact le_mul_of_one_le_left positive (Nat.one_le_cast.mpr counted)

theorem roomAbove_nonneg (d : ActivityDiagram) (index : Nat) : (0 : Rat) ≤ d.roomAbove index :=
  mul_nonneg (Nat.cast_nonneg _) (add_nonneg (by decide) (by decide))

theorem roomBelow_nonneg (d : ActivityDiagram) (index : Nat) : (0 : Rat) ≤ d.roomBelow index :=
  mul_nonneg (Nat.cast_nonneg _) (by decide)

/-- There is room for a frame and its title above the first node of a partition. -/
theorem le_roomAbove (member : p ∈ d.partitions) :
    (partitionPadding + partitionTitle : Rat) ≤ d.roomAbove p.start :=
  le_countP_mul (add_nonneg (by decide) (by decide)) member (decide_eq_true rfl)

theorem le_roomBelow (member : p ∈ d.partitions) (last : p.stop = i + 1) :
    (partitionPadding : Rat) ≤ d.roomBelow i :=
  le_countP_mul (by decide) member (decide_eq_true last)

section

variable (down : 0 ≤ settings.activityGap)

include down

/-- A node and the room for frames above and below it end where the next node begins. -/
theorem room_le_heightAt_succ (measure : Measure Rat) (here : d.nodes[i]? = some node) :
    d.heightAt settings measure i + d.roomAbove i + d.roomBelow i ≤
      d.heightAt settings measure (i + 1) := by
  cases drawn : node.isMarker with
  | true =>
      rw [heightAt_succ here, place, drawn]
      exact le_refl _
  | false =>
      have positive := node.size_height_pos measure drawn
      rw [heightAt_succ_of_drawn settings measure here drawn, bottom_boxAt]
      linarith

theorem monotone_heightAt (measure : Measure Rat) (d : ActivityDiagram) :
    Monotone (d.heightAt settings measure) := by
  apply monotone_nat_of_le_succ
  intro i
  cases here : d.nodes[i]? with
  | none => exact (heightAt_succ_of_none here).ge
  | some node =>
      have room := room_le_heightAt_succ down measure here
      have above := d.roomAbove_nonneg i
      have below := d.roomBelow_nonneg i
      linarith

theorem start_le_top (measure : Measure Rat) (member : p ∈ d.partitions) (here : d.nodes[i]? = some node)
    (inside : p.start ≤ i) :
    d.heightAt settings measure p.start + (partitionPadding + partitionTitle) ≤
      (d.boxAt settings measure i node).top := by
  have room := le_roomAbove member
  rw [top_boxAt]
  rcases Nat.eq_or_lt_of_le inside with first | behind
  · rw [first] at room ⊢
    linarith
  · have known : p.start < d.nodes.length := behind.trans (List.getElem?_eq_some_iff.mp here).1
    have next := room_le_heightAt_succ down measure (List.getElem?_eq_getElem known)
    have later : d.heightAt settings measure (p.start + 1) ≤ d.heightAt settings measure i :=
      monotone_heightAt down measure d behind
    have above := d.roomAbove_nonneg i
    have below := d.roomBelow_nonneg p.start
    linarith

theorem bottom_le_stop (measure : Measure Rat) (member : p ∈ d.partitions)
    (here : d.nodes[i]? = some node) (drawn : node.isMarker = false) (inside : i < p.stop) (bounded : p.stop ≤ d.nodes.length) :
    (d.boxAt settings measure i node).bottom + settings.activityGap + partitionPadding ≤
      d.heightAt settings measure p.stop := by
  have next := heightAt_succ_of_drawn settings measure here drawn
  obtain ⟨last, stop⟩ : ∃ last, p.stop = last + 1 := ⟨p.stop - 1, by omega⟩
  have room := le_roomBelow member stop
  rw [stop] at inside bounded ⊢
  rcases Nat.eq_or_lt_of_le (Nat.le_of_lt_succ inside) with same | before
  · rw [same] at next ⊢
    linarith
  · have behind := room_le_heightAt_succ down measure (List.getElem?_eq_getElem bounded)
    have later : d.heightAt settings measure (i + 1) ≤ d.heightAt settings measure last :=
      monotone_heightAt down measure d before
    have above := d.roomAbove_nonneg last
    have below := d.roomBelow_nonneg i
    linarith

end

/-! ## The boxes of the nodes -/

theorem nodup_visibleNames (nested : Nesting.Nested d.nodes []) :
    (d.visibleNodes.flatMap ActivityNode.names).Nodup := by
  have perm := List.map_append_flatMap_perm d.visibleNodes ActivityNode.name fun node =>
    node.note.toList.map fun _ => node.noteName
  have notes : (d.visibleNodes.flatMap fun node => node.note.toList.map fun _ => node.noteName) =
      d.visibleNodes.filterMap fun node => node.note.map fun _ => node.noteName := by
    rw [List.filterMap_eq_flatMap_toList]
    congr 1
    funext node
    cases node.note <;> rfl
  rw [notes] at perm
  exact perm.nodup_iff.mp ((nodup_names nested).sublist
    ((List.Sublist.refl _).append (List.filter_sublist.filterMap _)))

section

variable (nested : Nesting.Nested d.nodes []) (settings measure)

include nested

theorem get?_boxes (here : d.nodes[i]? = some node) (drawn : node.isMarker = false) :
    (d.layout settings measure).boxes.get? node.name = some (d.boxAt settings measure i node) := by
  obtain ⟨inside, same⟩ := List.getElem?_eq_some_iff.mp here
  have keys : (placeFrom settings (d.laneWidth settings measure) measure d 0
      (d.firstHeight settings) d.nodes).1.map Prod.fst = d.visibleNodes.flatMap ActivityNode.names :=
    map_fst_placeFrom _ _ d 0 d.nodes
  have distinct := nodup_visibleNames nested
  rw [← keys] at distinct
  have length : (d.nodes.take i).length = i := List.length_take_of_le (Nat.le_of_lt inside)
  have split : d.nodes = d.nodes.take i ++ node :: d.nodes.drop (i + 1) := by
    rw [← same, ← List.drop_eq_getElem_cons inside, List.take_append_drop]
  apply Table.get?_of_mem
  change _ ∈ (Table.ofList (placeFrom settings (d.laneWidth settings measure) measure d 0
    (d.firstHeight settings) d.nodes).1).entries
  rw [Table.entries_ofList distinct, split, placeFrom_append, length]
  simp only [placeFrom, place, drawn, Nat.zero_add]
  exact List.mem_append_right _ List.mem_cons_self

/-- Only nodes that are drawn have boxes. -/
theorem eq_boxAt (here : d.nodes[i]? = some node) {box : Box Rat}
    (found : (d.layout settings measure).boxes.get? node.name = some box) :
    node.isMarker = false ∧ box = d.boxAt settings measure i node := by
  have drawn : node.isMarker = false := by
    obtain ⟨other, member, named⟩ := List.mem_flatMap.mp
      (mem_keys_layout.mp (Table.mem_keys_of_get? found))
    obtain ⟨known, visible⟩ := List.mem_filter.mp member
    rcases List.mem_cons.mp named with same | note
    · have one := List.inj_on_of_nodup_map nested.nodup (List.mem_of_getElem? here) known same
      rw [one]
      exact Bool.not_eq_true' _ |>.mp visible
    · obtain ⟨_, _, same⟩ := List.mem_map.mp note
      exact absurd (same.trans (nested.name_eq here)) (noteName_ne_nodeName other i)
  refine ⟨drawn, ?_⟩
  rw [get?_boxes settings measure nested here drawn] at found
  exact (Option.some.inj found).symm

end

/-! ## The nodes of a finished layout -/

/-- Where the first of two nodes stands on one side of a border and the second one on the other, it
stands above it, at a distance. -/
def Spaced (d : ActivityDiagram) (boxes : Table (Box Rat)) (distance : Rat)
    (apart : Nat → Nat → Prop) : Prop :=
  ∀ (i j : Nat) (upper lower : ActivityNode), d.nodes[i]? = some upper → d.nodes[j]? = some lower →
    apart i j → Above boxes distance upper.name lower.name

/-- Nodes one below the other, in their order, with room for the frames of their partitions. -/
structure Chained (d : ActivityDiagram) (boxes : Table (Box Rat)) (gap : Rat) : Prop where
  drawn : ∀ node ∈ d.visibleNodes, ∃ box, boxes.get? node.name = some box ∧ 0 < box.height
  /-- Markers have no boxes. -/
  visible : ∀ node ∈ d.nodes, ∀ box, boxes.get? node.name = some box → node.isMarker = false
  below : d.Spaced boxes gap fun i j => i < j
  /-- What comes before a partition is above the room for its title. -/
  before : ∀ p ∈ d.partitions, d.Spaced boxes (gap + (partitionPadding + partitionTitle)) fun i j =>
    i < p.start ∧ p.start ≤ j
  /-- What comes behind a partition is below the room that ends it. -/
  behind : ∀ p ∈ d.partitions, d.Spaced boxes (gap + partitionPadding) fun i j =>
    i < p.stop ∧ p.stop ≤ j

theorem chained_layout (nested : Nesting.Nested d.nodes []) (down : 0 ≤ settings.activityGap)
    (bounded : ∀ p ∈ d.partitions, p.stop ≤ d.nodes.length) :
    Chained d (d.layout settings measure).boxes settings.activityGap where
  drawn node member := by
    obtain ⟨known, visible⟩ := List.mem_filter.mp member
    obtain ⟨i, here⟩ := List.mem_iff_getElem?.mp known
    have drawn := (Bool.not_eq_true' _).mp visible
    exact ⟨_, get?_boxes settings measure nested here drawn, node.size_height_pos measure drawn⟩
  visible node member box found := by
    obtain ⟨i, here⟩ := List.mem_iff_getElem?.mp member
    exact (eq_boxAt settings measure nested here found).1
  below i j upper lower here there before _ _ found foundOther := by
    obtain ⟨drawn, rfl⟩ := eq_boxAt settings measure nested here found
    obtain ⟨_, rfl⟩ := eq_boxAt settings measure nested there foundOther
    have next := heightAt_succ_of_drawn settings measure here drawn
    have later : d.heightAt settings measure (i + 1) ≤ d.heightAt settings measure j :=
      monotone_heightAt down measure d before
    have below := d.roomBelow_nonneg i
    have above := d.roomAbove_nonneg j
    rw [top_boxAt]
    linarith
  before p member i j upper lower here there sides _ _ found foundOther := by
    obtain ⟨outside, inside⟩ := sides
    obtain ⟨drawn, rfl⟩ := eq_boxAt settings measure nested here found
    obtain ⟨_, rfl⟩ := eq_boxAt settings measure nested there foundOther
    have next := heightAt_succ_of_drawn settings measure here drawn
    have later : d.heightAt settings measure (i + 1) ≤ d.heightAt settings measure p.start :=
      monotone_heightAt down measure d outside
    have start := start_le_top down measure member there inside
    have below := d.roomBelow_nonneg i
    linarith
  behind p member i j upper lower here there sides _ _ found foundOther := by
    obtain ⟨inside, outside⟩ := sides
    obtain ⟨drawn, rfl⟩ := eq_boxAt settings measure nested here found
    obtain ⟨_, rfl⟩ := eq_boxAt settings measure nested there foundOther
    have stop := bottom_le_stop down measure member here drawn inside
      (bounded p member)
    have later : d.heightAt settings measure p.stop ≤ d.heightAt settings measure j :=
      monotone_heightAt down measure d outside
    have above := d.roomAbove_nonneg j
    rw [top_boxAt]
    linarith

variable {boxes : Table (Box Rat)} {gap distance : Rat} {apart : Nat → Nat → Prop}

theorem Spaced.shift (spaced : d.Spaced boxes distance apart) (dx dy : Rat) :
    d.Spaced (boxes.map (Box.shift dx dy)) distance apart :=
  fun i j upper lower here there sides => (spaced i j upper lower here there sides).shift dx dy

theorem Chained.shift (chained : Chained d boxes gap) (dx dy : Rat) :
    Chained d (boxes.map (Box.shift dx dy)) gap where
  drawn node member := by
    obtain ⟨box, found, positive⟩ := chained.drawn node member
    exact ⟨box.shift dx dy, by rw [Table.get?_map, found, Option.map_some], positive⟩
  visible node member box found := by
    rw [Table.get?_map] at found
    obtain ⟨old, there, rfl⟩ := Option.map_eq_some_iff.mp found
    exact chained.visible node member old there
  below := chained.below.shift dx dy
  before p member := (chained.before p member).shift dx dy
  behind p member := (chained.behind p member).shift dx dy

/-- The boxes of a finished layout are those of a chain that is moved, and its frames are those around
the boxes where they have come to stand. -/
theorem exists_moved (settings : Settings Rat) (measure : Measure Rat) (d : ActivityDiagram) :
    ∃ dx dy, ((Content.activity d).layout settings measure).boxes =
        (d.layout settings measure).boxes.map (Box.shift dx dy) ∧
      ((Content.activity d).layout settings measure).lanes =
        (d.layout settings measure).lanes.map (Frame.shift dx dy) ∧
      ((Content.activity d).layout settings measure).groups = d.partitions.filterMap
        (d.frame? ((Content.activity d).layout settings measure).boxes) :=
  Layout.exists_moved (d.layout settings measure) (fun boxes => d.frame? boxes)
    (fun dx dy boxes p => d.frame?_shift boxes p dx dy) rfl settings.margin

theorem bounded_draftOfLines (lines : List Line) :
    ∀ p ∈ (draftOfLines lines).1.partitions, p.stop ≤ (draftOfLines lines).1.nodes.length := by
  intro p member
  have bounded := ((regions_draftOfLines lines).bounded p member).2
  rwa [List.length_map] at bounded

/-- The nodes of an activity that is read stand in a chain. -/
theorem chained_draftOfLines (lines : List Line) (edges : List Relation) (measure : Measure Rat)
    (down : 0 ≤ settings.activityGap) :
    Chained { (draftOfLines lines).1 with edges }
      ((Content.activity { (draftOfLines lines).1 with edges }).layout settings measure).boxes
      settings.activityGap := by
  obtain ⟨dx, dy, moved, _, _⟩ := exists_moved settings measure { (draftOfLines lines).1 with edges }
  rw [moved]
  apply Chained.shift
  exact chained_layout (Nesting.nested_draftOfLines lines) down (bounded_draftOfLines lines)

end ActivityDiagram

end DiagramMarkup
