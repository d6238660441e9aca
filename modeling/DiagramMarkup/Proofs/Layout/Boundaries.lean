import DiagramMarkup.Proofs.Drawing.Keys
import DiagramMarkup.Proofs.Layout.Blocks

/-! # The frames of boundaries

The rows of two boundaries keep a distance that has room for a frame below the one and a frame with its
title above the other. So the frame of a boundary holds its elements and nothing else.
-/

namespace DiagramMarkup

open Scalar

namespace UseCaseDiagram

variable {d : UseCaseDiagram} {settings : Settings Rat} {measure : Measure Rat}
  {boundary : String}

/-! ## The frames of a layout -/

/-- The frames of boundaries, each of which holds the elements of its boundary and nothing else. -/
structure Framed (d : UseCaseDiagram) (l : Layout Rat) : Prop where
  /-- A boundary has a frame where an element is in it, and there are no other frames. -/
  named : ∀ boundary, boundary ∈ l.groups.map Frame.name ↔
    ∃ node ∈ d.nodes.values, node.boundary = some boundary
  once : (l.groups.map Frame.name).Nodup
  nodes : ∀ node ∈ d.nodes.values, ∃ box, l.boxes.get? node.name = some box ∧
    ∀ frame ∈ l.groups,
      if node.boundary = some frame.name then box.bounds.Within frame.bounds
      else box.bounds.Outside frame.bounds
  notes : ∀ note ∈ d.notes, ∃ box, l.boxes.get? note.name = some box ∧
    ∀ frame ∈ l.groups, box.bounds.Outside frame.bounds
  apart : l.groups.Pairwise fun first second => first.bounds.Apart second.bounds

variable {l : Layout Rat}

theorem exists_frame? (placed : ∀ node ∈ d.nodes.values, ∃ box, l.boxes.get? node.name = some box)
    (occurs : boundary ∈ d.boundaries) : ∃ frame, d.frame? l.boxes boundary = some frame := by
  obtain ⟨node, member, inside⟩ := mem_boundaries_iff.mp occurs
  obtain ⟨box, here⟩ := placed node member
  rw [frame?_eq]
  exact Frame.exists_enclosing? _ _ _ (mem_memberNames.mpr ⟨node, member, inside, rfl⟩) here

theorem name_frame? {frame : Frame Rat} (found : d.frame? l.boxes boundary = some frame) :
    frame.name = boundary := by
  rw [frame?_eq] at found
  exact Frame.name_enclosing? found

/-- Every boundary with an element has one frame, which bears its name. -/
theorem map_name_groups (groups : l.groups = d.boundaries.filterMap (d.frame? l.boxes))
    (placed : ∀ node ∈ d.nodes.values, ∃ box, l.boxes.get? node.name = some box) :
    l.groups.map Frame.name = d.boundaries := by
  have named : ∀ boundary ∈ d.boundaries,
      (d.frame? l.boxes boundary).map Frame.name = some boundary := by
    intro boundary occurs
    obtain ⟨frame, found⟩ := exists_frame? placed occurs
    rw [found, Option.map_some, name_frame? found]
  rw [groups, List.map_filterMap, List.filterMap_congr named, List.filterMap_some]

/-- What stands before or behind the elements of a boundary, far enough from them. -/
def Separates (d : UseCaseDiagram) (boxes : Table (Box Rat)) (distance : Rat) : Prop :=
  ∀ before boundary behind, d.boundaries = before ++ boundary :: behind →
    (∀ a ∈ d.freeNames ++ before.flatMap d.memberNames, ∀ b ∈ d.memberNames boundary,
        Above boxes distance a b) ∧
      ∀ b ∈ d.memberNames boundary,
        ∀ c ∈ behind.flatMap d.memberNames ++ d.notes.map Note.name, Above boxes distance b c

namespace Separates

variable {boxes : Table (Box Rat)} {distance : Rat} {frame : Frame Rat} {box : Box Rat}
  (separates : d.Separates boxes distance)

include separates

theorem shift (dx dy : Rat) : d.Separates (boxes.map (Box.shift dx dy)) distance := by
  intro before boundary behind split
  obtain ⟨upper, lower⟩ := separates before boundary behind split
  exact ⟨fun a there b here => (upper a there b here).shift dx dy,
    fun b here c there => (lower b here c there).shift dx dy⟩

/-- An element of another boundary or of none is outside of a frame. -/
theorem outside_node (found : d.frame? boxes boundary = some frame)
    (occurs : boundary ∈ d.boundaries) (far : boundaryPadding + boundaryTitle ≤ distance)
    {node : UseCaseNode} (member : node ∈ d.nodes.values) (other : node.boundary ≠ some boundary)
    (placed : boxes.get? node.name = some box) : box.bounds.Outside frame.bounds := by
  rw [frame?_eq] at found
  obtain ⟨before, behind, split⟩ := List.append_of_mem occurs
  obtain ⟨upper, lower⟩ := separates before boundary behind split
  have near : (boundaryPadding : Rat) ≤ distance := by
    change (16 : Rat) + 20 ≤ distance at far
    change (16 : Rat) ≤ distance
    linarith
  cases inside : node.boundary with
  | none =>
      have free : node.name ∈ d.freeNames :=
        List.mem_map_of_mem (List.mem_filter.mpr ⟨member, by rw [inside]; rfl⟩)
      exact Frame.outside_of_above found placed (upper _ (List.mem_append_left _ free)) far
  | some second =>
      have own : node.name ∈ d.memberNames second :=
        mem_memberNames.mpr ⟨node, member, inside, rfl⟩
      have known : second ∈ d.boundaries := mem_boundaries member inside
      rw [split, List.mem_append, List.mem_cons] at known
      rcases known with earlier | rfl | later
      · have there := List.mem_flatMap.mpr ⟨second, earlier, own⟩
        exact Frame.outside_of_above found placed (upper _ (List.mem_append_right _ there)) far
      · exact absurd inside other
      · have there := List.mem_flatMap.mpr ⟨second, later, own⟩
        exact Frame.outside_of_below found placed
          (fun b here => lower b here _ (List.mem_append_left _ there)) near

theorem outside_note (found : d.frame? boxes boundary = some frame)
    (occurs : boundary ∈ d.boundaries) (far : boundaryPadding ≤ distance) {note : Note}
    (member : note ∈ d.notes) (placed : boxes.get? note.name = some box) :
    box.bounds.Outside frame.bounds := by
  rw [frame?_eq] at found
  obtain ⟨before, behind, split⟩ := List.append_of_mem occurs
  have lower := (separates before boundary behind split).2
  exact Frame.outside_of_below found placed
    (fun b here => lower b here _ (List.mem_append_right _ (List.mem_map_of_mem member))) far

theorem apart_frames (far : boundaryPadding + (boundaryPadding + boundaryTitle) ≤ distance) :
    (d.boundaries.filterMap (d.frame? boxes)).Pairwise fun first second =>
      first.bounds.Apart second.bounds := by
  rw [List.pairwise_filterMap]
  have later (before behind : List String) (split : d.boundaries = before ++ behind) :
      behind.Pairwise fun first second => ∀ f, d.frame? boxes first = some f →
        ∀ g, d.frame? boxes second = some g → f.bounds.Apart g.bounds := by
    induction behind generalizing before with
    | nil => exact .nil
    | cons first behind ih =>
        refine List.pairwise_cons.mpr ⟨?_, ih (before ++ [first]) ?_⟩
        · intro second there f found g foundOther
          rw [frame?_eq] at found foundOther
          have lower := (separates before first behind split).2
          refine Frame.apart_of_above found foundOther (fun b here c inside => ?_) far
          exact lower b here c
            (List.mem_append_left _ (List.mem_flatMap.mpr ⟨second, there, inside⟩))
        · rw [split, List.append_assoc, List.singleton_append]
  exact later [] d.boundaries rfl

end Separates

theorem framed_of_separates {distance : Rat} (separates : d.Separates l.boxes distance)
    (far : boundaryPadding + (boundaryPadding + boundaryTitle) ≤ distance)
    (groups : l.groups = d.boundaries.filterMap (d.frame? l.boxes))
    (nodes : ∀ node ∈ d.nodes.values, ∃ box, l.boxes.get? node.name = some box)
    (notes : ∀ note ∈ d.notes, ∃ box, l.boxes.get? note.name = some box) : Framed d l := by
  have near : (boundaryPadding + boundaryTitle : Rat) ≤ distance := by
    change (16 : Rat) + (16 + 20) ≤ distance at far
    change (16 : Rat) + 20 ≤ distance
    linarith
  have nearer : (boundaryPadding : Rat) ≤ distance := by
    change (16 : Rat) + 20 ≤ distance at near
    change (16 : Rat) ≤ distance
    linarith
  have names := map_name_groups groups nodes
  have framed {frame : Frame Rat} (member : frame ∈ l.groups) :
      frame.name ∈ d.boundaries ∧ d.frame? l.boxes frame.name = some frame := by
    rw [groups] at member
    obtain ⟨boundary, occurs, found⟩ := List.mem_filterMap.mp member
    rw [name_frame? found]
    exact ⟨occurs, found⟩
  refine ⟨?named, ?once, ?nodes, ?notes, ?apart⟩
  case named =>
    intro boundary
    rw [names, mem_boundaries_iff]
  case once =>
    rw [names]
    exact d.boundaries_invariant.1
  case nodes =>
    intro node member
    obtain ⟨box, placed⟩ := nodes node member
    refine ⟨box, placed, fun frame drawn => ?_⟩
    obtain ⟨occurs, found⟩ := framed drawn
    split
    · next inside =>
      rw [frame?_eq] at found
      have own := mem_memberNames.mpr ⟨node, member, inside, rfl⟩
      exact Frame.within_enclosing? found (by decide) (by decide) own placed
    · next other => exact separates.outside_node found occurs near member other placed
  case notes =>
    intro note member
    obtain ⟨box, placed⟩ := notes note member
    refine ⟨box, placed, fun frame drawn => ?_⟩
    obtain ⟨occurs, found⟩ := framed drawn
    exact separates.outside_note found occurs nearer member placed
  case apart =>
    rw [groups]
    exact separates.apart_frames far

/-- However the elements of some lines are spread over boundaries, every boundary with an element has
one frame, which holds the boxes of its elements and no point of any other box inside of it, and no two
frames have a common inside. -/
theorem framed_standard (lines : List Line) {settings : Settings Rat} (measure : Measure Rat)
    (across : 0 ≤ settings.horizontalGap) (down : 0 ≤ settings.verticalGap) :
    ∃ d diagnostics, Reader.standard .useCases lines = .ok (.useCases d, diagnostics) ∧
      Framed d ((Content.useCases d).layout settings measure) := by
  let d := (ofLines lines).1
  refine ⟨d, (ofLines lines).2, rfl, ?_⟩
  have distinct : (d.nodes.values.map UseCaseNode.name ++ d.notes.map Note.name).Nodup := by
    rw [← (linked_ofLines lines).keyed.keys_eq]
    exact Note.nodup_append_renameColliding (Table.nodup_keys _) _
  have fits : (Content.useCases d).Fits ((Content.useCases d).layout settings measure) :=
    Content.fits_layout trivial
  have placed (name : String) (known : name ∈ (Content.useCases d).elementNames) :
      ∃ box, ((Content.useCases d).layout settings measure).boxes.get? name = some box :=
    Table.exists_get? (fits.placed known)
  obtain ⟨dx, dy, moved, _, groups⟩ := Layout.exists_moved (d.layout settings measure)
    (fun boxes => d.frame? boxes) (fun dx dy boxes boundary => d.frame?_shift boxes boundary dx dy)
    rfl settings.margin
  have separates : d.Separates ((Content.useCases d).layout settings measure).boxes
      (settings.verticalGap + boundaryPadding * 2 + boundaryTitle) := by
    rw [Content.layout, Content.rawLayout, moved]
    refine Separates.shift (fun before boundary behind split => ?_) dx dy
    exact above_of_split (nodup_gridItems measure distinct) across down split
  refine framed_of_separates separates ?_ groups ?_ ?_
  · change (16 : Rat) + (16 + 20) ≤ settings.verticalGap + 16 * 2 + 20
    linarith
  · exact fun node member => placed _ (List.mem_append_left _ (List.mem_map_of_mem member))
  · exact fun note member => placed _ (List.mem_append_right _ (List.mem_map_of_mem member))

/-- One column, no space between elements, and a boundary that is opened twice. -/
theorem framed_standard_reopened :
    let settings : Settings Rat :=
      { Settings.standard with columns := 1, horizontalGap := 0, verticalGap := 0 }
    let lines : List Line :=
      [⟨1, "rectangle Shop \x7b"⟩, ⟨2, "(Browse)"⟩, ⟨3, "\x7d"⟩, ⟨4, "actor Bob"⟩,
        ⟨5, "rectangle Bank \x7b"⟩, ⟨6, "(Pay)"⟩, ⟨7, "\x7d"⟩, ⟨8, "rectangle Shop \x7b"⟩, ⟨9, "(Order)"⟩, ⟨10, "\x7d"⟩,
        ⟨11, "note right of Bob : regular"⟩]
    0 ≤ settings.horizontalGap ∧ 0 ≤ settings.verticalGap ∧
      ∃ d diagnostics, Reader.standard .useCases lines = .ok (.useCases d, diagnostics) ∧
        d.boundaries = ["Shop", "Bank"] ∧
        Framed d ((Content.useCases d).layout settings fun _ => ⟨0, 0⟩) := by
  intro settings lines
  have across : 0 ≤ settings.horizontalGap := by decide
  have down : 0 ≤ settings.verticalGap := by decide
  obtain ⟨d, diagnostics, read, framed⟩ := framed_standard lines (fun _ => ⟨0, 0⟩) across down
  refine ⟨across, down, d, diagnostics, read, ?_, framed⟩
  cases read
  decide +kernel

end UseCaseDiagram

end DiagramMarkup
