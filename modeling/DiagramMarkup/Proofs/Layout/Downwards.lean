import DiagramMarkup.Layout.Links
import DiagramMarkup.Proofs.Activity.Forward
import DiagramMarkup.Proofs.Activity.Lanes
import DiagramMarkup.Proofs.Drawing.Keys
import DiagramMarkup.Proofs.Layout.Chain

/-! # Activities run downwards

The nodes of an activity stand one below the other, each in the column of its lane. So a line leads
upwards where it leads back in the list of nodes, and that is only at the end of a loop.
-/

namespace DiagramMarkup.ActivityDiagram

open Scalar

/-! ## Lanes -/

/-- The lanes of a layout are columns of one width, side by side, and every node that is drawn stands in
one of them: in that of its lane, or in the first one if it has no lane. -/
structure Columns (d : ActivityDiagram) (l : Layout Rat) (left width : Rat) : Prop where
  distinct : (d.swimlanes.map Swimlane.name).Nodup
  named : l.lanes.map Frame.name = d.swimlanes.map Swimlane.name
  sides : ∀ (k : Nat) (lane : DiagramMarkup.Frame Rat), l.lanes[k]? = some lane →
    lane.left = left + k * width ∧ lane.width = width
  nodes : ∀ node ∈ d.visibleNodes, ∃ (k : Nat) (box : Box Rat), l.boxes.get? node.name = some box ∧
    (∀ name, node.lane = some name → (d.swimlanes.map Swimlane.name)[k]? = some name) ∧
    (node.lane = none → k = 0) ∧ left + k * width ≤ box.left ∧ box.right ≤ left + (k + 1) * width

variable {d : ActivityDiagram} {settings : Settings Rat} {measure : Measure Rat}
  {node : ActivityNode} {i : Nat}

theorem getElem?_lanesFrom (settings : Settings Rat) (width height : Rat) (index k : Nat)
    (lanes : List Swimlane) :
    (lanesFrom settings width height index lanes)[k]? = lanes[k]?.map fun lane =>
      { name := lane.name
        left := settings.margin + ((index + k : Nat) : Rat) * width
        top := settings.margin
        width
        height } := by
  induction lanes generalizing index k with
  | nil => rfl
  | cons lane lanes ih =>
      cases k with
      | zero => rfl
      | succ k =>
          rw [lanesFrom, List.getElem?_cons_succ, ih, List.getElem?_cons_succ, Nat.add_right_comm,
            Nat.add_assoc]

theorem getElem?_laneIndex {name : String} (lane : node.lane = some name)
    (known : name ∈ d.swimlanes.map Swimlane.name) :
    (d.swimlanes.map Swimlane.name)[d.laneIndex node]? = some name := by
  obtain ⟨first, member, same⟩ := List.mem_map.mp known
  unfold laneIndex
  rw [lane]
  dsimp only
  cases found : d.swimlanes.findIdx? fun lane => lane.name = name with
  | none =>
      have absent := List.findIdx?_eq_none_iff.mp found first member
      rw [decide_eq_true same] at absent
      cases absent
  | some k =>
      obtain ⟨inside, fits, _⟩ := List.findIdx?_eq_some_iff_getElem.mp found
      rw [Option.getD_some, List.getElem?_map, List.getElem?_eq_getElem inside, Option.map_some,
        of_decide_eq_true fits]

theorem width_le_laneWidth (across : 0 ≤ settings.horizontalGap) (visible : node ∈ d.visibleNodes) :
    (node.size measure).width ≤ d.laneWidth settings measure := by
  have widest : (node.size measure).width ≤
      largest (d.visibleNodes.map fun node => (node.size measure).width) :=
    le_largest (List.mem_map_of_mem visible)
  rw [laneWidth, larger_eq_max]
  exact le_max_of_le_right (widest.trans (le_add_of_nonneg_right across))

theorem within_column (across : 0 ≤ settings.horizontalGap) (visible : node ∈ d.visibleNodes)
    (dx dy : Rat) :
    let box := (d.boxAt settings measure i node).shift dx dy
    let width := d.laneWidth settings measure
    settings.margin + dx + d.laneIndex node * width ≤ box.left ∧
      box.right ≤ settings.margin + dx + (d.laneIndex node + 1) * width := by
  intro box width
  have fits : (node.size measure).width ≤ width := width_le_laneWidth across visible
  have middle : box.x = settings.margin + d.laneIndex node * width + width / 2 + dx := rfl
  have wide : box.width = (node.size measure).width := rfl
  rw [box.left_eq, box.right_eq, middle, wide]
  constructor <;> linarith

/-- The lanes of an activity are columns, and its nodes stand in them. -/
theorem columns_layout (measure : Measure Rat) (nested : Nesting.Nested d.nodes [])
    (lanes : Lanes (d.nodes.map ActivityNode.lane) d.swimlanes) (across : 0 ≤ settings.horizontalGap) :
    ∃ left, Columns d ((Content.activity d).layout settings measure) left
      (d.laneWidth settings measure) := by
  obtain ⟨dx, dy, boxes, moved, _⟩ := exists_moved settings measure d
  let stop := (placeFrom settings (d.laneWidth settings measure) measure d 0 (d.firstHeight settings)
    d.nodes).2
  have lane (k : Nat) : ((Content.activity d).layout settings measure).lanes[k]? =
      d.swimlanes[k]?.map fun lane => Frame.shift dx dy
        { name := lane.name
          left := settings.margin + ((0 + k : Nat) : Rat) * d.laneWidth settings measure
          top := settings.margin
          width := d.laneWidth settings measure
          height := stop - settings.margin } := by
    have frames : (d.layout settings measure).lanes = lanesFrom settings (d.laneWidth settings measure)
      (stop - settings.margin) 0 d.swimlanes := rfl
    rw [moved, List.getElem?_map, frames, getElem?_lanesFrom, Option.map_map]
    rfl
  refine ⟨settings.margin + dx, lanes.distinct, ?named, ?sides, ?nodes⟩
  case named =>
    apply List.ext_getElem?
    intro k
    rw [List.getElem?_map, lane, Option.map_map, List.getElem?_map]
    rfl
  case sides =>
    intro k frame here
    rw [lane, Nat.zero_add] at here
    obtain ⟨swimlane, _, rfl⟩ := Option.map_eq_some_iff.mp here
    exact ⟨add_right_comm _ _ _, rfl⟩
  case nodes =>
    intro node visible
    obtain ⟨member, shown⟩ := List.mem_filter.mp visible
    obtain ⟨i, here⟩ := List.mem_iff_getElem?.mp member
    have found := get?_boxes settings measure nested here ((Bool.not_eq_true' _).mp shown)
    refine ⟨d.laneIndex node, _, by rw [boxes, Table.get?_map, found, Option.map_some], ?known, ?first,
      within_column across visible dx dy⟩
    case known =>
      intro name inLane
      apply getElem?_laneIndex inLane
      exact lanes.known name (List.mem_map.mpr ⟨node, member, inLane⟩)
    case first =>
      intro outside
      rw [laneIndex, outside]

/-! ## Lines that lead upwards -/

/-- Nodes that are drawn one below the other, and lines that lead upwards from the end of a loop to its
decision, and only there. -/
structure RunsDown (d : ActivityDiagram) (l : Layout Rat) (gap : Rat) : Prop where
  drawn : ∀ node ∈ d.visibleNodes, ∃ box, l.boxes.get? node.name = some box ∧ 0 < box.height
  downwards : d.visibleNodes.Pairwise fun upper lower => Above l.boxes gap upper.name lower.name
  upwards : ∀ link ∈ (Content.activity d).links l,
    link.upwards = true ↔ Flow.LoopsBack d.nodes link.source link.target

section

variable {boxes : Table (Box Rat)} {gap : Rat} {source target : String}

theorem upwards_ofFlow {r : Relation} {first second : Box Rat} (here : boxes.get? r.source = some first)
    (there : boxes.get? r.target = some second) :
    (Link.ofFlow boxes r).upwards = decide (second.y < first.y) := by
  unfold Link.ofFlow
  rw [here, there]

theorem y_lt_of_above {upper lower : Box Rat} (wide : 0 ≤ gap) (first : 0 < upper.height)
    (second : 0 < lower.height) (above : upper.bottom + gap ≤ lower.top) : upper.y < lower.y := by
  unfold Box.bottom Box.top at above
  linarith

namespace Chained

variable (chained : Chained d boxes gap)

include chained

theorem downwards :
    d.visibleNodes.Pairwise fun upper lower => Above boxes gap upper.name lower.name := by
  have all : d.nodes.Pairwise fun upper lower => Above boxes gap upper.name lower.name := by
    rw [List.pairwise_iff_getElem]
    intro i j known knownOther before
    exact chained.below i j _ _ (List.getElem?_eq_getElem known) (List.getElem?_eq_getElem knownOther)
      before
  exact all.filter _

theorem exists_box (named : source ∈ d.visibleNodes.map ActivityNode.name) :
    ∃ box, boxes.get? source = some box ∧ 0 < box.height := by
  obtain ⟨node, visible, rfl⟩ := List.mem_map.mp named
  exact chained.drawn node visible

variable (wide : 0 ≤ gap) {r : Relation}

include wide

theorem upwards_eq_false
    (forward : [r.source, r.target].Sublist (d.visibleNodes.map ActivityNode.name)) :
    (Link.ofFlow boxes r).upwards = false := by
  obtain ⟨upper, here, first⟩ := chained.exists_box (forward.subset List.mem_cons_self)
  obtain ⟨lower, there, second⟩ := chained.exists_box
    (forward.subset (List.mem_cons_of_mem _ List.mem_cons_self))
  have above := List.pairwise_pair.mp ((List.pairwise_map.mpr chained.downwards).sublist forward)
  have below := y_lt_of_above wide first second (above upper lower here there)
  rw [upwards_ofFlow here there]
  exact decide_eq_false (not_lt_of_gt below)

/-- The decision of a loop stands above its merge. -/
theorem upwards_eq_true (nested : Nesting.Nested d.nodes [])
    (loops : Flow.LoopsBack d.nodes r.source r.target) : (Link.ofFlow boxes r).upwards = true := by
  obtain ⟨merge, known, decision, knownDecision, kind, _, kindDecision, owner, source, target⟩ := loops
  have visible {node : ActivityNode} (known : node ∈ d.nodes) (drawn : node.isMarker = false) :
      node ∈ d.visibleNodes := List.mem_filter.mpr ⟨known, (Bool.not_eq_true' _).mpr drawn⟩
  obtain ⟨lower, here, second⟩ := chained.drawn merge
    (visible known (by rw [ActivityNode.isMarker, kind]; rfl))
  obtain ⟨upper, there, first⟩ := chained.drawn decision
    (visible knownDecision (by rw [ActivityNode.isMarker, kindDecision]; rfl))
  obtain ⟨i, place⟩ := List.mem_iff_getElem?.mp known
  obtain ⟨j, opener, before, earlier, same⟩ := nested.earlier place owner
  have above := chained.below j i opener merge earlier place before upper lower (same ▸ there) here
  have below := y_lt_of_above wide first second above
  rw [source] at here
  rw [target] at there
  rw [upwards_ofFlow here there]
  exact decide_eq_true below

theorem runsDown (nested : Nesting.Nested d.nodes [])
    (forward : Flow.Forward d.nodes (d.visibleNodes.map ActivityNode.name)
      (d.edges.map Relation.ends)) {l : Layout Rat} (same : l.boxes = boxes) :
    RunsDown d l gap where
  drawn := same ▸ chained.drawn
  downwards := same ▸ chained.downwards
  upwards link member := by
    obtain ⟨r, edge, rfl⟩ := List.mem_map.mp (List.mem_filter.mp member).1
    rw [same]
    have back := chained.upwards_eq_true wide nested (r := r)
    refine ⟨fun up => ?_, back⟩
    rcases forward r.ends (List.mem_map_of_mem edge) with along | loops
    · cases (chained.upwards_eq_false wide along).symm.trans up
    · exact loops

end Chained

end

/-- Whatever the lines of an activity, the nodes that are drawn stand one below the other, each inside of
the column of its lane, and of the lines between them exactly those lead upwards that go from the merge
of a loop to its decision. -/
theorem runsDown_standard (lines : List Line) {settings : Settings Rat} (measure : Measure Rat)
    (down : 0 ≤ settings.activityGap) (across : 0 ≤ settings.horizontalGap) :
    ∃ d diagnostics, Reader.standard .activity lines = .ok (.activity d, diagnostics) ∧
      RunsDown d ((Content.activity d).layout settings measure) settings.activityGap ∧
        ∃ left, Columns d ((Content.activity d).layout settings measure) left
          (d.laneWidth settings measure) := by
  obtain ⟨edges, found, forward⟩ := Flow.forward_draftOfLines lines
  have nested := Nesting.nested_draftOfLines lines
  let d : ActivityDiagram := { (draftOfLines lines).1 with edges }
  have chained : Chained d ((Content.activity d).layout settings measure).boxes settings.activityGap :=
    chained_draftOfLines lines edges measure down
  have columns : ∃ left, Columns d ((Content.activity d).layout settings measure) left
      (d.laneWidth settings measure) :=
    columns_layout measure nested (lanes_draftOfLines lines) across
  exact ⟨d, _, standard_of_edges found, chained.runsDown down nested forward rfl, columns⟩

/-- A loop through two lanes: only the line from its merge leads back to its decision. -/
theorem runsDown_standard_loop :
    let settings : Settings Rat :=
      { Settings.standard with activityGap := 0, horizontalGap := 0, laneWidth := 0 }
    let lines : List Line :=
      [⟨1, "|Shop|"⟩, ⟨2, "start"⟩, ⟨3, "while (more)"⟩, ⟨4, ":order;"⟩, ⟨5, "|Bank|"⟩, ⟨6, ":pay;"⟩,
        ⟨7, "endwhile"⟩, ⟨8, "stop"⟩]
    0 ≤ settings.activityGap ∧ 0 ≤ settings.horizontalGap ∧
      ∃ d diagnostics, Reader.standard .activity lines = .ok (.activity d, diagnostics) ∧
        d.edges.map Relation.ends = [("a0", "a1"), ("a1", "a2"), ("a1", "a5"), ("a2", "a3"),
          ("a3", "a4"), ("a4", "a1")] ∧
        Flow.LoopsBack d.nodes "a4" "a1" ∧
        RunsDown d ((Content.activity d).layout settings fun _ => ⟨0, 0⟩) 0 ∧
          ∃ left, Columns d ((Content.activity d).layout settings fun _ => ⟨0, 0⟩) left
            (d.laneWidth settings fun _ => ⟨0, 0⟩) := by
  intro settings lines
  have down : 0 ≤ settings.activityGap := by decide
  have across : 0 ≤ settings.horizontalGap := by decide
  obtain ⟨d, diagnostics, read, runs, columns⟩ :=
    runsDown_standard lines (fun _ => ⟨0, 0⟩) down across
  obtain ⟨edges, found, _⟩ := Flow.exists_edges lines
  have same := read
  rw [standard_of_edges found] at same
  cases same
  refine ⟨down, across, _, _, read, ?edges, ?loop, runs, columns⟩
  case edges =>
    have ends : (Flow.edges (draftOfLines lines).1.nodes).toOption.map (List.map Relation.ends) =
        some [("a0", "a1"), ("a1", "a2"), ("a1", "a5"), ("a2", "a3"), ("a3", "a4"), ("a4", "a1")] := by
      decide +kernel
    rw [found] at ends
    exact Option.some.inj ends
  case loop =>
    unfold Flow.LoopsBack
    change ∃ merge ∈ (draftOfLines lines).1.nodes, ∃ decision ∈ (draftOfLines lines).1.nodes, _
    decide +kernel

end DiagramMarkup.ActivityDiagram
