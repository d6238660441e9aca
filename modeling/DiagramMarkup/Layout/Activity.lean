import DiagramMarkup.Layout.Basic
import DiagramMarkup.Layout.Settings
import DiagramMarkup.Layout.Sizes

/-! # The layout of activities

All nodes stand one below the other, each on the middle of its lane. A partition gets room above its
first node for its title, and some below its last one.
-/

namespace DiagramMarkup

open Scalar

/-- The name under which the note of a node has its place. -/
def ActivityNode.noteName (node : ActivityNode) : String :=
  node.name ++ "-note"

namespace ActivityDiagram

variable {α : Type} [Scalar α]

/-- The space between the frame of a partition and its nodes. -/
def partitionPadding : α :=
  12

/-- The space for the title of a partition above its nodes. -/
def partitionTitle : α :=
  24

/-- The width of all lanes, in which the widest node has room. -/
def laneWidth (settings : Settings α) (measure : Measure α) (d : ActivityDiagram) : α :=
  let widest := largest (d.visibleNodes.map fun node => (node.size measure).width)
  larger settings.laneWidth (widest + settings.horizontalGap)

/-- The number of the lane of a node; without a known lane it is the first one. -/
def laneIndex (d : ActivityDiagram) (node : ActivityNode) : Nat :=
  match node.lane with
  | some name => (d.swimlanes.findIdx? fun lane => lane.name = name).getD 0
  | none => 0

/-- The room above the node of a number for the partitions that it opens. -/
def roomAbove (d : ActivityDiagram) (index : Nat) : α :=
  ((d.partitions.countP fun p => p.start = index : Nat) : α) * (partitionPadding + partitionTitle)

/-- The room below the node of a number for the partitions that it closes. -/
def roomBelow (d : ActivityDiagram) (index : Nat) : α :=
  ((d.partitions.countP fun p => p.stop = index + 1 : Nat) : α) * partitionPadding

/-- The box of a node whose upper side is at a height. -/
def nodeBox (settings : Settings α) (laneWidth : α) (measure : Measure α) (d : ActivityDiagram)
    (y : α) (node : ActivityNode) : Box α :=
  let size := node.size measure
  { x := settings.margin + (d.laneIndex node : α) * laneWidth + laneWidth / 2
    y := y + size.height / 2
    width := size.width
    height := size.height }

/-- The box of a note on the right of the box of its node. -/
def noteBox (settings : Settings α) (measure : Measure α) (box : Box α) (text : String) : Box α :=
  let size := measure.note text
  ⟨box.right + settings.noteGap + size.width / 2, box.y, size.width, size.height⟩

/-- The boxes of a node and its note from a height on, and the height behind them; a marker is not
placed. -/
def place (settings : Settings α) (laneWidth : α) (measure : Measure α) (d : ActivityDiagram)
    (y : α) (node : ActivityNode) : List (String × Box α) × α :=
  if node.isMarker then ([], y)
  else
    let box := nodeBox settings laneWidth measure d y node
    let note := node.note.toList.map fun text =>
      (node.noteName, noteBox settings measure box text)
    ((node.name, box) :: note, y + (box.height + settings.activityGap))

/-- The boxes of nodes and their notes from a height on, and the height below them. -/
def placeFrom (settings : Settings α) (laneWidth : α) (measure : Measure α) (d : ActivityDiagram) :
    Nat → α → List ActivityNode → List (String × Box α) × α
  | _, y, [] => ([], y)
  | index, y, node :: nodes =>
    let (here, below) := place settings laneWidth measure d (y + d.roomAbove index) node
    let (rest, stop) :=
      placeFrom settings laneWidth measure d (index + 1) (below + d.roomBelow index) nodes
    (here ++ rest, stop)

/-- The frames of the lanes, from a number on. -/
def lanesFrom (settings : Settings α) (laneWidth height : α) :
    Nat → List Swimlane → List (DiagramMarkup.Frame α)
  | _, [] => []
  | index, lane :: lanes =>
    { name := lane.name
      left := settings.margin + (index : α) * laneWidth
      top := settings.margin
      width := laneWidth
      height } :: lanesFrom settings laneWidth height (index + 1) lanes

/-- The nodes of a partition; a partition that reaches beyond the nodes has none. -/
def members (d : ActivityDiagram) (p : Partition) : List ActivityNode :=
  if p.stop ≤ d.nodes.length then (d.nodes.take p.stop).drop p.start else []

/-- The frame of a partition around the boxes of its nodes, if one of them has a box. -/
def frame? (boxes : Table (Box α)) (d : ActivityDiagram) (p : Partition) :
    Option (DiagramMarkup.Frame α) :=
  let content := (d.members p).filterMap fun node => (boxes.get? node.name).map Box.bounds
  (Bounds.unionAll? content).map fun content =>
    Frame.around p.name content partitionPadding partitionTitle

/-- One chain of nodes, with lanes and partitions. -/
def layout (settings : Settings α) (measure : Measure α) (d : ActivityDiagram) : Layout α :=
  let width := d.laneWidth settings measure
  let top := settings.margin
  let start := if d.swimlanes.isEmpty then top else top + settings.laneTitle
  let (placed, stop) := placeFrom settings width measure d 0 start d.nodes
  let boxes := Table.ofList placed
  { Layout.empty with
    boxes
    lanes := lanesFrom settings width (stop - top) 0 d.swimlanes
    groups := d.partitions.filterMap (d.frame? boxes) }

end ActivityDiagram

end DiagramMarkup
