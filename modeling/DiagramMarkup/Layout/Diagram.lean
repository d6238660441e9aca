import DiagramMarkup.Diagram.Basic
import DiagramMarkup.Layout.Activity
import DiagramMarkup.Layout.Basic
import DiagramMarkup.Layout.Grid
import DiagramMarkup.Layout.Sequence
import DiagramMarkup.Layout.Settings
import DiagramMarkup.Layout.Sizes

/-! # The layout of a diagram

Every kind of diagram has a layout of its own. The one of mind maps stands here: the root is in the
middle, the topics of either side are stacked in the order of the text, each at the distance of its
level, and every stack is centred on the root.
-/

namespace DiagramMarkup

open Scalar

namespace MindMap

variable {α : Type} [Scalar α]

/-- The topics on one side of a root; a topic that is not on the left stands on the right. -/
def onSide (map : MindMap) (root : Topic) (left : Bool) : List Topic :=
  map.nodes.values.filter fun topic => topic.name ≠ root.name && (topic.side = .left) = left

/-- The boxes of topics one below the other from a height on, and the height below them. The
direction tells the side. -/
def stack (settings : Settings α) (measure : Measure α) (root : Topic) (direction : α) :
    α → List Topic → List (String × Box α) × α
  | y, [] => ([], y)
  | y, topic :: topics =>
    let size := topic.size measure false
    let x := direction * ((topic.level - root.level : Nat) : α) * settings.levelDistance
    let (boxes, stop) :=
      stack settings measure root direction (y + (size.height + settings.topicGap)) topics
    ((topic.name, ⟨x, y + size.height / 2, size.width, size.height⟩) :: boxes, stop)

/-- The boxes of the topics on one side, moved up by half of their height so that the root is beside
their middle. -/
def sideBoxes (settings : Settings α) (measure : Measure α) (map : MindMap) (root : Topic)
    (left : Bool) : List (String × Box α) :=
  let direction := if left then -1 else 1
  let (boxes, stop) := stack settings measure root direction 0 (map.onSide root left)
  let height := larger (stop - settings.topicGap) 0
  boxes.map fun entry => (entry.1, { entry.2 with y := entry.2.y - height / 2 })

/-- The root in the middle, its right side and its left side. -/
def layout (settings : Settings α) (measure : Measure α) (map : MindMap) : Layout α :=
  match map.root? with
  | none => .empty
  | some root =>
    let size := root.size measure true
    let boxes :=
      (root.name, ⟨0, 0, size.width, size.height⟩) ::
        (map.sideBoxes settings measure root false ++ map.sideBoxes settings measure root true)
    { Layout.empty with boxes := .ofList boxes }

end MindMap

namespace Content

variable {α : Type} [Scalar α]

/-- The layout of a diagram before it is moved to the margins. -/
def rawLayout (settings : Settings α) (measure : Measure α) : Content → Layout α
  | classes d => d.layout settings measure
  | sequence d => d.layout settings measure
  | states d => d.layout settings measure
  | mindMap d => d.layout settings measure
  | entities d => d.layout settings measure
  | deployment d => d.layout settings measure
  | useCases d => d.layout settings measure
  | activity d => d.layout settings measure

/-- The layout of a diagram, moved to the margins, with the size of its canvas. -/
def layout (settings : Settings α) (measure : Measure α) (c : Content) : Layout α :=
  (c.rawLayout settings measure).finish settings.margin

end Content

end DiagramMarkup
