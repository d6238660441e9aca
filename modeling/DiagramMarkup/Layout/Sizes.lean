import DiagramMarkup.Diagram.Activity
import DiagramMarkup.Diagram.Classes
import DiagramMarkup.Diagram.Deployment
import DiagramMarkup.Diagram.Entities
import DiagramMarkup.Diagram.MindMap
import DiagramMarkup.Diagram.Sequence
import DiagramMarkup.Diagram.States
import DiagramMarkup.Diagram.UseCases
import DiagramMarkup.Layout.Measure

/-! # The sizes of elements

An element is as large as its texts need, and never smaller than the least size of its kind.
-/

namespace DiagramMarkup

open Scalar

variable {α : Type} [Scalar α]

def titleHeight : α :=
  26

/-- What a stereotype adds to the height of a title. -/
def stereotypeHeight : α :=
  14

/-- The height of the row of a member or a column. -/
def rowHeight : α :=
  20

/-- The height of the line between two groups of rows. -/
def separatorHeight : α :=
  8

/-- The space below the last row. -/
def bodyPadding : α :=
  6

/-- The diameter of a start. -/
def startSize : α :=
  30

/-- The diameter of the ring around an end. -/
def endSize : α :=
  40

/-- The width and height of a merge. -/
def mergeSize : α :=
  30

/-- The height of the bar of a fork or a join. -/
def barHeight : α :=
  8

def actorSize : Size α :=
  ⟨30, 60⟩

/-- The rows below a title in two groups. A line separates the groups if neither is empty. -/
structure Rows where
  above : List String
  below : List String
deriving Repr, DecidableEq

namespace Rows

/-- Whether both groups have rows, so that a line separates them. -/
def isSeparated (rows : Rows) : Bool :=
  !rows.above.isEmpty && !rows.below.isEmpty

def all (rows : Rows) : List String :=
  rows.above ++ rows.below

/-- The height that rows take below a title. -/
def height (rows : Rows) : α :=
  (rows.all.length : α) * rowHeight + (if rows.isSeparated then separatorHeight else 0) +
    bodyPadding

end Rows

namespace Measure

def widest (measure : Measure α) (texts : List String) : α :=
  largest (texts.map fun text => (measure text).width)

/-- The height of a line; a text without characters has one. -/
def lineHeight (measure : Measure α) : α :=
  (measure "").height

/-- A text with some space at its sides, of a least size. -/
def padded (measure : Measure α) (text : String) (space least : Size α) : Size α :=
  let size := measure text
  ⟨larger (size.width + space.width) least.width, larger (size.height + space.height) least.height⟩

def note (measure : Measure α) (text : String) : Size α :=
  measure.padded text ⟨24, 16⟩ ⟨120, 40⟩

end Measure

namespace ClassNode

/-- The height of the title of a class, which may have a stereotype above its name. -/
def headerHeight (node : ClassNode) : α :=
  if node.stereotypeLine?.isSome then titleHeight + stereotypeHeight else titleHeight

/-- The rows of the attributes and of the methods. -/
def rows (node : ClassNode) : Rows :=
  ⟨node.attributes.map Member.line, node.methods.map Member.line⟩

/-- The size of a class: its title and its widest row decide the width, its rows the height. -/
def size (measure : Measure α) (node : ClassNode) : Size α :=
  let widest := larger (measure.widest node.rows.all) (measure node.title).width
  ⟨larger (widest + 16) 160, node.headerHeight + node.rows.height⟩

end ClassNode

namespace Entity

/-- The number of the first column that is no key, where columns that are keys stand before it. -/
def separatorAt? (entity : Entity) : Option Nat :=
  (entity.columns.findIdx? fun column => !column.primaryKey).filter fun index => 0 < index

/-- The rows of the keys and of the other columns; without both there is one group. -/
def rows (entity : Entity) : Rows :=
  let lines := entity.columns.map Column.line
  match entity.separatorAt? with
  | some index => ⟨lines.take index, lines.drop index⟩
  | none => ⟨lines, []⟩

/-- The size of an entity, in the same way as the size of a class. -/
def size (measure : Measure α) (entity : Entity) : Size α :=
  let widest := larger (measure.widest entity.rows.all) (measure entity.label).width
  ⟨larger (widest + 16) 160, titleHeight + entity.rows.height⟩

end Entity

/-- The size of a state; only states with a box depend on their texts. -/
def StateNode.size (measure : Measure α) (state : StateNode) : Size α :=
  match state.kind with
  | .initial => ⟨startSize, startSize⟩
  | .final => ⟨startSize, startSize⟩
  | .fork => ⟨80, barHeight⟩
  | .join => ⟨80, barHeight⟩
  | .choice => ⟨40, 40⟩
  | _ =>
    let label := measure state.label
    let below := measure.widest state.descriptions
    let belowHeight := (state.descriptions.length : α) * measure.lineHeight
    ⟨larger (larger label.width below + 30) 120, larger (label.height + belowHeight + 24) 60⟩

def Device.size (measure : Measure α) (device : Device) : Size α :=
  measure.padded device.label ⟨40, 30⟩ ⟨120, 60⟩

def UseCaseNode.size (measure : Measure α) (node : UseCaseNode) : Size α :=
  match node.kind with
  | .actor => actorSize
  | .useCase => measure.padded node.label ⟨50, 30⟩ ⟨120, 60⟩

/-- The size of a topic, which is larger for the root. -/
def Topic.size (measure : Measure α) (topic : Topic) (isRoot : Bool) : Size α :=
  let size := measure topic.label
  if isRoot then ⟨larger (size.width + 40) 80, size.height + 24⟩
  else ⟨larger (size.width + 24) 60, size.height + 16⟩

/-- The size of the head of a participant, at least as high as the settings ask. -/
def Participant.size (measure : Measure α) (participant : Participant) (least : α) : Size α :=
  let size := measure participant.label
  ⟨larger (size.width + 24) 100, larger least (size.height + 12)⟩

/-- The size of a node of an activity; a marker has none. -/
def ActivityNode.size (measure : Measure α) (node : ActivityNode) : Size α :=
  match node.kind with
  | .start => ⟨startSize, startSize⟩
  | .stop => ⟨endSize, endSize⟩
  | .action => measure.padded node.label ⟨20, 16⟩ ⟨140, 40⟩
  | .decision =>
    let size := measure node.label
    ⟨larger (size.width * 1.4 + 20) 100, larger (size.height * 2 + 20) 60⟩
  | .merge => ⟨mergeSize, mergeSize⟩
  | .fork => ⟨160, barHeight⟩
  | .join => ⟨160, barHeight⟩
  | _ => ⟨0, 0⟩

end DiagramMarkup
