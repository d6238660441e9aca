import DiagramMarkup.Diagram.Basic
import DiagramMarkup.Drawio.Styles
import DiagramMarkup.Layout.Activity

/-! # The cells of elements

Every element of a diagram gets a cell at its place in the layout, and lines end at that cell. Frames
and lanes come first, so that they lie behind.
-/

namespace DiagramMarkup

open Drawio

namespace Drawio.Graph

variable {α : Type} [Scalar α]

/-- Adds a shape in a box and notes it as the cell of an element. -/
def addBox (g : Graph α) (name label : String) (style : Style α) (b : Box α) : Graph α :=
  g.addElement name (.vertex label style layer (.ofBox b))

/-- Adds the cell of an element that must have a place. -/
def addPlaced (l : Layout α) (g : Graph α) (name label : String) (style : Style α) :
    Except LayoutFault (Graph α) :=
  match l.require name with
  | .ok b => .ok (g.addBox name label style b)
  | .error fault => .error fault

/-- Adds the frames around elements, under their names as titles. -/
def addFrames (g : Graph α) (style : Style α) (frames : List (Frame α)) : Graph α :=
  g.add (frames.map fun f => .vertex f.name style layer (.ofFrame f))

/-- Adds the notes of a diagram at their places. -/
def addNotes (l : Layout α) (notes : List Note) (g : Graph α) : Except LayoutFault (Graph α) :=
  notes.foldlM (fun g note => addPlaced l g note.name note.text .note) g

/-- The cells of rows from a height on. -/
def rowCells (parent : Nat) (width : α) : α → List String → List (Cell α)
  | _, [] => []
  | y, row :: rows =>
    .vertex row .row parent ⟨0, y, width, rowHeight⟩ ::
      rowCells parent width (y + rowHeight) rows

/-- The height behind some rows. -/
def behindRows : α → List String → α
  | y, [] => y
  | y, _ :: rows => behindRows (y + rowHeight) rows

/-- The cells of rows below a title, with a line between their groups. -/
def compartmentCells (parent : Nat) (width title : α) (rows : Rows) : List (Cell α) :=
  let y := behindRows title rows.above
  if rows.isSeparated then
    rowCells parent width title rows.above ++
      .vertex "" .separator parent ⟨0, y, width, separatorHeight⟩ ::
        rowCells parent width (y + separatorHeight) rows.below
  else rowCells parent width title rows.above ++ rowCells parent width y rows.below

/-- Adds an element whose rows are listed below its title. -/
def addCompartments (l : Layout α) (g : Graph α) (name label : String) (style : Style α) (title : α)
    (rows : Rows) : Except LayoutFault (Graph α) :=
  match l.require name with
  | .ok b =>
    .ok ((g.addBox name label style b).add (compartmentCells g.next b.width title rows))
  | .error fault => .error fault

end Drawio.Graph

variable {α : Type} [Scalar α]

/-- Adds the cells of classes with their compartments, and of notes. -/
def ClassDiagram.addCells (l : Layout α) (d : ClassDiagram) (g : Graph α) :
    Except LayoutFault (Graph α) := do
  let add (g : Graph α) (node : ClassNode) :=
    Graph.addCompartments l g node.name node.heading (.ofClass node) node.headerHeight node.rows
  Graph.addNotes l d.notes (← d.classes.values.foldlM add g)

def EntityDiagram.addCells (l : Layout α) (d : EntityDiagram) (g : Graph α) :
    Except LayoutFault (Graph α) :=
  let add (g : Graph α) (entity : Entity) :=
    Graph.addCompartments l g entity.name entity.label .entity titleHeight entity.rows
  d.entities.values.foldlM add g

/-- The text in a state; one that only directs the flow has none. -/
def StateNode.text (state : StateNode) : String :=
  if state.kind.isPseudo then "" else "\n".intercalate (state.label :: state.descriptions)

def StateDiagram.addCells (l : Layout α) (d : StateDiagram) (g : Graph α) :
    Except LayoutFault (Graph α) := do
  let add (g : Graph α) (state : StateNode) :=
    Graph.addPlaced l g state.name state.text (.ofState state.kind)
  Graph.addNotes l d.notes (← d.states.values.foldlM add g)

def DeploymentDiagram.addCells (l : Layout α) (d : DeploymentDiagram) (g : Graph α) :
    Except LayoutFault (Graph α) := do
  let add (g : Graph α) (device : Device) :=
    Graph.addPlaced l g device.name device.label (.ofArchetype device.archetype)
  Graph.addNotes l d.notes (← d.nodes.values.foldlM add g)

/-- Adds the frames of boundaries, and then the cells of actors, use cases and notes. -/
def UseCaseDiagram.addCells (l : Layout α) (d : UseCaseDiagram) (g : Graph α) :
    Except LayoutFault (Graph α) := do
  let add (g : Graph α) (node : UseCaseNode) :=
    Graph.addPlaced l g node.name node.label (.ofUseCase node.kind)
  Graph.addNotes l d.notes (← d.nodes.values.foldlM add (g.addFrames .boundary l.groups))

def MindMap.addCells (l : Layout α) (map : MindMap) (g : Graph α) :
    Except LayoutFault (Graph α) :=
  map.nodes.values.foldlM
    (fun g topic => Graph.addPlaced l g topic.name topic.label (.ofTopic topic)) g

namespace ActivityNode

/-- The text in a node; only actions and decisions have one. -/
def text (node : ActivityNode) : String :=
  if node.kind = .action ∨ node.kind = .decision then node.label else ""

/-- Adds the cell of a node that has a box. Lines lead to the disc of an end, and not to the ring
around it. -/
def addCell (g : Graph α) (node : ActivityNode) (b : Box α) : Graph α :=
  if node.kind = .stop then
    (g.addBox node.name "" (.ofActivity .stop) { b with width := startSize, height := startSize }).add
      [.vertex "" .ring layer (.ofBox b)]
  else g.addBox node.name node.text (.ofActivity node.kind) b

/-- Adds the cell of a node of an activity, and its note. -/
def addCells (l : Layout α) (g : Graph α) (node : ActivityNode) :
    Except LayoutFault (Graph α) := do
  let b ← l.require node.name
  let g := addCell g node b
  match node.note with
  | some text => Graph.addPlaced l g node.noteName text .note
  | none => return g

end ActivityNode

/-- Adds the frames of lanes and partitions, and then the cells of the nodes that are shown. -/
def ActivityDiagram.addCells (l : Layout α) (d : ActivityDiagram) (g : Graph α) :
    Except LayoutFault (Graph α) :=
  d.visibleNodes.foldlM (ActivityNode.addCells l)
    ((g.addFrames .lane l.lanes).addFrames .partition l.groups)

namespace SequenceDiagram

/-- Adds a participant, from the top of its head to the end of its lifeline. -/
def addLifeline (l : Layout α) (t : Timeline α) (g : Graph α) (p : Participant) :
    Except LayoutFault (Graph α) := do
  let b ← l.require p.name
  return g.addElement p.name <|
    .vertex p.label (.lifeline p.kind t.headHeight) layer
      ⟨b.left, t.top, b.width, t.lifelineEnd - t.top⟩

/-- Adds the cells of notes and dividers in their rows, from a number of notes on. A note without a
place is left out. -/
def addStepCells (l : Layout α) (t : Timeline α) : Nat → List (Step × α) → Graph α → Graph α
  | _, [], g => g
  | notes, (.note note, _) :: steps, g =>
    let name := Note.nameAt notes
    let g :=
      match l.boxes.get? name with
      | some b => g.addBox name note.text .note b
      | none => g
    addStepCells l t (notes + 1) steps g
  | notes, (.divider label, y) :: steps, g =>
    addStepCells l t notes steps <|
      g.add [.vertex label .divider layer ⟨t.left, y - 5, t.right - t.left, 10⟩]
  | notes, (.message _, _) :: steps, g => addStepCells l t notes steps g

/-- Adds the lifelines of the participants, and then what the steps show in their rows. -/
def addCells (l : Layout α) (t : Timeline α) (d : SequenceDiagram) (g : Graph α) :
    Except LayoutFault (Graph α) := do
  let g ← d.participants.values.foldlM (addLifeline l t) g
  return addStepCells l t 0 (d.steps.zip t.rows) g

end SequenceDiagram

end DiagramMarkup
