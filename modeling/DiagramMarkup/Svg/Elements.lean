import DiagramMarkup.Diagram.Basic
import DiagramMarkup.Layout.Activity
import DiagramMarkup.Layout.Fault
import DiagramMarkup.Svg.Shapes

/-! # The pictures of elements

Every element of a diagram is drawn as a group of shapes at its place in the layout.
-/

namespace DiagramMarkup

open Scalar Svg

variable {α : Type} [Scalar α]

def Note.draw (l : Layout α) (lineHeight : α) (notes : List Note) :
    Except LayoutFault (List (Markup α)) :=
  notes.mapM fun note => do
    let b ← l.require note.name
    return Svg.note b note.text lineHeight

namespace Rows

/-- The rows from top to bottom; the line between the groups has no text. -/
def items (rows : Rows) : List (Option String) :=
  rows.above.map some ++ (if rows.isSeparated then [none] else []) ++ rows.below.map some

/-- The rows of a compartment from a height on, where nothing stands for the line between two
groups. -/
def shapesFrom (b : Box α) (stroke : String) (lineHeight : α) :
    α → List (Option String) → List (Markup α)
  | _, [] => []
  | y, none :: items =>
    ruler b.left b.right (y + separatorHeight / 2) stroke ::
      shapesFrom b stroke lineHeight (y + separatorHeight) items
  | y, some row :: items =>
    textBlock (b.left + 6) (y + rowHeight / 2) row .start lineHeight ::
      shapesFrom b stroke lineHeight (y + rowHeight) items

/-- Draws a title with rows below it. -/
def draw (rows : Rows) (b : Box α) (heading : String) (title : α) (colors : Colors)
    (lineHeight : α) : List (Markup α) :=
  rounded b 0 colors ::
    .element "rect"
      (rectangleAttributes b.left (b.top + title) b.width (b.height - title) ++
        paint ⟨"white", colors.stroke⟩)
      [] ::
    textBlock b.x (b.top + title / 2) heading .middle (smaller lineHeight stereotypeHeight)
      [bold] ::
    shapesFrom b colors.stroke lineHeight (b.top + title) rows.items

end Rows

def ClassDiagram.draw (l : Layout α) (lineHeight : α) (d : ClassDiagram) :
    Except LayoutFault (List (Markup α)) := do
  let classes ← d.classes.values.mapM fun node => do
    let b ← l.require node.name
    return group "node class" <|
      node.rows.draw b node.heading node.headerHeight node.kind.colors lineHeight
  return classes ++ (← Note.draw l lineHeight d.notes)

def EntityDiagram.draw (l : Layout α) (lineHeight : α) (d : EntityDiagram) :
    Except LayoutFault (List (Markup α)) :=
  d.entities.values.mapM fun entity => do
    let b ← l.require entity.name
    return group "node entity" <|
      entity.rows.draw b entity.label titleHeight Palette.gray lineHeight

namespace StateNode

/-- The shapes of a state with descriptions: its name, a line, and the descriptions below. -/
def describedShapes (state : StateNode) (b : Box α) (lineHeight : α) : List (Markup α) :=
  let title := b.top + 12 + lineHeight / 2
  let below := title + lineHeight / 2 + 4
  [textBlock b.x title state.label .middle lineHeight [bold],
    ruler b.left b.right below Palette.blue.stroke,
    textBlock b.x ((below + b.bottom) / 2) ("\n".intercalate state.descriptions) .middle
      lineHeight]

/-- The shapes of a state in its box. -/
def shapes (state : StateNode) (b : Box α) (lineHeight : α) : List (Markup α) :=
  match state.kind with
  | .initial => [circle b.x b.y (b.width / 2) dark 1]
  | .final =>
    [circle b.x b.y (b.width / 2) ⟨"white", "#333"⟩ 1.5,
      circle b.x b.y (b.width / 2 - 5) dark 1]
  | .fork => [rounded b 2 dark]
  | .join => [rounded b 2 dark]
  | .choice => [diamond b Palette.yellow]
  | _ =>
    rounded b 10 Palette.blue ::
      if state.descriptions.isEmpty then [caption b state.label lineHeight]
      else state.describedShapes b lineHeight

end StateNode

def StateDiagram.draw (l : Layout α) (lineHeight : α) (d : StateDiagram) :
    Except LayoutFault (List (Markup α)) := do
  let states ← d.states.values.mapM fun state => do
    let b ← l.require state.name
    return group "node state" (state.shapes b lineHeight)
  return states ++ (← Note.draw l lineHeight d.notes)

/-- The shapes of a deployed thing without its label. -/
def Archetype.shapes (archetype : Archetype) (b : Box α) : List (Markup α) :=
  match archetype with
  | .database => cylinder b 8
  | .queue => cylinder b 8
  | .storage => cylinder b 8
  | .cloud => [ellipse b Palette.blue]
  | .interface => [ellipse b Palette.blue]
  | .node =>
    [rounded b 0 Palette.blue,
      polyline
        [⟨b.left, b.top⟩, ⟨b.left + 8, b.top - 8⟩, ⟨b.right + 8, b.top - 8⟩,
          ⟨b.right + 8, b.bottom - 8⟩]
        (paint ⟨"none", Palette.blue.stroke⟩)]
  | .artifact => [rounded b 0 ⟨"white", Palette.blue.stroke⟩]
  | .file => [rounded b 0 ⟨"white", Palette.blue.stroke⟩]
  | _ => [rounded b 2 Palette.blue]

def DeploymentDiagram.draw (l : Layout α) (lineHeight : α) (d : DeploymentDiagram) :
    Except LayoutFault (List (Markup α)) := do
  let devices ← d.nodes.values.mapM fun device => do
    let b ← l.require device.name
    return group "node deployment" <|
      device.archetype.shapes b ++ [caption b device.label lineHeight]
  return devices ++ (← Note.draw l lineHeight d.notes)

/-- The shapes of an actor or a use case. The label of an actor stands below the figure. -/
def UseCaseNode.shapes (node : UseCaseNode) (b : Box α) (lineHeight : α) : List (Markup α) :=
  match node.kind with
  | .actor => [figure b, textBlock b.x (b.bottom + lineHeight) node.label .middle lineHeight]
  | .useCase => [ellipse b Palette.blue, caption b node.label lineHeight]

def UseCaseDiagram.draw (l : Layout α) (lineHeight : α) (d : UseCaseDiagram) :
    Except LayoutFault (List (Markup α)) := do
  let nodes ← d.nodes.values.mapM fun node => do
    let b ← l.require node.name
    return group "node usecase" (node.shapes b lineHeight)
  return nodes ++ (← Note.draw l lineHeight d.notes)

/-- The shapes of a topic. The root is an ellipse, and a topic without a box is its label alone. -/
def Topic.shapes (topic : Topic) (b : Box α) (lineHeight : α) : List (Markup α) :=
  let outline :=
    if topic.parent.isNone then [ellipse b Palette.blue]
    else if topic.boxless then []
    else [rounded b (b.height / 2) Palette.yellow]
  outline ++ [caption b topic.label lineHeight]

def MindMap.draw (l : Layout α) (lineHeight : α) (map : MindMap) :
    Except LayoutFault (List (Markup α)) :=
  map.nodes.values.mapM fun topic => do
    let b ← l.require topic.name
    return group "node mindmap" (topic.shapes b lineHeight)

namespace ActivityNode

/-- The shapes of a node of an activity; a marker has none. -/
def shapes (node : ActivityNode) (b : Box α) (lineHeight : α) : List (Markup α) :=
  match node.kind with
  | .start => [circle b.x b.y 15 dark 1]
  | .stop => [circle b.x b.y 18 ⟨"none", "#333"⟩ 2, circle b.x b.y 12 dark 1]
  | .action => [rounded b 10 Palette.blue, caption b node.label lineHeight]
  | .decision => [diamond b Palette.yellow, caption b node.label lineHeight]
  | .merge => [diamond b Palette.gray]
  | .fork => [rounded b 2 dark]
  | .join => [rounded b 2 dark]
  | _ => []

/-- Draws a node of an activity and its note. -/
def draw (l : Layout α) (lineHeight : α) (node : ActivityNode) :
    Except LayoutFault (List (Markup α)) := do
  let b ← l.require node.name
  let shape := group "node activity" (node.shapes b lineHeight)
  match node.note with
  | some text => return [shape, Svg.note (← l.require node.noteName) text lineHeight]
  | none => return [shape]

end ActivityNode

def ActivityDiagram.draw (l : Layout α) (lineHeight : α) (d : ActivityDiagram) :
    Except LayoutFault (List (Markup α)) := do
  return (← d.visibleNodes.mapM (ActivityNode.draw l lineHeight)).flatten

/-- The head of a participant. The label of an actor stands below the figure, inside of the same
box. -/
def Participant.shapes (p : Participant) (b : Box α) (lineHeight : α) : List (Markup α) :=
  if p.kind = .actor then
    [figure ⟨b.x, b.y - lineHeight / 2, 30, larger (b.height - lineHeight) 20⟩,
      textBlock b.x (b.bottom - lineHeight / 2) p.label .middle lineHeight]
  else [rounded b 3 Palette.blue, caption b p.label lineHeight]

namespace SequenceDiagram

/-- Draws the notes among steps, from a number of notes on. A note without a place is left out. -/
def drawNotes (l : Layout α) (lineHeight : α) : Nat → List Step → List (Markup α)
  | _, [] => []
  | notes, .note note :: steps =>
    ((l.boxes.get? (Note.nameAt notes)).toList.map fun b => Svg.note b note.text lineHeight) ++
      drawNotes l lineHeight (notes + 1) steps
  | notes, _ :: steps => drawNotes l lineHeight notes steps

/-- Draws the heads of the participants and the notes between them. -/
def draw (l : Layout α) (lineHeight : α) (d : SequenceDiagram) :
    Except LayoutFault (List (Markup α)) := do
  let heads ← d.participants.values.mapM fun p => do
    let b ← l.require p.name
    return group "node participant" (p.shapes b lineHeight)
  return heads ++ drawNotes l lineHeight 0 d.steps

/-- The dashed line below the head of a participant. -/
def lifeline (t : Timeline α) (b : Box α) : Markup α :=
  .element "line"
    (.text "class" "lifeline" :: lineAttributes ⟨b.x, b.bottom⟩ ⟨b.x, t.lifelineEnd⟩ ++
      [.text "stroke" "#999", .text "stroke-dasharray" "4 4"])
    []

/-- The line of a divider in a row, with its text. -/
def divider (t : Timeline α) (lineHeight y : α) (text : String) : List (Markup α) :=
  .element "line"
      (.text "class" "divider" :: lineAttributes ⟨t.left, y⟩ ⟨t.right, y⟩ ++
        [.text "stroke" "#999", .text "stroke-dasharray" "8 4"])
      [] ::
    if text = "" then []
    else
      [textBlock ((t.left + t.right) / 2) (y - lineHeight * 0.75) text .middle lineHeight [bold]]

/-- The lifelines and dividers, which lie behind everything else. -/
def backdrop (l : Layout α) (lineHeight : α) (d : SequenceDiagram) : List (Markup α) :=
  match l.timeline with
  | none => []
  | some t =>
    (d.participants.values.filterMap fun p => (l.boxes.get? p.name).map (lifeline t)) ++
      (d.steps.zip t.rows).flatMap fun
        | (.divider text, y) => divider t lineHeight y text
        | _ => []

end SequenceDiagram

namespace Content

/-- What lies behind the links of a diagram. -/
def backdrop (l : Layout α) (lineHeight : α) : Content → List (Markup α)
  | sequence d => d.backdrop l lineHeight
  | _ => []

/-- Draws the elements of a diagram. -/
def drawElements (l : Layout α) (lineHeight : α) : Content → Except LayoutFault (List (Markup α))
  | classes d => d.draw l lineHeight
  | sequence d => d.draw l lineHeight
  | states d => d.draw l lineHeight
  | mindMap d => d.draw l lineHeight
  | entities d => d.draw l lineHeight
  | deployment d => d.draw l lineHeight
  | useCases d => d.draw l lineHeight
  | activity d => d.draw l lineHeight

end Content

end DiagramMarkup
