import DiagramMarkup.Drawio.Elements
import DiagramMarkup.Layout.Links

/-! # The cells of links

The cells of lines follow those of all elements. A line that has texts beside its ends is followed by
their cells.
-/

namespace DiagramMarkup

open Drawio

variable {α : Type} [Scalar α]

namespace Link

/-- Adds the line of a message at its height on the lifelines. A message of a participant to itself
leads away from the lifeline and back to it further down. -/
def addMessage (l : Layout α) (t : Timeline α) (link : Link α) (kind : MessageKind) (y : α)
    (g : Graph α) : Except LayoutFault (Graph α) := do
  let source ← g.number link.source
  let target ← g.number link.target
  let label := link.label.getD ""
  if link.isLoop then
    let x := (← l.require link.source).x + loopWidth
    let stop := y + loopDrop
    return g.add [.edge label (.message kind (t.partAbove y) (t.partAbove stop)) source target
      [⟨x, y⟩, ⟨x, stop⟩]]
  else
    let part := t.partAbove y
    return g.add [.edge label (.message kind part part) source target []]

/-- Adds the lines of all links that carry a message. -/
def addMessages (l : Layout α) (t : Timeline α) (links : List (Link α)) (g : Graph α) :
    Except LayoutFault (Graph α) :=
  links.foldlM
    (fun g link =>
      match link.message with
      | some (kind, y) => addMessage l t link kind y g
      | none => .ok g)
    g

/-- The texts at the ends of the edge with a number; a relationship shows its cardinalities by marks
and has none. -/
def endLabels (link : Link α) (number : Nat) : List (Cell α) :=
  if link.cardinalities.isSome then []
  else
    (link.sourceLabel.toList.map fun text => .edgeLabel text number (-1)) ++
      (link.targetLabel.toList.map fun text => .edgeLabel text number 1)

/-- Adds the line of a link between the cells of its two elements, with the texts at its ends. -/
def addLine (style : Link α → Style α) (g : Graph α) (link : Link α) :
    Except LayoutFault (Graph α) := do
  let source ← g.number link.source
  let target ← g.number link.target
  return g.add (.edge (link.label.getD "") (style link) source target [] :: link.endLabels g.next)

end Link

namespace Content

/-- How the line of a link is drawn in a diagram. -/
def linkStyle : Content → Link α → Style α
  | activity _ => fun link => .flow link.upwards
  | mindMap _ => fun _ => .branch
  | _ => .ofLink

/-- Adds the cells of everything in a diagram that has a place. -/
def addElements (l : Layout α) (c : Content) (g : Graph α) : Except LayoutFault (Graph α) :=
  match c with
  | classes d => d.addCells l g
  | states d => d.addCells l g
  | mindMap d => d.addCells l g
  | entities d => d.addCells l g
  | deployment d => d.addCells l g
  | useCases d => d.addCells l g
  | activity d => d.addCells l g
  | sequence d =>
    match l.timeline with
    | some t => d.addCells l t g
    | none => .error .noTimeline

/-- Adds the lines of a diagram. -/
def addLinks (l : Layout α) (links : List (Link α)) (c : Content) (g : Graph α) :
    Except LayoutFault (Graph α) :=
  match c, l.timeline with
  | sequence _, some t => Link.addMessages l t links g
  | sequence _, none => .error .noTimeline
  | _, _ => links.foldlM (Link.addLine c.linkStyle) g

/-- The graph of a diagram: its elements first, and then its lines, which refer to them. -/
def graph (l : Layout α) (links : List (Link α)) (c : Content) :
    Except LayoutFault (Graph α) := do
  c.addLinks l links (← c.addElements l {})

end Content

end DiagramMarkup
