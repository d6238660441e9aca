import DiagramMarkup.Diagram.Basic
import DiagramMarkup.Layout.Basic

/-! # Links

A link is a relation that is drawn: both its ends have a place. The lines between notes and what they
are attached to are links as well.
-/

namespace DiagramMarkup

/-- A line between two placed elements; its label is the one that is drawn. -/
structure Link (α : Type) extends Relation where
  dashed : Bool
  cardinalities : Option (Cardinality × Cardinality) := none
  /-- The sort of a message and the row that it is drawn in. -/
  message : Option (MessageKind × α) := none
  /-- Whether the line of an activity leads back upwards. -/
  upwards : Bool := false
deriving Repr, DecidableEq

/-- The label that is drawn for a relation; some kinds have a fixed one. -/
def Relation.drawnLabel (r : Relation) : Option String :=
  match r.kind with
  | .inclusion => some "«include»"
  | .extension => some "«extend»"
  | _ => r.label

/-- The relations between attached notes and their targets. -/
def Note.relations (notes : List Note) : List Relation :=
  notes.filterMap fun note =>
    note.target.map fun target => { source := note.name, target, kind := .note }

namespace Link

variable {α : Type} [Scalar α]

/-- The distance by which a message of a participant to itself leads away from its lifeline. -/
def loopWidth : α :=
  40

/-- The height by which a message of a participant to itself drops. -/
def loopDrop : α :=
  20

/-- The line of a relation that is no message and no step. -/
def ofRelation (r : Relation) : Link α :=
  { r with label := r.drawnLabel, dashed := r.kind.isDashed }

/-- The line of a relationship, with marks for its cardinalities. -/
def ofRelationship (r : Relationship) : Link α :=
  { (ofRelation r.toRelation : Link α) with
    dashed := !r.identifying
    cardinalities := some (r.sourceCardinality, r.targetCardinality) }

/-- The line of a step in a row, if it is a message. -/
def ofStep? (row : α) : Step → Option (Link α)
  | .message m => some { (ofRelation m.toRelation : Link α) with message := some (m.kind, row) }
  | _ => none

/-- The line of a step of an activity, between boxes that have a place. -/
def ofFlow (boxes : Table (Box α)) (r : Relation) : Link α :=
  { (ofRelation r : Link α) with
    upwards :=
      match boxes.get? r.source, boxes.get? r.target with
      | some source, some target => target.y < source.y
      | _, _ => false }

def isLoop (link : Link α) : Bool :=
  link.source = link.target

/-- Whether both ends of a link have a place. -/
def isPlaced (boxes : Table (Box α)) (link : Link α) : Bool :=
  boxes.contains link.source && boxes.contains link.target

end Link

namespace Content

variable {α : Type} [Scalar α]

/-- The lines of a diagram, whether or not their ends have a place. -/
def candidates (l : Layout α) : Content → List (Link α)
  | classes d => (d.relations ++ Note.relations d.notes).map Link.ofRelation
  | sequence d =>
    let rows := (l.timeline.map Timeline.rows).getD []
    (d.steps.zip rows).filterMap fun (step, row) => Link.ofStep? row step
  | states d => (d.relations ++ Note.relations d.notes).map Link.ofRelation
  | mindMap d => d.relations.map Link.ofRelation
  | entities d => d.relationships.map Link.ofRelationship
  | deployment d => (d.relations ++ Note.relations d.notes).map Link.ofRelation
  | useCases d => (d.relations ++ Note.relations d.notes).map Link.ofRelation
  | activity d => d.edges.map (Link.ofFlow l.boxes)

/-- The lines of a diagram whose ends both have a place. -/
def links (l : Layout α) (c : Content) : List (Link α) :=
  (c.candidates l).filter fun link => link.isPlaced l.boxes

end Content

end DiagramMarkup
