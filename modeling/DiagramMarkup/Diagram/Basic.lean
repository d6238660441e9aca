import DiagramMarkup.Diagram.Activity
import DiagramMarkup.Diagram.Classes
import DiagramMarkup.Diagram.Deployment
import DiagramMarkup.Diagram.Entities
import DiagramMarkup.Diagram.MindMap
import DiagramMarkup.Diagram.Sequence
import DiagramMarkup.Diagram.States
import DiagramMarkup.Diagram.UseCases

/-! # Diagrams

A diagram is one of eight kinds of content under a title. Whatever its kind, it has a number of nodes
and a list of relations.
-/

namespace DiagramMarkup

/-- The kinds of diagrams. -/
inductive Kind
  | classes
  | sequence
  | states
  | mindMap
  | entities
  | deployment
  | useCases
  | activity
deriving Repr, DecidableEq

namespace Kind

def all : List Kind :=
  [classes, sequence, states, mindMap, entities, deployment, useCases, activity]

def name : Kind → String
  | classes => "class"
  | sequence => "sequence"
  | states => "state"
  | mindMap => "mindmap"
  | entities => "er"
  | deployment => "deployment"
  | useCases => "usecase"
  | activity => "activity"

end Kind

/-- A diagram of some kind. -/
inductive Content
  | classes (diagram : ClassDiagram)
  | sequence (diagram : SequenceDiagram)
  | states (diagram : StateDiagram)
  | mindMap (diagram : MindMap)
  | entities (diagram : EntityDiagram)
  | deployment (diagram : DeploymentDiagram)
  | useCases (diagram : UseCaseDiagram)
  | activity (diagram : ActivityDiagram)
deriving Repr, DecidableEq

namespace Content

/-- The diagram of a kind with nothing in it. -/
def empty : Kind → Content
  | .classes => classes {}
  | .sequence => sequence {}
  | .states => states {}
  | .mindMap => mindMap {}
  | .entities => entities {}
  | .deployment => deployment {}
  | .useCases => useCases {}
  | .activity => activity {}

def kind : Content → Kind
  | classes _ => .classes
  | sequence _ => .sequence
  | states _ => .states
  | mindMap _ => .mindMap
  | entities _ => .entities
  | deployment _ => .deployment
  | useCases _ => .useCases
  | activity _ => .activity

/-- The number of nodes that are drawn, notes apart. -/
def nodeCount : Content → Nat
  | classes d => d.classes.size
  | sequence d => d.participants.size
  | states d => d.states.size
  | mindMap d => d.nodes.size
  | entities d => d.entities.size
  | deployment d => d.nodes.size
  | useCases d => d.nodes.size
  | activity d => d.visibleNodes.length

def isEmpty (c : Content) : Bool :=
  c.nodeCount = 0

/-- The relations in order; messages and relationships are seen as relations. -/
def relations : Content → List Relation
  | classes d => d.relations
  | sequence d => d.messages.map Message.toRelation
  | states d => d.relations
  | mindMap d => d.relations
  | entities d => d.relationships.map Relationship.toRelation
  | deployment d => d.relations
  | useCases d => d.relations
  | activity d => d.edges

end Content

/-- A diagram with its title. -/
structure Diagram where
  title : Option String := none
  content : Content
deriving Repr, DecidableEq

end DiagramMarkup
