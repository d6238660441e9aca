import DiagramMarkup.Diagram.Note
import DiagramMarkup.Diagram.Relation
import DiagramMarkup.Diagram.Table

/-! # Use case diagrams -/

namespace DiagramMarkup

/-- What is declared in a use case diagram. -/
inductive UseCaseKind
  | actor
  | useCase
deriving Repr, DecidableEq

namespace UseCaseKind

def all : List UseCaseKind :=
  [actor, useCase]

def name : UseCaseKind → String
  | actor => "actor"
  | useCase => "usecase"

end UseCaseKind

/-- An actor or a use case; `boundary` is the frame around it. -/
structure UseCaseNode where
  name : String
  label : String
  kind : UseCaseKind
  boundary : Option String := none
deriving Repr, DecidableEq

/-- Actors and use cases, the relations between them, and notes. -/
structure UseCaseDiagram where
  nodes : Table UseCaseNode := .empty
  relations : List Relation := []
  notes : List Note := []
deriving Repr, DecidableEq

namespace UseCaseDiagram

def actors (d : UseCaseDiagram) : List UseCaseNode :=
  d.nodes.values.filter fun node => node.kind = .actor

def useCases (d : UseCaseDiagram) : List UseCaseNode :=
  d.nodes.values.filter fun node => node.kind = .useCase

end UseCaseDiagram

end DiagramMarkup
