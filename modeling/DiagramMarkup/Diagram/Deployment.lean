import DiagramMarkup.Diagram.Note
import DiagramMarkup.Diagram.Relation
import DiagramMarkup.Diagram.Table

/-! # Deployment diagrams -/

namespace DiagramMarkup

/-- The shapes that deployed things come in. -/
inductive Archetype
  | node
  | database
  | cloud
  | artifact
  | component
  | storage
  | folder
  | frame
  | file
  | rectangle
  | queue
  | interface
  | package
deriving Repr, DecidableEq

namespace Archetype

def all : List Archetype :=
  [node, database, cloud, artifact, component, storage, folder, frame, file, rectangle, queue,
    interface, package]

def name : Archetype → String
  | node => "node"
  | database => "database"
  | cloud => "cloud"
  | artifact => "artifact"
  | component => "component"
  | storage => "storage"
  | folder => "folder"
  | frame => "frame"
  | file => "file"
  | rectangle => "rectangle"
  | queue => "queue"
  | interface => "interface"
  | package => "package"

def ofName? (word : String) : Option Archetype :=
  all.find? fun archetype => archetype.name = word

end Archetype

/-- A deployed thing; `parent` is the one that it was first named in. -/
structure Device where
  name : String
  label : String
  archetype : Archetype
  parent : Option String := none
deriving Repr, DecidableEq

/-- Devices, the relations between them, and notes. -/
structure DeploymentDiagram where
  nodes : Table Device := .empty
  relations : List Relation := []
  notes : List Note := []
deriving Repr, DecidableEq

end DiagramMarkup
