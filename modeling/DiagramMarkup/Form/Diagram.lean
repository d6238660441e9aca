import DiagramMarkup.Diagram.Basic
import DiagramMarkup.Form.Activity
import DiagramMarkup.Form.Classes
import DiagramMarkup.Form.Deployment
import DiagramMarkup.Form.Entities
import DiagramMarkup.Form.MindMap
import DiagramMarkup.Form.Sequence
import DiagramMarkup.Form.States
import DiagramMarkup.Form.UseCases
import DiagramMarkup.Source.Reading

/-! # The written form of diagrams

A diagram is written as a record that starts with its kind and, if it has one, its title.
-/

namespace DiagramMarkup

open Json

/-- The fields of a content behind its kind and its title. -/
def Content.fields : Content → List (String × Json)
  | classes d => d.fields
  | sequence d => d.fields
  | states d => d.fields
  | mindMap d => d.fields
  | entities d => d.fields
  | deployment d => d.fields
  | useCases d => d.fields
  | activity d => d.fields

namespace Diagram

/-- A diagram with its kind and title; the rest depends on the kind. -/
def toJson (d : Diagram) : Json :=
  object <|
    ("kind", string d.content.kind.name) :: optionalField "title" string d.title ++
      d.content.fields

/-- A diagram from what the form of its kind holds. -/
def ofParts {α : Type} (content : α → Content) (parts : Option String × α) : Diagram :=
  ⟨parts.1, content parts.2⟩

/-- Reads a diagram. The kind decides how everything else is read. -/
def ofJson? (j : Json) : Option Diagram := do
  let (tag, j) ← j.tagged? "kind"
  match ← alternative? Kind.all Kind.name tag with
  | .classes => (ClassDiagram.ofJson? j).map (ofParts .classes)
  | .sequence => (SequenceDiagram.ofJson? j).map (ofParts .sequence)
  | .states => (StateDiagram.ofJson? j).map (ofParts .states)
  | .mindMap => (MindMap.ofJson? j).map (ofParts .mindMap)
  | .entities => (EntityDiagram.ofJson? j).map (ofParts .entities)
  | .deployment => (DeploymentDiagram.ofJson? j).map (ofParts .deployment)
  | .useCases => (UseCaseDiagram.ofJson? j).map (ofParts .useCases)
  | .activity => (ActivityDiagram.ofJson? j).map (ofParts .activity)

end Diagram

/-- The written form of what is said about a line. -/
def Diagnostic.toJson (d : Diagnostic) : Json :=
  .object [("line", .ofNat d.line), ("text", .string d.text), ("reason", .string d.reason)]

end DiagramMarkup
