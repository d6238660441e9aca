import DiagramMarkup.Diagram.Deployment
import DiagramMarkup.Form.Relation

/-! # The written form of deployment diagrams -/

namespace DiagramMarkup

open Json

def Device.toJson (d : Device) : Json :=
  object <|
    [("name", string d.name), ("label", string d.label), ("archetype", string d.archetype.name)] ++
    optionalField "parent" string d.parent

def Device.ofJson? (j : Json) : Option Device := do
  guard (j.isRecord 4)
  let name ← j.required 0 "name" string?
  let label ← j.required 1 "label" string?
  let archetype ← j.required 2 "archetype" (alternative? Archetype.all Archetype.name)
  let parent ← j.optionalAt 3 "parent" string?
  return { name, label, archetype, parent }

namespace DeploymentDiagram

def fields (d : DeploymentDiagram) : List (String × Json) :=
  [("nodes", ofTable Device.toJson d.nodes), ("relations", relationsToJson d.relations),
    ("notes", notesToJson d.notes)]

def ofJson? (j : Json) : Option (Option String × DeploymentDiagram) := do
  guard (j.isRecord 4)
  let title ← j.optionalAt 0 "title" string?
  let nodes ← j.required 1 "nodes" (table? Device.ofJson?)
  let relations ← j.withDefault 2 "relations" (list? Relation.ofJson?) []
  let notes ← j.withDefault 3 "notes" (list? Note.ofJson?) []
  return (title, { nodes, relations, notes })

end DeploymentDiagram

end DiagramMarkup
