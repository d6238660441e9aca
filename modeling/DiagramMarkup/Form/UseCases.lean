import DiagramMarkup.Diagram.UseCases
import DiagramMarkup.Form.Relation

/-! # The written form of use case diagrams -/

namespace DiagramMarkup

open Json

def UseCaseNode.toJson (n : UseCaseNode) : Json :=
  object <|
    [("name", string n.name), ("label", string n.label), ("type", string n.kind.name)] ++
    optionalField "boundary" string n.boundary

def UseCaseNode.ofJson? (j : Json) : Option UseCaseNode := do
  guard (j.isRecord 4)
  let name ← j.required 0 "name" string?
  let label ← j.required 1 "label" string?
  let kind ← j.required 2 "type" (alternative? UseCaseKind.all UseCaseKind.name)
  let boundary ← j.optionalAt 3 "boundary" string?
  return { name, label, kind, boundary }

namespace UseCaseDiagram

def fields (d : UseCaseDiagram) : List (String × Json) :=
  [("nodes", ofTable UseCaseNode.toJson d.nodes), ("relations", relationsToJson d.relations),
    ("notes", notesToJson d.notes)]

def ofJson? (j : Json) : Option (Option String × UseCaseDiagram) := do
  guard (j.isRecord 4)
  let title ← j.optionalAt 0 "title" string?
  let nodes ← j.required 1 "nodes" (table? UseCaseNode.ofJson?)
  let relations ← j.withDefault 2 "relations" (list? Relation.ofJson?) []
  let notes ← j.withDefault 3 "notes" (list? Note.ofJson?) []
  return (title, { nodes, relations, notes })

end UseCaseDiagram

end DiagramMarkup
