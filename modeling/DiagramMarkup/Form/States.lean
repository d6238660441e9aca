import DiagramMarkup.Diagram.States
import DiagramMarkup.Form.Relation

/-! # The written form of state diagrams -/

namespace DiagramMarkup

open Json

def StateNode.toJson (s : StateNode) : Json :=
  object <|
    [("name", string s.name), ("label", string s.label), ("type", string s.kind.name),
      ("descriptions", array (s.descriptions.map string))] ++
    optionalField "parent" string s.parent

def StateNode.ofJson? (j : Json) : Option StateNode := do
  guard (j.isRecord 5)
  let name ← j.required 0 "name" string?
  let label ← j.required 1 "label" string?
  let kind ← j.required 2 "type" (alternative? StateKind.all StateKind.name)
  let descriptions ← j.withDefault 3 "descriptions" (list? string?) []
  let parent ← j.optionalAt 4 "parent" string?
  return { name, label, kind, descriptions, parent }

namespace StateDiagram

def fields (d : StateDiagram) : List (String × Json) :=
  [("states", ofTable StateNode.toJson d.states), ("relations", relationsToJson d.relations),
    ("notes", notesToJson d.notes)]

def ofJson? (j : Json) : Option (Option String × StateDiagram) := do
  guard (j.isRecord 4)
  let title ← j.optionalAt 0 "title" string?
  let states ← j.required 1 "states" (table? StateNode.ofJson?)
  let relations ← j.withDefault 2 "relations" (list? Relation.ofJson?) []
  let notes ← j.withDefault 3 "notes" (list? Note.ofJson?) []
  return (title, { states, relations, notes })

end StateDiagram

end DiagramMarkup
