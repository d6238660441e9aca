import DiagramMarkup.Diagram.MindMap
import DiagramMarkup.Form.Relation

/-! # The written form of mind maps -/

namespace DiagramMarkup

open Json

def Topic.toJson (t : Topic) : Json :=
  object <|
    [("name", string t.name), ("label", string t.label), ("level", ofNat t.level),
      ("side", string t.side.name)] ++
    optionalField "parent" string t.parent ++
    [("boxless", bool t.boxless)]

def Topic.ofJson? (j : Json) : Option Topic := do
  guard (j.isRecord 6)
  let name ← j.required 0 "name" string?
  let label ← j.required 1 "label" string?
  let level ← j.required 2 "level" natural?
  let side ← j.required 3 "side" (alternative? Side.all Side.name)
  let parent ← j.optionalAt 4 "parent" string?
  let boxless ← j.withDefault 5 "boxless" bool? false
  return { name, label, level, side, parent, boxless }

namespace MindMap

def fields (d : MindMap) : List (String × Json) :=
  [("nodes", ofTable Topic.toJson d.nodes), ("relations", relationsToJson d.relations)]

def ofJson? (j : Json) : Option (Option String × MindMap) := do
  guard (j.isRecord 3)
  let title ← j.optionalAt 0 "title" string?
  let nodes ← j.required 1 "nodes" (table? Topic.ofJson?)
  let relations ← j.withDefault 2 "relations" (list? Relation.ofJson?) []
  return (title, { nodes, relations })

end MindMap

end DiagramMarkup
