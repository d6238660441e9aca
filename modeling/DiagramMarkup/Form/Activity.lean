import DiagramMarkup.Diagram.Activity
import DiagramMarkup.Form.Relation

/-! # The written form of activity diagrams -/

namespace DiagramMarkup

open Json

def ActivityKind.ofJson? : Json → Option ActivityKind :=
  alternative? ActivityKind.all ActivityKind.name

/-- A node as a record; that it belongs to a loop is written only where it does. -/
def ActivityNode.toJson (n : ActivityNode) : Json :=
  object <|
    [("name", string n.name), ("type", string n.kind.name), ("label", string n.label)] ++
    optionalField "yes_branch" string n.yesBranch ++
    optionalField "branch_label" string n.branchLabel ++
    optionalField "related_decision" string n.opener ++
    (if n.looping then [("looping", bool true)] else []) ++
    optionalField "lane" string n.lane ++
    optionalField "partition" string n.partition ++
    optionalField "note" string n.note

def ActivityNode.ofJson? (j : Json) : Option ActivityNode := do
  guard (j.isRecord 10)
  let name ← j.required 0 "name" string?
  let kind ← j.required 1 "type" ActivityKind.ofJson?
  let label ← j.required 2 "label" string?
  let yesBranch ← j.optionalAt 3 "yes_branch" string?
  let branchLabel ← j.optionalAt 4 "branch_label" string?
  let opener ← j.optionalAt 5 "related_decision" string?
  let looping ← j.withDefault 6 "looping" bool? false
  let lane ← j.optionalAt 7 "lane" string?
  let partition ← j.optionalAt 8 "partition" string?
  let note ← j.optionalAt 9 "note" string?
  return { name, kind, label, yesBranch, branchLabel, opener, looping, lane, partition, note }

def Swimlane.toJson (l : Swimlane) : Json :=
  object [("name", string l.name), ("first_node", ofNat l.first), ("last_node", ofNat l.last)]

def Swimlane.ofJson? (j : Json) : Option Swimlane := do
  guard (j.isRecord 3)
  let name ← j.required 0 "name" string?
  let first ← j.required 1 "first_node" natural?
  let last ← j.required 2 "last_node" natural?
  return { name, first, last }

def Partition.toJson (p : Partition) : Json :=
  object <|
    [("name", string p.name), ("start", ofNat p.start), ("end", ofNat p.stop)] ++
    optionalField "parent" string p.parent

def Partition.ofJson? (j : Json) : Option Partition := do
  guard (j.isRecord 4)
  let name ← j.required 0 "name" string?
  let start ← j.required 1 "start" natural?
  let stop ← j.required 2 "end" natural?
  let parent ← j.optionalAt 3 "parent" string?
  return { name, start, stop, parent }

namespace ActivityDiagram

def fields (d : ActivityDiagram) : List (String × Json) :=
  [("nodes", array (d.nodes.map ActivityNode.toJson)), ("edges", relationsToJson d.edges),
    ("swimlanes", array (d.swimlanes.map Swimlane.toJson)),
    ("partitions", array (d.partitions.map Partition.toJson))]

def ofJson? (j : Json) : Option (Option String × ActivityDiagram) := do
  guard (j.isRecord 5)
  let title ← j.optionalAt 0 "title" string?
  let nodes ← j.required 1 "nodes" (list? ActivityNode.ofJson?)
  let edges ← j.withDefault 2 "edges" (list? Relation.ofJson?) []
  let swimlanes ← j.withDefault 3 "swimlanes" (list? Swimlane.ofJson?) []
  let partitions ← j.withDefault 4 "partitions" (list? Partition.ofJson?) []
  return (title, { nodes, edges, swimlanes, partitions })

end ActivityDiagram

end DiagramMarkup
