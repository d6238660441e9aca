import DiagramMarkup.Diagram.Note
import DiagramMarkup.Diagram.Relation
import DiagramMarkup.Json.Record

/-! # The written form of relations and notes

Texts that are absent are left out.
-/

namespace DiagramMarkup

open Json

def RelationKind.toJson (kind : RelationKind) : Json :=
  string kind.name

def RelationKind.ofJson? : Json → Option RelationKind :=
  alternative? RelationKind.all RelationKind.name

def Relation.toJson (r : Relation) : Json :=
  object <|
    [("from", string r.source), ("to", string r.target), ("type", r.kind.toJson)] ++
    optionalField "label" string r.label ++
    optionalField "from_label" string r.sourceLabel ++
    optionalField "to_label" string r.targetLabel

def Relation.ofJson? (j : Json) : Option Relation := do
  guard (j.isRecord 6)
  let source ← j.required 0 "from" string?
  let target ← j.required 1 "to" string?
  let kind ← j.required 2 "type" RelationKind.ofJson?
  let label ← j.optionalAt 3 "label" string?
  let sourceLabel ← j.optionalAt 4 "from_label" string?
  let targetLabel ← j.optionalAt 5 "to_label" string?
  return { source, target, kind, label, sourceLabel, targetLabel }

def Note.toJson (note : Note) : Json :=
  object <|
    [("name", string note.name), ("text", string note.text)] ++
    optionalField "target" string note.target

def Note.ofJson? (j : Json) : Option Note := do
  guard (j.isRecord 3)
  let name ← j.required 0 "name" string?
  let text ← j.required 1 "text" string?
  let target ← j.optionalAt 2 "target" string?
  return { name, text, target }

def relationsToJson (relations : List Relation) : Json :=
  array (relations.map Relation.toJson)

def notesToJson (notes : List Note) : Json :=
  array (notes.map Note.toJson)

end DiagramMarkup
