import DiagramMarkup.Diagram.Entities
import DiagramMarkup.Form.Relation

/-! # The written form of entity relationship diagrams -/

namespace DiagramMarkup

open Json

def Column.toJson (c : Column) : Json :=
  object [("name", string c.name), ("type", string c.typeName),
    ("primary_key", bool c.primaryKey), ("foreign_key", bool c.foreignKey),
    ("mandatory", bool c.mandatory)]

def Column.ofJson? (j : Json) : Option Column := do
  guard (j.isRecord 5)
  let name ← j.required 0 "name" string?
  let typeName ← j.withDefault 1 "type" string? ""
  let primaryKey ← j.withDefault 2 "primary_key" bool? false
  let foreignKey ← j.withDefault 3 "foreign_key" bool? false
  let mandatory ← j.withDefault 4 "mandatory" bool? false
  return { name, typeName, primaryKey, foreignKey, mandatory }

def Entity.toJson (e : Entity) : Json :=
  object [("name", string e.name), ("label", string e.label),
    ("attributes", array (e.columns.map Column.toJson))]

def Entity.ofJson? (j : Json) : Option Entity := do
  guard (j.isRecord 3)
  let name ← j.required 0 "name" string?
  let label ← j.required 1 "label" string?
  let columns ← j.withDefault 2 "attributes" (list? Column.ofJson?) []
  return { name, label, columns }

def Cardinality.ofJson? : Json → Option Cardinality :=
  alternative? Cardinality.all Cardinality.name

def Relationship.toJson (r : Relationship) : Json :=
  object <|
    [("from", string r.source), ("to", string r.target),
      ("from_cardinality", string r.sourceCardinality.name),
      ("to_cardinality", string r.targetCardinality.name),
      ("identifying", bool r.identifying)] ++
    optionalField "label" string r.label

def Relationship.ofJson? (j : Json) : Option Relationship := do
  guard (j.isRecord 6)
  let source ← j.required 0 "from" string?
  let target ← j.required 1 "to" string?
  let sourceCardinality ← j.required 2 "from_cardinality" Cardinality.ofJson?
  let targetCardinality ← j.required 3 "to_cardinality" Cardinality.ofJson?
  let identifying ← j.required 4 "identifying" bool?
  let label ← j.optionalAt 5 "label" string?
  return { source, target, sourceCardinality, targetCardinality, identifying, label }

namespace EntityDiagram

def fields (d : EntityDiagram) : List (String × Json) :=
  [("entities", ofTable Entity.toJson d.entities),
    ("relationships", array (d.relationships.map Relationship.toJson))]

def ofJson? (j : Json) : Option (Option String × EntityDiagram) := do
  guard (j.isRecord 3)
  let title ← j.optionalAt 0 "title" string?
  let entities ← j.required 1 "entities" (table? Entity.ofJson?)
  let relationships ← j.withDefault 2 "relationships" (list? Relationship.ofJson?) []
  return (title, { entities, relationships })

end EntityDiagram

end DiagramMarkup
