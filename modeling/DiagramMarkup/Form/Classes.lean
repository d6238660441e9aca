import DiagramMarkup.Diagram.Classes
import DiagramMarkup.Form.Relation

/-! # The written form of class diagrams -/

namespace DiagramMarkup

open Json

def Visibility.name (visibility : Visibility) : String :=
  String.singleton visibility.symbol

def Member.toJson (m : Member) : Json :=
  object [("visibility", string m.visibility.name), ("name", string m.name),
    ("type", string m.typeName), ("is_method", bool m.isMethod), ("is_static", bool m.isStatic),
    ("is_abstract", bool m.isAbstract)]

def Member.ofJson? (j : Json) : Option Member := do
  guard (j.isRecord 6)
  let visibility ← j.required 0 "visibility" (alternative? Visibility.all Visibility.name)
  let name ← j.required 1 "name" string?
  let typeName ← j.withDefault 2 "type" string? ""
  let isMethod ← j.required 3 "is_method" bool?
  let isStatic ← j.withDefault 4 "is_static" bool? false
  let isAbstract ← j.withDefault 5 "is_abstract" bool? false
  return { visibility, name, typeName, isMethod, isStatic, isAbstract }

def ClassNode.toJson (c : ClassNode) : Json :=
  object <|
    [("name", string c.name), ("label", string c.label), ("type", string c.kind.name)] ++
    optionalField "generic" string c.generic ++
    optionalField "stereotype" string c.stereotype ++
    [("attributes", array (c.attributes.map Member.toJson)),
      ("methods", array (c.methods.map Member.toJson))]

def ClassNode.ofJson? (j : Json) : Option ClassNode := do
  guard (j.isRecord 7)
  let name ← j.required 0 "name" string?
  let label ← j.required 1 "label" string?
  let kind ← j.required 2 "type" (alternative? ClassKind.all ClassKind.name)
  let generic ← j.optionalAt 3 "generic" string?
  let stereotype ← j.optionalAt 4 "stereotype" string?
  let attributes ← j.withDefault 5 "attributes" (list? Member.ofJson?) []
  let methods ← j.withDefault 6 "methods" (list? Member.ofJson?) []
  return { name, label, kind, generic, stereotype, attributes, methods }

namespace ClassDiagram

def fields (d : ClassDiagram) : List (String × Json) :=
  [("classes", ofTable ClassNode.toJson d.classes), ("relations", relationsToJson d.relations),
    ("notes", notesToJson d.notes)]

def ofJson? (j : Json) : Option (Option String × ClassDiagram) := do
  guard (j.isRecord 4)
  let title ← j.optionalAt 0 "title" string?
  let classes ← j.required 1 "classes" (table? ClassNode.ofJson?)
  let relations ← j.withDefault 2 "relations" (list? Relation.ofJson?) []
  let notes ← j.withDefault 3 "notes" (list? Note.ofJson?) []
  return (title, { classes, relations, notes })

end ClassDiagram

end DiagramMarkup
