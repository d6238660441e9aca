import DiagramMarkup.Diagram.UseCases
import DiagramMarkup.Phrase.GridNote

/-! # Reading use case diagrams

Use cases stand in parentheses and actors between colons or bare. An element belongs to the frame
that is open where it is first declared.
-/

namespace DiagramMarkup.UseCaseDiagram

open Text Pattern Phrase

/-- What has been read of a use case diagram. -/
structure Draft where
  diagram : UseCaseDiagram := {}
  /-- The open frames, the innermost first. -/
  boundaries : List String := []
deriving Repr, DecidableEq

/-- The name that an end of an arrow stands for, and what it declares: parentheses make a use case,
anything else an actor. -/
def nameOfToken (token : List Char) : List Char × UseCaseKind :=
  match (after? ['('] token).bind (before? [')']) with
  | some inner => (trim inner, .useCase)
  | none =>
    match (after? [':'] token).bind (before? [':']) with
    | some inner => (trim inner, .actor)
    | none => (unquote token, .actor)

namespace Draft

/-- Enters an element and sets its kind and label. It joins the innermost open frame unless it has
one. -/
def declare (draft : Draft) (name label : String) (kind : UseCaseKind) : Draft :=
  let fresh : UseCaseNode := { name, label := name, kind }
  let nodes := (draft.diagram.nodes.insertNew name fresh).modify name fun node =>
    { node with kind, label, boundary := node.boundary.or draft.boundaries.head? }
  { draft with diagram.nodes := nodes }

/-- Makes sure that an endpoint exists; the result holds the name of its element. An element that was
declared with the written name as its label answers for it. -/
def ensure (draft : Draft) (token : List Char) : Draft × String :=
  let (written, kind) := nameOfToken token
  let name := String.ofList written
  let answers (node : UseCaseNode) : Bool :=
    node.kind = kind && node.label = name && node.name ≠ name
  match draft.diagram.nodes.values.find? answers with
  | some node => (draft, node.name)
  | none =>
    if draft.diagram.nodes.contains name then (draft, name)
    else (draft.declare name (String.ofList (unescapeBreaks written)) kind, name)

def openBoundary (draft : Draft) (label : String) : Draft :=
  { draft with boundaries := label :: draft.boundaries }

end Draft

/-- The start of a boundary. -/
def boundaryPattern : Pattern (List Char) := do
  let _ ← anyOf ["rectangle", "package", "frame"]
  let _ ← most1 isBlank
  let declaration ← fewest1 inLine
  blanks
  char '{'
  ended
  return declaration

/-- The label of a frame from its declaration. -/
def boundaryLabel (declaration : List Char) : String :=
  let (s, _) := takeStereotype declaration
  String.ofList (nameAndLabel (stripColor s)).2

/-- A label in parentheses or between colons. -/
def labelToken : Pattern (List Char) :=
  enclosed '(' ')' <|> enclosed ':' ':'

/-- A label, and perhaps a name behind it. -/
def labelFirst : Pattern (List Char × Option (List Char)) := do
  let token ← labelToken
  let name ← optional do
    blanks1
    let _ ← text "as"
    blanks1
    let name ← restOfLine
    if name.isEmpty then failure else return name
  ended
  return (token, name)

/-- A name, and a label behind it. -/
def aliasFirst : Pattern (List Char × List Char) := do
  let name ← fewest1 inLine
  blanks1
  let _ ← text "as"
  blanks1
  let token ← labelToken
  ended
  return (name, token)

def declarationKind? (s : List Char) : Option (UseCaseKind × List Char) :=
  match after? "actor ".toList s with
  | some rest => some (.actor, trim rest)
  | none =>
    match after? "usecase ".toList s with
    | some rest => some (.useCase, trim rest)
    | none =>
      if hasStart ['('] s then some (.useCase, s)
      else if (enclosed ':' ':').reads s then some (.actor, s)
      else none

/-- Name and label of a declared element. An element without a label in parentheses or between colons
must have a name. -/
def names? (s : List Char) : Option (List Char × List Char) :=
  match labelFirst.read? s with
  | some (token, name) =>
    let label := (nameOfToken token).1
    some ((name.map unquote).getD label, unescapeBreaks label)
  | none =>
    match aliasFirst.read? s with
    | some (name, token) => some (unquote name, unescapeBreaks (nameOfToken token).1)
    | none =>
      let (name, label) := nameAndLabel s
      if name.isEmpty then none else some (name, label)

/-- The name, the label and the kind that a line declares. -/
def declaration? (s : List Char) : Option (String × String × UseCaseKind) := do
  let (kind, rest) ← declarationKind? (stripColor (takeStereotype s).1)
  let (name, label) ← names? rest
  return (String.ofList name, String.ofList label, kind)

/-- A stereotype that makes an arrow an inclusion or an extension. -/
def usePattern : Pattern RelationKind := do
  let _ ← text "<<"
  blanks
  let word ← anyOf ["include", "extend"]
  let _ ← optional (char 's')
  blanks
  let _ ← text ">>"
  return if word = "include" then .inclusion else .extension

namespace Draft

/-- Adds the relation of an arrow. Its label may make it an inclusion or an extension, and a head at
the left end turns it round. -/
def relate (draft : Draft) (arrow : Arrow) : Draft :=
  let (draft, left) := draft.ensure arrow.left
  let (draft, right) := draft.ensure arrow.right
  let label := arrow.label.map String.ofList
  let (kind, label) :=
    match arrow.label.bind usePattern.find? with
    | some (_, kind, _) => (kind, none)
    | none =>
      if arrow.leftHead = Head.triangle ∨ arrow.rightHead = Head.triangle then
        (RelationKind.inherits, label)
      else (RelationKind.association, label)
  let reversed := arrow.leftHead = Head.triangle ∨ arrow.leftHead = Head.pointer
  let relation : Relation := {
    source := if reversed then right else left
    target := if reversed then left else right
    kind
    label }
  { draft with diagram.relations := draft.diagram.relations ++ [relation] }

end Draft

/-- Reads a line: the end of a boundary, a note, a boundary, a relation or a declaration. -/
def turn (draft : Draft) (line : Line) (rest : List Line) : Turn Draft rest :=
  let s := line.chars
  if line.text = "\x7d" then .took1 { draft with boundaries := draft.boundaries.tail }
  else
    match gridNote? draft.diagram.notes.length line rest with
    | some (note, left) =>
      .took { draft with diagram.notes := draft.diagram.notes ++ [note] } left
    | none =>
      match boundaryPattern.read? s with
      | some declaration => .took1 (draft.openBoundary (boundaryLabel declaration))
      | none =>
        match arrow? s with
        | some arrow => .took1 (draft.relate arrow)
        | none =>
          match declaration? s with
          | some (name, label, kind) => .took1 (draft.declare name label kind)
          | none => .skip draft "unrecognized use case diagram line"

/-- Enters the elements that notes are attached to, and gives notes names of their own. -/
def settleNotes (draft : Draft) : UseCaseDiagram :=
  let targets := draft.diagram.notes.filterMap Note.target
  let d := (targets.foldl (fun draft target => (draft.ensure target.toList).1) draft).diagram
  { d with notes := Note.renameColliding d.nodes.keys d.notes }

def ofLines (lines : List Line) : UseCaseDiagram × List Diagnostic :=
  let (draft, diagnostics) := readAll turn {} lines
  (settleNotes draft, diagnostics)

end DiagramMarkup.UseCaseDiagram
