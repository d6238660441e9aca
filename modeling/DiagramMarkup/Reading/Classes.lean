import DiagramMarkup.Diagram.Classes
import DiagramMarkup.Phrase.GridNote
import DiagramMarkup.Phrase.Member

/-! # Reading class diagrams -/

namespace DiagramMarkup.ClassDiagram

open Text Pattern Phrase

def ensure (d : ClassDiagram) (name : String) (kind : ClassKind := .plain) : ClassDiagram :=
  { d with classes := d.classes.insertNew name (.bare name kind) }

def change (d : ClassDiagram) (name : String) (f : ClassNode → ClassNode) : ClassDiagram :=
  { d with classes := d.classes.modify name f }

/-- The word or words that declare a class, with the kind that they declare. -/
def kindPattern : Pattern ClassKind :=
  (do
    let _ ← text "abstract"
    blanks1
    let _ ← text "class"
    return .abstract) <|>
  (do
    let word ← anyOf ["abstract", "class", "interface", "enum", "annotation"]
    return (ClassKind.ofName? word).getD .plain)

/-- The start of a declaration: its kind and what is declared. -/
def declarationPattern : Pattern (ClassKind × List Char) := do
  let kind ← kindPattern
  blanks1
  let rest ← restOfLine
  if rest.isEmpty then failure else return (kind, rest)

/-- The body that a declaration has. -/
inductive Body
  /-- There is none. -/
  | absent
  /-- It stands on the line itself. -/
  | inline (members : List Char)
  /-- It starts on the next line. -/
  | below
deriving Repr, DecidableEq

/-- What stands before the body of a declaration, and the body. -/
def cutBody (s : List Char) : List Char × Body :=
  match cutAt (· = '{') s with
  | none => (trim s, .absent)
  | some (head, after) =>
    match cutLast '}' after with
    | some (members, _) => (trim head, .inline members)
    | none => (trim head, .below)

/-- A word that introduces parents, between blanks. -/
def parentPattern : Pattern RelationKind := do
  let _ ← one isBlank
  let word ← anyOf ["extends", "implements"]
  let _ ← one isBlank
  return if word = "implements" then .implements else .inherits

/-- Takes the parents out of a declaration. -/
def takeParents (s : List Char) : List Char × List (List Char × RelationKind) :=
  let (head, lists) := parentPattern.splits s
  let parents := lists.flatMap fun (kind, names) =>
    (((splitAt ',' names).map trim).filter fun name => !name.isEmpty).map fun name => (name, kind)
  (if lists.isEmpty then s else trim head, parents)

/-- Takes the type parameters off a declaration: what stands between the last opening angle bracket
and a closing one at the end. -/
def takeGeneric (s : List Char) : List Char × Option (List Char) :=
  match (before? ['>'] s).bind (cutLast '<') with
  | some (name, parameters) =>
    let name := trimEnd name
    if parameters.isEmpty || '>' ∈ parameters || !name.all inLine then (s, none)
    else (name, some (trim parameters))
  | none => (s, none)

/-- Whether a line of a body only separates members: it starts with two equal strokes. -/
def isSeparator (s : List Char) : Bool :=
  ["--", "..", "==", "__"].any fun stroke => hasStart stroke.toList s

/-- The members of a body on the line itself, between semicolons. -/
def inlineMembers (s : List Char) : List Member :=
  (splitAt ';' s).filterMap member?

/-- The members of a body below the line, one on each line. -/
def bodyMembers (lines : List Line) : List Member :=
  (lines.filter fun line => !isSeparator line.chars).filterMap fun line => member? line.chars

/-- The members of a body, and the lines left after it. -/
def readBody (rest : List Line) : Body → List Member × Remaining rest
  | .absent => ([], .all rest)
  | .inline members => (inlineMembers members, .all rest)
  | .below =>
    let (lines, left) := upTo (fun line => hasStart ['}'] line.chars) rest
    (bodyMembers lines, left)

/-- Enters a parent, unless it is known, and the relation to it. -/
def addParent (name : String) (d : ClassDiagram) (parent : List Char × RelationKind) :
    ClassDiagram :=
  let target := String.ofList parent.1
  let d := d.ensure target (if parent.2 = .implements then .interface else .plain)
  { d with relations := d.relations ++ [{ source := name, target, kind := parent.2 }] }

/-- Declares a class with its parents and members. -/
def declare (d : ClassDiagram) (kind : ClassKind) (declaration : List Char) (rest : List Line) :
    Turn ClassDiagram rest :=
  let (head, body) := cutBody (trim declaration)
  let (head, stereotype) := takeStereotype head
  let (head, parents) := takeParents head
  let (head, generic) := takeGeneric head
  let (name, label) := nameAndLabel (stripColor head)
  if name.isEmpty then .took1 d
  else
    let name := String.ofList name
    let d := (d.ensure name kind).change name fun node => { node with
      kind
      label := String.ofList label
      generic := (generic.map String.ofList).or node.generic
      stereotype := (stereotype.map String.ofList).or node.stereotype }
    let (members, left) := readBody rest body
    let d := d.change name fun node => members.foldl ClassNode.addMember node
    .took (parents.foldl (addParent name) d) left

/-- What an arrow between classes means, and whether it leads from right to left. Inheritance leads
from the child to the parent, composition and aggregation from the whole to the part, and any other
arrow where its head points. -/
def classify (arrow : Arrow) : RelationKind × Bool :=
  let family := if arrow.dotted then RelationKind.implements else .inherits
  let use := if arrow.dotted then RelationKind.dependency else .association
  match arrow.leftHead, arrow.rightHead with
  | .triangle, _ => (family, true)
  | _, .triangle => (family, false)
  | .diamond, _ => (.composition, false)
  | _, .diamond => (.composition, true)
  | .hollow, _ => (.aggregation, false)
  | _, .hollow => (.aggregation, true)
  | .pointer, _ => (use, true)
  | _, _ => (use, false)

/-- Attaches the first note of a name to an element. -/
def anchor (notes : List Note) (name target : String) : List Note :=
  match notes with
  | [] => []
  | note :: rest =>
    if note.name = name then { note with target := some target } :: rest
    else note :: anchor rest name target

/-- Whether an endpoint names a note and no class. -/
def namesNote (d : ClassDiagram) (name : String) : Bool :=
  !d.classes.contains name && d.notes.any fun note => note.name = name

/-- Attaches a note to an element, which becomes a class unless it is one. -/
def attach (d : ClassDiagram) (note target : String) : ClassDiagram :=
  { d with notes := anchor d.notes note target }.ensure target

/-- Enters the relation of an arrow. An endpoint that names a note attaches that note to the other
endpoint instead. -/
def relate (d : ClassDiagram) (arrow : Arrow) : ClassDiagram :=
  let left := String.ofList (unquote arrow.left)
  let right := String.ofList (unquote arrow.right)
  if d.namesNote left then d.attach left right
  else if d.namesNote right then d.attach right left
  else
    let (kind, reversed) := classify arrow
    let leftLabel := nonempty? (arrow.leftCount.map String.ofList)
    let rightLabel := nonempty? (arrow.rightCount.map String.ofList)
    let relation : Relation :=
      if reversed then
        { source := right, target := left, kind, label := arrow.label.map String.ofList
          sourceLabel := rightLabel, targetLabel := leftLabel }
      else
        { source := left, target := right, kind, label := arrow.label.map String.ofList
          sourceLabel := leftLabel, targetLabel := rightLabel }
    let d := (d.ensure relation.source).ensure relation.target
    { d with relations := d.relations ++ [relation] }

/-- Whether a line opens or closes a group of classes, which has no effect. -/
def isGrouping (s : List Char) : Bool :=
  s = ['}'] ||
    (hasEnd ['{'] s && s.all inLine &&
      ["package", "namespace", "together"].any fun word => (keyword word).reads s)

/-- A member given outside a body: the class and the member. -/
def outsideMember : Pattern (List Char × List Char) := do
  let name ← run1 isNameChar
  blanks
  char ':'
  blanks
  let member ← restOfLine
  if member.isEmpty then failure else return (name, member)

/-- Reads a line: a note, a declaration, a relation or a member of a named class. -/
def turn (d : ClassDiagram) (line : Line) (rest : List Line) : Turn ClassDiagram rest :=
  let s := line.chars
  match gridNote? d.notes.length line rest with
  | some (note, left) => .took { d with notes := d.notes ++ [note] } left
  | none =>
    match declarationPattern.read? s with
    | some (kind, declaration) => d.declare kind declaration rest
    | none =>
      if isGrouping s then .took1 d
      else
        match arrow? s with
        | some arrow => .took1 (d.relate arrow)
        | none =>
          match outsideMember.read? s with
          | some (name, words) =>
            let name := String.ofList name
            .took1 ((d.ensure name).change name fun node =>
              (member? words).elim node node.addMember)
          | none => .skip d "unrecognized class diagram line"

/-- Enters the elements that notes are attached to, and gives notes names of their own. -/
def settleNotes (d : ClassDiagram) : ClassDiagram :=
  let d := (d.notes.filterMap Note.target).foldl (fun d target => d.ensure target) d
  { d with notes := Note.renameColliding d.classes.keys d.notes }

def ofLines (lines : List Line) : ClassDiagram × List Diagnostic :=
  let (d, diagnostics) := readAll turn {} lines
  (d.settleNotes, diagnostics)

end DiagramMarkup.ClassDiagram
