import DiagramMarkup.Diagram.Entities
import DiagramMarkup.Phrase.Arrow
import DiagramMarkup.Source.Reading

/-! # Reading entity relationship diagrams -/

namespace DiagramMarkup.EntityDiagram

open Text Pattern Phrase

def ensure (d : EntityDiagram) (name : String) : EntityDiagram :=
  { d with entities := d.entities.insertNew name (.bare name) }

/-- Whether a line divides the primary key from the other columns: two or more equal strokes and
nothing else. -/
def isKeySeparator (s : List Char) : Bool :=
  let s := trim s
  s.length ≥ 2 && ['-', '=', '.', '_'].any fun stroke => s.all (· = stroke)

/-- Takes a word off the beginning, if it is there. -/
def takeWord (word : String) (s : List Char) : Bool × List Char :=
  match after? word.toList s with
  | some rest => (true, rest)
  | none => (false, s)

/-- Reads a column; a line without a name holds none. A column above the separator belongs to the
primary key, as does one that says so. -/
def column? (above : Bool) (line : List Char) : Option Column :=
  let (s, stereotype) := takeStereotype line
  let key := (stereotype.map upper).map String.ofList
  let (primary, s) := takeWord "PK " s
  let (foreign, s) := takeWord "FK " s
  let mandatory := hasStart ['*'] s
  let s := trim (dropStart (· = '*') s)
  let (name, typeName) :=
    match cutAt (· = ':') s with
    | some (name, typeName) => (trim name, trim typeName)
    | none => (s, [])
  if name.isEmpty then none
  else some {
    name := String.ofList name
    typeName := String.ofList typeName
    primaryKey := above || primary || key = some "PK"
    foreignKey := foreign || key = some "FK"
    mandatory }

/-- The lines before and after the first separator. -/
def cutKey : List (List Char) → Option (List (List Char) × List (List Char))
  | [] => none
  | line :: lines =>
    if isKeySeparator line then some ([], lines)
    else (cutKey lines).map fun r => (line :: r.1, r.2)

/-- The columns of the lines of a body; blank lines hold none. -/
def columns (body : List (List Char)) : List Column :=
  let read (above : Bool) (lines : List (List Char)) : List Column :=
    (lines.filter fun line => !(trim line).isEmpty).filterMap (column? above)
  match cutKey body with
  | some (key, others) => read true key ++ read false others
  | none => read false body

/-- Splits a declaration into its head, trimmed, the lines of its body, and the lines left after
it. -/
def cutBody (s : List Char) (rest : List Line) :
    List Char × List (List Char) × Remaining rest :=
  match cutAt (· = '{') s with
  | none => (s, [], .all rest)
  | some (head, after) =>
    match cutLast '}' after with
    | some (columns, _) => (trim head, splitAt ';' columns, .all rest)
    | none =>
      let (lines, left) := upTo (fun line => hasStart ['}'] line.chars) rest
      (trim head, lines.map Line.chars, left)

/-- Declares an entity with its columns. -/
def declare (d : EntityDiagram) (declaration : List Char) (rest : List Line) :
    Turn EntityDiagram rest :=
  let (head, body, left) := cutBody (trim declaration) rest
  let (head, _) := takeStereotype head
  let (name, label) := nameAndLabel (stripColor head)
  if name.isEmpty then .took d left
  else
    let name := String.ofList name
    let d := d.ensure name
    let entities := d.entities.modify name fun entity => { entity with
      label := String.ofList label
      columns := entity.columns ++ columns body }
    .took { d with entities } left

/-- A cardinality, as one end of a line writes it. -/
def cardinalityPattern (mark : Cardinality → String) : Pattern Cardinality := do
  let written ← anyOf (Cardinality.all.map mark)
  match Cardinality.all.find? fun cardinality => mark cardinality = written with
  | some cardinality => return cardinality
  | none => failure

def endName : Pattern (List Char) :=
  quotedName <|> run1 isNameChar

/-- A line between two entities, without its label. -/
def relationshipPattern : Pattern Relationship := do
  let source ← endName
  blanks
  let sourceCardinality ← cardinalityPattern Cardinality.leftMark
  let stroke ← run1 (· = '-') <|> run1 (· = '.')
  let targetCardinality ← cardinalityPattern Cardinality.rightMark
  blanks
  let target ← endName
  ended
  return {
    source := String.ofList (unquote source)
    target := String.ofList (unquote target)
    sourceCardinality
    targetCardinality
    identifying := hasStart ['-'] stroke }

/-- The relationship that a line states, if it states one. -/
def relationship? (s : List Char) : Option Relationship :=
  let (body, label) := splitLabel s
  (relationshipPattern.read? body).map fun relationship =>
    { relationship with label := label.map String.ofList }

def relate (d : EntityDiagram) (relationship : Relationship) : EntityDiagram :=
  let d := (d.ensure relationship.source).ensure relationship.target
  { d with relationships := d.relationships ++ [relationship] }

/-- Reads a line: an entity or a relationship. -/
def turn (d : EntityDiagram) (line : Line) (rest : List Line) : Turn EntityDiagram rest :=
  match after? "entity ".toList line.chars with
  | some declaration => d.declare declaration rest
  | none =>
    match relationship? line.chars with
    | some relationship => .took1 (d.relate relationship)
    | none => .skip d "unrecognized entity-relationship line"

def ofLines (lines : List Line) : EntityDiagram × List Diagnostic :=
  readAll turn {} lines

end DiagramMarkup.EntityDiagram
