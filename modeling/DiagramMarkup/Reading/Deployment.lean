import DiagramMarkup.Diagram.Deployment
import DiagramMarkup.Phrase.GridNote

/-! # Reading deployment diagrams

A thing belongs to the one that is open where it is first named.
-/

namespace DiagramMarkup.DeploymentDiagram

open Text Pattern Phrase

/-- What has been read of a deployment diagram. -/
structure Draft where
  diagram : DeploymentDiagram := {}
  /-- The open things, the innermost first. -/
  scopes : List String := []
deriving Repr, DecidableEq

namespace Draft

/-- Enters a thing, unless it is known, as a child of the innermost open one. -/
def enter (draft : Draft) (name : String) (archetype : Archetype) : Draft :=
  let d := draft.diagram
  if d.nodes.contains name then draft
  else
    let parent := draft.scopes.head?
    let containment :=
      parent.toList.map fun p => { source := p, target := name, kind := .containment : Relation }
    { draft with diagram := { d with
        nodes := d.nodes.insertNew name { name, label := name, archetype, parent }
        relations := d.relations ++ containment } }

/-- Declares a device, which may be known already. -/
def declare (draft : Draft) (name label : String) (archetype : Archetype) : Draft :=
  let draft := draft.enter name archetype
  { draft with diagram.nodes := draft.diagram.nodes.modify name fun device =>
      { device with archetype, label } }

/-- The thing that an endpoint means: a component in square brackets, and otherwise a node. -/
def resolve (token : List Char) : String × Archetype :=
  match (after? ['['] token).bind (before? [']']) with
  | some inner => (String.ofList (trim inner), .component)
  | none => (String.ofList (unquote token), .node)

/-- Makes sure that an endpoint exists; the result holds its name. -/
def ensure (draft : Draft) (token : List Char) : Draft × String :=
  let (name, archetype) := resolve token
  (draft.enter name archetype, name)

/-- Reads a declaration, and opens the thing that it declares if it ends with a brace. -/
def declareLine (draft : Draft) (declaration : List Char) (archetype : Archetype) : Draft :=
  let s := trim declaration
  let opens := hasEnd ['{'] s
  let s := if opens then trimEnd (dropEnd (· = '{') s) else s
  let (s, _) := takeStereotype s
  let (name, label) := nameAndLabel (stripColor s)
  if name.isEmpty then draft
  else
    let name := String.ofList name
    let draft := draft.declare name (String.ofList label) archetype
    if opens then { draft with scopes := name :: draft.scopes } else draft

/-- Adds the relation of an arrow; a head at the left end turns it round. -/
def relate (draft : Draft) (arrow : Arrow) : Draft :=
  let kind := if arrow.dotted then RelationKind.dependency else .association
  let (draft, left) := draft.ensure arrow.left
  let (draft, right) := draft.ensure arrow.right
  let reversed := arrow.leftHead = .pointer
  let relation : Relation := {
    source := if reversed then right else left
    target := if reversed then left else right
    kind
    label := arrow.label.map String.ofList }
  { draft with diagram.relations := draft.diagram.relations ++ [relation] }

end Draft

/-- The start of a declaration: its archetype and what is declared. -/
def declarationPattern : Pattern (Archetype × List Char) := do
  let word ← anyOf (Archetype.all.map Archetype.name)
  blanks1
  let rest ← restOfLine
  if rest.isEmpty then failure else return ((Archetype.ofName? word).getD .node, rest)

/-- A component in square brackets. -/
def bracketPattern : Pattern (List Char × List Char) := do
  char '['
  let inner ← run1 (· ≠ ']')
  char ']'
  let rest ← restOfLine
  return (inner, rest)

def bracketDeclaration (inner rest : List Char) : List Char :=
  let label := '"' :: trim inner ++ ['"', ' ']
  let rest := trim rest
  match after? "as ".toList rest with
  | some name => label ++ "as ".toList ++ trim name
  | none => label ++ rest

/-- Reads a line: the end of a scope, a note, a declaration or a relation. -/
def turn (draft : Draft) (line : Line) (rest : List Line) : Turn Draft rest :=
  let s := line.chars
  if line.text = "\x7d" then .took1 { draft with scopes := draft.scopes.tail }
  else
    match gridNote? draft.diagram.notes.length line rest with
    | some (note, left) =>
      .took { draft with diagram.notes := draft.diagram.notes ++ [note] } left
    | none =>
      match declarationPattern.read? s with
      | some (archetype, declaration) => .took1 (draft.declareLine declaration archetype)
      | none =>
        match arrow? s with
        | some arrow => .took1 (draft.relate arrow)
        | none =>
          match bracketPattern.read? s with
          | some (inner, words) =>
            .took1 (draft.declareLine (bracketDeclaration inner words) .component)
          | none => .skip draft "unrecognized deployment diagram line"

/-- Enters the things that notes are attached to, and gives notes names of their own. -/
def settleNotes (draft : Draft) : DeploymentDiagram :=
  let targets := draft.diagram.notes.filterMap Note.target
  let d := (targets.foldl (fun draft target => (draft.ensure target.toList).1) draft).diagram
  { d with notes := Note.renameColliding d.nodes.keys d.notes }

def ofLines (lines : List Line) : DeploymentDiagram × List Diagnostic :=
  let (draft, diagnostics) := readAll turn {} lines
  (settleNotes draft, diagnostics)

end DiagramMarkup.DeploymentDiagram
